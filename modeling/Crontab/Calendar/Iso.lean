import Crontab.Calendar.Timestamp
import Crontab.Text.Decimal

/-!
# Timestamps as text

The ISO 8601 form in which timestamps are written. It shows a fraction of a second only where there
is one, with six digits. The offset is written in full, or to the minute.
-/

namespace Crontab

open Text

namespace Iso

/-- Seconds and a fraction of one, the fraction only where it is not zero. -/
def secondsText (micros : Nat) : String :=
  zeroPadded 2 (micros / 1000000) ++
    if micros % 1000000 = 0 then "" else "." ++ zeroPadded 6 (micros % 1000000)

def dateText (date : Date) : String :=
  s!"{zeroPadded 4 date.year}-{zeroPadded 2 date.month}-{zeroPadded 2 date.day}"

def wallText (w : WallTime) : String :=
  s!"{dateText w.minute.date}T{zeroPadded 2 w.minute.hour}:{zeroPadded 2 w.minute.minuteOfHour}:" ++
    secondsText w.micros

/-- The direction of an offset and a number of minutes, as a sign, hours and minutes. -/
def signedMinutes (offset : UtcOffset) (minutes : Nat) : String :=
  let sign := if offset.micros < 0 then "-" else "+"
  s!"{sign}{zeroPadded 2 (minutes / 60)}:{zeroPadded 2 (minutes % 60)}"

/-- An offset in full, with seconds where they are not zero. -/
def offsetText (offset : UtcOffset) : String :=
  let micros := offset.micros.natAbs % microsPerMinute
  signedMinutes offset (offset.micros.natAbs / microsPerMinute) ++
    if micros = 0 then "" else ":" ++ secondsText micros

/-- An offset to the minute: rounded to a second, half a second away from zero, and then shown
without its seconds. No second at all is `Z`. -/
def zuluOffsetText (offset : UtcOffset) : String :=
  let seconds := (offset.micros.natAbs + 500000) / 1000000
  if seconds = 0 then "Z" else signedMinutes offset (seconds / 60)

/-- A timestamp with its offset in full, that of UTC being `+00:00`. -/
def text (t : Timestamp) : String :=
  wallText t.wall ++ (t.offset?.map offsetText).getD ""

/-- A timestamp with its offset to the minute, that of UTC being `Z`. -/
def zuluText (t : Timestamp) : String :=
  wallText t.wall ++ (t.offset?.map zuluOffsetText).getD ""

end Iso

/-! ## The short form -/

def shortWeekdays : List String := ["Sun", "Mon", "Tue", "Wed", "Thu", "Fri", "Sat"]

def shortMonths : List String :=
  ["Jan", "Feb", "Mar", "Apr", "May", "Jun", "Jul", "Aug", "Sep", "Oct", "Nov", "Dec"]

/-- A timestamp in the short form for lists, such as `Mon, Jan 15, 02:30 PM`. -/
def Timestamp.shortText (t : Timestamp) : String :=
  let m := t.minute
  let weekday := shortWeekdays[m.weekday]?.getD ""
  let month := shortMonths[m.date.month - 1]?.getD ""
  let hour := if m.hour % 12 = 0 then 12 else m.hour % 12
  let half := if m.hour < 12 then "AM" else "PM"
  s!"{weekday}, {month} {natText m.date.day}, {zeroPadded 2 hour}:{zeroPadded 2 m.minuteOfHour} {half}"

end Crontab
