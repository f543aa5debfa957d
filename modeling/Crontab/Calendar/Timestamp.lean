import Crontab.Calendar.Minute
import Crontab.Fault

/-!
# Timestamps

A wall time to the microsecond, and a timestamp: a wall time with or without an offset from UTC.
Arithmetic on a timestamp moves its wall time and keeps its offset; two timestamps with offsets are
compared on the scale of UTC.
-/

namespace Crontab

open Calendar

def microsPerMinute : Nat := 60000000

def microsPerDay : Nat := microsPerMinute * minutesPerDay

/-- A time on the wall, to the microsecond. -/
structure WallTime where
  minute : Minute
  micros : Nat
  micros_lt : micros < microsPerMinute
deriving DecidableEq, Repr

namespace WallTime

/-- Microseconds since the start of the calendar. -/
def ticks (w : WallTime) : Nat := w.minute.index * microsPerMinute + w.micros

/-- The wall time at a number of microseconds since the start of the calendar. -/
def ofTicks? (ticks : Int) : Option WallTime :=
  if h : 0 ≤ ticks ∧ ticks.toNat / microsPerMinute < minuteCount then
    some {
      minute := ⟨ticks.toNat / microsPerMinute, h.2⟩
      micros := ticks.toNat % microsPerMinute
      micros_lt := Nat.mod_lt _ (by decide) }
  else none

/-- The start of 1970 in microseconds since the start of the calendar. -/
def unixEpoch : Int := Date.dayNumber ⟨1970, 1, 1⟩ * microsPerDay

/-- The start of a minute. -/
def ofMinute (m : Minute) : WallTime := ⟨m, 0, by decide⟩

/-- The wall time some microseconds later, or earlier. -/
def shift (w : WallTime) (micros : Int) : Except Fault WallTime :=
  match ofTicks? (w.ticks + micros) with
  | some w => .ok w
  | none => .error .dateOutOfRange

end WallTime

/-- An offset from UTC: less than a day either way, in microseconds. -/
structure UtcOffset where
  micros : Int
  bounds : -(microsPerDay : Int) < micros ∧ micros < microsPerDay
deriving DecidableEq, Repr

def UtcOffset.ofMicros? (micros : Int) : Option UtcOffset :=
  if h : -(microsPerDay : Int) < micros ∧ micros < microsPerDay then some ⟨micros, h⟩ else none

def UtcOffset.utc : UtcOffset := ⟨0, by decide⟩

/-- A wall time and, where it is known, its offset from UTC. -/
structure Timestamp where
  wall : WallTime
  offset? : Option UtcOffset
deriving DecidableEq, Repr

namespace Timestamp

/-- The start of a minute, by the given offset. -/
def ofMinute (m : Minute) (offset? : Option UtcOffset) : Timestamp := ⟨.ofMinute m, offset?⟩

def minute (t : Timestamp) : Minute := t.wall.minute

/-- The start of the timestamp's minute. -/
def truncate (t : Timestamp) : Timestamp := ofMinute t.minute t.offset?

/-- Microseconds on the scale of UTC; without an offset the wall time is taken as it is. -/
def utcTicks (t : Timestamp) : Int :=
  t.wall.ticks - (t.offset?.map UtcOffset.micros).getD 0

/-- The timestamp some microseconds later on the wall. -/
def shift (t : Timestamp) (micros : Int) : Except Fault Timestamp :=
  return { t with wall := ← t.wall.shift micros }

/-- What the clock shows at an offset, the clock being on UTC; without an offset, the clock's own
wall time. -/
def now (clock : WallTime) : Option UtcOffset → Except Fault Timestamp
  | none => .ok ⟨clock, none⟩
  | some offset => return ⟨← clock.shift offset.micros, some offset⟩

end Timestamp

end Crontab
