import Crontab.Calendar.Iso.Reader
import Crontab.Text.Cut

/-!
# Points in time in requests

A request gives a point in time as a text or as a number. A text is a timestamp with a time to the
minute at least and an offset to the minute, a date, or a number. A number counts from the start of
1970 on UTC: seconds, or milliseconds where that many seconds would be too many. Of the numbers with
a point those are read that are not negative and whose microseconds are exact.
-/

namespace Crontab.Service.Moment

open Iso Text

/-! ## Numbers -/

/-- The greatest number of seconds; numbers farther from zero are milliseconds. -/
def secondLimit : Nat := 20000000000

/-- Seconds below this number have a fraction of six digits. -/
def fractionLimit : Nat := 1 <<< 33

/-- The timestamp so many microseconds after the start of 1970, if it is on the calendar. -/
def ofMicros? (micros : Int) : Option Timestamp := do
  let wall ← WallTime.ofTicks? (WallTime.unixEpoch + micros)
  return { wall, offset? := some .utc }

/-- The timestamp that a number stands for. -/
def ofNumber? (n : Int) : Option Timestamp :=
  let millis := if secondLimit < n.natAbs then n else n * 1000
  ofMicros? (millis * 1000)

/-- The timestamp that seconds with a fraction of up to six digits stand for. -/
def ofDecimal? (mantissa : Int) (places : Nat) : Option Timestamp := do
  guard (0 ≤ mantissa && places ≤ 6)
  let micros := mantissa * Nat.pow 10 (6 - places)
  guard (micros < fractionLimit * 1000000)
  ofMicros? micros

/-- Digits, at least one of them. -/
def areDigits (cs : List Char) : Bool := !cs.isEmpty && cs.all Char.isDigit

/-- The number that a text of digits stands for, after a sign or none. -/
def number? (cs : List Char) : Option Int :=
  let (negative, ds) :=
    match cs with
    | '-' :: ds => (true, ds)
    | '+' :: ds => (false, ds)
    | ds => (false, ds)
  if areDigits ds then some (if negative then -(value ds : Int) else value ds) else none

/-- The mantissa and the number of places of a text of digits with a point between them. -/
def decimal? (cs : List Char) : Option (Nat × Nat) :=
  match cut '.' cs with
  | some (whole, fraction) =>
    if areDigits whole && areDigits fraction then
      some (value (whole ++ fraction), fraction.length)
    else none
  | none => none

/-! ## Texts -/

/-- A calendar date of the form `YYYY-MM-DD`. -/
def date? (cs : List Char) : Option (Date × List Char) := do
  let (year, cs) ← Iso.number? 4 cs
  let (month, cs) ← Iso.number? 2 (← after? '-' cs)
  let (day, cs) ← Iso.number? 2 (← after? '-' cs)
  return ({ year, month, day }, cs)

/-- The fraction of a second in microseconds, after a point or a comma; digits after the sixth do
not count. -/
def fraction? (cs : List Char) : Option (Nat × List Char) :=
  match cs with
  | c :: rest =>
    if c = '.' || c = ',' then
      let ds := rest.takeWhile Char.isDigit
      if ds.isEmpty then none
      else some (value (ds.take 6) * Nat.pow 10 (6 - ds.length), rest.dropWhile Char.isDigit)
    else some (0, cs)
  | [] => some (0, [])

/-- A time of the form `HH:MM` or `HH:MM:SS`, the latter with or without a fraction. -/
def clock? (cs : List Char) : Option (Clock × List Char) := do
  let (hour, cs) ← Iso.number? 2 cs
  let (minute, cs) ← Iso.number? 2 (← after? ':' cs)
  match after? ':' cs with
  | none => return ({ hour, minute, micros := 0 }, cs)
  | some cs =>
    let (second, cs) ← Iso.number? 2 cs
    let (fraction, cs) ← fraction? cs
    return ({ hour, minute, micros := second * 1000000 + fraction }, cs)

/-- The direction of an offset: a plus, a hyphen or a minus sign. -/
def direction? (c : Char) : Option Int :=
  if c = '+' then some 1
  else if c = '-' || c = '\u2212' then some (-1)
  else none

/-- An offset at the end of a text: none, `Z`, or a sign and `HH:MM`, where the colon may be left
out. -/
def offset? (cs : List Char) : Option (Option UtcOffset) :=
  match cs with
  | [] => some none
  | ['Z'] | ['z'] => some (some .utc)
  | sign :: rest => do
    let direction ← direction? sign
    let (hour, rest) ← Iso.number? 2 rest
    let (minute, rest) ← Iso.number? 2 ((after? ':' rest).getD rest)
    guard (minute < 60 && rest.isEmpty)
    let offset ← UtcOffset.ofMicros? (direction * ((hour * 60 + minute) * microsPerMinute))
    return some offset

def separates (c : Char) : Bool := c = 'T' || c = 't' || c = ' ' || c = '_'

/-- A timestamp, or a date that stands for its first minute. -/
def timestamp? (cs : List Char) : Option Timestamp := do
  let (date, cs) ← date? cs
  match cs with
  | [] => timestampOf? date (.ofNumbers [] 0) none
  | separator :: cs =>
    guard (separates separator)
    let (clock, cs) ← clock? cs
    timestampOf? date clock (← offset? cs)

/-- The point in time that a text gives. -/
def ofText? (cs : List Char) : Option Timestamp :=
  match number? cs, decimal? cs with
  | some n, _ => ofNumber? n
  | none, some (mantissa, places) => ofDecimal? mantissa places
  | none, none => timestamp? cs

end Crontab.Service.Moment
