import Crontab.Calendar.Timestamp
import Crontab.Calendar.Week
import Crontab.Text.Decimal

/-!
# Reading timestamps

The ISO 8601 forms of timestamps, read liberally: dates by month or by week, with or without
hyphens, any character between date and time, times cut short or without colons, and offsets as
fine as times are.
-/

namespace Crontab

open Text

namespace Iso

/-! ## Numbers -/

/-- A number of exactly `count` digits, and the text after it. -/
def number? (count : Nat) (cs : List Char) : Option (Nat × List Char) :=
  let ds := cs.take count
  if ds.length = count && ds.all Char.isDigit then some (value ds, cs.drop count) else none

/-- The text after a mark. -/
def after? (mark : Char) : List Char → Option (List Char)
  | c :: rest => if c = mark then some rest else none
  | [] => none

/-- Digits after the point in microseconds. The first six count, and there are as many of them as
the text allows. -/
def fraction? (cs : List Char) : Option (Nat × List Char) :=
  let shown := cs.take 6
  if shown.all Char.isDigit then
    some (value shown * Nat.pow 10 (6 - shown.length), cs.dropWhile Char.isDigit)
  else none

/-! ## Dates -/

/-- A year and the rest of a date of the form `Www-D`, where the day may be left out. A hyphen that
two characters follow, the second a digit, is no part of the date. -/
def hyphenWeek? (year : Nat) (cs : List Char) : Option (Date × List Char) := do
  let (week, rest) ← number? 2 cs
  match rest with
  | '-' :: more =>
    if (more[1]?.map Char.isDigit).getD false then return (← Date.ofWeek? year week 1, rest)
    else
      let (day, rest) ← number? 1 more
      return (← Date.ofWeek? year week day, rest)
  | _ => return (← Date.ofWeek? year week 1, rest)

/-- A year and the rest of a date of the form `WwwD`, where the day may be left out. It is, where an
odd number of digits but one follows the week: the first of them then stands before the time. -/
def compactWeek? (year : Nat) (cs : List Char) : Option (Date × List Char) := do
  let (week, rest) ← number? 2 cs
  let run := (rest.takeWhile Char.isDigit).length
  if run = 1 ∨ run ≠ 0 ∧ run % 2 = 0 then
    let (day, rest) ← number? 1 rest
    return (← Date.ofWeek? year week day, rest)
  else return (← Date.ofWeek? year week 1, rest)

/-- A date, by month or by week, with or without hyphens. -/
def date? (cs : List Char) : Option (Date × List Char) := do
  let (year, cs) ← number? 4 cs
  match cs with
  | '-' :: 'W' :: cs => hyphenWeek? year cs
  | 'W' :: cs => compactWeek? year cs
  | '-' :: cs =>
    let (month, cs) ← number? 2 cs
    let (day, cs) ← number? 2 (← after? '-' cs)
    return ({ year, month, day }, cs)
  | cs =>
    let (month, cs) ← number? 2 cs
    let (day, cs) ← number? 2 cs
    return ({ year, month, day }, cs)

/-! ## Times -/

/-- A time of day or the length of an offset; the microseconds include the seconds. -/
structure Clock where
  hour : Nat
  minute : Nat
  micros : Nat
deriving DecidableEq, Repr

def Clock.ofNumbers (numbers : List Nat) (fraction : Nat) : Clock where
  hour := numbers[0]?.getD 0
  minute := numbers[1]?.getD 0
  micros := numbers[2]?.getD 0 * 1000000 + fraction

/-- Up to `places` further numbers of a clock, a fraction, and the text that is left. The character
after the first number tells whether colons stand between them. A fraction may follow any number
after a point or a comma, and the last one directly; a single character at the end is left over. -/
def clockAfter? (colons? : Option Bool) (numbers : List Nat) :
    Nat → List Char → Option (Clock × List Char)
  | 0, cs => do
    let (fraction, rest) ← fraction? cs
    return (.ofNumbers numbers fraction, rest)
  | places + 1, cs => do
    let (number, rest) ← number? 2 cs
    let numbers := numbers ++ [number]
    match rest with
    | [] => return (.ofNumbers numbers 0, [])
    | [c] =>
      guard (c.toNat < 128)
      return (.ofNumbers numbers 0, rest)
    | c :: more =>
      let colons := colons?.getD (c = ':')
      if colons && c = ':' then clockAfter? colons numbers places more
      else if c = '.' || c = ',' then
        let (fraction, rest) ← fraction? more
        return (.ofNumbers numbers fraction, rest)
      else if colons then none
      else clockAfter? colons numbers places rest

def clock? (cs : List Char) : Option (Clock × List Char) := clockAfter? none [] 3 cs

/-- Nothing is left, or nothing before the character that ends a text. -/
def isEnd (cs : List Char) : Bool := cs.isEmpty || cs.head? = some '\x00'

def startsOffset (c : Char) : Bool := c = '+' || c = '-' || c = 'Z'

/-- An offset at the end of a text. Less than a second either way is UTC. -/
def offset? (cs : List Char) : Option UtcOffset :=
  match cs with
  | 'Z' :: rest => if isEnd rest then some .utc else none
  | sign :: rest => do
    let (clock, left) ← clock? rest
    guard (isEnd left)
    let micros := (clock.hour * 60 + clock.minute) * microsPerMinute + clock.micros
    if micros < 1000000 then return .utc
    UtcOffset.ofMicros? (if sign = '-' then -(micros : Int) else micros)
  | [] => none

/-- A time with or without an offset. What is left over of the time before an offset is passed. -/
def time? (cs : List Char) : Option (Clock × Option UtcOffset) := do
  let (clock, left) ← clock? (cs.takeWhile (! startsOffset ·))
  match cs.dropWhile (! startsOffset ·) with
  | [] =>
    guard (isEnd left)
    return (clock, none)
  | zone => return (clock, some (← offset? zone))

/-! ## Timestamps -/

/-- The timestamp of a date and a time of day, if there is such a date and such a time. -/
def timestampOf? (date : Date) (clock : Clock) (offset? : Option UtcOffset) :
    Option Timestamp := do
  let minute ← Minute.ofDate? date clock.hour clock.minute
  if h : clock.micros < microsPerMinute then
    return { wall := ⟨minute, clock.micros, h⟩, offset? }
  else none

/-- A timestamp: a date, and after any one character a time. A date alone stands for its first
minute. -/
def timestamp? (cs : List Char) : Option Timestamp := do
  let (date, cs) ← date? cs
  match cs with
  | [] => timestampOf? date (.ofNumbers [] 0) none
  | _ :: cs =>
    let (clock, offset?) ← time? cs
    timestampOf? date clock offset?

end Iso

end Crontab
