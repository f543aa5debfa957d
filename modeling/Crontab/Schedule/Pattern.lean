import Crontab.Calendar.Minute
import Crontab.Field.Domain
import Crontab.Field.Values
import Crontab.Fields
import Crontab.Slot

/-!
# Patterns

A pattern is what a schedule tests a minute against: for each field the slots that are set. It is
made from the value sets of the five fields; a value is put into the slot that it addresses in the
table of its field. `Pattern.fires` is the test.
-/

namespace Crontab

/-- The slots that are set, field by field, and how the two day fields go together. -/
structure Pattern where
  minutes : List Nat
  hours : List Nat
  monthDays : List Nat
  months : List Nat
  weekdays : List Nat
  /-- A day is wanted if either day field wants it; otherwise both must. -/
  eitherDay : Bool
deriving DecidableEq, Repr

namespace Pattern

/-- The slots of values in the table of a domain, which has one for each number from 0 to the upper
bound. -/
def slots (d : Domain) (values : List Int) : Except Fault (List Nat) :=
  values.mapM fun v =>
    match slot? (d.hi + 1).toNat v with
    | some slot => .ok slot
    | none => .error (slotFault .noSlot v)

/-- The values leave out part of the domain. -/
def restricts (d : Domain) (values : List Int) : Bool := (ascending values).length < d.size

/-- The pattern of five value sets. A day field that covers its whole domain restricts nothing, so
then the other one alone must want the day. -/
def ofFields (sets : Fields (List Int)) : Except Fault Pattern :=
  return {
    minutes := ← slots .minute sets.minute
    hours := ← slots .hour sets.hour
    monthDays := ← slots .monthDay sets.monthDay
    months := ← slots .month sets.month
    weekdays := ← slots .weekday sets.weekday
    eitherDay := restricts .monthDay sets.monthDay && restricts .weekday sets.weekday }

/-- The pattern of a list of value sets, of which there must be five. -/
def ofValueSets (sets : List (List Int)) : Except Fault Pattern :=
  match Fields.ofList? sets with
  | some fields => ofFields fields
  | none => .error (.valueSetCount sets.length)

/-- The pattern wants the day of the minute. -/
def wantsDay (p : Pattern) (m : Minute) : Bool :=
  let date := m.date
  p.months.contains date.month &&
    let byMonth := p.monthDays.contains date.day
    let byWeek := p.weekdays.contains m.weekday
    if p.eitherDay then byMonth || byWeek else byMonth && byWeek

/-- The pattern wants the hour of the minute, on whatever day. -/
def wantsHour (p : Pattern) (m : Minute) : Bool := p.hours.contains m.hour

/-- The pattern wants the minute's place in its hour. -/
def wantsMinute (p : Pattern) (m : Minute) : Bool := p.minutes.contains m.minuteOfHour

/-- The schedule fires at the minute. -/
def fires (p : Pattern) (m : Minute) : Bool := p.wantsDay m && p.wantsHour m && p.wantsMinute m

end Pattern

end Crontab
