import Crontab.Calendar.Date

/-!
# Minutes of the calendar

The minutes from the first of year 1 to the last of year 9999, numbered from 0. `later?` steps
forward and fails past the last one; `Minute.date` and the numbers beside it say where on the
calendar and on the clock a minute lies.
-/

namespace Crontab

namespace Calendar

/-- The days of the years 1 to 9999. -/
def dayCount : Nat := 3652059

def minutesPerDay : Nat := 1440

def minuteCount : Nat := dayCount * minutesPerDay

theorem dayCount_eq : dayCount = daysBeforeYear 10000 := rfl

end Calendar

open Calendar

/-- A minute of the calendar. -/
structure Minute where
  index : Nat
  index_lt : index < minuteCount
deriving DecidableEq, Repr

namespace Minute

def dayNumber (m : Minute) : Nat := m.index / minutesPerDay

def minuteOfDay (m : Minute) : Nat := m.index % minutesPerDay

def hour (m : Minute) : Nat := m.minuteOfDay / 60

def minuteOfHour (m : Minute) : Nat := m.minuteOfDay % 60

def date (m : Minute) : Date := .ofDayNumber m.dayNumber

/-- The day of the week, with 0 for Sunday. The calendar starts on a Monday. -/
def weekday (m : Minute) : Nat := (m.dayNumber + 1) % 7

/-- The minute some steps later; `none` past the end of the calendar. -/
def later? (m : Minute) (steps : Nat) : Option Minute :=
  if h : m.index + steps < minuteCount then some ⟨m.index + steps, h⟩ else none

/-- The minute of a date at a time of day; `none` where there is no such date or time. -/
def ofDate? (date : Date) (hour minute : Nat) : Option Minute :=
  let index := date.dayNumber * minutesPerDay + hour * 60 + minute
  if h : (date.IsValid ∧ hour < 24 ∧ minute < 60) ∧ index < minuteCount then some ⟨index, h.2⟩
  else none

theorem later?_eq_some {m m' : Minute} {steps : Nat} :
    m.later? steps = some m' ↔ m'.index = m.index + steps := by
  have := m'.index_lt
  unfold later?
  split
  · rw [Option.some.injEq]
    cases m'
    simp only [mk.injEq]
    exact eq_comm
  · simp
    omega

theorem later?_eq_none {m : Minute} {steps : Nat} :
    m.later? steps = none ↔ minuteCount ≤ m.index + steps := by
  unfold later?
  split <;> simp <;> omega

theorem hour_lt (m : Minute) : m.hour < 24 := by
  unfold hour minuteOfDay minutesPerDay
  omega

theorem minuteOfHour_lt (m : Minute) : m.minuteOfHour < 60 := by
  unfold minuteOfHour
  omega

theorem weekday_lt (m : Minute) : m.weekday < 7 := by
  unfold weekday
  omega

end Minute

end Crontab
