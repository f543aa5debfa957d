import Crontab.Calendar.Date

/-!
# Weeks

The numbering of weeks by years: a week belongs to the year that holds its Thursday, and starts on
a Monday.
-/

namespace Crontab

namespace Calendar

/-- The day of the week of a day, with 0 for Monday. The calendar starts on a Monday. -/
def mondayBased (dayNumber : Nat) : Nat := dayNumber % 7

/-- The number of the day on which the first week of a year starts. -/
def weekStart (year : Nat) : Nat :=
  let first := daysBeforeYear year
  let weekday := mondayBased first
  if weekday ≤ 3 then first - weekday else first - weekday + 7

/-- How many weeks a year has: one more than 52 where it starts on a Thursday, or on a Wednesday and
is a leap year. -/
def weeksInYear (year : Nat) : Nat :=
  let weekday := mondayBased (daysBeforeYear year)
  if weekday = 3 ∨ weekday = 2 ∧ isLeap year then 53 else 52

end Calendar

open Calendar

/-- The date of a day of a week, Monday being day 1; `none` where the year has no such week, or the
week no such day. -/
def Date.ofWeek? (year week day : Nat) : Option Date :=
  if 1 ≤ year ∧ 1 ≤ week ∧ week ≤ weeksInYear year ∧ 1 ≤ day ∧ day ≤ 7 then
    some (.ofDayNumber (weekStart year + 7 * (week - 1) + (day - 1)))
  else none

end Crontab
