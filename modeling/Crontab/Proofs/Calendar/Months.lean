import Crontab.Calendar.Minute

/-!
# Months and years

Where the months of the years lie on the calendar. `Minute.ofDate?_eq_some` ties the minutes to
their dates, `Date.dayNumber_nextYear` says how far the same date of the next year is, and
`exists_date_of_weekday` that a year and a day, less its first and last day, hold every day of the
week in every month.
-/

namespace Crontab

open Calendar

namespace Calendar

/-! ## The lengths of months -/

/-- The most days that a month has in any year. -/
def longestMonth (month : Nat) : Nat := (monthLengths true)[month - 1]?.getD 0

theorem monthLengths_getElem? : ∀ leap : Bool, ∀ m < 12,
    28 ≤ (monthLengths leap)[m]?.getD 0 ∧
      (monthLengths leap)[m]?.getD 0 ≤ (monthLengths true)[m]?.getD 0 := by decide

variable {year month : Nat}

theorem le_daysInMonth (year : Nat) (low : 1 ≤ month) (high : month ≤ 12) :
    28 ≤ daysInMonth year month := by
  rw [daysInMonth, if_neg (by omega)]
  exact (monthLengths_getElem? (isLeap year) (month - 1) (by omega)).1

theorem daysInMonth_le_longest (low : 1 ≤ month) (high : month ≤ 12) :
    daysInMonth year month ≤ longestMonth month := by
  rw [daysInMonth, if_neg (by omega)]
  exact (monthLengths_getElem? (isLeap year) (month - 1) (by omega)).2

theorem longestMonth_le (low : 1 ≤ month) (high : month ≤ 12) : longestMonth month ≤ 31 := by
  have each : ∀ m < 12, (monthLengths true)[m]?.getD 0 ≤ 31 := by decide
  exact each (month - 1) (by omega)

theorem daysInMonth_of_isLeap (leap : isLeap year = true) (low : 1 ≤ month) :
    daysInMonth year month = longestMonth month := by
  rw [daysInMonth, if_neg (by omega), leap, longestMonth]

theorem monthLengths_getElem?_of_ne : ∀ leap leap' : Bool, ∀ m < 12, m ≠ 1 →
    (monthLengths leap)[m]?.getD 0 = (monthLengths leap')[m]?.getD 0 := by decide

/-- Only the leap day is missing from some years. -/
theorem le_daysInMonth_succ {day : Nat} (low : 1 ≤ month) (high : month ≤ 12)
    (within : day ≤ daysInMonth year month) (other : ¬ (month = 2 ∧ day = 29)) :
    day ≤ daysInMonth (year + 1) month := by
  by_cases february : month = 2
  · subst february
    have long : daysInMonth year 2 ≤ longestMonth 2 := daysInMonth_le_longest low high
    have twentyNine : longestMonth 2 = 29 := by decide
    have short := le_daysInMonth (year + 1) low high
    omega
  · rw [daysInMonth, if_neg (by omega)] at within ⊢
    rwa [monthLengths_getElem?_of_ne _ (isLeap year) (month - 1) (by omega) (by omega)]

/-- The leap day comes before the months from March on. -/
theorem total_take_monthLengths : ∀ leap : Bool, ∀ m < 12,
    total ((monthLengths leap).take m) =
      total ((monthLengths false).take m) + if leap = true ∧ 2 ≤ m then 1 else 0 := by decide

theorem total_take_monthLengths_false_le : ∀ m < 12,
    total ((monthLengths false).take m) ≤ 334 := by decide

end Calendar

/-! ## Dates and their numbers -/

namespace Date

variable {d : Date} {n : Nat}

theorem year_lt_of_dayNumber (small : d.dayNumber < dayCount) :
    d.year < 10000 := by
  refine Nat.lt_of_not_le fun late => ?_
  have := daysBeforeYear_mono late
  rw [dayCount_eq] at small
  unfold dayNumber at small
  omega

theorem isValid_ofDayNumber (small : n < dayCount) : (ofDayNumber n).IsValid := by
  have hy := daysBeforeYear_yearOfDay n
  have low := one_le_yearOfDay n
  have late : (ofDayNumber n).year < 10000 := by
    apply year_lt_of_dayNumber
    rw [dayNumber_ofDayNumber]
    exact small
  rw [daysBeforeYear_succ low] at hy
  have inside : n - daysBeforeYear (yearOfDay n) < total (monthLengths (isLeap (yearOfDay n))) := by
    rw [total_monthLengths]
    omega
  rcases found : locate (monthLengths (isLeap (yearOfDay n))) (n - daysBeforeYear (yearOfDay n))
    with ⟨month, day⟩
  obtain ⟨_, size, length, within⟩ := (locate_eq_iff inside).mp found
  have form : ofDayNumber n = ⟨yearOfDay n, month + 1, day + 1⟩ := by
    unfold ofDayNumber
    simp only [found]
  obtain ⟨twelve, _⟩ := List.getElem?_eq_some_iff.mp length
  have twelve : month < 12 := twelve
  rw [form] at late ⊢
  refine ⟨low, Nat.le_of_lt_succ late, Nat.le_add_left .., twelve, Nat.le_add_left .., ?_⟩
  show day + 1 ≤ daysInMonth (yearOfDay n) (month + 1)
  rw [daysInMonth, if_neg (Nat.succ_ne_zero month), Nat.add_sub_cancel, length]
  exact within

theorem IsValid.dayNumber_lt (valid : d.IsValid) : d.dayNumber < dayCount := by
  obtain ⟨low, high, hm₁, hm₂, _, hd₂⟩ := valid
  rw [daysInMonth, if_neg (by omega)] at hd₂
  have within := total_take_monthLengths_le (isLeap d.year) (d.month - 1) (by omega)
  have next := daysBeforeYear_mono (show d.year + 1 ≤ 10000 by omega)
  rw [daysBeforeYear_succ low, ← total_monthLengths] at next
  rw [dayCount_eq]
  unfold dayNumber
  omega

theorem dayNumber_add (year month : Nat) {day : Nat} (low : 1 ≤ day) (k : Nat) :
    dayNumber ⟨year, month, day + k⟩ = dayNumber ⟨year, month, day⟩ + k := by
  unfold dayNumber
  dsimp only
  omega

/-! ## A year later -/

/-- A leap day comes between the date and the same date of the next year, or is the date itself. -/
def leapDayAhead (d : Date) : Bool := isLeap (if d.month ≤ 2 then d.year else d.year + 1)

/-- The same date of the next year, with 1 March for a leap day. -/
def nextYear (d : Date) : Date :=
  if d.month = 2 ∧ d.day = 29 then ⟨d.year + 1, 3, 1⟩ else { d with year := d.year + 1 }

theorem dayNumber_succ_year (low : 1 ≤ d.year) (hm : 1 ≤ d.month ∧ d.month ≤ 12) :
    dayNumber { d with year := d.year + 1 } =
      d.dayNumber + 365 + if d.leapDayAhead = true then 1 else 0 := by
  have here := total_take_monthLengths (isLeap d.year) (d.month - 1) (by omega)
  have there := total_take_monthLengths (isLeap (d.year + 1)) (d.month - 1) (by omega)
  unfold dayNumber leapDayAhead
  dsimp only
  rw [here, there, daysBeforeYear_succ low]
  by_cases early : d.month ≤ 2
  -- the leap day of this year is still to come
  · have before : ¬ 2 ≤ d.month - 1 := by omega
    simp only [if_pos early, before, and_false, if_false]
    split <;> omega
  -- or else that of the next year
  · have march : 2 ≤ d.month - 1 := by omega
    simp only [if_neg early, march, and_true]
    split <;> split <;> omega

theorem isLeap_of_leapDay (valid : d.IsValid) (leapDay : d.month = 2 ∧ d.day = 29) :
    isLeap d.year = true := by
  obtain ⟨_, _, _, _, _, inside⟩ := valid
  rw [leapDay.1, leapDay.2] at inside
  cases leap : isLeap d.year with
  | true => rfl
  | false =>
    rw [daysInMonth, leap] at inside
    exact absurd inside (by decide)

theorem not_isLeap_succ {year : Nat} (leap : isLeap year = true) : isLeap (year + 1) = false := by
  rw [isLeap_iff] at leap
  rw [← Bool.not_eq_true, isLeap_iff]
  omega

/-- The same date of the next year is 365 days ahead, and one more where a leap day is between. -/
theorem dayNumber_nextYear (valid : d.IsValid) :
    d.nextYear.dayNumber = d.dayNumber + 365 + if d.leapDayAhead = true then 1 else 0 := by
  rw [← dayNumber_succ_year valid.1 ⟨valid.2.2.1, valid.2.2.2.1⟩]
  unfold nextYear
  split
  · next leapDay =>
    have plain := not_isLeap_succ (isLeap_of_leapDay valid leapDay)
    unfold dayNumber
    dsimp only
    rw [plain, leapDay.1, leapDay.2]
    rfl
  · rfl

theorem isValid_nextYear (valid : d.IsValid) (early : d.year < 9999) : d.nextYear.IsValid := by
  obtain ⟨low, _, hm₁, hm₂, hd₁, hd₂⟩ := valid
  unfold nextYear
  split
  · refine ⟨Nat.le_add_left .., early, Nat.le_add_left 1 2, ?_, Nat.le_refl 1, ?_⟩
    · show 3 ≤ 12
      decide
    · have long := le_daysInMonth (d.year + 1) (show 1 ≤ 3 by decide) (by decide)
      show 1 ≤ daysInMonth (d.year + 1) 3
      omega
  · next other =>
    refine ⟨Nat.le_add_left .., early, hm₁, hm₂, hd₁, ?_⟩
    -- only February changes its length, and the day is not its last one
    exact le_daysInMonth_succ hm₁ hm₂ hd₂ other

/-! ## Weeks of a month -/

/-- Within 364 days there is a whole week of any month. -/
theorem exists_week (n : Nat) {month : Nat} (low : 1 ≤ month) (high : month ≤ 12) :
    ∃ year day, 1 ≤ year ∧ 1 ≤ day ∧ day + 6 ≤ daysInMonth year month ∧
      n < dayNumber ⟨year, month, day⟩ ∧ dayNumber ⟨year, month, day⟩ + 6 ≤ n + 364 := by
  have hy := daysBeforeYear_yearOfDay (n + 1)
  have positive := one_le_yearOfDay (n + 1)
  generalize yearOfDay (n + 1) = year at hy positive
  have next := dayNumber_succ_year (d := ⟨year, month, 1⟩) positive ⟨low, high⟩
  have first : dayNumber ⟨year, month, 1⟩ ≤ daysBeforeYear year + 335 := by
    have before := total_take_monthLengths (isLeap year) (month - 1) (by omega)
    have few := total_take_monthLengths_false_le (month - 1) (by omega)
    have leapDay : (if isLeap year = true ∧ 2 ≤ month - 1 then 1 else 0) ≤ 1 := by split <;> decide
    unfold dayNumber
    dsimp only
    omega
  have above : daysBeforeYear year ≤ dayNumber ⟨year, month, 1⟩ := by
    unfold dayNumber
    dsimp only
    omega
  have above' : daysBeforeYear (year + 1) ≤ dayNumber ⟨year + 1, month, 1⟩ := by
    unfold dayNumber
    dsimp only
    omega
  have long := le_daysInMonth year low high
  by_cases ahead : n < dayNumber ⟨year, month, 1⟩
  -- the month is still to come
  · exact ⟨year, 1, positive, Nat.le_refl 1, by omega, ahead, by omega⟩
  by_cases within : n + 7 < dayNumber ⟨year, month, 1⟩ + daysInMonth year month
  -- a week of it is
  · refine ⟨year, 1 + (n + 1 - dayNumber ⟨year, month, 1⟩), positive, by omega, by omega, ?_⟩
    rw [dayNumber_add year month (Nat.le_refl 1)]
    omega
  -- the next one is less than a year after its end
  · have long' := le_daysInMonth (year + 1) low high
    refine ⟨year + 1, 1, by omega, Nat.le_refl 1, by omega, by omega, ?_⟩
    dsimp only at next
    split at next <;> omega

/-- Within 364 days there is any day of the week in any month. -/
theorem exists_date_of_weekday (n : Nat) {month weekday : Nat} (low : 1 ≤ month)
    (high : month ≤ 12) (small : weekday < 7) :
    ∃ d : Date, 1 ≤ d.year ∧ d.month = month ∧ 1 ≤ d.day ∧ d.day ≤ daysInMonth d.year month ∧
      n < d.dayNumber ∧ d.dayNumber ≤ n + 364 ∧ (d.dayNumber + 1) % 7 = weekday := by
  obtain ⟨year, day, positive, first, inside, after, before⟩ := exists_week n low high
  obtain ⟨k, week, wanted⟩ :
      ∃ k < 7, (dayNumber ⟨year, month, day⟩ + k + 1) % 7 = weekday :=
    ⟨(weekday + 6 + 6 * dayNumber ⟨year, month, day⟩) % 7, by omega, by omega⟩
  refine ⟨⟨year, month, day + k⟩, positive, rfl, Nat.le_add_right_of_le first, ?_, ?_⟩
  · show day + k ≤ daysInMonth year month
    omega
  · rw [dayNumber_add year month first]
    exact ⟨by omega, by omega, wanted⟩

end Date

/-! ## Minutes of a date -/

namespace Minute

variable {m : Minute}

theorem isValid_date (m : Minute) : m.date.IsValid := by
  refine Date.isValid_ofDayNumber ?_
  have inside := m.index_lt
  unfold dayNumber minuteCount minutesPerDay at *
  omega

theorem dayNumber_date (m : Minute) : m.date.dayNumber = m.dayNumber :=
  Date.dayNumber_ofDayNumber _

theorem index_eq (m : Minute) :
    m.index = m.date.dayNumber * minutesPerDay + m.hour * 60 + m.minuteOfHour := by
  rw [dayNumber_date]
  unfold dayNumber minuteOfHour hour minuteOfDay minutesPerDay
  omega

/-- A minute is the one of its date and its time. -/
theorem ofDate?_eq_some {date : Date} {hour minute : Nat} :
    ofDate? date hour minute = some m ↔
      m.date = date ∧ m.hour = hour ∧ m.minuteOfHour = minute := by
  unfold ofDate?
  dsimp only
  constructor
  · intro found
    split at found
    · next inside =>
      obtain ⟨⟨valid, early, low⟩, _⟩ := inside
      obtain rfl := Option.some.inj found
      have day : (date.dayNumber * minutesPerDay + hour * 60 + minute) / minutesPerDay =
          date.dayNumber := by
        unfold minutesPerDay
        omega
      have time : (date.dayNumber * minutesPerDay + hour * 60 + minute) % minutesPerDay =
          hour * 60 + minute := by
        unfold minutesPerDay
        omega
      refine ⟨?_, ?_, ?_⟩
      · show Date.ofDayNumber (_ / minutesPerDay) = date
        rw [day, Date.ofDayNumber_dayNumber valid]
      · show (_ % minutesPerDay) / 60 = hour
        rw [time]
        omega
      · show (_ % minutesPerDay) % 60 = minute
        rw [time]
        omega
    · cases found
  · rintro ⟨rfl, rfl, rfl⟩
    have position := m.index_eq
    have inside := m.index_lt
    rw [dif_pos ⟨⟨m.isValid_date, m.hour_lt, m.minuteOfHour_lt⟩, position ▸ inside⟩]
    cases m
    simp only [Option.some.injEq, mk.injEq]
    exact position.symm

/-- There is a minute for every valid date and time. -/
theorem exists_ofDate? {date : Date} {hour minute : Nat} (valid : date.IsValid)
    (early : hour < 24) (low : minute < 60) : ∃ m, ofDate? date hour minute = some m := by
  have day := valid.dayNumber_lt
  have inside : date.dayNumber * minutesPerDay + hour * 60 + minute < minuteCount := by
    unfold minuteCount minutesPerDay
    omega
  exact ⟨⟨_, inside⟩, dif_pos ⟨⟨valid, early, low⟩, inside⟩⟩

end Minute

end Crontab
