import Crontab.Proofs.Calendar.Months
import Crontab.Proofs.Field.Telling
import Crontab.Proofs.Report

/-!
# Schedules that come due

Which schedules ever come due, and how soon. A schedule that goes by days of the week, or runs on
every day of its months, is due within 365 days of any minute: `nextRuns_ne_nil`. The others may
wait for years, and `nextRuns_never_iff` says which of them wait forever.
-/

namespace Crontab

open Calendar

theorem Domain.mem_of_not_leavesOut {d : Domain} {values : List Int} {v : Int}
    (full : ¬ d.LeavesOut values) (member : v ∈ d) : v ∈ values :=
  Classical.byContradiction fun missing => full ⟨v, member, missing⟩

namespace Minute

theorem mem_monthDay (t : Minute) : (t.date.day : Int) ∈ Domain.monthDay := by
  obtain ⟨_, _, low, high, first, last⟩ := t.isValid_date
  have inside := Nat.le_trans last (daysInMonth_le_longest low high)
  have longest := longestMonth_le low high
  show 1 ≤ (t.date.day : Int) ∧ (t.date.day : Int) ≤ 31
  omega

theorem mem_weekday (t : Minute) : (t.weekday : Int) ∈ Domain.weekday := by
  have small := t.weekday_lt
  show 0 ≤ (t.weekday : Int) ∧ (t.weekday : Int) ≤ 6
  omega

end Minute

namespace Fields

variable {sets : Fields (List Int)} {t : Minute}

/-! ## Due minutes of a date -/

/-- Every field has a value. -/
structure Filled (sets : Fields (List Int)) : Prop where
  minute : ∃ v, v ∈ sets.minute
  hour : ∃ v, v ∈ sets.hour
  monthDay : ∃ v, v ∈ sets.monthDay
  month : ∃ v, v ∈ sets.month
  weekday : ∃ v, v ∈ sets.weekday

/-- Each date has a minute that the time fields call for. -/
theorem exists_time (bounded : sets.InBounds) (filled : sets.Filled) {date : Date}
    (valid : date.IsValid) :
    ∃ t : Minute, t.date = date ∧ (t.minuteOfHour : Int) ∈ sets.minute ∧
      (t.hour : Int) ∈ sets.hour := by
  obtain ⟨minute, called⟩ := filled.minute
  obtain ⟨hour, called'⟩ := filled.hour
  obtain ⟨low, high⟩ : 0 ≤ minute ∧ minute ≤ 59 := bounded.minute minute called
  obtain ⟨low', high'⟩ : 0 ≤ hour ∧ hour ≤ 23 := bounded.hour hour called'
  obtain ⟨minute, rfl⟩ := Int.eq_ofNat_of_zero_le low
  obtain ⟨hour, rfl⟩ := Int.eq_ofNat_of_zero_le low'
  obtain ⟨t, found⟩ := Minute.exists_ofDate? valid
    (show hour < 24 by omega) (show minute < 60 by omega)
  obtain ⟨day, rfl, rfl⟩ := Minute.ofDate?_eq_some.mp found
  exact ⟨t, day, called, called'⟩

/-- A due minute shows a day of a month that the month field names. -/
theorem day_le_of_due (due : sets.Due t) :
    (t.date.month : Int) ∈ sets.month ∧ t.date.day ≤ longestMonth t.date.month := by
  obtain ⟨_, _, month, _⟩ := due
  obtain ⟨_, _, low, high, _, day⟩ := t.isValid_date
  exact ⟨month, Nat.le_trans day (daysInMonth_le_longest low high)⟩

/-! ## Days of the week, and every day -/

/-- The weekday field leaves out some day, or the field of the month days none. -/
def Weekly (sets : Fields (List Int)) : Prop :=
  Domain.weekday.LeavesOut sets.weekday ∨ ¬ Domain.monthDay.LeavesOut sets.monthDay

/-- A weekly schedule calls for the days of its weekdays, in whichever way its day fields go
together. -/
theorem Weekly.dueDay (weekly : sets.Weekly) (called : (t.weekday : Int) ∈ sets.weekday) :
    sets.DueDay t := by
  unfold DueDay
  split
  · exact Or.inr called
  · next both =>
    have full : ¬ Domain.monthDay.LeavesOut sets.monthDay :=
      weekly.elim (fun weekday monthDay => both ⟨monthDay, weekday⟩) id
    exact ⟨Domain.mem_of_not_leavesOut full t.mem_monthDay, called⟩

/-- A weekly schedule is due on one of any 364 days in a row. -/
theorem Weekly.exists_due (bounded : sets.InBounds) (filled : sets.Filled) (weekly : sets.Weekly)
    (n : Nat) (room : n + 364 < dayCount) :
    ∃ t, sets.Due t ∧ n < t.dayNumber ∧ t.dayNumber ≤ n + 364 := by
  obtain ⟨month, named⟩ := filled.month
  obtain ⟨weekday, called⟩ := filled.weekday
  obtain ⟨low, high⟩ : 1 ≤ month ∧ month ≤ 12 := bounded.month month named
  obtain ⟨low', high'⟩ : 0 ≤ weekday ∧ weekday ≤ 6 := bounded.weekday weekday called
  obtain ⟨month, rfl⟩ := Int.eq_ofNat_of_zero_le (show 0 ≤ month by omega)
  obtain ⟨weekday, rfl⟩ := Int.eq_ofNat_of_zero_le low'
  obtain ⟨date, year, rfl, first, last, after, before, wanted⟩ :=
    Date.exists_date_of_weekday n (show 1 ≤ month by omega) (show month ≤ 12 by omega)
      (show weekday < 7 by omega)
  have early := Date.year_lt_of_dayNumber (d := date) (by omega)
  have valid : date.IsValid := ⟨year, by omega, by omega, by omega, first, last⟩
  obtain ⟨t, rfl, minute, hour⟩ := exists_time bounded filled valid
  rw [Minute.dayNumber_date] at after before wanted
  subst wanted
  exact ⟨t, ⟨minute, hour, named, weekly.dueDay called⟩, after, before⟩

/-! ## Schedules that are never due -/

/-- No month that the schedule names has a day that it names, and it goes by the days of the month
alone. -/
structure Impossible (sets : Fields (List Int)) : Prop where
  anyWeekday : ¬ Domain.weekday.LeavesOut sets.weekday
  someDays : Domain.monthDay.LeavesOut sets.monthDay
  absent : ∀ month ∈ sets.month, ∀ day ∈ sets.monthDay, (longestMonth month.toNat : Int) < day

theorem Impossible.not_due (impossible : sets.Impossible) (t : Minute) : ¬ sets.Due t := by
  intro due
  obtain ⟨month, day⟩ := day_le_of_due due
  obtain ⟨_, _, _, dueDay⟩ := due
  rw [DueDay, if_neg fun both => impossible.anyWeekday both.2] at dueDay
  have short := impossible.absent _ month _ dueDay.1
  rw [Int.toNat_natCast] at short
  omega

/-- Every other schedule is due at some minute, later than the first one of the calendar. -/
theorem exists_due_of_possible (bounded : sets.InBounds) (filled : sets.Filled)
    (possible : ¬ sets.Impossible) : ∃ t, sets.Due t ∧ 0 < t.index := by
  by_cases weekly : sets.Weekly
  · obtain ⟨t, due, after, _⟩ := weekly.exists_due bounded filled 0 (by decide)
    refine ⟨t, due, Nat.pos_of_ne_zero fun zero => ?_⟩
    rw [Minute.dayNumber, zero] at after
    exact absurd after (by decide)
  obtain ⟨weekdays, someDays⟩ : ¬ Domain.weekday.LeavesOut sets.weekday ∧
      Domain.monthDay.LeavesOut sets.monthDay := by
    simpa [Weekly] using weekly
  -- a month has a day in leap years, if it has it at all
  obtain ⟨month, named, day, called, inside⟩ : ∃ month ∈ sets.month, ∃ day ∈ sets.monthDay,
      day ≤ (longestMonth month.toNat : Int) := by
    apply Classical.byContradiction
    intro none
    refine possible ⟨weekdays, someDays, fun month named day called => ?_⟩
    exact Int.lt_of_not_ge fun some => none ⟨month, named, day, called, some⟩
  obtain ⟨low, high⟩ : 1 ≤ month ∧ month ≤ 12 := bounded.month month named
  obtain ⟨first, _⟩ : 1 ≤ day ∧ day ≤ 31 := bounded.monthDay day called
  obtain ⟨month, rfl⟩ := Int.eq_ofNat_of_zero_le (show 0 ≤ month by omega)
  obtain ⟨day, rfl⟩ := Int.eq_ofNat_of_zero_le (show 0 ≤ day by omega)
  rw [Int.toNat_natCast] at inside
  have valid : Date.IsValid ⟨2000, month, day⟩ := by
    show 1 ≤ 2000 ∧ 2000 ≤ 9999 ∧ 1 ≤ month ∧ month ≤ 12 ∧ 1 ≤ day ∧ day ≤ daysInMonth 2000 month
    have leap : isLeap 2000 = true := by decide
    rw [daysInMonth_of_isLeap leap (by omega)]
    omega
  obtain ⟨t, date, minute, hour⟩ := exists_time bounded filled valid
  have weekday := Domain.mem_of_not_leavesOut weekdays t.mem_weekday
  have dueDay : sets.DueDay t := by
    rw [DueDay, if_neg fun both => weekdays both.2, date]
    exact ⟨called, weekday⟩
  refine ⟨t, ⟨minute, hour, date ▸ named, dueDay⟩, ?_⟩
  have past : 0 < daysBeforeYear 2000 := by decide
  rw [t.index_eq, date, Date.dayNumber, minutesPerDay]
  dsimp only
  omega

end Fields

theorem Expression.filled_of_read {expression : String} {fields : Fields Reading}
    (read : Expression.read expression = .ok fields)
    (valid : ∀ r ∈ fields.toList, r.isValid = true) : (fields.map Reading.values).Filled := by
  obtain ⟨minute, hour, monthDay, month, weekday⟩ := fields_of_read read
    (p := fun _ r => ∃ v, v ∈ r.values) fun r listed member reads =>
      List.exists_mem_of_ne_nil _ (Reading.values_ne_nil member reads (valid r listed))
  exact ⟨minute, hour, monthDay, month, weekday⟩

/-! ## The runs of such schedules -/

section

variable {sets : Fields (List Int)} {now : Timestamp} {count : Int}

/-- Runs that are asked for and that there are, are found. -/
theorem exists_nextRuns_of_mem {t : Minute} (bounded : sets.InBounds)
    (member : t ∈ sets.dueAfter now.minute horizon) (some : 1 ≤ count)
    (countable : count < indexLimit)
    (enough : count.toNat ≤ (sets.dueAfter now.minute horizon).length ∨
      now.minute.index + horizon < minuteCount) :
    ∃ runs, nextRuns sets.toList now count = .ok runs ∧ runs ≠ [] := by
  have search := nextRuns_eq bounded now count
  rw [if_pos countable, if_pos enough] at search
  refine ⟨_, search, ?_⟩
  rw [Ne, List.map_eq_nil_iff, List.take_eq_nil_iff, not_or]
  exact ⟨by omega, List.ne_nil_of_mem member⟩

theorem nextRuns_of_indexLimit_le (bounded : sets.InBounds) (past : indexLimit ≤ count) :
    nextRuns sets.toList now count = .error .countTooLarge := by
  rw [nextRuns_eq bounded, if_neg (by omega)]

/-- The search for the runs of an impossible schedule comes back empty, if the calendar does not end
within the year. -/
theorem nextRuns_of_impossible (bounded : sets.InBounds) (impossible : sets.Impossible)
    (countable : count < indexLimit) :
    nextRuns sets.toList now count = .ok [] ∨
      nextRuns sets.toList now count = .error .dateOutOfRange ∧
        minuteCount ≤ now.minute.index + horizon := by
  have none : sets.dueAfter now.minute horizon = [] :=
    Fields.dueAfter_eq_nil.mpr fun t _ _ => impossible.not_due t
  rw [nextRuns_eq bounded, if_pos countable, none]
  split
  · left
    rw [List.take_nil, List.map_nil]
  · next short => exact Or.inr ⟨rfl, by omega⟩

/-- Every other schedule has a run after some minute. -/
theorem exists_nextRuns_of_possible (bounded : sets.InBounds) (filled : sets.Filled)
    (possible : ¬ sets.Impossible) :
    ∃ now runs, nextRuns sets.toList now 1 = .ok runs ∧ runs ≠ [] := by
  obtain ⟨t, due, positive⟩ := Fields.exists_due_of_possible bounded filled possible
  have inside := t.index_lt
  let now : Timestamp := .ofMinute ⟨t.index - 1, by omega⟩ none
  have member : t ∈ sets.dueAfter now.minute horizon := by
    refine Fields.mem_dueAfter.mpr ⟨?_, due⟩
    show t.index - 1 < t.index ∧ t.index ≤ t.index - 1 + horizon
    unfold horizon
    omega
  exact ⟨now, exists_nextRuns_of_mem bounded member (Int.le_refl 1) (by decide)
    (Or.inl (List.length_pos_of_mem member))⟩

end

variable {expression : String} {fields : Fields Reading}

/-- A weekly schedule has a run in the year after any minute that is followed by a year, however
many are asked for of those that can be counted. -/
theorem nextRuns_ne_nil {now : Timestamp} {count : Int}
    (read : Expression.read expression = .ok fields)
    (valid : ∀ r ∈ fields.toList, r.isValid = true) (weekly : (fields.map Reading.values).Weekly)
    (year : now.minute.index + horizon < minuteCount) (some : 1 ≤ count) :
    let sets := fields.map Reading.values
    (count < indexLimit →
        ∃ runs, nextRuns sets.toList now count = .ok runs ∧ runs ≠ []) ∧
      (indexLimit ≤ count → nextRuns sets.toList now count = .error .countTooLarge) := by
  intro sets
  have bounded := Expression.inBounds_of_read read valid
  refine ⟨fun countable => ?_, nextRuns_of_indexLimit_le bounded⟩
  have room : now.minute.dayNumber + 364 < dayCount := by
    unfold Minute.dayNumber horizon minuteCount minutesPerDay at *
    omega
  obtain ⟨t, due, after, before⟩ :=
    weekly.exists_due bounded (Expression.filled_of_read read valid) now.minute.dayNumber room
  -- the day of that minute lies within the year as a whole
  have member : t ∈ sets.dueAfter now.minute horizon := by
    refine Fields.mem_dueAfter.mpr ⟨?_, due⟩
    unfold Minute.dayNumber horizon minutesPerDay at *
    omega
  exact exists_nextRuns_of_mem bounded member some countable (Or.inr year)

/-- The fields of `0 0 * 1 1`. -/
def januaryMondays : Fields Reading where
  minute := ⟨.minute, "0", .ok [0], "0"⟩
  hour := ⟨.hour, "0", .ok [0], "0"⟩
  monthDay := ⟨.monthDay, "*", .ok (progression 1 31 1), "every day of month"⟩
  month := ⟨.month, "1", .ok [1], "January"⟩
  weekday := ⟨.weekday, "1", .ok [1], "Monday"⟩

theorem read_januaryMondays : Expression.read "0 0 * 1 1" = .ok januaryMondays := by decide +kernel

theorem valid_januaryMondays : ∀ r ∈ januaryMondays.toList, r.isValid = true := by
  simp [januaryMondays, Fields.toList, Reading.isValid, Except.toBool]

theorem weekly_januaryMondays : (januaryMondays.map Reading.values).Weekly :=
  Or.inl ⟨0, by decide, by decide⟩

/-- From the last Monday of a January on, the next one is still within the year. -/
theorem nextRuns_ne_nil_januaryMondays :
    let now : Timestamp := .ofMinute ⟨Date.dayNumber ⟨2024, 1, 29⟩ * minutesPerDay, by decide⟩ none
    ∃ runs, nextRuns (januaryMondays.map Reading.values).toList now 1 = .ok runs ∧ runs ≠ [] :=
  (nextRuns_ne_nil read_januaryMondays valid_januaryMondays weekly_januaryMondays (by decide)
    (Int.le_refl 1)).1 (by decide)

/-- More Mondays than can be counted are not found, though the next ones are within the year. -/
theorem nextRuns_januaryMondays_past_counts :
    let now : Timestamp :=
      .ofMinute ⟨Date.dayNumber ⟨2024, 1, 15⟩ * minutesPerDay + 630, by decide⟩ none
    let sets := januaryMondays.map Reading.values
    Expression.read "0 0 * 1 1" = .ok januaryMondays ∧ sets.Weekly ∧
      now.minute.index + horizon < minuteCount ∧
      nextRuns sets.toList now 9223372036854775808 = .error .countTooLarge := by
  intro now sets
  have bounded := Expression.inBounds_of_read read_januaryMondays valid_januaryMondays
  exact ⟨read_januaryMondays, weekly_januaryMondays, by decide,
    nextRuns_of_indexLimit_le bounded (by decide)⟩

/-- The schedules without a run after any minute, in whatever number they are asked for, are the
impossible ones. The search comes back empty for those, or fails where the calendar ends within the
year; it fails for any schedule where more runs are asked for than can be counted. -/
theorem nextRuns_never_iff (read : Expression.read expression = .ok fields)
    (valid : ∀ r ∈ fields.toList, r.isValid = true) :
    let sets := fields.map Reading.values
    ((∀ (now : Timestamp) (count : Int) (runs : List Timestamp),
        nextRuns sets.toList now count = .ok runs → runs = []) ↔ sets.Impossible) ∧
      (sets.Impossible → ∀ (now : Timestamp) (count : Int), count < indexLimit →
        nextRuns sets.toList now count = .ok [] ∨
          nextRuns sets.toList now count = .error .dateOutOfRange ∧
            minuteCount ≤ now.minute.index + horizon) ∧
      ∀ (now : Timestamp) (count : Int), indexLimit ≤ count →
        nextRuns sets.toList now count = .error .countTooLarge := by
  intro sets
  have bounded := Expression.inBounds_of_read read valid
  refine ⟨⟨fun silent => ?_, fun impossible now count runs found => ?_⟩,
    fun impossible now count => nextRuns_of_impossible bounded impossible,
    fun now count => nextRuns_of_indexLimit_le bounded⟩
  · refine Classical.byContradiction fun possible => ?_
    obtain ⟨now, runs, found, some⟩ :=
      exists_nextRuns_of_possible bounded (Expression.filled_of_read read valid) possible
    exact some (silent now 1 runs found)
  · by_cases countable : count < indexLimit
    · rcases nextRuns_of_impossible bounded impossible countable with empty | ⟨failed, _⟩
      · exact Except.ok.inj (found.symm.trans empty)
      · cases found.symm.trans failed
    · cases found.symm.trans (nextRuns_of_indexLimit_le bounded (by omega))

/-- The fields of `0 0 30,31 2 *`. -/
def pastFebruary : Fields Reading where
  minute := ⟨.minute, "0", .ok [0], "0"⟩
  hour := ⟨.hour, "0", .ok [0], "0"⟩
  monthDay := ⟨.monthDay, "30,31", .ok [30, 31], "30, 31"⟩
  month := ⟨.month, "2", .ok [2], "February"⟩
  weekday := ⟨.weekday, "*", .ok (progression 0 6 1), "every day of week"⟩

theorem read_pastFebruary : Expression.read "0 0 30,31 2 *" = .ok pastFebruary := by decide +kernel

theorem valid_pastFebruary : ∀ r ∈ pastFebruary.toList, r.isValid = true := by
  simp [pastFebruary, Fields.toList, Reading.isValid, Except.toBool]

theorem impossible_pastFebruary : (pastFebruary.map Reading.values).Impossible where
  anyWeekday := by decide
  someDays := ⟨1, by decide, by decide⟩
  absent := by decide

theorem nextRuns_never_iff_pastFebruary :
    let now : Timestamp :=
      .ofMinute ⟨Date.dayNumber ⟨2024, 1, 15⟩ * minutesPerDay + 630, by decide⟩ none
    let sets := pastFebruary.map Reading.values
    nextRuns sets.toList now 10 = .ok [] ∧
      ∀ (now : Timestamp) (count : Int) (runs : List Timestamp),
        nextRuns sets.toList now count = .ok runs → runs = [] := by
  intro now sets
  obtain ⟨never, answers, _⟩ := nextRuns_never_iff read_pastFebruary valid_pastFebruary
  have year : now.minute.index + horizon < minuteCount := by decide
  refine ⟨(answers impossible_pastFebruary now 10 (by decide)).resolve_right ?_,
    never.mpr impossible_pastFebruary⟩
  exact fun failed => Nat.not_lt_of_le failed.2 year

/-- The search for the runs of an impossible schedule fails nevertheless where more are asked for
than can be counted. -/
theorem nextRuns_pastFebruary_past_counts :
    let now : Timestamp :=
      .ofMinute ⟨Date.dayNumber ⟨2024, 1, 15⟩ * minutesPerDay + 630, by decide⟩ none
    let sets := pastFebruary.map Reading.values
    Expression.read "0 0 30,31 2 *" = .ok pastFebruary ∧ sets.Impossible ∧
      now.minute.index + horizon < minuteCount ∧
      nextRuns sets.toList now 9223372036854775808 = .error .countTooLarge := by
  intro now sets
  have bounded := Expression.inBounds_of_read read_pastFebruary valid_pastFebruary
  exact ⟨read_pastFebruary, impossible_pastFebruary, by decide,
    nextRuns_of_indexLimit_le bounded (by decide)⟩

end Crontab
