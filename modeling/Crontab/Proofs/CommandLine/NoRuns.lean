import Crontab.Proofs.Calendar.Months
import Crontab.Proofs.CommandLine.Output
import Crontab.Proofs.CommandLine.Readers

/-!
# No runs within the next year

What the answer of the program that there are no runs within the next year says about the minutes
up to the same date and time one year later. The search for runs goes through 365 days:
`noRuns_within_year` has the answer right up to there, and a year with a leap day is one day longer.
-/

namespace Crontab

open Calendar

/-! ## A year later -/

namespace Minute

variable {m later : Minute}

/-- The same date and time one year later, on 1 March for a leap day. -/
def yearLater? (m : Minute) : Option Minute := ofDate? m.date.nextYear m.hour m.minuteOfHour

/-- A year is as long as the search for runs goes, and a day longer where a leap day comes. -/
theorem index_yearLater (found : m.yearLater? = some later) :
    later.index = m.index + horizon + if m.date.leapDayAhead = true then minutesPerDay else 0 := by
  obtain ⟨date, hour, minute⟩ := ofDate?_eq_some.mp found
  rw [later.index_eq, m.index_eq, date, hour, minute, Date.dayNumber_nextYear m.isValid_date]
  unfold horizon minutesPerDay
  split <;> omega

/-- There is such a minute where the calendar goes on for the length of the search. -/
theorem exists_yearLater (year : m.index + horizon < minuteCount) :
    ∃ later, m.yearLater? = some later := by
  refine exists_ofDate? (Date.isValid_nextYear m.isValid_date ?_) m.hour_lt m.minuteOfHour_lt
  -- the last year of the calendar is no longer than the search
  refine Nat.lt_of_not_le fun last => ?_
  have late := daysBeforeYear_mono last
  have position := m.index_eq
  have start : daysBeforeYear m.date.year ≤ m.date.dayNumber := by
    unfold Date.dayNumber
    omega
  have days : daysBeforeYear 9999 + 365 = dayCount := by decide
  unfold horizon minuteCount minutesPerDay at *
  omega

end Minute

namespace CommandLine

variable {readers : ValueReaders} {args : List String} {options : ReportOptions}
  {clock : WallTime} {fields : Fields Reading}

/-! ## Arguments -/

/-- A report is asked for with one operand, its expression, and option values that can be read. -/
theorem ofGiven_eq_some {g : Given} : ReportOptions.ofGiven readers g = some options ↔
    g.operands = [options.expression] ∧
      (match g.count? with
        | some text => readCount readers text
        | none => some 5) = some options.count ∧
      (match g.now? with
        | some text => (readers.timestamp? text).map some
        | none => some none) = some options.now? ∧ g.json = options.json := by
  obtain ⟨count?, now?, json, operands⟩ := g
  obtain ⟨expression, count, time?, asked⟩ := options
  unfold ReportOptions.ofGiven
  dsimp only
  split
  · cases count? <;> cases now? <;> simp [Option.bind_eq_some_iff]
    all_goals grind
  · next other =>
    simp only [false_iff, reduceCtorEq]
    exact fun given => other _ given.1

theorem bounds_of_ofGiven {g : Given} (made : ReportOptions.ofGiven readers g = some options) :
    1 ≤ options.count ∧ options.count ≤ 100 := by
  obtain ⟨_, counted, _⟩ := ofGiven_eq_some.mp made
  split at counted
  · exact bounds_of_readCount counted
  · rw [← Option.some.inj counted]
    decide

/-- A report is asked for with one to a hundred runs. -/
theorem count_bounds (asked : Command.ofArgs readers args = some (.report options)) :
    1 ≤ options.count ∧ options.count ≤ 100 := by
  unfold Command.ofArgs at asked
  split at asked
  · obtain ⟨given, _, asked⟩ := Option.bind_eq_some_iff.mp asked
    obtain ⟨made, found, asked⟩ := Option.bind_eq_some_iff.mp asked
    obtain rfl := Command.report.inj (Option.some.inj asked)
    exact bounds_of_ofGiven found
  · split at asked <;> cases asked
  · cases asked

/-! ## The answer -/

theorem run_of_report {report : Report}
    (asked : Command.ofArgs readers args = some (.report options))
    (answered : Report.atTime options.expression options.count
      (options.now?.getD ⟨clock, none⟩) = .ok report) :
    run readers clock args = if options.json then jsonReport report else wordedReport report := by
  rw [run, asked]
  simp only [Command.run, Report.atTimeOrNow, answered]

theorem run_of_ok {report : Report} (asked : Command.ofArgs readers args = some (.report options))
    (worded : options.json = false)
    (answered : Report.atTime options.expression options.count
      (options.now?.getD ⟨clock, none⟩) = .ok report) :
    run readers clock args = wordedReport report := by
  rw [run_of_report asked answered, worded]
  rfl

theorem run_of_error {fault : Fault} (asked : Command.ofArgs readers args = some (.report options))
    (failed : Report.atTime options.expression options.count
      (options.now?.getD ⟨clock, none⟩) = .error fault) :
    run readers clock args = .failed fault := by
  rw [run, asked]
  simp only [Command.run, Report.atTimeOrNow, failed]

/-- A report that was asked for some runs has none where the search for them goes through the whole
year and comes upon no due minute. -/
theorem exists_report_without_runs {expression : String} {count : Int} {now : Timestamp}
    (read : Expression.read expression = .ok fields)
    (valid : ∀ r ∈ fields.toList, r.isValid = true) (some : 1 ≤ count)
    (countable : count < indexLimit) :
    (∃ report, Report.atTime expression count now = .ok report ∧ report.runs = []) ↔
      now.minute.index + horizon < minuteCount ∧
        (fields.map Reading.values).dueAfter now.minute horizon = [] := by
  constructor
  · intro given
    obtain ⟨report, answered, empty⟩ := given
    obtain ⟨_, enough⟩ := (Report.exists_atTime_iff read valid).mp ⟨report, answered⟩
    rw [Report.runs_of_atTime read valid answered, List.map_eq_nil_iff, List.take_eq_nil_iff]
      at empty
    have none := empty.resolve_left (by omega)
    refine ⟨(Report.suffices_iff.mpr enough).resolve_left fun few => ?_, none⟩
    rw [none, List.length_nil] at few
    omega
  · intro given
    obtain ⟨year, none⟩ := given
    obtain ⟨report, answered⟩ :=
      (Report.exists_atTime_iff read valid).mpr ⟨countable, Or.inl year⟩
    refine ⟨report, answered, ?_⟩
    rw [Report.runs_of_atTime read valid answered, none, List.take_nil, List.map_nil]

/-- When the program answers that there are no runs within the next year. -/
theorem run_prints_iff (asked : Command.ofArgs readers args = some (.report options))
    (worded : options.json = false)
    (read : Expression.read options.expression = .ok fields)
    (valid : ∀ r ∈ fields.toList, r.isValid = true) :
    let now := (options.now?.getD ⟨clock, none⟩).minute
    (run readers clock args).Prints "No runs within the next year." ↔
      now.index + horizon < minuteCount ∧
        (fields.map Reading.values).dueAfter now horizon = [] := by
  intro now
  obtain ⟨some, few⟩ := count_bounds asked
  have limit : (100 : Int) < indexLimit := by decide
  rw [← exists_report_without_runs read valid some (by omega)]
  cases answered : Report.atTime options.expression options.count
    (options.now?.getD ⟨clock, none⟩) with
  | error fault =>
    rw [run_of_error asked answered]
    constructor
    · intro printed
      exact absurd (List.infix_nil.mp printed) (by decide)
    · rintro ⟨_, ⟨⟩, _⟩
  | ok report =>
    rw [run_of_ok asked worded answered, wordedReport_prints_iff read valid answered]
    simp

/-- The program answers that there are no runs within the next year where none of the minutes of the
365 days after the reference is due, and these days are not past the end of the calendar. They reach
up to the same date and time one year later, or to a day before where a leap day comes between. How
the values of the options are read does not matter. -/
theorem noRuns_within_year (readers : ValueReaders) (clock : WallTime)
    (asked : Command.ofArgs readers args = some (.report options))
    (worded : options.json = false)
    (read : Expression.read options.expression = .ok fields)
    (valid : ∀ r ∈ fields.toList, r.isValid = true) :
    let sets := fields.map Reading.values
    let now := (options.now?.getD ⟨clock, none⟩).minute
    let answer := (run readers clock args).Prints "No runs within the next year."
    (answer ↔ now.index + horizon < minuteCount ∧
        ∀ t : Minute, now.index < t.index → t.index ≤ now.index + horizon → ¬ sets.Due t) ∧
      (answer → ∃ later, now.yearLater? = some later ∧
        ∀ t : Minute, now.index < t.index → t.index < later.index →
          (now.date.leapDayAhead = true → t.index + minutesPerDay ≤ later.index) →
          ¬ sets.Due t) := by
  intro sets now answer
  have searched : answer ↔ now.index + horizon < minuteCount ∧
      ∀ t : Minute, now.index < t.index → t.index ≤ now.index + horizon → ¬ sets.Due t := by
    rw [← Fields.dueAfter_eq_nil]
    exact run_prints_iff asked worded read valid
  refine ⟨searched, fun printed => ?_⟩
  obtain ⟨year, none⟩ := searched.mp printed
  obtain ⟨later, found⟩ := Minute.exists_yearLater year
  refine ⟨later, found, fun t after before ahead => none t after ?_⟩
  have position := Minute.index_yearLater found
  split at position
  · next leap =>
    have early := ahead leap
    omega
  · omega

/-! ## A year with a leap day -/

/-- The fields of `0 0 1 1 *`. -/
def newYear : Fields Reading where
  minute := ⟨.minute, "0", .ok [0], "0"⟩
  hour := ⟨.hour, "0", .ok [0], "0"⟩
  monthDay := ⟨.monthDay, "1", .ok [1], "1"⟩
  month := ⟨.month, "1", .ok [1], "January"⟩
  weekday := ⟨.weekday, "*", .ok (progression 0 6 1), "every day of week"⟩

theorem read_newYear : Expression.read "0 0 1 1 *" = .ok newYear := by decide +kernel

theorem valid_newYear : ∀ r ∈ newYear.toList, r.isValid = true := by
  simp [newYear, Fields.toList, Reading.isValid, Except.toBool]

theorem index_of_due_newYear {t : Minute} (due : (newYear.map Reading.values).Due t) :
    t.index = daysBeforeYear t.date.year * minutesPerDay := by
  obtain ⟨minute, hour, month, day⟩ := due
  have full : ¬ Domain.weekday.LeavesOut (progression 0 6 1) := by decide
  rw [Fields.DueDay, if_neg fun both => full both.2] at day
  have minute : t.minuteOfHour = 0 := Int.ofNat.inj (List.mem_singleton.mp minute)
  have hour : t.hour = 0 := Int.ofNat.inj (List.mem_singleton.mp hour)
  have month : t.date.month = 1 := Int.ofNat.inj (List.mem_singleton.mp month)
  have day : t.date.day = 1 := Int.ofNat.inj (List.mem_singleton.mp day.1)
  rw [t.index_eq, minute, hour, Date.dayNumber, month, day]
  simp

/-- The first minute of 2024 but one. -/
def afterNewYear : Minute := ⟨Date.dayNumber ⟨2024, 1, 1⟩ * minutesPerDay + 1, by decide⟩

def newYearArgs : List String := ["parse", "0 0 1 1 *", "--now", "2024-01-01T00:01:00"]

theorem ofArgs_newYear : Command.ofArgs .program newYearArgs =
    some (.report ⟨"0 0 1 1 *", 5, some (.ofMinute afterNewYear none), false⟩) := by
  rfl

/-- The next new year comes 366 days after that of 2024. -/
theorem dueAfter_newYear :
    (newYear.map Reading.values).dueAfter afterNewYear horizon = [] := by
  refine Fields.dueAfter_eq_nil.mpr fun t after within due => ?_
  have position := index_of_due_newYear due
  have start : afterNewYear.index = daysBeforeYear 2024 * minutesPerDay + 1 := by decide
  have next : daysBeforeYear 2025 = daysBeforeYear 2024 + 366 := by decide
  rw [start] at after within
  rcases Nat.lt_or_ge 2024 t.date.year with late | early
  · have beyond := daysBeforeYear_mono (show 2025 ≤ t.date.year from late)
    unfold horizon minutesPerDay at *
    omega
  · have before := daysBeforeYear_mono early
    unfold minutesPerDay at *
    omega

theorem prints_newYear (clock : WallTime) :
    (run .program clock newYearArgs).Prints "No runs within the next year." := by
  have room : afterNewYear.index + horizon < minuteCount := by decide
  exact (run_prints_iff ofArgs_newYear rfl read_newYear valid_newYear).mpr ⟨room, dueAfter_newYear⟩

/-- In the year after the first minutes of 2024 nothing is due but on its last day. -/
theorem noRuns_within_year_newYear :
    ∃ later, afterNewYear.yearLater? = some later ∧
      ∀ t : Minute, afterNewYear.index < t.index → t.index + minutesPerDay ≤ later.index →
        ¬ (newYear.map Reading.values).Due t := by
  let clock : WallTime := .ofMinute ⟨0, by decide⟩
  obtain ⟨_, answer⟩ :=
    noRuns_within_year .program clock ofArgs_newYear rfl read_newYear valid_newYear
  obtain ⟨later, found, none⟩ := answer (prints_newYear clock)
  refine ⟨later, found, fun t after before => none t after ?_ fun _ => before⟩
  unfold minutesPerDay at before
  omega

/-- The program answers that there are no runs within the next year, though the next new year is due
before the year after the reference is over. -/
theorem noRuns_leapYear :
    let clock : WallTime := .ofMinute ⟨0, by decide⟩
    let t : Minute := ⟨Date.dayNumber ⟨2025, 1, 1⟩ * minutesPerDay, by decide⟩
    Expression.read "0 0 1 1 *" = .ok newYear ∧ (∀ r ∈ newYear.toList, r.isValid = true) ∧
      (run .program clock ["parse", "0 0 1 1 *", "--now", "2024-01-01T00:01:00"]).Prints
        "No runs within the next year." ∧
      ∃ later, afterNewYear.yearLater? = some later ∧ afterNewYear.index < t.index ∧
        t.index < later.index ∧ (newYear.map Reading.values).Due t := by
  intro clock t
  obtain ⟨later, found⟩ := Minute.exists_yearLater (show afterNewYear.index + horizon < _ by decide)
  have position := Minute.index_yearLater found
  have leap : afterNewYear.date.leapDayAhead = true := by decide
  rw [if_pos leap] at position
  refine ⟨read_newYear, valid_newYear, prints_newYear clock, later, found, by decide, ?_,
    by decide +kernel⟩
  rw [position]
  decide

end CommandLine

end Crontab
