import Crontab.Proofs.Expression
import Crontab.Proofs.Schedule.NextRuns
import Crontab.Report

/-!
# The runs of a report

The report on a valid expression lists the first due minutes of the year after its reference. There
is none where the calendar ends too early for them, nor where too many are asked for.
-/

namespace Crontab

open Calendar Text

variable {expression : String} {fields : Fields Reading}

/-! ## Valid fields -/

namespace Expression

theorem each_of_read (read : Expression.read expression = .ok fields) :
    fields.map Reading.domain = Domain.ofFields ∧
      ∀ r ∈ fields.toList, r.domain ∈ Domain.ofFields.toList ∧
        Reading.ofText r.domain r.text = .ok r := by
  obtain ⟨texts, _, answered⟩ := read_eq_ok.mp read
  obtain ⟨domains, _, each⟩ := readFields_each answered
  exact ⟨domains, each⟩

/-- What holds of each field as it is read on its domain holds of the five fields. -/
theorem fields_of_read (read : Expression.read expression = .ok fields)
    {p : Domain → Reading → Prop}
    (each : ∀ r ∈ fields.toList, r.domain ∈ Domain.ofFields.toList →
      Reading.ofText r.domain r.text = .ok r → p r.domain r) :
    p .minute fields.minute ∧ p .hour fields.hour ∧ p .monthDay fields.monthDay ∧
      p .month fields.month ∧ p .weekday fields.weekday := by
  obtain ⟨domains, reads⟩ := each_of_read read
  have holds : ∀ r ∈ fields.toList, p r.domain r := fun r member =>
    each r member (reads r member).1 (reads r member).2
  simp only [Fields.toList, List.forall_mem_cons, List.not_mem_nil, false_implies, implies_true,
    and_true] at holds
  simp only [Fields.map, Domain.ofFields, Fields.mk.injEq] at domains
  obtain ⟨minute, hour, monthDay, month, weekday⟩ := domains
  rwa [minute, hour, monthDay, month, weekday] at holds

theorem inBounds_of_read (read : Expression.read expression = .ok fields)
    (valid : ∀ r ∈ fields.toList, r.isValid = true) : (fields.map Reading.values).InBounds := by
  obtain ⟨minute, hour, monthDay, month, weekday⟩ := fields_of_read read
    (p := fun d r => ∀ v ∈ r.values, v ∈ d) fun r listed member reads =>
      Reading.mem_domain_of_valid member reads (valid r listed)
  exact ⟨minute, hour, monthDay, month, weekday⟩

theorem valid_clauses (valid : ∀ r ∈ fields.toList, r.isValid = true) :
    ∀ c ∈ (fields.map Reading.clause).toList, c.valid = true := by
  intro c member
  rw [Fields.toList_map, List.mem_map] at member
  obtain ⟨r, member, rfl⟩ := member
  exact valid r member

/-- Five valid fields make a sentence. -/
theorem exists_composeSentence_of_read (read : Expression.read expression = .ok fields)
    (valid : ∀ r ∈ fields.toList, r.isValid = true) :
    ∃ description, composeSentence (fields.map Reading.clause).toList = .ok description := by
  obtain ⟨_, each⟩ := each_of_read read
  have inside := inBounds_of_read read valid
  have readable : ∀ r ∈ fields.toList, ∀ fault, everyStride? r.text ≠ .error fault := by
    intro r member fault failed
    have answered := (Reading.exists_ofText_iff (each r member).1).mp ⟨r, (each r member).2⟩
    exact answered (meetsOverlong_of_everyStride failed)
  apply exists_composeSentence
  · exact valid_clauses valid
  · exact inside.minute
  · exact inside.hour
  · exact readable fields.minute (by simp [Fields.toList])
  · exact readable fields.hour (by simp [Fields.toList])

end Expression

/-! ## Reports -/

theorem Reading.refusal?_eq_none {r : Reading} : r.refusal? = none ↔ r.isValid = true := by
  unfold refusal? isValid
  cases r.verdict <;> simp [Except.toBool]

/-- A search for `count` due minutes does not end with the calendar: there is a year left after
`start`, or there are as many due minutes up to the end. -/
def Fields.Suffices (sets : Fields (List Int)) (start : Minute) (count : Int) : Prop :=
  start.index + horizon < minuteCount ∨ count ≤ (sets.dueAfter start start.toEnd).length

instance (sets : Fields (List Int)) (start : Minute) (count : Int) :
    Decidable (sets.Suffices start count) := inferInstanceAs (Decidable (_ ∨ _))

namespace Report

theorem firstRefusal?_eq_none :
    firstRefusal? fields = none ↔ ∀ r ∈ fields.toList, r.isValid = true := by
  rw [firstRefusal?, List.findSome?_eq_none_iff]
  exact forall₂_congr fun _ _ => Reading.refusal?_eq_none

/-- The report on a valid expression stands and falls with the search for its next runs. -/
theorem atTime_eq (read : Expression.read expression = .ok fields)
    (valid : ∀ r ∈ fields.toList, r.isValid = true) (now : Timestamp) :
    ∃ description, ∀ count, atTime expression count now =
      (nextRuns (fields.map Reading.values).toList now.truncate count).map fun runs =>
        ⟨expression, now.truncate, .scheduled fields description runs⟩ := by
  obtain ⟨description, composed⟩ := Expression.exists_composeSentence_of_read read valid
  refine ⟨description, fun count => ?_⟩
  rw [atTime, read]
  simp only [ofFields, firstRefusal?_eq_none.mpr valid, composed]
  cases nextRuns (fields.map Reading.values).toList now.truncate count <;> rfl

theorem suffices_iff {sets : Fields (List Int)} {start : Minute} {count : Int} :
    count.toNat ≤ (sets.dueAfter start horizon).length ∨ start.index + horizon < minuteCount ↔
      sets.Suffices start count := by
  unfold Fields.Suffices
  by_cases year : start.index + horizon < minuteCount
  · simp only [year, or_true, true_or]
  · have beyond : start.toEnd ≤ horizon := by
      unfold Minute.toEnd
      omega
    rw [Fields.dueAfter_eq_of_toEnd_le beyond]
    simp only [year, or_false, false_or]
    exact Int.toNat_le

/-- The report on a valid expression, or why there is none. -/
theorem atTime_eq_ite (read : Expression.read expression = .ok fields)
    (valid : ∀ r ∈ fields.toList, r.isValid = true) (now : Timestamp) :
    let sets := fields.map Reading.values
    ∃ description, ∀ count, atTime expression count now =
      if count < indexLimit ∧ sets.Suffices now.minute count then
        .ok ⟨expression, now.truncate, .scheduled fields description
          (((sets.dueAfter now.minute horizon).take count.toNat).map (.ofMinute · now.offset?))⟩
      else .error (if count < indexLimit then .dateOutOfRange else .countTooLarge) := by
  intro sets
  obtain ⟨description, answer⟩ := atTime_eq read valid now
  refine ⟨description, fun count => ?_⟩
  have search := nextRuns_eq (Expression.inBounds_of_read read valid) now.truncate count
  have minute : now.truncate.minute = now.minute := rfl
  have offset : now.truncate.offset? = now.offset? := rfl
  rw [minute, offset] at search
  rw [answer count, search]
  by_cases countable : count < indexLimit
  · by_cases enough : sets.Suffices now.minute count
    · rw [if_pos countable, if_pos (suffices_iff.mpr enough), if_pos ⟨countable, enough⟩]
      rfl
    · rw [if_pos countable, if_neg (mt suffices_iff.mp enough), if_neg fun given => enough given.2,
        if_pos countable]
      rfl
  · rw [if_neg countable, if_neg fun given => countable given.1, if_neg countable]
    rfl

theorem exists_atTime_iff (read : Expression.read expression = .ok fields)
    (valid : ∀ r ∈ fields.toList, r.isValid = true) {count : Int} {now : Timestamp} :
    (∃ report, atTime expression count now = .ok report) ↔
      count < indexLimit ∧ (fields.map Reading.values).Suffices now.minute count := by
  obtain ⟨description, answer⟩ := atTime_eq_ite read valid now
  rw [answer count]
  split <;> simp [*]

theorem runs_of_atTime (read : Expression.read expression = .ok fields)
    (valid : ∀ r ∈ fields.toList, r.isValid = true) {count : Int} {now : Timestamp}
    {report : Report} (answered : atTime expression count now = .ok report) :
    report.runs = (((fields.map Reading.values).dueAfter now.minute horizon).take count.toNat).map
      (.ofMinute · now.offset?) := by
  obtain ⟨description, answer⟩ := atTime_eq_ite read valid now
  rw [answer count] at answered
  split at answered
  · cases answered
    rfl
  · cases answered

theorem atTime_of_indexLimit_le (read : Expression.read expression = .ok fields)
    (valid : ∀ r ∈ fields.toList, r.isValid = true) (now : Timestamp) {count : Int}
    (many : indexLimit ≤ count) : atTime expression count now = .error .countTooLarge := by
  obtain ⟨description, answer⟩ := atTime_eq read valid now
  have search := nextRuns_eq (Expression.inBounds_of_read read valid) now.truncate count
  rw [answer count, search, if_neg (by omega)]
  rfl

/-- A report on a valid expression lists, at the reference's offset, the first `count` due minutes
of the year after it. There is none where the calendar ends before there are so many, and none where
`count` is past the counts that there are. -/
theorem atTime_runs (read : Expression.read expression = .ok fields)
    (valid : ∀ r ∈ fields.toList, r.isValid = true) (now : Timestamp) (count : Int) :
    let sets := fields.map Reading.values
    (count ≤ 0 → ∃ report, atTime expression count now = .ok report ∧ report.runs = []) ∧
      (0 < count → count < indexLimit → sets.Suffices now.minute count →
        ∃ report, atTime expression count now = .ok report ∧
          report.runs = ((sets.dueAfter now.minute horizon).take count.toNat).map
            (.ofMinute · now.offset?)) ∧
      (0 < count → count < indexLimit → ¬ sets.Suffices now.minute count →
        atTime expression count now = .error .dateOutOfRange) ∧
      (indexLimit ≤ count → atTime expression count now = .error .countTooLarge) := by
  intro sets
  obtain ⟨description, answer⟩ := atTime_eq read valid now
  have search := nextRuns_eq (Expression.inBounds_of_read read valid) now.truncate count
  have minute : now.truncate.minute = now.minute := rfl
  have offset : now.truncate.offset? = now.offset? := rfl
  rw [minute, offset] at search
  refine ⟨fun none => ?_, fun _ countable enough => ?_, fun _ countable short => ?_,
    atTime_of_indexLimit_le read valid now⟩
  · have positive : (0 : Int) < indexLimit := by decide
    have countable : count < indexLimit := by omega
    have nothing : count.toNat = 0 := Int.toNat_eq_zero.mpr none
    rw [answer count, search, if_pos countable, nothing, if_pos (Or.inl (Nat.zero_le _))]
    exact ⟨_, rfl, rfl⟩
  · rw [answer count, search, if_pos countable, if_pos (suffices_iff.mpr enough)]
    exact ⟨_, rfl, rfl⟩
  · rw [answer count, search, if_pos countable, if_neg (mt suffices_iff.mp short)]
    rfl

/-! ## The last minutes of a year -/

/-- The fields of `58,59 23 31 12 *`. -/
def lastMinutes : Fields Reading where
  minute := ⟨.minute, "58,59", .ok [58, 59], "58, 59"⟩
  hour := ⟨.hour, "23", .ok [23], "23"⟩
  monthDay := ⟨.monthDay, "31", .ok [31], "31"⟩
  month := ⟨.month, "12", .ok [12], "December"⟩
  weekday := ⟨.weekday, "*", .ok [0, 1, 2, 3, 4, 5, 6], "every day of week"⟩

theorem read_lastMinutes : Expression.read "58,59 23 31 12 *" = .ok lastMinutes := by decide +kernel

theorem valid_lastMinutes : ∀ r ∈ lastMinutes.toList, r.isValid = true := by
  simp [lastMinutes, Fields.toList, Reading.isValid, Except.toBool]

theorem atTime_runs_calendarEnd :
    let now : Timestamp := ⟨⟨⟨minuteCount - 3, by decide⟩, 59999999, by decide⟩, some .utc⟩
    (∃ report, atTime "58,59 23 31 12 *" 1 now = .ok report ∧
        report.runs = [.ofMinute ⟨minuteCount - 2, by decide⟩ (some .utc)]) ∧
      atTime "58,59 23 31 12 *" 3 now = .error .dateOutOfRange ∧
      atTime "58,59 23 31 12 *" indexLimit now = .error .countTooLarge := by
  intro now
  let sets := lastMinutes.map Reading.values
  have due : sets.dueAfter now.minute now.minute.toEnd =
      [⟨minuteCount - 2, by decide⟩, ⟨minuteCount - 1, by decide⟩] := by decide +kernel
  have beyond : now.minute.toEnd ≤ horizon := by decide
  have year : ¬ now.minute.index + horizon < minuteCount := by decide
  have enough : sets.Suffices now.minute 1 := by
    right
    rw [due]
    decide
  have short : ¬ sets.Suffices now.minute 3 := by
    intro holds
    rcases holds with room | plenty
    · exact year room
    · rw [due] at plenty
      exact absurd plenty (by decide)
  refine ⟨?_, ?_, ?_⟩
  · obtain ⟨report, answered, runs⟩ :=
      (atTime_runs read_lastMinutes valid_lastMinutes now 1).2.1 (by decide) (by decide) enough
    refine ⟨report, answered, ?_⟩
    rw [runs]
    show ((sets.dueAfter now.minute horizon).take 1).map _ = _
    rw [Fields.dueAfter_eq_of_toEnd_le beyond, due]
    rfl
  · exact (atTime_runs read_lastMinutes valid_lastMinutes now 3).2.2.1 (by decide) (by decide) short
  · exact (atTime_runs read_lastMinutes valid_lastMinutes now indexLimit).2.2.2 (Int.le_refl _)

/-- Two runs come in the next year, but not where more are asked for than can be counted. -/
theorem atTime_past_counts :
    let now : Timestamp :=
      .ofMinute ⟨Date.dayNumber ⟨2024, 1, 15⟩ * minutesPerDay + 630, by decide⟩ none
    now.minute.index + horizon < minuteCount ∧
      atTime "58,59 23 31 12 *" 9223372036854775808 now = .error .countTooLarge := by
  intro now
  have year : now.minute.index + horizon < minuteCount := by decide
  exact ⟨year, atTime_of_indexLimit_le read_lastMinutes valid_lastMinutes now (by decide)⟩

end Report

end Crontab
