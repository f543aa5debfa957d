import Crontab.Proofs.Report

/-!
# Paging

Reports that page through the runs of an expression, each from the last run found before it, list
the due minutes one after the other. `eq_dueToEnd` says what is left to list after one page,
`pagedRuns_prefix` that all pages together leave nothing out and repeat nothing.
-/

namespace Crontab

open Calendar

/-! ## The due minutes that are left -/

/-- Minutes in ascending order are determined by which they are. -/
theorem Minute.eq_of_ascending {ms ms' : List Minute}
    (ascends : ms.Pairwise fun a b => a.index < b.index)
    (ascends' : ms'.Pairwise fun a b => a.index < b.index) (same : ∀ m, m ∈ ms ↔ m ∈ ms') :
    ms = ms' := by
  have irreflexive : Std.Irrefl fun a b : Minute => a.index < b.index :=
    ⟨fun m => Nat.lt_irrefl m.index⟩
  have antisymmetric : Std.Antisymm fun a b : Minute => a.index < b.index :=
    ⟨fun _ _ before after => absurd before (Nat.lt_asymm after)⟩
  exact ascends.eq_of_mem_iff ascends' same

namespace Fields

variable {sets : Fields (List Int)} {m t : Minute} {before after : List Minute} {reach : Nat}

/-- All due minutes after `m`, up to the end of the calendar, in ascending order. -/
def dueToEnd (sets : Fields (List Int)) (m : Minute) : List Minute := sets.dueAfter m m.toEnd

theorem mem_dueToEnd : t ∈ sets.dueToEnd m ↔ m.index < t.index ∧ sets.Due t := by
  have := t.index_lt
  rw [dueToEnd, mem_dueAfter]
  unfold Minute.toEnd
  constructor
  · intro given
    exact ⟨given.1.1, given.2⟩
  · intro given
    exact ⟨⟨given.1, by omega⟩, given.2⟩

theorem pairwise_dueToEnd (sets : Fields (List Int)) (m : Minute) :
    (sets.dueToEnd m).Pairwise fun a b => a.index < b.index :=
  sets.pairwise_dueAfter m m.toEnd

theorem dueAfter_prefix (sets : Fields (List Int)) (m : Minute) (reach : Nat) :
    sets.dueAfter m reach <+: sets.dueToEnd m := by
  rcases Nat.le_total m.toEnd reach with beyond | within
  · rw [dueAfter_eq_of_toEnd_le beyond, dueToEnd]
  · obtain ⟨more, equal⟩ := Nat.exists_eq_add_of_le within
    have ranges : List.range reach <+: List.range m.toEnd := by
      rw [equal, List.range_add]
      exact List.prefix_append _ _
    exact (ranges.filterMap fun k => m.later? (k + 1)).filter fun t => sets.Due t

/-- After a due minute those are left that follow it. -/
theorem eq_dueToEnd (split : sets.dueToEnd m = before ++ t :: after) : after = sets.dueToEnd t := by
  have ascends := sets.pairwise_dueToEnd m
  rw [split, List.pairwise_append, List.pairwise_cons] at ascends
  obtain ⟨_, ⟨later, ascends⟩, earlier⟩ := ascends
  refine Minute.eq_of_ascending ascends (sets.pairwise_dueToEnd t) fun x => ?_
  have listed (y : Minute) (member : y ∈ before ++ t :: after) :
      m.index < y.index ∧ sets.Due y := by
    rw [← split] at member
    exact mem_dueToEnd.mp member
  rw [mem_dueToEnd]
  constructor
  · intro member
    exact ⟨later x member, (listed x (by simp [member])).2⟩
  · intro given
    obtain ⟨past, due⟩ := given
    have start := (listed t (by simp)).1
    have member : x ∈ sets.dueToEnd m := mem_dueToEnd.mpr ⟨by omega, due⟩
    rw [split, List.mem_append, List.mem_cons] at member
    rcases member with member | rfl | member
    · have := earlier x member t List.mem_cons_self
      omega
    · omega
    · exact member

end Fields

namespace Fields

variable {sets : Fields (List Int)} {m next : Minute} {met : List Minute} {count : Nat}

/-- The due minutes of the year after `m` come within the year after the last of them that is
listed, but for those listed. -/
theorem length_dueAfter_le (reach : Nat)
    (split : sets.dueToEnd m = (sets.dueAfter m reach).take count ++ sets.dueToEnd next)
    (onward : m.index ≤ next.index) :
    (sets.dueAfter m reach).length ≤ count + (sets.dueAfter next reach).length := by
  let rest := (sets.dueAfter m reach).drop count
  have whole : (sets.dueAfter m reach).take count ++ rest = sets.dueAfter m reach :=
    List.take_append_drop _ _
  have left : rest <+: sets.dueToEnd next := by
    rw [← List.prefix_append_right_inj, whole, ← split]
    exact sets.dueAfter_prefix m reach
  have inside : rest ⊆ sets.dueAfter next reach := by
    intro t member
    obtain ⟨past, due⟩ := mem_dueToEnd.mp (left.subset member)
    have := (mem_dueAfter.mp (List.mem_of_mem_drop member)).1
    exact mem_dueAfter.mpr ⟨⟨past, by omega⟩, due⟩
  have distinct : rest.Nodup := (sets.nodup_dueAfter m reach).sublist (List.drop_sublist _ _)
  have fewer := (distinct.subperm inside).length_le
  have size := congrArg List.length whole
  rw [List.length_append, List.length_take] at size
  omega

end Fields

/-! ## One page -/

/-- The runs that a page lists; none where there is no report. -/
def runsOf : Except Fault Report → List Timestamp
  | .ok report => report.runs
  | .error _ => []

/-- Where the page after this one starts: at its last run, or where it started itself. -/
def nextReference (reference : Timestamp) (page : Except Fault Report) : Timestamp :=
  (runsOf page).getLast?.getD reference

/-- The runs of all pages. -/
def pagedRuns (expression : String) (reference : Timestamp) (counts : List Int) : List Timestamp :=
  (pages expression reference counts).flatMap runsOf

theorem pages_cons (expression : String) (reference : Timestamp) (count : Int) (counts : List Int) :
    pages expression reference (count :: counts) =
      Report.atTime expression count reference ::
        pages expression (nextReference reference (Report.atTime expression count reference))
          counts := by
  rw [pages]
  cases Report.atTime expression count reference <;> rfl

/-! ## What a page leaves -/

/-- A page lists the due minutes `met`, and the next one starts where exactly those are left that
come after them. -/
structure Leaves (sets : Fields (List Int)) (now : Timestamp) (page : Except Fault Report)
    (met : List Minute) : Prop where
  runs : runsOf page = met.map (.ofMinute · now.offset?)
  offset : (nextReference now page).offset? = now.offset?
  split : sets.dueToEnd now.minute = met ++ sets.dueToEnd (nextReference now page).minute
  onward : now.minute.index ≤ (nextReference now page).minute.index

theorem leaves_of_prefix {sets : Fields (List Int)} {now : Timestamp} {page : Except Fault Report}
    {met : List Minute} (first : met <+: sets.dueToEnd now.minute)
    (runs : runsOf page = met.map (.ofMinute · now.offset?)) : Leaves sets now page met := by
  rcases List.eq_nil_or_concat met with rfl | ⟨before, last, rfl⟩
  -- nothing is listed, and the next page starts where this one did
  · have stays : nextReference now page = now := by
      rw [nextReference, runs]
      rfl
    exact ⟨runs, by rw [stays], by rw [stays, List.nil_append], by rw [stays]⟩
  -- the next page starts at the last minute that is listed
  · have moves : nextReference now page = .ofMinute last now.offset? := by
      rw [nextReference, runs]
      simp
    have minute : (Timestamp.ofMinute last now.offset?).minute = last := rfl
    obtain ⟨after, split⟩ := first
    rw [List.concat_eq_append, List.append_assoc] at split
    have left := Fields.eq_dueToEnd split.symm
    have listed : last ∈ sets.dueToEnd now.minute := by simp [← split]
    refine ⟨runs, by rw [moves]; rfl, ?_, ?_⟩
    · rw [moves, minute, ← left, ← split]
      simp
    · rw [moves, minute]
      exact Nat.le_of_lt (Fields.mem_dueToEnd.mp listed).1

section Pages

variable {expression : String} {fields : Fields Reading} {count : Int} {now : Timestamp}

theorem leaves_of_atTime (read : Expression.read expression = .ok fields)
    (valid : ∀ r ∈ fields.toList, r.isValid = true) {report : Report}
    (answered : Report.atTime expression count now = .ok report) :
    let sets := fields.map Reading.values
    Leaves sets now (.ok report) ((sets.dueAfter now.minute horizon).take count.toNat) := by
  refine leaves_of_prefix ?_ (Report.runs_of_atTime read valid answered)
  exact (List.take_prefix _ _).trans (Fields.dueAfter_prefix _ _ _)

theorem exists_leaves (read : Expression.read expression = .ok fields)
    (valid : ∀ r ∈ fields.toList, r.isValid = true) (now : Timestamp) (count : Int) :
    ∃ met, Leaves (fields.map Reading.values) now (Report.atTime expression count now) met := by
  cases answered : Report.atTime expression count now with
  | error fault => exact ⟨[], leaves_of_prefix List.nil_prefix rfl⟩
  | ok report => exact ⟨_, leaves_of_atTime read valid answered⟩

end Pages

/-! ## All pages -/

section Pages

variable {expression : String} {fields : Fields Reading}

/-- All pages answer. -/
def AllAnswer (expression : String) (now : Timestamp) (counts : List Int) : Prop :=
  ∀ page ∈ pages expression now counts, ∃ report, page = .ok report

theorem allAnswer_cons {count : Int} {counts : List Int} {now : Timestamp} :
    AllAnswer expression now (count :: counts) ↔
      ∃ report, Report.atTime expression count now = .ok report ∧
        AllAnswer expression (nextReference now (.ok report)) counts := by
  rw [AllAnswer, pages_cons, List.forall_mem_cons]
  constructor
  · intro given
    obtain ⟨⟨report, answered⟩, rest⟩ := given
    rw [answered] at rest
    exact ⟨report, answered, rest⟩
  · intro given
    obtain ⟨report, answered, rest⟩ := given
    rw [answered]
    exact ⟨⟨report, rfl⟩, rest⟩

/-- How many runs are asked for in all. -/
def totalCount (counts : List Int) : Int := (counts.map (max · 0)).sum

theorem totalCount_cons (count : Int) (counts : List Int) :
    totalCount (count :: counts) = max count 0 + totalCount counts := by
  rw [totalCount, List.map_cons, List.sum_cons, totalCount]

theorem totalCount_nonneg (counts : List Int) : 0 ≤ totalCount counts := by
  induction counts with
  | nil => exact Int.le_refl 0
  | cons count counts ih =>
    rw [totalCount_cons]
    omega

/-- Pages list the due minutes from the first one on. -/
theorem pagedRuns_prefix (read : Expression.read expression = .ok fields)
    (valid : ∀ r ∈ fields.toList, r.isValid = true) (now : Timestamp) (counts : List Int) :
    pagedRuns expression now counts <+:
      ((fields.map Reading.values).dueToEnd now.minute).map (.ofMinute · now.offset?) := by
  induction counts generalizing now with
  | nil => exact List.nil_prefix
  | cons count counts ih =>
    obtain ⟨met, leaves⟩ := exists_leaves read valid now count
    rw [pagedRuns, pages_cons, List.flatMap_cons, leaves.runs, leaves.split, List.map_append,
      List.prefix_append_right_inj]
    have rest := ih (nextReference now (Report.atTime expression count now))
    rwa [leaves.offset] at rest

/-- Pages that all answer list as many runs as they are asked for, or all those of the first
year. -/
theorem length_pagedRuns (read : Expression.read expression = .ok fields)
    (valid : ∀ r ∈ fields.toList, r.isValid = true) {now : Timestamp} {counts : List Int}
    (answer : AllAnswer expression now counts) :
    min (totalCount counts).toNat
        ((fields.map Reading.values).dueAfter now.minute horizon).length ≤
      (pagedRuns expression now counts).length := by
  induction counts generalizing now with
  | nil => exact Nat.min_le_left _ _
  | cons count counts ih =>
    obtain ⟨report, answered, rest⟩ := allAnswer_cons.mp answer
    have leaves := leaves_of_atTime read valid answered
    have ih := ih rest
    have year := Fields.length_dueAfter_le horizon leaves.split leaves.onward
    have listed := congrArg List.length leaves.runs
    rw [List.length_map, List.length_take] at listed
    have := totalCount_nonneg counts
    rw [pagedRuns] at ih ⊢
    rw [pages_cons, List.flatMap_cons, List.length_append, answered, listed, totalCount_cons]
    omega

/-- Where pages all answer, one search for as many runs does not end with the calendar. -/
theorem suffices_totalCount (read : Expression.read expression = .ok fields)
    (valid : ∀ r ∈ fields.toList, r.isValid = true) {now : Timestamp} {counts : List Int}
    (answer : AllAnswer expression now counts) :
    (fields.map Reading.values).Suffices now.minute (totalCount counts) := by
  induction counts generalizing now with
  | nil => exact Or.inr (Int.natCast_nonneg _)
  | cons count counts ih =>
    obtain ⟨report, answered, rest⟩ := allAnswer_cons.mp answer
    have leaves := leaves_of_atTime read valid answered
    obtain ⟨_, enough⟩ := (Report.exists_atTime_iff read valid).mp ⟨report, answered⟩
    by_cases year : now.minute.index + horizon < minuteCount
    · exact Or.inl year
    -- the calendar ends within the year, so all pages list what they are asked for
    · have onward := leaves.onward
      have left := (ih rest).resolve_left (by omega)
      have first := enough.resolve_left year
      have beyond : now.minute.toEnd ≤ horizon := by
        unfold Minute.toEnd
        omega
      have split := congrArg List.length leaves.split
      rw [Fields.dueToEnd, Fields.dueToEnd, Fields.dueAfter_eq_of_toEnd_le beyond,
        List.length_append, List.length_take] at split
      have := totalCount_nonneg counts
      refine Or.inr ?_
      rw [totalCount_cons]
      omega

/-- Paging leaves out no run and repeats none: the pages together list the due minutes after the
reference from the first one on. If all of them answer, so does a single report that is asked for as
many runs, with runs that the pages begin with, unless these are more than can be counted. -/
theorem pagedRuns_contiguous (read : Expression.read expression = .ok fields)
    (valid : ∀ r ∈ fields.toList, r.isValid = true) (now : Timestamp) (counts : List Int) :
    pagedRuns expression now counts <+:
        ((fields.map Reading.values).dueToEnd now.minute).map (.ofMinute · now.offset?) ∧
      (AllAnswer expression now counts →
        (totalCount counts < indexLimit →
          ∃ report, Report.atTime expression (totalCount counts) now = .ok report ∧
            report.runs <+: pagedRuns expression now counts) ∧
        (indexLimit ≤ totalCount counts →
          Report.atTime expression (totalCount counts) now = .error .countTooLarge)) := by
  have listed := pagedRuns_prefix read valid now counts
  refine ⟨listed, fun answer => ⟨fun countable => ?_, fun many => ?_⟩⟩
  · have enough := suffices_totalCount read valid answer
    obtain ⟨report, answered⟩ := (Report.exists_atTime_iff read valid).mpr ⟨countable, enough⟩
    refine ⟨report, answered, List.prefix_of_prefix_length_le ?_ listed ?_⟩
    · rw [Report.runs_of_atTime read valid answered]
      exact ((List.take_prefix _ _).trans (Fields.dueAfter_prefix _ _ _)).map _
    · rw [Report.runs_of_atTime read valid answered, List.length_map, List.length_take]
      exact length_pagedRuns read valid answer
  · exact Report.atTime_of_indexLimit_le read valid now many

/-- Two pages of one run each, up to the end of the calendar. -/
theorem pagedRuns_contiguous_calendarEnd :
    let now : Timestamp := ⟨⟨⟨minuteCount - 3, by decide⟩, 59999999, by decide⟩, some .utc⟩
    AllAnswer "58,59 23 31 12 *" now [1, 1] ∧
      ∃ report, Report.atTime "58,59 23 31 12 *" 2 now = .ok report ∧
        report.runs <+: pagedRuns "58,59 23 31 12 *" now [1, 1] := by
  intro now
  let sets := Report.lastMinutes.map Reading.values
  let first : Minute := ⟨minuteCount - 2, by decide⟩
  have read := Report.read_lastMinutes
  have valid := Report.valid_lastMinutes
  have due : sets.dueAfter now.minute now.minute.toEnd = [first, ⟨minuteCount - 1, by decide⟩] := by
    decide +kernel
  have dueNext : sets.dueAfter first first.toEnd = [⟨minuteCount - 1, by decide⟩] := by
    decide +kernel
  have year : sets.dueAfter now.minute horizon = sets.dueAfter now.minute now.minute.toEnd :=
    Fields.dueAfter_eq_of_toEnd_le (by decide)
  have answer : AllAnswer "58,59 23 31 12 *" now [1, 1] := by
    have enough : sets.Suffices now.minute 1 := by
      right
      rw [due]
      decide
    obtain ⟨report, answered⟩ : ∃ report, Report.atTime _ 1 now = .ok report :=
      (Report.exists_atTime_iff read valid).mpr ⟨by decide, enough⟩
    have runs : report.runs = [.ofMinute first (some .utc)] := by
      rw [Report.runs_of_atTime read valid answered]
      show ((sets.dueAfter now.minute horizon).take 1).map _ = _
      rw [year, due]
      rfl
    have next : nextReference now (.ok report) = .ofMinute first (some .utc) := by
      rw [nextReference, runsOf, runs]
      rfl
    refine allAnswer_cons.mpr ⟨report, answered, ?_⟩
    rw [next]
    have enough : sets.Suffices first 1 := by
      right
      rw [dueNext]
      decide
    obtain ⟨report, answered⟩ : ∃ report, Report.atTime _ 1 (.ofMinute first _) = .ok report :=
      (Report.exists_atTime_iff read valid).mpr ⟨by decide, enough⟩
    exact allAnswer_cons.mpr ⟨report, answered, fun _ member => absurd member List.not_mem_nil⟩
  exact ⟨answer, ((pagedRuns_contiguous read valid now [1, 1]).2 answer).1 (by decide)⟩

/-! ## Pages far from the end of the calendar -/

theorem index_nextReference_le (read : Expression.read expression = .ok fields)
    (valid : ∀ r ∈ fields.toList, r.isValid = true) {count : Int} {now : Timestamp}
    {report : Report} (answered : Report.atTime expression count now = .ok report) :
    (nextReference now (.ok report)).minute.index ≤ now.minute.index + horizon := by
  rw [nextReference, runsOf, Report.runs_of_atTime read valid answered, List.getLast?_map]
  cases last : List.getLast? _ with
  | none => exact Nat.le_add_right _ _
  | some m =>
    have listed := List.mem_of_mem_take (List.mem_of_getLast? last)
    exact (Fields.mem_dueAfter.mp listed).1.2

/-- Pages answer where the calendar has a year left for each of them. -/
theorem allAnswer_of_years (read : Expression.read expression = .ok fields)
    (valid : ∀ r ∈ fields.toList, r.isValid = true) {now : Timestamp} {counts : List Int}
    (countable : ∀ count ∈ counts, count < indexLimit)
    (room : now.minute.index + counts.length * horizon < minuteCount) :
    AllAnswer expression now counts := by
  induction counts generalizing now with
  | nil => exact fun _ member => absurd member List.not_mem_nil
  | cons count counts ih =>
    obtain ⟨first, others⟩ := List.forall_mem_cons.mp countable
    rw [List.length_cons, Nat.succ_mul] at room
    have year : now.minute.index + horizon < minuteCount := by omega
    obtain ⟨report, answered⟩ :=
      (Report.exists_atTime_iff read valid).mpr ⟨first, Or.inl year⟩
    have near := index_nextReference_le read valid answered
    exact allAnswer_cons.mpr ⟨report, answered, ih others (by omega)⟩

end Pages

/-- The fields of `0 0 31 2 *`. -/
def neverDue : Fields Reading where
  minute := ⟨.minute, "0", .ok [0], "0"⟩
  hour := ⟨.hour, "0", .ok [0], "0"⟩
  monthDay := ⟨.monthDay, "31", .ok [31], "31"⟩
  month := ⟨.month, "2", .ok [2], "February"⟩
  weekday := ⟨.weekday, "*", .ok [0, 1, 2, 3, 4, 5, 6], "every day of week"⟩

/-- Two pages answer, but not a single report that is asked for as many runs as both of them. -/
theorem allAnswer_past_counts :
    let now : Timestamp :=
      .ofMinute ⟨Date.dayNumber ⟨2024, 1, 15⟩ * minutesPerDay + 630, by decide⟩ none
    let counts : List Int := [4611686018427387904, 4611686018427387904]
    AllAnswer "0 0 31 2 *" now counts ∧
      Report.atTime "0 0 31 2 *" (totalCount counts) now = .error .countTooLarge := by
  intro now counts
  have read : Expression.read "0 0 31 2 *" = .ok neverDue := by decide +kernel
  have valid : ∀ r ∈ neverDue.toList, r.isValid = true := by
    simp [neverDue, Fields.toList, Reading.isValid, Except.toBool]
  refine ⟨allAnswer_of_years read valid (by decide) (by decide), ?_⟩
  exact Report.atTime_of_indexLimit_le read valid now (by decide)

end Crontab
