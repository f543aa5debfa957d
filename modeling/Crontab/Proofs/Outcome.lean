import Crontab.Proofs.Calendar.Timestamp
import Crontab.Proofs.Telling

/-!
# The shapes of a report

A report is of one of three shapes, by what can be read off its members: `atTime_shape` says which
members go with which shape. `Reading.Coherent` says as much of the members of a field.
-/

namespace Crontab

open Calendar Text

/-! ## Fields -/

/-- The members of a reading agree on whether the field is valid. -/
structure Reading.Coherent (r : Reading) : Prop where
  values : r.isValid = true ↔ r.values ≠ []
  refusal : r.isValid = true ↔ r.refusal? = none
  description : r.isValid = true ↔ r.description ≠ "invalid"
  ascending : r.values.Pairwise (· < ·)
  inside : ∀ v ∈ r.values, v ∈ r.domain

namespace Reading

variable {d : Domain} {text : String} {r : Reading}

theorem values_of_not_valid (invalid : ¬ r.isValid = true) : r.values = [] := by
  unfold isValid at invalid
  unfold values
  cases verdict : r.verdict with
  | ok values =>
    rw [verdict] at invalid
    exact absurd rfl invalid
  | error why => rfl

theorem description_of_not_valid (member : d ∈ Domain.ofFields.toList)
    (read : ofText d text = .ok r) (invalid : ¬ r.isValid = true) : r.description = "invalid" := by
  obtain ⟨_, _, rfl⟩ := exists_refused member read invalid
  rfl

theorem description_of_valid (member : d ∈ Domain.ofFields.toList)
    (read : ofText d text = .ok r) (valid : r.isValid = true) : r.description ≠ "invalid" := by
  intro same
  obtain ⟨word, rest, form, start⟩ := (tells member read valid).start member
  have said : words "invalid".toList = ["invalid".toList] := by decide +kernel
  rw [same, said] at form
  rw [← (List.cons.inj form).1] at start
  rcases start with every | capital
  · cases every
  · cases capital

theorem coherent_of_ofText (member : d ∈ Domain.ofFields.toList) (read : ofText d text = .ok r) :
    r.Coherent := by
  obtain ⟨domain, _, _, told⟩ := ofText_eq_ok member read
  by_cases valid : r.isValid = true
  · refine ⟨iff_of_true valid (values_ne_nil member read valid), refusal?_eq_none.symm,
      iff_of_true valid (description_of_valid member read valid), (told valid).1, ?_⟩
    rw [domain]
    exact mem_domain_of_valid member read valid
  · have none := values_of_not_valid valid
    refine ⟨iff_of_false valid (not_not_intro none), refusal?_eq_none.symm, ?_, ?_, ?_⟩
    · exact iff_of_false valid (not_not_intro (description_of_not_valid member read valid))
    · rw [none]
      exact .nil
    · rw [none]
      exact fun v listed => absurd listed List.not_mem_nil

end Reading

/-! ## Sentences -/

theorem Timing.head_render (t : Timing) :
    t.render.toList.head? = some 'E' ∨ t.render.toList.head? = some 'A' := by
  cases t <;> simp [render, clockText, toString, String.toList_append]

/-- No sentence is mistaken for the lack of one. -/
theorem Sentence.render_ne_invalid (s : Sentence) : s.render ≠ invalidDescription := by
  have first : invalidDescription.toList.head? = some 'I' := rfl
  intro same
  rw [← same, render, String.toList_append, String.toList_append, String.toList_append,
    List.append_assoc, List.append_assoc, List.head?_append] at first
  rcases s.timing.head_render with start | start
  · rw [start] at first
    cases first
  · rw [start] at first
    cases first

theorem composeSentence_ne_invalid {clauses : Fields Clause}
    (valid : ∀ c ∈ clauses.toList, c.valid = true) {sentence : String}
    (composed : composeSentence clauses.toList = .ok sentence) : sentence ≠ invalidDescription := by
  obtain ⟨s, _, rfl⟩ := (composeSentence_eq_ok valid).mp composed
  exact s.render_ne_invalid

/-! ## Shapes -/

namespace Report

/-- The expression has not five fields, and that is what is reported. -/
structure IsMisshapen (r : Report) : Prop where
  fields : r.fields = []
  problem : ∃ p, r.problem? = some p ∧ p.kind = .structural

/-- Some of five fields is refused, and the leftmost refusal is what is reported. -/
structure IsRefused (r : Report) : Prop where
  five : r.fields.length = 5
  leftmost : ∃ before bad after why, r.fields = before ++ bad :: after ∧
    (∀ f ∈ before, f.isValid = true) ∧ bad.isValid = false ∧ bad.refusal? = some why ∧
    r.problem? = some (.refused why) ∧ (Problem.refused why).kind ≠ .structural

/-- Five fields are valid, and nothing is reported. -/
structure IsScheduled (r : Report) : Prop where
  five : r.fields.length = 5
  valid : ∀ f ∈ r.fields, f.isValid = true
  problem : r.problem? = none

inductive Shape where
  | misshapen
  | refused
  | scheduled
deriving DecidableEq, Repr

/-- The report is of the shape. -/
def Has (r : Report) : Shape → Prop
  | .misshapen => r.IsMisshapen
  | .refused => r.IsRefused
  | .scheduled => r.IsScheduled

variable {r : Report}

/-- A report is of one shape at most. -/
theorem shape_unique {s s' : Shape} (has : r.Has s) (has' : r.Has s') : s = s' := by
  have apart : r.IsMisshapen → ¬ r.fields.length = 5 := fun misshapen five => by
    rw [misshapen.fields] at five
    cases five
  have split : r.IsRefused → ¬ r.IsScheduled := fun refused scheduled => by
    obtain ⟨before, bad, after, why, form, _, invalid, _⟩ := refused.leftmost
    have valid := scheduled.valid bad (by rw [form]; simp)
    rw [valid] at invalid
    cases invalid
  cases s <;> cases s'
  · rfl
  · exact absurd has'.five (apart has)
  · exact absurd has'.five (apart has)
  · exact absurd has.five (apart has')
  · rfl
  · exact absurd has' (split has)
  · exact absurd has.five (apart has')
  · exact absurd has (split has')
  · rfl

/-! ## What goes with the shapes -/

/-- A report of the shape, with the members that go with it. -/
structure Made (r : Report) (shape : Shape) : Prop where
  has : r.Has shape
  isValid : r.isValid = true ↔ shape = .scheduled
  description : r.description = invalidDescription ↔ shape ≠ .scheduled
  runs : shape ≠ .scheduled → r.runs = []

theorem Made.has_iff {shape s : Shape} (made : r.Made shape) : r.Has s ↔ s = shape := by
  constructor
  · exact fun has => shape_unique has made.has
  · rintro rfl
    exact made.has

theorem made_misshapen {why : Misshapen} (outcome : r.outcome = .misshapen why) :
    r.Made .misshapen := by
  obtain ⟨expression, reference, _⟩ := r
  cases outcome
  exact ⟨⟨rfl, _, rfl, rfl⟩, by simp [isValid], by simp [description], fun _ => rfl⟩

theorem made_refused {fields : Fields Reading} {why : Refusal}
    (leftmost : firstRefusal? fields = some why) (outcome : r.outcome = .refused fields why) :
    r.Made .refused := by
  obtain ⟨before, bad, after, form, refused, earlier⟩ :=
    List.findSome?_eq_some_iff.mp leftmost
  have invalid : bad.isValid = false := by
    rw [← Bool.not_eq_true, ← Reading.refusal?_eq_none, refused]
    simp
  obtain ⟨expression, reference, _⟩ := r
  cases outcome
  refine ⟨⟨rfl, before, bad, after, why, form, ?_, invalid, refused, rfl, why.kind_ne_structural⟩,
    by simp [isValid], by simp [description], fun _ => rfl⟩
  exact fun f member => Reading.refusal?_eq_none.mp (earlier f member)

theorem made_scheduled {fields : Fields Reading} {sentence : String} {runs : List Timestamp}
    (valid : ∀ f ∈ fields.toList, f.isValid = true)
    (composed : composeSentence (fields.map Reading.clause).toList = .ok sentence)
    (outcome : r.outcome = .scheduled fields sentence runs) : r.Made .scheduled := by
  have other := composeSentence_ne_invalid (Expression.valid_clauses valid) composed
  obtain ⟨expression, reference, _⟩ := r
  cases outcome
  exact ⟨⟨rfl, valid, rfl⟩, by simp [isValid], by simpa [description] using other, by simp⟩

/-! ## Which reports there are -/

variable {expression : String} {count : Int} {now : Timestamp} {report : Report}

theorem cases_of_ofFields {fields : Fields Reading} {reference : Timestamp} {outcome : Outcome}
    (answered : ofFields fields count reference = .ok outcome) :
    (∃ why, firstRefusal? fields = some why ∧ outcome = .refused fields why) ∨
      firstRefusal? fields = none ∧ ∃ runs sentence,
        composeSentence (fields.map Reading.clause).toList = .ok sentence ∧
          outcome = .scheduled fields sentence runs := by
  unfold ofFields at answered
  split at answered
  · next why leftmost => exact .inl ⟨why, leftmost, (Except.ok.inj answered).symm⟩
  · next none =>
    obtain ⟨runs, _, answered⟩ := bind_eq_ok.mp answered
    obtain ⟨sentence, composed, answered⟩ := bind_eq_ok.mp answered
    exact .inr ⟨none, runs, sentence, composed, (Except.ok.inj answered).symm⟩

theorem cases_of_atTime (answered : atTime expression count now = .ok report) :
    report.reference = now.truncate ∧
      ((∃ why, report.outcome = .misshapen why) ∨
        ∃ fields, Expression.read expression = .ok fields ∧
          ofFields fields count now.truncate = .ok report.outcome) := by
  unfold atTime at answered
  cases read : Expression.read expression with
  | ok fields =>
    rw [read] at answered
    obtain ⟨outcome, found, made⟩ := bind_eq_ok.mp answered
    cases made
    exact ⟨rfl, .inr ⟨fields, rfl, found⟩⟩
  | error stop =>
    rw [read] at answered
    cases stop with
    | refused why =>
      cases answered
      exact ⟨rfl, .inl ⟨why, rfl⟩⟩
    | fault fault => cases answered

/-- The fields of a report, each read from its own word on its own domain. -/
structure Fielded (expression : String) (r : Report) : Prop where
  domains : r.fields.map Reading.domain = Domain.ofFields.toList
  texts : r.fields.map Reading.text = (words expression.toList).map String.ofList
  coherent : ∀ f ∈ r.fields, f.Coherent

theorem fielded_of_read {fields : Fields Reading} (read : Expression.read expression = .ok fields)
    (form : report.fields = fields.toList) : report.Fielded expression := by
  obtain ⟨texts, split, answered⟩ := Expression.read_eq_ok.mp read
  obtain ⟨domains, rfl, each⟩ := Expression.readFields_each answered
  rw [← Fields.toList_inj, Fields.toList_map] at domains
  refine ⟨form ▸ domains, ?_, fun f member => ?_⟩
  · rw [form, Expression.split_eq_ok.mp split, Fields.toList_map]
  · rw [form] at member
    exact Reading.coherent_of_ofText (each f member).1 (each f member).2

/-- The runs ascend from the reference, each at the start of a minute by the reference's offset. -/
structure Ascending (r : Report) : Prop where
  pairwise : r.runs.Pairwise fun s t => s.utcTicks < t.utcTicks
  after : ∀ t ∈ r.runs, r.reference.utcTicks < t.utcTicks
  aligned : ∀ t ∈ r.runs, t.truncate = t ∧ t.offset? = r.reference.offset?

theorem ascending_of_empty (empty : report.runs = []) : report.Ascending := by
  refine ⟨?_, ?_, ?_⟩ <;> rw [empty] <;> simp

theorem ascending_of_read {fields : Fields Reading}
    (read : Expression.read expression = .ok fields)
    (valid : ∀ f ∈ fields.toList, f.isValid = true)
    (answered : atTime expression count now = .ok report)
    (reference : report.reference = now.truncate) :
    report.Ascending ∧ report.runs.length ≤ count.toNat := by
  have runs := runs_of_atTime read valid answered
  have order (a b : Minute) (before : a.index < b.index) :
      (Timestamp.ofMinute a now.offset?).utcTicks <
        (Timestamp.ofMinute b now.offset?).utcTicks := by
    rw [Timestamp.utcTicks_ofMinute, Timestamp.utcTicks_ofMinute]
    unfold microsPerMinute
    omega
  refine ⟨⟨?_, ?_, ?_⟩, ?_⟩
  · rw [runs, List.pairwise_map]
    have ascends := (fields.map Reading.values).pairwise_dueAfter now.minute horizon
    exact (ascends.sublist (List.take_sublist _ _)).imp fun {a b} before => order a b before
  · rw [runs, reference, List.forall_mem_map]
    intro m listed
    have later := (Fields.mem_dueAfter.mp (List.mem_of_mem_take listed)).1.1
    exact order now.minute m later
  · rw [runs, reference, List.forall_mem_map]
    exact fun m _ => ⟨rfl, rfl⟩
  · rw [runs, List.length_map, List.length_take]
    exact Nat.min_le_left _ _

/-- A report is of exactly one shape, and its validity, its description and its runs go with the
shape. Its runs ascend from its reference, the minute of `now`, and are no more than were asked for.
Where there are fields, they are those of the words of the expression. -/
theorem atTime_shape (answered : atTime expression count now = .ok report) :
    (∃! shape, report.Has shape) ∧
      (report.isValid = true ↔ report.Has .scheduled) ∧
      (report.description = invalidDescription ↔ ¬ report.Has .scheduled) ∧
      (¬ report.Has .scheduled → report.runs = []) ∧
      report.Ascending ∧ (report.runs.length : Int) ≤ max count 0 ∧
      report.reference = now.truncate ∧
      (¬ report.Has .misshapen → report.Fielded expression) := by
  obtain ⟨reference, cases⟩ := cases_of_atTime answered
  have shaped : ∃ shape, report.Made shape ∧ (shape ≠ .misshapen → report.Fielded expression) ∧
      report.Ascending ∧ report.runs.length ≤ count.toNat := by
    rcases cases with ⟨why, outcome⟩ | ⟨fields, read, found⟩
    · have made := made_misshapen outcome
      have none := made.runs (by decide)
      exact ⟨_, made, fun other => absurd rfl other, ascending_of_empty none, by simp [none]⟩
    rcases cases_of_ofFields found with ⟨why, leftmost, outcome⟩ |
      ⟨unrefused, runs, sentence, composed, outcome⟩
    · have made := made_refused leftmost outcome
      have none := made.runs (by decide)
      have fielded := fielded_of_read read (by rw [Report.fields, outcome])
      exact ⟨_, made, fun _ => fielded, ascending_of_empty none, by simp [none]⟩
    · have valid := firstRefusal?_eq_none.mp unrefused
      have fielded := fielded_of_read read (by rw [Report.fields, outcome])
      exact ⟨_, made_scheduled valid composed outcome, fun _ => fielded,
        ascending_of_read read valid answered reference⟩
  obtain ⟨shape, made, fielded, ascending, few⟩ := shaped
  have scheduled : report.Has .scheduled ↔ shape = .scheduled := made.has_iff.trans eq_comm
  have misshapen : report.Has .misshapen ↔ shape = .misshapen := made.has_iff.trans eq_comm
  refine ⟨⟨shape, made.has, fun s has => made.has_iff.mp has⟩, ?_, ?_, ?_, ascending, ?_,
    reference, ?_⟩
  · rw [scheduled]
    exact made.isValid
  · rw [scheduled]
    exact made.description
  · rw [scheduled]
    exact made.runs
  · omega
  · rw [misshapen]
    exact fielded

theorem atTime_shape_lastMinutes :
    let now : Timestamp :=
      ⟨⟨⟨Date.dayNumber ⟨2024, 1, 15⟩ * minutesPerDay + 630, by decide⟩, 30000000, by decide⟩, none⟩
    ∃ report, atTime "58,59 23 31 12 *" 5 now = .ok report ∧ (∃! shape, report.Has shape) ∧
      report.Has .scheduled ∧ (report.runs.length : Int) ≤ 5 ∧
      report.Fielded "58,59 23 31 12 *" := by
  intro now
  have year : now.minute.index + horizon < minuteCount := by decide
  obtain ⟨description, answer⟩ := atTime_eq_ite read_lastMinutes valid_lastMinutes now
  have answered := answer 5
  rw [if_pos ⟨by decide, Or.inl year⟩] at answered
  obtain ⟨shape, valid, _, _, _, few, _, fielded⟩ := atTime_shape answered
  have scheduled := valid.mp rfl
  refine ⟨_, answered, shape, scheduled, few, fielded fun misshapen => ?_⟩
  exact absurd (shape_unique scheduled misshapen) (by decide)

end Report

end Crontab
