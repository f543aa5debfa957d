import Crontab.Proofs.Field.Reading
import Crontab.Proofs.Prose.Fragment
import Crontab.Proofs.Schedule.Due

/-!
# What the description of a field tells

The description of a valid field tells of the values that the field holds: `Reading.tells`. Where
its text decides the shape of the description, the text denotes the values of that shape.
-/

namespace Crontab

open Text

variable {d : Domain} {v : Int} {text : String} {n : Nat} {values : List Int} {r : Reading}

/-! ## Values of a domain -/

theorem progression_pairwise {first last : Int} {stride : Nat} (positive : 0 < stride) :
    (progression first last stride).Pairwise (· < ·) := by
  rw [progression, List.pairwise_map]
  refine List.pairwise_lt_range.imp fun {k l} before => ?_
  have := Int.mul_lt_mul_of_pos_right (show (k : Int) < l by omega)
    (show (0 : Int) < stride by omega)
  omega

/-- Ascending values are determined by which they are. -/
theorem eq_of_ascending {values values' : List Int} (ascends : values.Pairwise (· < ·))
    (ascends' : values'.Pairwise (· < ·)) (same : ∀ v, v ∈ values ↔ v ∈ values') :
    values = values' :=
  ascends.eq_of_mem_iff ascends' same

/-- As many values as the domain has are all of them. -/
theorem eq_progression_of_length (ascends : values.Pairwise (· < ·)) (inside : ∀ v ∈ values, v ∈ d)
    (many : values.length = d.size) : values = progression d.lo d.hi 1 := by
  have sorted : ascending values = values :=
    eq_of_ascending (ascending_pairwise values) ascends fun v => mem_ascending
  have complete : ¬ d.LeavesOut values := by
    rw [← Pattern.restricts_iff inside, Pattern.restricts, sorted, decide_eq_true_eq]
    omega
  refine eq_of_ascending ascends (progression_pairwise Nat.one_pos) fun v => ?_
  rw [mem_progression_one]
  constructor
  · exact inside v
  · intro within
    by_contra missing
    exact complete ⟨v, within, missing⟩

/-! ## What texts denote -/

namespace Domain

/-- A text that is a part by itself denotes what the part does. -/
theorem denotes_part (noComma : ',' ∉ text.toList)
    (visible : ∀ c ∈ text.toList, isBlank c = false) :
    d.Denotes text v ↔ ∃ stretch, d.Written text.toList stretch ∧ v ∈ stretch := by
  rw [Denotes, List.splitOn_eq_singleton noComma]
  simp only [List.mem_singleton, exists_eq_left, trim_eq_self visible]

theorem denotes_star (wellformed : d.Wellformed) : d.Denotes "*" v ↔ v ∈ d := by
  have visible : ∀ c ∈ "*".toList, isBlank c = false := by
    intro c member
    rw [List.mem_singleton.mp (show c ∈ Part.star from member)]
    rfl
  rw [denotes_part (by decide) visible]
  show (∃ stretch, d.Written Part.star stretch ∧ _) ↔ _
  simp only [written_star wellformed, exists_eq_left, Stretch.mem_iff, mem_iff]
  simp

theorem denotes_everyNth (wellformed : d.Wellformed) {stride : List Char}
    (form : text.toList = '*' :: '/' :: stride) (numeral : Numeral stride) :
    d.Denotes text v ↔ 0 < value stride ∧ v ∈ progression d.lo d.hi (value stride) := by
  have noComma : ',' ∉ text.toList := by
    rw [form]
    simp [numeral.not_mem (show ','.toNat < 48 by decide)]
  have visible : ∀ c ∈ text.toList, isBlank c = false := by
    rw [form]
    exact List.forall_mem_cons.mpr ⟨rfl, List.forall_mem_cons.mpr ⟨rfl, fun c => numeral.visible⟩⟩
  rw [denotes_part noComma visible, form]
  show (∃ stretch, d.Written (Part.star ++ '/' :: _) stretch ∧ _) ↔ _
  simp only [written_step wellformed (show '/' ∉ Part.star by decide), spans_star wellformed]
  constructor
  · intro given
    obtain ⟨_, ⟨_, _, ⟨rfl, rfl⟩, ⟨_, positive⟩, rfl⟩, inside⟩ := given
    exact ⟨positive, (mem_progression positive).mpr inside⟩
  · intro given
    obtain ⟨positive, inside⟩ := given
    exact ⟨_, ⟨_, _, ⟨rfl, rfl⟩, ⟨numeral, positive⟩, rfl⟩, (mem_progression positive).mp inside⟩

theorem Interval.upwards {cs : List Char} {a b : Int} (interval : d.Interval cs a b) : a ≤ b := by
  cases interval with
  | dash _ _ ordered => exact ordered

theorem Spans.upwards {cs : List Char} {a b : Int} (ordered : d.lo ≤ d.hi)
    (spans : d.Spans cs a b) : a ≤ b := by
  cases spans with
  | all => exact ordered
  | interval interval => exact interval.upwards
  | onward _ inside => exact inside.2

/-- A part denotes at least the value that it starts from. -/
theorem Written.first_mem {cs : List Char} {stretch : Stretch} (ordered : d.lo ≤ d.hi)
    (written : d.Written cs stretch) : stretch.first ∈ stretch := by
  have upwards : stretch.first ≤ stretch.last := by
    cases written with
    | wildcard => exact ordered
    | step spans => exact spans.upwards ordered
    | interval interval => exact interval.upwards
    | single => exact Int.le_refl _
  exact ⟨Int.le_refl _, upwards, by simp⟩

end Domain

/-! ## What valid fields hold -/

namespace Reading

/-- A valid field has a value. -/
theorem values_ne_nil (member : d ∈ Domain.ofFields.toList) (read : ofText d text = .ok r)
    (valid : r.isValid = true) : r.values ≠ [] := by
  have ordered : ∀ d ∈ Domain.ofFields.toList, d.lo ≤ d.hi := by decide
  obtain ⟨_, _, accepts, values⟩ := ofText_eq_ok member read
  obtain ⟨piece, pieces, form⟩ := List.exists_cons_of_ne_nil (List.splitOn_ne_nil ',' text.toList)
  have listed : piece ∈ text.toList.splitOn ',' := form ▸ List.mem_cons_self
  obtain ⟨stretch, written⟩ := accepts.mp valid piece listed
  have denoted : d.Denotes text stretch.first :=
    ⟨piece, listed, stretch, written, written.first_mem (ordered d member)⟩
  exact List.ne_nil_of_mem (((values valid).2 _).mpr denoted)

theorem describe_of_ofText (read : ofText d text = .ok r) :
    r.clause.describe d = .ok r.description := by
  obtain ⟨_, _, rest⟩ := bind_eq_ok.mp read
  cases expanded : expandAll d text.toList with
  | ok values =>
    rw [expanded] at rest
    obtain ⟨_, same, rest⟩ := bind_eq_ok.mp rest
    cases same
    obtain ⟨description, described, equal⟩ := bind_eq_ok.mp rest
    cases equal
    exact described
  | error stop =>
    rw [expanded] at rest
    cases stop with
    | refused why =>
      cases rest
      rfl
    | fault fault => cases rest

theorem values_of_star (member : d ∈ Domain.ofFields.toList) (read : ofText d "*" = .ok r)
    (valid : r.isValid = true) : r.values = progression d.lo d.hi 1 := by
  obtain ⟨_, _, _, values⟩ := ofText_eq_ok member read
  obtain ⟨ascends, denoted⟩ := values valid
  refine eq_of_ascending ascends (progression_pairwise Nat.one_pos) fun v => ?_
  rw [denoted, Domain.denotes_star (Domain.wellformed_of_mem member), mem_progression_one]
  rfl

theorem values_of_everyNth (member : d ∈ Domain.ofFields.toList) (read : ofText d text = .ok r)
    (valid : r.isValid = true) (stride : everyStride? text = .ok (some n)) :
    r.values = progression d.lo d.hi n := by
  obtain ⟨_, _, _, values⟩ := ofText_eq_ok member read
  obtain ⟨ascends, denoted⟩ := values valid
  unfold everyStride? at stride
  split at stride
  · next cs form =>
    obtain ⟨⟨numeral, _⟩, rfl⟩ := readNumeral_eq_some.mp stride
    have wellformed := Domain.wellformed_of_mem member
    have members := fun v => Domain.denotes_everyNth (v := v) wellformed form numeral
    obtain ⟨v, rest, some⟩ := List.exists_cons_of_ne_nil (values_ne_nil member read valid)
    have positive := ((members v).mp ((denoted v).mp (some ▸ List.mem_cons_self))).1
    refine eq_of_ascending ascends (progression_pairwise positive) fun v => ?_
    rw [denoted, members]
    exact and_iff_right positive
  · cases stride

/-- The description of a valid field tells of its values. -/
theorem tells (member : d ∈ Domain.ofFields.toList) (read : ofText d text = .ok r)
    (valid : r.isValid = true) : Tells d (words r.description.toList) r.values := by
  obtain ⟨fragment, chosen, rendered⟩ := bind_eq_ok.mp (describe_of_ofText read)
  obtain ⟨domain, rfl, _, values⟩ := ofText_eq_ok member read
  have inside := mem_domain_of_valid member read valid
  have some := values_ne_nil member read valid
  unfold Clause.fragment at chosen
  split at chosen
  · next unusable =>
    simp [clause, valid, some] at unusable
  · split at chosen
    · next all =>
      have full : r.values = progression d.lo d.hi 1 := by
        rcases all with star | many
        · have star : r.text = "*" := star
          exact values_of_star member (star ▸ read) valid
        · exact eq_progression_of_length (values valid).1 inside many
      rw [Except.ok.inj chosen.symm] at rendered
      rw [Except.ok.inj rendered.symm, words_every, full]
      exact .every
    · obtain ⟨stride, found, chosen⟩ := bind_eq_ok.mp chosen
      cases stride with
      | some n =>
        rw [Except.ok.inj chosen.symm] at rendered
        rw [Except.ok.inj rendered.symm, words_everyNth, values_of_everyNth member read valid found]
        exact .everyNth
      | none =>
        rw [Except.ok.inj chosen.symm] at rendered
        exact tells_ofValues member some inside rendered

end Reading

/-! ## Descriptions by the values alone -/

/-- The text is a step over all values, `*` and `/` and a numeral. -/
def StepsOverAll (text : String) : Prop :=
  ∃ stride, text.toList = '*' :: '/' :: stride ∧ Numeral stride

theorem StepsOverAll.head {text : String} (steps : StepsOverAll text) :
    text.toList.head? = some '*' := by
  obtain ⟨stride, form, _⟩ := steps
  rw [form]
  rfl

theorem everyStride?_eq_none {text : String} (noStep : ¬ StepsOverAll text) :
    everyStride? text = .ok none := by
  unfold everyStride?
  split
  · next stride form => exact readNumeral_eq_none.mpr fun numeral => noStep ⟨stride, form, numeral⟩
  · rfl

/-- The shape that describes values of a domain: all of them, or these by themselves. -/
def Fragment.forValues (d : Domain) (values : List Int) : Fragment :=
  if values.length = d.size then .every else .ofValues values

theorem length_progression_one {d : Domain} (ordered : d.lo ≤ d.hi) :
    ((progression d.lo d.hi 1).length : Int) = d.size := by
  rw [progression, List.length_map, List.length_range, Domain.size]
  simp
  omega

namespace Reading

/-- The shape of a description depends on the values alone, unless the text is a step over all. -/
theorem fragment_eq (member : d ∈ Domain.ofFields.toList) (read : ofText d text = .ok r)
    (valid : r.isValid = true) (noStep : ¬ StepsOverAll text) :
    r.clause.fragment d = .ok (.forValues d r.values) := by
  have ordered : ∀ d ∈ Domain.ofFields.toList, d.lo ≤ d.hi := by decide
  have some := values_ne_nil member read valid
  obtain ⟨_, rfl, _⟩ := ofText_eq_ok member read
  have usable : ¬ (!r.clause.valid || r.clause.values.isEmpty) = true := by
    simp [clause, valid, some]
  rw [Clause.fragment, if_neg usable]
  show (if r.text = "*" ∨ (r.values.length : Int) = d.size then _ else _) = _
  by_cases many : (r.values.length : Int) = d.size
  · rw [if_pos (Or.inr many), Fragment.forValues, if_pos many]
  · have other : ¬ r.text = "*" := by
      intro star
      rw [values_of_star member (star ▸ read) valid] at many
      exact many (length_progression_one (ordered d member))
    have stride : everyStride? r.clause.text = .ok none := everyStride?_eq_none noStep
    rw [if_neg fun given => given.elim other many, stride, Fragment.forValues, if_neg many]
    rfl

variable {text' : String} {r' : Reading}

/-- The same description is of the same values. The same values have the same description, unless
one of the texts is a step over all values. -/
theorem description_iff_values (member : d ∈ Domain.ofFields.toList)
    (read : ofText d text = .ok r) (valid : r.isValid = true)
    (read' : ofText d text' = .ok r') (valid' : r'.isValid = true) :
    (r.description = r'.description → r.values = r'.values) ∧
      (¬ StepsOverAll text → ¬ StepsOverAll text' → r.values = r'.values →
        r.description = r'.description) := by
  constructor
  · intro same
    have told := tells member read valid
    rw [same] at told
    exact told.unique member (tells member read' valid')
  · intro noStep noStep' same
    have described := describe_of_ofText read
    have described' := describe_of_ofText read'
    rw [Clause.describe, fragment_eq member read valid noStep, same] at described
    rw [Clause.describe, fragment_eq member read' valid' noStep'] at described'
    exact Except.ok.inj (described.symm.trans described')

/-- Three months by names in any order, and as a range with a step of one. -/
theorem description_iff_values_spring :
    ∃ r r', ofText .month "may, Mar,APR" = .ok r ∧ ofText .month "3-05/1" = .ok r' ∧
      r.isValid = true ∧ r'.isValid = true ∧ r.values = r'.values ∧
      r.description = r'.description := by
  let r : Reading := ⟨.month, "may, Mar,APR", .ok [3, 4, 5], "March through May"⟩
  let r' : Reading := ⟨.month, "3-05/1", .ok [3, 4, 5], "March through May"⟩
  have read : ofText .month "may, Mar,APR" = .ok r := by decide +kernel
  have read' : ofText .month "3-05/1" = .ok r' := by decide +kernel
  have noStep : ¬ StepsOverAll "may, Mar,APR" := fun steps => absurd steps.head (by decide)
  have noStep' : ¬ StepsOverAll "3-05/1" := fun steps => absurd steps.head (by decide)
  have same := (description_iff_values (by decide) read rfl read' rfl).2 noStep noStep' rfl
  exact ⟨r, r', read, read', rfl, rfl, rfl, same⟩

end Reading

end Crontab
