import Crontab.Proofs.Field.Faults
import Crontab.Proofs.Prose.Description

/-!
# Reading a field by its grammar

A field is valid exactly where its text follows the grammar, and then its values are those that the
text denotes. Reading fails only by an overlong numeral.
-/

namespace Crontab

open Text

-- what a text reads as is decided by evaluation
deriving instance DecidableEq for Reading

/-! ## All parts -/

section Parts

variable {d : Domain} {text : String} {values : List Int} {why : Refusal} {fault : Fault}

theorem expandAll_eq_ok : expandAll d text.toList = .ok values ↔
    ∃ parts, (text.toList.splitOn ',').mapM (fun piece => (Part.ofText piece).expand d) =
      .ok parts ∧ parts.flatten = values := by
  rw [expandAll, pieces_eq_splitOn, bind_eq_ok]
  simp [pure, Except.pure]

theorem expandAll_eq_error {stop : Stop Refusal} : expandAll d text.toList = .error stop ↔
    (text.toList.splitOn ',').mapM (fun piece => (Part.ofText piece).expand d) = .error stop := by
  rw [expandAll, pieces_eq_splitOn, bind_eq_error]
  simp [pure, Except.pure]

theorem accepts_of_expandAll (wellformed : d.Wellformed)
    (expanded : expandAll d text.toList = .ok values) : d.Accepts text := by
  intro piece member
  obtain ⟨parts, answered, _⟩ := expandAll_eq_ok.mp expanded
  obtain ⟨part, answer⟩ := exists_mapM_eq_ok.mp ⟨parts, answered⟩ piece member
  obtain ⟨⟨stretch, written, _⟩, _⟩ := (Part.expand_eq_ok wellformed).mp answer
  exact ⟨stretch, written⟩

theorem not_accepts_of_refused (wellformed : d.Wellformed)
    (refused : expandAll d text.toList = .error (.refused why)) : ¬ d.Accepts text := by
  intro accepts
  obtain ⟨before, piece, after, split, _, answer⟩ :=
    mapM_eq_error.mp (expandAll_eq_error.mp refused)
  obtain ⟨stretch, written⟩ := accepts piece (by simp [split])
  by_cases long : OverlongPart (trim piece)
  · obtain ⟨fault, failed⟩ := (Part.overlongWhen_expand wellformed piece).fails long
    rw [failed] at answer
    cases answer
  · rw [(Part.expand_eq_ok wellformed).mpr ⟨⟨stretch, written, rfl⟩, long⟩] at answer
    cases answer

/-- The values of all parts are those that the text denotes. -/
theorem mem_of_expandAll (wellformed : d.Wellformed)
    (expanded : expandAll d text.toList = .ok values) (v : Int) :
    v ∈ values ↔ d.Denotes text v := by
  obtain ⟨parts, answered, rfl⟩ := expandAll_eq_ok.mp expanded
  rw [mem_flatten_of_mapM answered]
  constructor
  · intro ⟨piece, member, part, answer, inside⟩
    obtain ⟨⟨stretch, written, rfl⟩, _⟩ := (Part.expand_eq_ok wellformed).mp answer
    exact ⟨piece, member, stretch, written, (Stretch.mem_list written.stride_pos).mp inside⟩
  · intro ⟨piece, member, stretch, written, inside⟩
    obtain ⟨part, answer⟩ := exists_mapM_eq_ok.mp ⟨parts, answered⟩ piece member
    have short := ((Part.expand_eq_ok wellformed).mp answer).2
    have same := (Part.expand_eq_ok wellformed).mpr ⟨⟨stretch, written, rfl⟩, short⟩
    exact ⟨piece, member, stretch.list, same, (Stretch.mem_list written.stride_pos).mpr inside⟩

end Parts

/-! ## Whole fields -/

theorem Domain.admitted_of_mem {d : Domain} (member : d ∈ ofFields.toList) :
    d.admitted indexLimit = .ok () := by
  simp only [ofFields, Fields.toList, List.mem_cons, List.not_mem_nil, or_false] at member
  rcases member with rfl | rfl | rfl | rfl | rfl <;> rfl

namespace Reading

variable {d : Domain} {text : String} {r : Reading} {values : List Int} {why : Refusal}
  {fault : Fault} {room : Nat}

/-! On a domain that is admitted it is decided by the expansion of its parts what becomes of a
field. -/

theorem ofTextWithin_eq_describe (admitted : d.admitted room = .ok ())
    (expanded : expandAll d text.toList = .ok values) :
    ofTextWithin room d text =
      (Clause.describe d { text, values := ascending values }).map fun description =>
        { domain := d, text, verdict := .ok (ascending values), description } := by
  rw [ofTextWithin, admitted, expanded]
  show (Clause.describe d { text, values := ascending values } >>= fun _ => _) = _
  cases Clause.describe d { text, values := ascending values } <;> rfl

theorem ofTextWithin_eq_refused (admitted : d.admitted room = .ok ())
    (refused : expandAll d text.toList = .error (.refused why)) :
    ofTextWithin room d text =
      .ok { domain := d, text, verdict := .error why, description := "invalid" } := by
  rw [ofTextWithin, admitted, refused]
  rfl

theorem ofTextWithin_eq_fault (admitted : d.admitted room = .ok ())
    (failed : expandAll d text.toList = .error (.fault fault)) :
    ofTextWithin room d text = .error fault := by
  rw [ofTextWithin, admitted, failed]
  rfl

/-! The domains of the five fields are admitted. -/

theorem ofText_of_expanded (member : d ∈ Domain.ofFields.toList)
    (expanded : expandAll d text.toList = .ok values) :
    ∃ description, ofText d text =
      .ok { domain := d, text, verdict := .ok (ascending values), description } := by
  have wellformed := Domain.wellformed_of_mem member
  let plain : Reading := { domain := d, text, verdict := .ok (ascending values), description := "" }
  have inside : ∀ v ∈ plain.clause.values, v ∈ d := by
    intro v listed
    obtain ⟨_, _, stretch, written, inside⟩ :=
      (mem_of_expandAll wellformed expanded v).mp (mem_ascending.mp listed)
    exact written.mem_domain inside
  have writable : ∀ v ∈ plain.clause.values, isWritable v = true := fun v listed =>
    isWritable_of_short (wellformed.short (inside v listed))
  have readable : ∀ fault, everyStride? text ≠ .error fault := by
    intro fault failed
    have meets : d.MeetsOverlong text := meetsOverlong_of_everyStride failed
    obtain ⟨fault', failed'⟩ := (overlongWhen_expandAll wellformed text).fails meets
    rw [expanded] at failed'
    cases failed'
  obtain ⟨description, described⟩ := Clause.exists_describe inside writable readable
  refine ⟨description, ?_⟩
  rw [ofText, ofTextWithin_eq_describe (Domain.admitted_of_mem member) expanded,
    show Clause.describe d { text, values := ascending values } = _ from described]
  rfl

theorem ofText_of_refused (member : d ∈ Domain.ofFields.toList)
    (refused : expandAll d text.toList = .error (.refused why)) :
    ofText d text = .ok { domain := d, text, verdict := .error why, description := "invalid" } :=
  ofTextWithin_eq_refused (Domain.admitted_of_mem member) refused

theorem ofText_of_fault (member : d ∈ Domain.ofFields.toList)
    (failed : expandAll d text.toList = .error (.fault fault)) : ofText d text = .error fault :=
  ofTextWithin_eq_fault (Domain.admitted_of_mem member) failed

theorem exists_refused (member : d ∈ Domain.ofFields.toList) (read : ofText d text = .ok r)
    (invalid : ¬ r.isValid = true) : ∃ why, expandAll d text.toList = .error (.refused why) ∧
      r = { domain := d, text, verdict := .error why, description := "invalid" } := by
  cases expanded : expandAll d text.toList with
  | ok values =>
    obtain ⟨description, read'⟩ := ofText_of_expanded member expanded
    rw [read'] at read
    cases read
    exact absurd rfl invalid
  | error stop =>
    cases stop with
    | refused why =>
      rw [ofText_of_refused member expanded] at read
      exact ⟨why, rfl, (Except.ok.inj read).symm⟩
    | fault fault =>
      rw [ofText_of_fault member expanded] at read
      cases read

/-- Reading a field fails where it comes upon an overlong numeral, and only there. -/
theorem exists_ofText_iff (member : d ∈ Domain.ofFields.toList) :
    (∃ r, ofText d text = .ok r) ↔ ¬ d.MeetsOverlong text := by
  have wellformed := Domain.wellformed_of_mem member
  constructor
  · intro ⟨r, read⟩ meets
    obtain ⟨fault, failed⟩ := (overlongWhen_expandAll wellformed text).fails meets
    rw [ofText_of_fault member failed] at read
    cases read
  · intro short
    cases expanded : expandAll d text.toList with
    | ok values =>
      obtain ⟨description, read⟩ := ofText_of_expanded member expanded
      exact ⟨_, read⟩
    | error stop =>
      cases stop with
      | refused why => exact ⟨_, ofText_of_refused member expanded⟩
      | fault fault =>
        have meets := ((overlongWhen_expandAll wellformed text).cause fault expanded).1
        exact absurd meets short

theorem overlong_of_ofText (member : d ∈ Domain.ofFields.toList)
    (failed : ofText d text = .error fault) :
    d.MeetsOverlong text ∧ ∃ n, digitLimit < n ∧ fault = .tooManyDigits n := by
  cases expanded : expandAll d text.toList with
  | ok values =>
    obtain ⟨description, read⟩ := ofText_of_expanded member expanded
    rw [read] at failed
    cases failed
  | error stop =>
    cases stop with
    | refused why =>
      rw [ofText_of_refused member expanded] at failed
      cases failed
    | fault fault' =>
      rw [ofText_of_fault member expanded] at failed
      cases failed
      exact (overlongWhen_expandAll (Domain.wellformed_of_mem member) text).cause _ expanded

/-- A reading is of the domain and the text that were given. It is valid where the text follows the
grammar, and then it lists the values that the text denotes. -/
theorem ofText_eq_ok (member : d ∈ Domain.ofFields.toList) (read : ofText d text = .ok r) :
    r.domain = d ∧ r.text = text ∧ (r.isValid = true ↔ d.Accepts text) ∧
      (r.isValid = true →
        r.values.Pairwise (· < ·) ∧ ∀ v, v ∈ r.values ↔ d.Denotes text v) := by
  have wellformed := Domain.wellformed_of_mem member
  cases expanded : expandAll d text.toList with
  | ok values =>
    obtain ⟨description, read'⟩ := ofText_of_expanded member expanded
    rw [read'] at read
    cases read
    have accepts := accepts_of_expandAll wellformed expanded
    refine ⟨rfl, rfl, ⟨fun _ => accepts, fun _ => rfl⟩, fun _ => ⟨ascending_pairwise values, ?_⟩⟩
    intro v
    rw [← mem_of_expandAll wellformed expanded]
    exact mem_ascending
  | error stop =>
    cases stop with
    | refused why =>
      rw [ofText_of_refused member expanded] at read
      cases read
      have rejects := not_accepts_of_refused wellformed expanded
      refine ⟨rfl, rfl, ⟨fun valid => ?_, fun accepts => absurd accepts rejects⟩, fun valid => ?_⟩
      · cases valid
      · cases valid
    | fault fault =>
      rw [ofText_of_fault member expanded] at read
      cases read

/-- A valid field holds values of its domain only. -/
theorem mem_domain_of_valid (member : d ∈ Domain.ofFields.toList) (read : ofText d text = .ok r)
    (valid : r.isValid = true) : ∀ v ∈ r.values, v ∈ d := by
  intro v listed
  obtain ⟨_, _, _, values⟩ := ofText_eq_ok member read
  obtain ⟨_, _, stretch, written, inside⟩ := ((values valid).2 v).mp listed
  exact written.mem_domain inside

/-- A field is read unless the reading comes upon a numeral with too many digits, the only fault
there is. It is valid exactly where every part of its text follows the grammar, and then its values
are, in ascending order, those that the parts denote. -/
theorem ofText_correct {d : Domain} (member : d ∈ Domain.ofFields.toList) (text : String) :
    ((∃ r, ofText d text = .ok r) ↔ ¬ d.MeetsOverlong text) ∧
      (∀ fault, ofText d text = .error fault → ∃ n, digitLimit < n ∧ fault = .tooManyDigits n) ∧
      ∀ r, ofText d text = .ok r →
        (r.isValid = true ↔ d.Accepts text) ∧
          (r.isValid = true →
            r.values.Pairwise (· < ·) ∧ ∀ v, v ∈ r.values ↔ d.Denotes text v) := by
  refine ⟨exists_ofText_iff member, fun fault failed => ?_, fun r read => ?_⟩
  · exact (overlong_of_ofText member failed).2
  · obtain ⟨_, _, valid, values⟩ := ofText_eq_ok member read
    exact ⟨valid, values⟩

theorem ofText_correct_steps :
    Domain.minute.Accepts "0-20/10, 057" ∧
      ∀ v, v ∈ ([0, 10, 20, 57] : List Int) ↔ Domain.minute.Denotes "0-20/10, 057" v := by
  let r : Reading :=
    { domain := .minute, text := "0-20/10, 057", verdict := .ok [0, 10, 20, 57],
      description := "0, 10, 20, 57" }
  have read : ofText .minute "0-20/10, 057" = .ok r := by decide +kernel
  obtain ⟨valid, values⟩ := (ofText_correct (by decide) "0-20/10, 057").2.2 r read
  exact ⟨valid.mp rfl, (values rfl).2⟩

end Reading

end Crontab
