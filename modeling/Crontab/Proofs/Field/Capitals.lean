import Crontab.Field.Reading
import Crontab.Proofs.Text.Capitals

/-!
# Fields in capital letters

Reading a field does not look at the case of its letters: a field in capitals is read as the field
is, up to the texts that are echoed or quoted. One lemma for each step of the reading carries the
capitals through it, `Reading.ofText_raised` through the whole.
-/

namespace Crontab

open Text

variable {α β : Type} {d : Domain} {cs start stop : List Char} {text : String}

/-! ## Refusals -/

/-- The refusal with the text that it quotes in capitals. -/
def Refusal.raised : Refusal → Refusal
  | .badStep text => .badStep text.toUpper
  | .badRange text => .badRange text.toUpper
  | .badValue text => .badValue text.toUpper
  | why => why

@[simp]
theorem Refusal.kind_raised (why : Refusal) : why.raised.kind = why.kind := by
  cases why <;> rfl

/-- An evaluation with the text that its refusal quotes in capitals. -/
def Evaluation.raised : Evaluation α → Evaluation α
  | .error (.refused why) => .error (.refused why.raised)
  | other => other

namespace Evaluation

theorem raised_bind (x : Evaluation α) (f : α → Evaluation β) :
    raised (x >>= f) = x.raised >>= fun a => raised (f a) := by
  cases x with
  | ok a => rfl
  | error stop => cases stop <;> rfl

theorem raised_orFault (x : Except Fault α) : raised (orFault x) = orFault x := by
  cases x <;> rfl

theorem raised_refuse (why : Refusal) :
    raised (refuse why : Evaluation α) = refuse why.raised := by
  have numbers : why.raised.numbers = why.numbers := by cases why <;> rfl
  rw [refuse, refuse, numbers, raised_bind, raised_orFault]
  rfl

theorem raised_mapM (f : α → Evaluation β) (l : List α) :
    raised (l.mapM f) = l.mapM fun a => raised (f a) := by
  induction l with
  | nil => rfl
  | cons a l ih =>
    rw [List.mapM_cons, List.mapM_cons, raised_bind]
    congr 1
    funext b
    rw [raised_bind, ih]
    rfl

end Evaluation

/-! ## Parts -/

namespace Domain

theorem resolve_raised : d.resolve (cs.map Char.toUpper) = d.resolve cs := by
  rw [resolve, resolve, trim_raised, named?, named?, upper_map_toUpper, readNumeral_raised]

theorem raised_bounded (v : Int) : (d.bounded v).raised = d.bounded v := by
  rw [bounded]
  split
  · rfl
  · exact Evaluation.raised_refuse _

theorem interval_raised :
    d.interval (start.map Char.toUpper) (stop.map Char.toUpper) =
      (d.interval start stop).raised := by
  rw [interval, interval, resolve_raised, resolve_raised, Evaluation.raised_bind,
    Evaluation.raised_orFault]
  congr 1
  funext first
  rw [Evaluation.raised_bind, Evaluation.raised_orFault]
  congr 1
  funext last
  have quoted : String.ofList (start.map Char.toUpper ++ '-' :: stop.map Char.toUpper) =
      (String.ofList (start ++ '-' :: stop)).toUpper := by
    rw [← ofList_raised, List.map_append]
    rfl
  split
  · split
    · exact (Evaluation.raised_refuse (.reversed _ _)).symm
    · simp only [Evaluation.raised_bind, raised_bounded]
      rfl
  · rw [quoted]
    rfl

theorem star_raised : cs.map Char.toUpper = Part.star ↔ cs = Part.star :=
  map_toUpper_eq_mark (by decide)

theorem span_raised : d.span (cs.map Char.toUpper) = (d.span cs).raised := by
  rw [span, span, cut_raised cs (by decide)]
  by_cases all : cs = Part.star
  · rw [if_pos all, if_pos (star_raised.mpr all)]
    rfl
  rw [if_neg all, if_neg (mt star_raised.mp all)]
  cases cut '-' cs with
  | some parts => exact interval_raised
  | none =>
    simp only [Option.map_none, resolve_raised, ofList_raised, Evaluation.raised_bind,
      Evaluation.raised_orFault]
    congr 1
    funext first
    split
    · rw [Evaluation.raised_bind, raised_bounded]
      rfl
    · rfl

end Domain

namespace Part

/-- The part with its texts in capitals. -/
def raised : Part → Part
  | .wildcard => .wildcard
  | .step span stride => .step (span.map Char.toUpper) (stride.map Char.toUpper)
  | .range start stop => .range (start.map Char.toUpper) (stop.map Char.toUpper)
  | .single value => .single (value.map Char.toUpper)

theorem ofText_raised (cs : List Char) : ofText (cs.map Char.toUpper) = (ofText cs).raised := by
  simp only [ofText, trim_raised]
  by_cases all : trim cs = star
  · rw [if_pos all, if_pos (Domain.star_raised.mpr all)]
    rfl
  rw [if_neg all, if_neg (mt Domain.star_raised.mp all), cut_raised _ (by decide),
    cut_raised _ (by decide)]
  cases cut '/' (trim cs) with
  | some parts => rfl
  | none => cases cut '-' (trim cs) <;> rfl

theorem expand_raised (part : Part) : part.raised.expand d = (part.expand d).raised := by
  cases part with
  | wildcard => rfl
  | step span stride =>
    simp only [raised, expand, readNumeral_raised, Domain.span_raised, ofList_raised,
      Evaluation.raised_bind, Evaluation.raised_orFault]
    congr 1
    funext number
    split
    · rw [Evaluation.raised_bind]
      rfl
    · rfl
  | range start stop =>
    simp only [raised, expand, Domain.interval_raised, Evaluation.raised_bind]
    rfl
  | single value =>
    simp only [raised, expand, Domain.resolve_raised, ofList_raised, Evaluation.raised_bind,
      Evaluation.raised_orFault]
    congr 1
    funext found
    split
    · rw [Evaluation.raised_bind, Domain.raised_bounded]
      rfl
    · rfl

end Part

theorem expandAll_raised (cs : List Char) :
    expandAll d (cs.map Char.toUpper) = (expandAll d cs).raised := by
  rw [expandAll, expandAll, pieces_raised cs (by decide), List.mapM_map, Evaluation.raised_bind,
    Evaluation.raised_mapM]
  congr 2
  funext piece
  show (Part.ofText (piece.map Char.toUpper)).expand d = _
  rw [Part.ofText_raised, Part.expand_raised]

/-! ## Descriptions -/

theorem everyStride?_raised (text : String) : everyStride? text.toUpper = everyStride? text := by
  have star : '*'.toUpper = '*' := rfl
  have slash : '/'.toUpper = '/' := rfl
  rw [everyStride?, everyStride?, toList_toUpper]
  generalize text.toList = cs
  split
  · next stride form =>
    -- the two marks in front are there before they are raised
    obtain ⟨c, cs, rfl, first, form⟩ := List.map_eq_cons_iff.mp form
    obtain ⟨c', cs, rfl, second, rfl⟩ := List.map_eq_cons_iff.mp form
    rw [(toUpper_eq_iff (by decide)).mp first, (toUpper_eq_iff (by decide)).mp second]
    exact readNumeral_raised cs
  · next other =>
    split
    · next stride => exact absurd rfl (other (stride.map Char.toUpper))
    · rfl

/-- The clause with its text in capitals. -/
def Clause.raised (c : Clause) : Clause := { c with text := c.text.toUpper }

theorem Clause.star_raised (c : Clause) : c.raised.text = "*" ↔ c.text = "*" :=
  toUpper_eq_mark (show "*".toList = ['*'] from rfl) (by decide)

theorem Clause.describe_raised (c : Clause) : c.raised.describe d = c.describe d := by
  have stride : everyStride? c.raised.text = everyStride? c.text := everyStride?_raised c.text
  simp only [describe, fragment, star_raised, stride]
  rfl

/-! ## Readings -/

namespace Reading

/-- The reading with the texts that it echoes and quotes in capitals. -/
def raised (r : Reading) : Reading :=
  { r with text := r.text.toUpper, verdict := r.verdict.mapError Refusal.raised }

@[simp]
theorem isValid_raised (r : Reading) : r.raised.isValid = r.isValid := by
  unfold raised isValid
  cases r.verdict <;> rfl

@[simp]
theorem values_raised (r : Reading) : r.raised.values = r.values := by
  unfold raised values
  cases r.verdict <;> rfl

@[simp]
theorem refusal?_raised (r : Reading) : r.raised.refusal? = r.refusal?.map Refusal.raised := by
  unfold raised refusal?
  cases r.verdict <;> rfl

theorem clause_raised (r : Reading) : r.raised.clause = r.clause.raised := by
  simp only [clause, values_raised, isValid_raised]
  rfl

/-- A field in capitals is read as the field is. -/
theorem ofText_raised (d : Domain) (text : String) :
    ofText d text.toUpper = (ofText d text).map raised := by
  rw [ofText, ofText, ofTextWithin, ofTextWithin, toList_toUpper, expandAll_raised]
  cases d.admitted indexLimit with
  | error fault => rfl
  | ok _ =>
    cases expandAll d text.toList with
    | ok values =>
      let plain : Reading := ⟨d, text, .ok (ascending values), ""⟩
      show (do return { plain.raised with description := ← plain.raised.clause.describe d }) =
        (do return { plain with description := ← plain.clause.describe d } :
          Except Fault Reading).map raised
      rw [clause_raised, Clause.describe_raised]
      cases plain.clause.describe d <;> rfl
    | error stop => cases stop <;> rfl

end Reading

end Crontab
