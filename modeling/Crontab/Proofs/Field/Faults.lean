import Crontab.Field.Reading
import Crontab.Proofs.Field.Expansion

/-!
# Where expansion fails

Expanding a field fails where it comes upon an overlong numeral, and for no other reason.
`OverlongWhen` says this of an evaluation, and is put together as the evaluation is.
-/

namespace Crontab

open Text

/-- An evaluation fails where `p` holds and nowhere else, by a numeral with too many digits. -/
structure OverlongWhen {α : Type} (x : Evaluation α) (p : Prop) : Prop where
  cause : ∀ fault, x = .error (.fault fault) → p ∧ ∃ n, digitLimit < n ∧ fault = .tooManyDigits n
  fails : p → ∃ fault, x = .error (.fault fault)

namespace OverlongWhen

variable {α β : Type} {x : Evaluation α} {f : α → Evaluation β} {p r : Prop} {q : α → Prop}

theorem congr (same : p ↔ r) (first : OverlongWhen x p) : OverlongWhen x r where
  cause fault failed := (first.cause fault failed).imp_left same.mp
  fails holds := first.fails (same.mpr holds)

theorem never (answers : ∀ fault, x ≠ .error (.fault fault)) : OverlongWhen x False where
  cause fault failed := absurd failed (answers fault)
  fails := False.elim

theorem bind (first : OverlongWhen x p) (rest : ∀ a, x = .ok a → OverlongWhen (f a) (q a)) :
    OverlongWhen (x >>= f) (p ∨ ∃ a, x = .ok a ∧ q a) where
  cause fault failed := by
    rcases bind_eq_error.mp failed with failed | ⟨a, answered, failed⟩
    · exact (first.cause fault failed).imp_left Or.inl
    · exact ((rest a answered).cause fault failed).imp_left fun holds =>
        Or.inr ⟨a, answered, holds⟩
  fails holds := by
    rcases holds with holds | ⟨a, answered, holds⟩
    · obtain ⟨fault, failed⟩ := first.fails holds
      exact ⟨fault, bind_eq_error.mpr (Or.inl failed)⟩
    · obtain ⟨fault, failed⟩ := (rest a answered).fails holds
      exact ⟨fault, bind_eq_error.mpr (Or.inr ⟨a, answered, failed⟩)⟩

/-- What follows a first step does not fail. -/
theorem last (first : OverlongWhen x p)
    (answers : ∀ a, x = .ok a → ∀ fault, f a ≠ .error (.fault fault)) :
    OverlongWhen (x >>= f) p := by
  apply (first.bind fun a answered => never (answers a answered)).congr
  simp

/-- The first step answers unless it fails. -/
theorem andThen {y : Except Fault α} (first : OverlongWhen (orFault y) p)
    (rest : ∀ a, y = .ok a → OverlongWhen (f a) r) : OverlongWhen (orFault y >>= f) (p ∨ r) := by
  apply (first.bind fun a answered => rest a (orFault_eq_ok.mp answered)).congr
  apply or_congr_right'
  intro holds
  cases y with
  | ok a => simp [orFault]
  | error fault => exact absurd (first.cause fault rfl).1 holds

end OverlongWhen

/-! ## Parts -/

theorem overlongWhen_readNumeral (cs : List Char) :
    OverlongWhen (orFault (readNumeral cs)) (Overlong cs) where
  cause fault failed := by
    obtain ⟨long, named⟩ := readNumeral_eq_error.mp (orFault_eq_fault.mp failed)
    exact ⟨long, cs.length, long.long, named⟩
  fails long := ⟨_, orFault_eq_fault.mpr (readNumeral_eq_error.mpr ⟨long, rfl⟩)⟩

namespace Domain

variable {d : Domain}

theorem overlongWhen_resolve (wellformed : d.Wellformed) (cs : List Char) :
    OverlongWhen (orFault (d.resolve cs)) (Overlong (trim cs)) where
  cause fault failed := by
    obtain ⟨long, named⟩ := (resolve_eq_error wellformed).mp (orFault_eq_fault.mp failed)
    exact ⟨long, (trim cs).length, long.long, named⟩
  fails long := ⟨_, orFault_eq_fault.mpr ((resolve_eq_error wellformed).mpr ⟨long, rfl⟩)⟩

theorem overlongWhen_interval (wellformed : d.Wellformed) (start stop : List Char) :
    OverlongWhen (d.interval start stop) (Overlong (trim start) ∨ Overlong (trim stop)) := by
  apply (overlongWhen_resolve wellformed start).andThen
  intro first readStart
  apply (overlongWhen_resolve wellformed stop).last
  -- once both ends are read, a range is read or refused
  intro last readStop fault failed
  split at failed
  · next a b =>
    have shortA := short_of_resolve wellformed readStart
    have shortB := short_of_resolve wellformed (orFault_eq_ok.mp readStop)
    split at failed
    · exact (refuse_eq_fault.mp failed).1 (writable_reversed shortA shortB)
    · simp only [bind_eq_error, bounded_ne_fault wellformed shortA,
        bounded_ne_fault wellformed shortB, false_or] at failed
      obtain ⟨_, _, _, _, failed⟩ := failed
      cases failed
  · exact (refuse_eq_fault.mp failed).1 (List.forall_mem_nil _)

/-- A text that stands for one value is read or refused once its numeral is read. -/
theorem overlongWhen_resolved {α : Type} {f : Int → α} {why : Refusal}
    (wellformed : d.Wellformed) (text : List Char)
    (writable : ∀ v ∈ why.numbers, isWritable v = true) :
    OverlongWhen (do
      match ← orFault (d.resolve text) with
      | some a => return f (← d.bounded a)
      | none => refuse why) (Overlong (trim text)) := by
  apply (overlongWhen_resolve wellformed text).last
  intro v? read fault failed
  split at failed
  · next a =>
    have short := short_of_resolve wellformed (orFault_eq_ok.mp read)
    simp only [bind_eq_error, bounded_ne_fault wellformed short, false_or] at failed
    obtain ⟨_, _, failed⟩ := failed
    cases failed
  · exact (refuse_eq_fault.mp failed).1 writable

theorem overlongWhen_span (wellformed : d.Wellformed) (text : List Char) :
    OverlongWhen (d.span text) (OverlongSpan text) := by
  rw [span]
  split
  · next all =>
    subst all
    apply (OverlongWhen.never fun fault failed => ?_).congr
    · simp [not_overlongSpan_star]
    · cases failed
  · split
    · next start stop found =>
      obtain ⟨rfl, absent⟩ := cut_eq_some found
      exact (overlongWhen_interval wellformed start stop).congr (overlongSpan_dash absent).symm
    · next uncut =>
      apply OverlongWhen.congr (overlongSpan_plain (cut_eq_none.mp uncut)).symm
      exact overlongWhen_resolved wellformed text (List.forall_mem_nil _)

end Domain

namespace Part

variable {d : Domain}

theorem Forms.overlongWhen_expand (wellformed : d.Wellformed) {text : List Char} {part : Part}
    (forms : Forms text part) : OverlongWhen (part.expand d) (OverlongPart text) := by
  cases forms with
  | wildcard =>
    have plain := overlongPart_plain (show '/' ∉ star by decide)
    apply (OverlongWhen.never fun fault failed => ?_).congr
    · simp [plain, not_overlongSpan_star]
    · cases failed
  | @step span stride absent =>
    refine ((overlongWhen_readNumeral stride).bind
      (q := fun number => (∃ n, number = some (n + 1)) ∧ OverlongSpan span) ?_).congr ?_
    · intro number _
      split
      · next n =>
        apply ((Domain.overlongWhen_span wellformed span).last _).congr
        · simp
        · intro ends _ fault failed
          cases failed
      · next other =>
        apply (OverlongWhen.never fun fault failed => ?_).congr
        · simp only [false_iff, not_and]
          intro usable
          obtain ⟨n, equal⟩ := usable
          exact absurd equal (other n)
        · exact (refuse_eq_fault.mp failed).1 (List.forall_mem_nil _)
    · rw [overlongPart_step absent]
      apply or_congr_right'
      intro short
      constructor
      · intro given
        obtain ⟨_, read, ⟨n, rfl⟩, long⟩ := given
        obtain ⟨⟨numeral, _⟩, equal⟩ := readNumeral_eq_some.mp (orFault_eq_ok.mp read)
        exact ⟨numeral, by omega, long⟩
      · intro given
        obtain ⟨numeral, positive, long⟩ := given
        have read := readNumeral_eq_some.mpr ⟨⟨numeral, short⟩, rfl⟩
        obtain ⟨n, equal⟩ := Nat.exists_eq_add_of_lt positive
        exact ⟨_, orFault_eq_ok.mpr read, ⟨n, by rw [equal, Nat.zero_add]⟩, long⟩
  | @range start stop noSlash absent =>
    apply OverlongWhen.congr ((overlongPart_plain noSlash).trans (overlongSpan_dash absent)).symm
    apply (Domain.overlongWhen_interval wellformed start stop).last
    intro ends _ fault failed
    cases failed
  | single other noSlash noDash =>
    apply OverlongWhen.congr ((overlongPart_plain noSlash).trans (overlongSpan_plain noDash)).symm
    exact Domain.overlongWhen_resolved wellformed text (List.forall_mem_nil _)

theorem overlongWhen_expand (wellformed : d.Wellformed) (cs : List Char) :
    OverlongWhen ((ofText cs).expand d) (OverlongPart (trim cs)) :=
  (forms_ofText cs).overlongWhen_expand wellformed

end Part

/-! ## All parts -/

/-- Expanding a field fails by the first part that is not expanded, if that comes upon an overlong
numeral. -/
theorem overlongWhen_expandAll {d : Domain} (wellformed : d.Wellformed) (text : String) :
    OverlongWhen (expandAll d text.toList) (d.MeetsOverlong text) := by
  rw [expandAll, pieces_eq_splitOn]
  apply OverlongWhen.last
  · constructor
    · intro fault failed
      obtain ⟨before, piece, after, split, answered, failed⟩ := mapM_eq_error.mp failed
      obtain ⟨long, named⟩ := (Part.overlongWhen_expand wellformed piece).cause fault failed
      refine ⟨⟨before, piece, after, split, fun earlier member => ?_, long⟩, named⟩
      obtain ⟨part, answer⟩ := answered earlier member
      obtain ⟨⟨stretch, written, _⟩, short⟩ := (Part.expand_eq_ok wellformed).mp answer
      exact ⟨⟨stretch, written⟩, short⟩
    · intro ⟨before, piece, after, split, earlier, long⟩
      obtain ⟨fault, failed⟩ := (Part.overlongWhen_expand wellformed piece).fails long
      refine ⟨fault, mapM_eq_error.mpr ⟨before, piece, after, split, ?_, failed⟩⟩
      intro other member
      obtain ⟨⟨stretch, written⟩, short⟩ := earlier other member
      exact ⟨stretch.list, (Part.expand_eq_ok wellformed).mpr ⟨⟨stretch, written, rfl⟩, short⟩⟩
  · intro parts _ fault failed
    cases failed

end Crontab
