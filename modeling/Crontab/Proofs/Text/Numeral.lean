import Crontab.Proofs.Text.Decimal
import Crontab.Text.Numeral
import Mathlib.Data.List.Induction
import Mathlib.Data.List.TakeWhile

/-!
# Numerals

Which texts are numerals and what becomes of reading one: `readNumeral_eq_some`,
`readNumeral_eq_none` and `readNumeral_eq_error` between them cover every text.
-/

namespace Crontab.Text

/-- Decimal digits, at least one of them and at most nine after the zeros in front. -/
structure Numeral (cs : List Char) : Prop where
  nonempty : cs ≠ []
  digits : ∀ c ∈ cs, '0' ≤ c ∧ c ≤ '9'
  short : ∃ zeros ds, cs = List.replicate zeros '0' ++ ds ∧ ds.length ≤ 9

/-- A numeral with more digits than are read. -/
structure Overlong (cs : List Char) : Prop extends Numeral cs where
  long : digitLimit < cs.length

theorem isDigit_iff {c : Char} : c.isDigit = true ↔ '0' ≤ c ∧ c ≤ '9' := by
  simp [Char.isDigit, Char.le_def]

theorem isNumeral_iff {cs : List Char} : isNumeral cs = true ↔ Numeral cs := by
  rw [isNumeral, Bool.and_eq_true, Bool.and_eq_true, Bool.not_eq_true', List.isEmpty_eq_false_iff,
    List.all_eq_true, decide_eq_true_eq]
  constructor
  · intro given
    obtain ⟨⟨nonempty, digits⟩, short⟩ := given
    refine ⟨nonempty, fun c member => isDigit_iff.mp (digits c member), ?_⟩
    refine ⟨(cs.takeWhile (· == '0')).length, _, ?_, short⟩
    have zeros : cs.takeWhile (· == '0') =
        List.replicate (cs.takeWhile (· == '0')).length '0' :=
      List.eq_replicate_of_mem fun c member => by simpa using List.mem_takeWhile_imp member
    rw [← zeros, List.takeWhile_append_dropWhile]
  · intro given
    obtain ⟨nonempty, digits, zeros, ds, rfl, short⟩ := given
    refine ⟨⟨nonempty, fun c member => isDigit_iff.mpr (digits c member)⟩, ?_⟩
    rw [List.dropWhile_append_of_pos (by simp)]
    exact Nat.le_trans (List.dropWhile_sublist _).length_le short

instance (cs : List Char) : Decidable (Numeral cs) := decidable_of_iff _ isNumeral_iff

/-! ## Values -/

theorem value_append_digit (cs : List Char) (c : Char) :
    value (cs ++ [c]) = 10 * value cs + digitValue c := by
  rw [value, value, List.foldl_append]
  rfl

theorem value_lt {cs : List Char} (digits : ∀ c ∈ cs, '0' ≤ c ∧ c ≤ '9') :
    value cs < Nat.pow 10 cs.length := by
  induction cs using List.reverseRecOn with
  | nil => decide
  | append_singleton cs c ih =>
    obtain ⟨before, last⟩ := List.forall_mem_append.mp digits
    have nine : c.toNat ≤ 57 := (last c List.mem_cons_self).2
    have digit : digitValue c < 10 := by
      unfold digitValue
      omega
    rw [value_append_digit, List.length_append, List.length_singleton]
    calc 10 * value cs + digitValue c < (value cs + 1) * 10 := by omega
      _ ≤ Nat.pow 10 cs.length * 10 := Nat.mul_le_mul_right 10 (ih before)

theorem value_append_zeros (zeros : Nat) (cs : List Char) :
    value (List.replicate zeros '0' ++ cs) = value cs := by
  induction zeros with
  | zero => rfl
  | succ zeros ih => exact ih

/-- A numeral stands for a number of at most nine digits. -/
theorem Numeral.short_value {cs : List Char} (numeral : Numeral cs) : Short (value cs) := by
  obtain ⟨zeros, ds, rfl, few⟩ := numeral.short
  have small := value_lt fun c member => numeral.digits c (List.mem_append_right _ member)
  rw [value_append_zeros]
  exact Nat.lt_of_lt_of_le small (Nat.pow_le_pow_right (by decide) few)

/-! ## Reading -/

variable {cs : List Char} {n : Nat} {fault : Fault}

theorem readNumeral_eq_none : readNumeral cs = .ok none ↔ ¬ Numeral cs := by
  rw [← isNumeral_iff, readNumeral]
  cases isNumeral cs with
  | false => simp
  | true =>
    simp only [Bool.not_true, Bool.false_eq_true, if_false]
    split <;> simp

theorem readNumeral_eq_some :
    readNumeral cs = .ok (some n) ↔ (Numeral cs ∧ ¬ Overlong cs) ∧ value cs = n := by
  by_cases numeral : Numeral cs
  · have test := isNumeral_iff.mpr numeral
    have long : Overlong cs ↔ digitLimit < cs.length := ⟨fun h => h.long, fun h => ⟨numeral, h⟩⟩
    rw [readNumeral, test, long]
    simp only [Bool.not_true, Bool.false_eq_true, if_false, numeral, true_and]
    split <;> simp [*]
  · have unread := readNumeral_eq_none.mpr numeral
    simp [unread, numeral]

theorem readNumeral_eq_error :
    readNumeral cs = .error fault ↔ Overlong cs ∧ fault = .tooManyDigits cs.length := by
  by_cases numeral : Numeral cs
  · have test := isNumeral_iff.mpr numeral
    have long : Overlong cs ↔ digitLimit < cs.length := ⟨fun h => h.long, fun h => ⟨numeral, h⟩⟩
    rw [readNumeral, test, long]
    simp only [Bool.not_true, Bool.false_eq_true, if_false]
    split
    · simp [*, eq_comm]
    · simp [*]
  · have unread := readNumeral_eq_none.mpr numeral
    have short : ¬ Overlong cs := fun h => numeral h.toNumeral
    simp [unread, short]

/-! ## Zeros -/

theorem value_zeros (n : Nat) : value (List.replicate n '0') = 0 := by
  rw [value]
  induction n with
  | zero => rfl
  | succ n ih =>
    rw [List.replicate_succ, List.foldl_cons]
    exact ih

theorem overlong_zeros {n : Nat} (many : digitLimit < n) : Overlong (List.replicate n '0') where
  nonempty := by
    intro empty
    have := congrArg List.length empty
    simp at this
    omega
  digits := by
    intro c member
    rw [List.eq_of_mem_replicate member]
    decide
  short := ⟨n, [], by simp, by simp⟩
  long := by
    rw [List.length_replicate]
    exact many

end Crontab.Text
