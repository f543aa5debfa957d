import Crontab.Text.Blank
import Crontab.Text.Decimal

/-!
# Decimal digits

What decimal text looks like: `toNat_of_mem_digits` says that it holds digits only, `digits_inj`
and `value_padded` that it gives the number away, with zeros in front as well. An integer of at most
nine digits can always be written: `isWritable_of_short`.
-/

namespace Crontab.Text

variable {n m : Nat} {c : Char}

theorem digits_ne_nil (n : Nat) : digits n ≠ [] := by
  rw [digits]
  split <;> simp

theorem toNat_digitChar (small : n < 10) : (digitChar n).toNat = 48 + n := by
  have valid : (48 + n).isValidChar := by
    left
    omega
  rw [digitChar, Char.ofNat, dif_pos valid]
  rfl

/-- A number is written in decimal digits. -/
theorem toNat_of_mem_digits (member : c ∈ digits n) : 48 ≤ c.toNat ∧ c.toNat < 58 := by
  fun_induction digits n with
  | case1 n small =>
    rw [List.mem_singleton.mp member, toNat_digitChar small]
    omega
  | case2 n large ih =>
    rcases List.mem_append.mp member with member | member
    · exact ih member
    · rw [List.mem_singleton.mp member, toNat_digitChar (Nat.mod_lt _ (by decide))]
      omega

/-- Digits are visible. -/
theorem not_blank_of_digit (digit : 48 ≤ c.toNat ∧ c.toNat < 58) : isBlank c = false := by
  simp [isBlank]
  omega

/-- Different numbers are written differently. -/
theorem digits_inj (same : digits n = digits m) : n = m := by
  rw [← value_digits n, same, value_digits]

/-- Numbers below a power of ten have no more digits than it has zeros. -/
theorem length_digits_le {k : Nat} (small : n < Nat.pow 10 (k + 1)) :
    (digits n).length ≤ k + 1 := by
  induction k generalizing n with
  | zero =>
    have single : n < 10 := small
    rw [digits, if_pos single]
    exact Nat.le_refl 1
  | succ k ih =>
    rw [digits]
    split
    · exact Nat.succ_le_succ (Nat.zero_le _)
    · have front : n / 10 < Nat.pow 10 (k + 1) := Nat.div_lt_of_lt_mul (Nat.pow_succ' ▸ small)
      simpa using ih front

/-- Zeros in front do not change the value of a number. -/
theorem value_padded (zeros n : Nat) : value (List.replicate zeros '0' ++ digits n) = n := by
  induction zeros with
  | zero => exact value_digits n
  | succ zeros ih => exact ih

/-! ## Writing -/

/-- An integer of at most nine digits. -/
def Short (v : Int) : Prop := v.natAbs < 1000000000

instance (v : Int) : Decidable (Short v) := inferInstanceAs (Decidable (_ < _))

theorem isWritable_of_short {v : Int} (short : Short v) : isWritable v = true := by
  have few : (digits v.natAbs).length ≤ 9 := length_digits_le short
  exact decide_eq_true (Nat.le_trans few (by decide))

theorem sayable_eq_ok {numbers : List Int} :
    sayable numbers = .ok () ↔ ∀ v ∈ numbers, isWritable v = true := by
  rw [sayable, ← List.all_eq_true]
  split <;> simp [*]

theorem sayable_eq_error {numbers : List Int} {fault : Fault} :
    sayable numbers = .error fault ↔
      ¬ (∀ v ∈ numbers, isWritable v = true) ∧ fault = .tooLongToWrite := by
  rw [sayable, ← List.all_eq_true]
  split <;> simp [*, eq_comm]

theorem writeInt_eq_ok {v : Int} {text : String} :
    writeInt v = .ok text ↔ isWritable v = true ∧ intText v = text := by
  cases writable : isWritable v <;>
    simp [writeInt, sayable, writable, bind, Except.bind, pure, Except.pure]

theorem writeInt_eq_error {v : Int} {fault : Fault} :
    writeInt v = .error fault ↔ isWritable v = false ∧ fault = .tooLongToWrite := by
  cases writable : isWritable v <;>
    simp [writeInt, sayable, writable, bind, Except.bind, pure, Except.pure, eq_comm]

theorem intText_of_nonneg {v : Int} (natural : 0 ≤ v) : intText v = natText v.toNat := by
  obtain ⟨n, rfl⟩ := Int.eq_ofNat_of_zero_le natural
  rfl

end Crontab.Text
