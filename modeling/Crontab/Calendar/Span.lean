/-!
# Spans of time

The length of a span in whole seconds. A length is kept to 53 significant binary digits, so that
only in spans of more than five centuries the last microseconds are rounded away.
`wholeSeconds_mul` says that spans of whole seconds keep their length.
-/

namespace Crontab

/-- The quotient rounded to the nearest integer, a half to the even one. -/
def roundDiv (num den : Nat) : Nat :=
  let below := num / den
  if 2 * (num % den) < den ∨ 2 * (num % den) = den ∧ below % 2 = 0 then below else below + 1

def microsPerSecond : Nat := 1000000

/-- How finely the length of a span is kept: the parts of a second that are told apart, so many
that the whole has 53 binary digits. -/
def secondParts (micros : Nat) : Nat := 1 <<< (52 - (micros / microsPerSecond).log2)

/-- The whole seconds of a span of microseconds, by its length as it is kept. -/
def wholeSeconds (micros : Nat) : Nat :=
  roundDiv (micros * secondParts micros) microsPerSecond / secondParts micros

theorem secondParts_pos (micros : Nat) : 0 < secondParts micros := by
  rw [secondParts, Nat.one_shiftLeft]
  exact Nat.two_pow_pos _

/-- A quotient without a remainder is not rounded. -/
theorem roundDiv_mul {den : Nat} (k : Nat) (h : 0 < den) : roundDiv (k * den) den = k := by
  simp [roundDiv, Nat.mul_div_cancel k h, h]

/-- Whole seconds are exact. -/
theorem wholeSeconds_mul (k : Nat) : wholeSeconds (k * microsPerSecond) = k := by
  have hpos : 0 < microsPerSecond := by decide
  rw [wholeSeconds, Nat.mul_right_comm, roundDiv_mul _ hpos,
    Nat.mul_div_cancel _ (secondParts_pos _)]

end Crontab
