import Crontab.Calendar.Span

/-!
# What rounding adds to a span

The whole seconds of a span, by its length as it is kept, can exceed the span itself.
`wholeSeconds_mul_le` says that they do not in spans of less than `exactSeconds` seconds, and
`wholeSeconds_mul_le_add` that they do by 30 microseconds at most in all that the calendar has.
-/

namespace Crontab

/-- Spans of fewer seconds have whole seconds that are not rounded up. -/
def exactSeconds : Nat := 1 <<< 34

/-- Rounding a quotient adds half of the divisor at most. -/
theorem two_mul_roundDiv_le (num : Nat) {den : Nat} (positive : 0 < den) :
    2 * (den * roundDiv num den) ≤ 2 * num + den := by
  have parts := Nat.div_add_mod num den
  have rest := Nat.mod_lt num positive
  unfold roundDiv
  dsimp only
  split
  · omega
  · rw [Nat.mul_add]
    omega

/-- Whole seconds exceed a span by half a part of a second at most. -/
theorem two_mul_wholeSeconds_le (micros : Nat) :
    2 * (secondParts micros * (wholeSeconds micros * microsPerSecond)) ≤
      2 * (secondParts micros * micros) + microsPerSecond := by
  have rounded := two_mul_roundDiv_le (micros * secondParts micros)
    (show 0 < microsPerSecond by decide)
  have whole := Nat.div_mul_le_self (roundDiv (micros * secondParts micros) microsPerSecond)
    (secondParts micros)
  rw [← wholeSeconds] at whole
  have scaled := Nat.mul_le_mul_left microsPerSecond whole
  have order : secondParts micros * (wholeSeconds micros * microsPerSecond) =
      microsPerSecond * (wholeSeconds micros * secondParts micros) := by
    rw [← Nat.mul_assoc, Nat.mul_comm, Nat.mul_comm (secondParts micros)]
  rw [order, Nat.mul_comm (secondParts micros)]
  omega

theorem wholeSeconds_mul_le_of_parts {micros late : Nat}
    (fine : microsPerSecond < 2 * (secondParts micros * (late + 1))) :
    wholeSeconds micros * microsPerSecond ≤ micros + late := by
  refine Nat.le_of_not_lt fun later => ?_
  have bound := two_mul_wholeSeconds_le micros
  have more := Nat.mul_le_mul_left (secondParts micros)
    (show micros + (late + 1) ≤ wholeSeconds micros * microsPerSecond by omega)
  rw [Nat.mul_add] at more
  omega

/-- The shorter a span, the finer it is kept. -/
theorem le_secondParts {micros k : Nat} (short : micros / microsPerSecond < 1 <<< (k + 1)) :
    1 <<< (52 - k) ≤ secondParts micros := by
  have size : (micros / microsPerSecond).log2 ≤ k := by
    rw [Nat.one_shiftLeft] at short
    by_cases none : micros / microsPerSecond = 0
    · rw [none, Nat.log2_zero]
      exact Nat.zero_le k
    · exact Nat.le_of_lt_succ ((Nat.log2_lt none).mpr short)
  rw [secondParts, Nat.one_shiftLeft, Nat.one_shiftLeft]
  exact Nat.pow_le_pow_right (by omega) (by omega)

/-- Short spans are not rounded up to a second that they do not reach. -/
theorem wholeSeconds_mul_le {micros : Nat} (short : micros < exactSeconds * microsPerSecond) :
    wholeSeconds micros * microsPerSecond ≤ micros := by
  have parts : 1 <<< 19 ≤ secondParts micros :=
    le_secondParts (k := 33) (Nat.div_lt_of_lt_mul (by rwa [Nat.mul_comm] at short))
  show _ ≤ micros + 0
  apply wholeSeconds_mul_le_of_parts
  unfold microsPerSecond
  omega

/-- No span of the calendar is rounded up by more than this many microseconds. -/
theorem wholeSeconds_mul_le_add {micros : Nat} (short : micros < (1 <<< 39) * microsPerSecond) :
    wholeSeconds micros * microsPerSecond ≤ micros + 30 := by
  have parts : 1 <<< 14 ≤ secondParts micros :=
    le_secondParts (k := 38) (Nat.div_lt_of_lt_mul (by rwa [Nat.mul_comm] at short))
  apply wholeSeconds_mul_le_of_parts
  unfold microsPerSecond
  omega

end Crontab
