import Crontab.Fault

/-!
# Decimal text

Numbers as they are written in messages and dates. `value_digits` says that the digits of a number
read back as that number, so that different numbers are written differently. An integer that comes
from outside may have too many digits to be written: `writeInt` fails at it.
-/

namespace Crontab.Text

/-- The digit for a number below ten. -/
def digitChar (n : Nat) : Char := Char.ofNat (48 + n)

/-- The number that a digit stands for. -/
def digitValue (c : Char) : Nat := c.toNat - 48

/-- The decimal digits of a number, the most significant first. -/
def digits (n : Nat) : List Char :=
  if n < 10 then [digitChar n] else digits (n / 10) ++ [digitChar (n % 10)]

/-- The number that a run of digits stands for. -/
def value (cs : List Char) : Nat := cs.foldl (fun n c => 10 * n + digitValue c) 0

theorem digitValue_digitChar {n : Nat} (h : n < 10) : digitValue (digitChar n) = n := by
  match n, h with
  | 0, _ | 1, _ | 2, _ | 3, _ | 4, _ | 5, _ | 6, _ | 7, _ | 8, _ | 9, _ => decide

theorem value_digits (n : Nat) : value (digits n) = n := by
  induction n using Nat.strongRecOn with
  | ind n ih =>
    rw [digits]
    split
    · next h => simp [value, digitValue_digitChar h]
    · next h =>
      -- the last digit adds its value to ten times that of the others
      have ih' := ih (n / 10) (by omega)
      rw [value] at ih' ⊢
      rw [List.foldl_append, ih']
      simp only [List.foldl_cons, List.foldl_nil]
      rw [digitValue_digitChar (by omega)]
      omega

/-- A natural number in decimal. -/
def natText (n : Nat) : String := String.ofList (digits n)

/-- An integer in decimal, with a minus sign where it is negative. -/
def intText : Int → String
  | .ofNat n => natText n
  | .negSucc n => "-" ++ natText (n + 1)

/-- An integer with no more digits than can be written. -/
def isWritable (v : Int) : Bool := (digits v.natAbs).length ≤ digitLimit

/-- Integers can be said in a text if each of them can be written. -/
def sayable (numbers : List Int) : Except Fault Unit :=
  if numbers.all isWritable then .ok () else .error .tooLongToWrite

/-- An integer in decimal, if it can be written. -/
def writeInt (v : Int) : Except Fault String := do
  sayable [v]
  return intText v

/-- A text filled up with `fill` on the left to at least `width` characters. -/
def padLeft (width : Nat) (fill : Char) (text : String) : String :=
  String.ofList (List.replicate (width - text.length) fill) ++ text

/-- A text filled up with spaces on the right to at least `width` characters. -/
def padRight (width : Nat) (text : String) : String :=
  text ++ String.ofList (List.replicate (width - text.length) ' ')

/-- A natural number in decimal with at least `width` digits. -/
def zeroPadded (width n : Nat) : String := padLeft width '0' (natText n)

end Crontab.Text
