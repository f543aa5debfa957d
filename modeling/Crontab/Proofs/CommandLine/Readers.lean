import Crontab.CommandLine.Arguments
import Crontab.Proofs.Text.Decimal
import Crontab.Proofs.Text.Splitting
import Mathlib.Data.List.Induction

/-!
# Integers as values of options

What the program reads where an integer stands as the value of an option. The decimal text of an
integer stands for it (`readInteger?_intText`), and a text with a character that is no blank, sign,
underscore or decimal digit stands for none (`alphabet_of_readInteger?`). So a count is one of 1 to
100, and each of these can be given.
-/

namespace Crontab.CommandLine

open Text

variable {c : Char} {cs : List Char} {v count : Int} {n : Nat}

/-! ## Margins -/

theorem withoutMargins_eq_self (visible : ∀ c ∈ cs, isBlank c = false) :
    withoutMargins cs = cs := by
  have stays : ∀ l : List Char, (∀ c ∈ l, isBlank c = false) → l.dropWhile isMargin = l := by
    intro l visible
    cases l with
    | nil => rfl
    | cons d l =>
      rw [List.dropWhile_cons_of_neg]
      simp [isMargin, visible d List.mem_cons_self]
  rw [withoutMargins, stays cs visible, stays cs.reverse, List.reverse_reverse]
  intro c member
  exact visible c (List.mem_reverse.mp member)

theorem mem_withoutMargins (member : c ∈ cs) (kept : isMargin c = false) :
    c ∈ withoutMargins cs := by
  rw [withoutMargins, List.mem_reverse]
  exact mem_dropWhile_of_not (List.mem_reverse.mpr (mem_dropWhile_of_not member kept)) kept

/-! ## Digits -/

/-- The digits of ASCII are among those of all scripts. -/
theorem scriptDigit?_of_digit (digit : 48 ≤ c.toNat ∧ c.toNat < 58) :
    scriptDigit? c = some (digitValue c) := by
  rw [scriptDigit?, show scriptZeros = 48 :: scriptZeros.tail from rfl, List.find?_cons_of_pos]
  · rfl
  · rw [Bool.and_eq_true, decide_eq_true_eq, decide_eq_true_eq]
    exact digit

/-- An Arabic five. -/
example : scriptDigit? '\u0665' = some 5 := rfl

theorem mapM_scriptDigit? (digits : ∀ c ∈ cs, 48 ≤ c.toNat ∧ c.toNat < 58) :
    cs.mapM scriptDigit? = some (cs.map digitValue) := by
  induction cs with
  | nil => rfl
  | cons c cs ih =>
    obtain ⟨first, rest⟩ := List.forall_mem_cons.mp digits
    rw [List.mapM_cons, scriptDigit?_of_digit first, ih rest]
    rfl

theorem readDigits?_digits (few : (digits n).length ≤ digitLimit) :
    readDigits? (digits n) = some n := by
  have each : ∀ c ∈ digits n, 48 ≤ c.toNat ∧ c.toNat < 58 := fun _ => toNat_of_mem_digits
  have plain : '_' ∉ digits n := fun member => absurd (each _ member).2 (by decide)
  have same : ((digits n).map digitValue).foldl (10 * · + ·) 0 = n := by
    rw [List.foldl_map]
    exact value_digits n
  have nonempty : (digits n).isEmpty = false := List.isEmpty_eq_false_iff.mpr (digits_ne_nil n)
  rw [readDigits?, pieces_eq_splitOn, List.splitOn_eq_singleton plain]
  simp [mapM_scriptDigit? each, nonempty, few, same, guard]

/-! ## Integers -/

/-- An integer is read as it is written. -/
theorem readInteger?_intText (writable : isWritable v = true) :
    readInteger? (intText v).toList = some v := by
  have few : (digits v.natAbs).length ≤ digitLimit := of_decide_eq_true writable
  have visible : ∀ n, ∀ c ∈ digits n, isBlank c = false := fun _ _ member =>
    not_blank_of_digit (toNat_of_mem_digits member)
  cases v with
  | ofNat n =>
    have few : (digits n).length ≤ digitLimit := few
    have signless : afterSign (digits n) = (false, digits n) := by
      unfold afterSign
      split
      · next form => exact absurd (toNat_of_mem_digits (form ▸ List.mem_cons_self)) (by decide)
      · next form => exact absurd (toNat_of_mem_digits (form ▸ List.mem_cons_self)) (by decide)
      · rfl
    have text : (intText (Int.ofNat n)).toList = digits n := String.toList_ofList
    rw [text, readInteger?, withoutMargins_eq_self (visible n), signless]
    dsimp only
    rw [readDigits?_digits few]
    rfl
  | negSucc n =>
    have few : (digits (n + 1)).length ≤ digitLimit := few
    have text : (intText (Int.negSucc n)).toList = '-' :: digits (n + 1) := by
      simp [intText, natText]
    have plain : withoutMargins ('-' :: digits (n + 1)) = '-' :: digits (n + 1) :=
      withoutMargins_eq_self (List.forall_mem_cons.mpr ⟨by decide, visible (n + 1)⟩)
    rw [text, readInteger?, plain, afterSign]
    dsimp only
    rw [readDigits?_digits few]
    rfl

/-- A character that may stand in the text of an integer. -/
def isNumeric (c : Char) : Bool :=
  isMargin c || c = '+' || c = '-' || c = '_' || (scriptDigit? c).isSome

theorem scriptDigit?_of_mapM {numbers : List Nat} (answered : cs.mapM scriptDigit? = some numbers) :
    ∀ c ∈ cs, (scriptDigit? c).isSome := by
  induction cs generalizing numbers with
  | nil => exact List.forall_mem_nil _
  | cons c cs ih =>
    rw [List.mapM_cons] at answered
    obtain ⟨n, first, answered⟩ := Option.bind_eq_some_iff.mp answered
    obtain ⟨_, rest, _⟩ := Option.bind_eq_some_iff.mp answered
    exact List.forall_mem_cons.mpr ⟨Option.isSome_of_eq_some first, ih rest⟩

theorem scriptDigit?_of_readDigits? (read : readDigits? cs = some n) (member : c ∈ cs)
    (other : c ≠ '_') : (scriptDigit? c).isSome := by
  rw [readDigits?, pieces_eq_splitOn] at read
  obtain ⟨_, _, read⟩ := Option.bind_eq_some_iff.mp read
  obtain ⟨numbers, answered, _⟩ := Option.bind_eq_some_iff.mp read
  obtain ⟨piece, listed, inside⟩ := mem_splitOn member other
  exact scriptDigit?_of_mapM answered c (List.mem_flatten.mpr ⟨piece, listed, inside⟩)

/-- An integer is read of blanks, a sign, underscores and decimal digits only. -/
theorem alphabet_of_readInteger? (read : readInteger? cs = some v) :
    ∀ c ∈ cs, isNumeric c = true := by
  intro c member
  obtain ⟨n, read, _⟩ := Option.map_eq_some_iff.mp read
  change readDigits? (afterSign (withoutMargins cs)).2 = some n at read
  by_contra other
  simp only [isNumeric, Bool.or_eq_true, decide_eq_true_eq, not_or, Bool.not_eq_true] at other
  obtain ⟨⟨⟨⟨margin, plus⟩, minus⟩, underscore⟩, digit⟩ := other
  rw [scriptDigit?_of_readDigits? read ?_ underscore] at digit
  · cases digit
  -- it is not the sign that is taken off
  have member := mem_withoutMargins member margin
  unfold afterSign
  split
  · next form => exact List.mem_of_ne_of_mem minus (form ▸ member)
  · next form => exact List.mem_of_ne_of_mem plus (form ▸ member)
  · exact member

example : readInteger? "5.0".toList ≠ some 5 := fun read =>
  absurd (alphabet_of_readInteger? read '.' (by decide)) (by decide)

/-! ## Counts -/

theorem bounds_of_readCount {readers : ValueReaders} {text : String}
    (read : readCount readers text = some count) : 1 ≤ count ∧ count ≤ 100 := by
  obtain ⟨_, within⟩ := Option.filter_eq_some_iff.mp read
  rwa [Bool.and_eq_true, decide_eq_true_eq, decide_eq_true_eq] at within

/-- The counts that can be given to the program are those from 1 to 100. -/
theorem exists_readCount_iff :
    (∃ text, readCount .program text = some count) ↔ 1 ≤ count ∧ count ≤ 100 := by
  constructor
  · intro ⟨text, read⟩
    exact bounds_of_readCount read
  · intro ⟨low, high⟩
    have short : Short count := by
      unfold Short
      omega
    refine ⟨intText count, Option.filter_eq_some_iff.mpr ⟨?_, by simp [low, high]⟩⟩
    exact readInteger?_intText (isWritable_of_short short)

example : ∃ text, readCount .program text = some 100 := exists_readCount_iff.mpr (by decide)

end Crontab.CommandLine
