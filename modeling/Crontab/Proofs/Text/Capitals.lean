import Crontab.Proofs.Text.Numeral
import Crontab.Proofs.Text.Splitting
import Crontab.Text.LetterCase

/-!
# Texts in capital letters

Raising the ASCII letters of a text changes no blank, no digit and no mark, so it goes through
everything that takes a text apart: a raised text has the raised words, pieces and parts of the
text. `readNumeral_raised` says that a numeral has no letters to raise.
-/

namespace Crontab.Text

/-! ## Characters -/

/-- Only the small letters of ASCII are raised, each to the capital 32 places before it. -/
theorem toNat_toUpper (c : Char) :
    c.toUpper.toNat = if 97 ≤ c.toNat ∧ c.toNat ≤ 122 then c.toNat - 32 else c.toNat := by
  unfold Char.toUpper
  split
  · next small =>
    have low : 97 ≤ c.toNat := UInt32.le_iff_toNat_le.mp small.1
    have high : c.toNat ≤ 122 := UInt32.le_iff_toNat_le.mp small.2
    rw [if_pos ⟨low, high⟩]
    -- the distance is added modulo 2^32
    show (c.val + ('A'.val - 'a'.val)).toNat = _
    rw [UInt32.toNat_add]
    show (c.toNat + 4294967264) % 4294967296 = _
    omega
  · next other =>
    rw [if_neg]
    intro small
    exact other ⟨UInt32.le_iff_toNat_le.mpr small.1, UInt32.le_iff_toNat_le.mpr small.2⟩

/-- Below the letters, a raised character is the character itself. -/
theorem toUpper_eq_iff {c mark : Char} (low : mark.toNat < 65) : c.toUpper = mark ↔ c = mark := by
  rw [← Char.toNat_inj, ← Char.toNat_inj, toNat_toUpper]
  split <;> omega

/-- Only a mark is raised to a mark. -/
theorem map_toUpper_eq_mark {cs : List Char} {mark : Char} (low : mark.toNat < 65) :
    cs.map Char.toUpper = [mark] ↔ cs = [mark] := by
  rw [List.map_eq_singleton_iff]
  constructor
  · intro given
    obtain ⟨c, rfl, raised⟩ := given
    rw [(toUpper_eq_iff low).mp raised]
  · rintro rfl
    exact ⟨mark, rfl, (toUpper_eq_iff low).mpr rfl⟩

theorem toList_toUpper (text : String) : text.toUpper.toList = text.toList.map Char.toUpper :=
  String.toList_map

theorem ofList_raised (cs : List Char) :
    String.ofList (cs.map Char.toUpper) = (String.ofList cs).toUpper := by
  rw [← String.toList_inj, toList_toUpper, String.toList_ofList, String.toList_ofList]

theorem toUpper_eq_mark {text spelled : String} {mark : Char} (form : spelled.toList = [mark])
    (low : mark.toNat < 65) : text.toUpper = spelled ↔ text = spelled := by
  rw [← String.toList_inj, ← String.toList_inj, toList_toUpper, form, map_toUpper_eq_mark low]

@[simp]
theorem isBlank_toUpper (c : Char) : isBlank c.toUpper = isBlank c := by
  rw [Bool.eq_iff_iff]
  simp only [isBlank, toNat_toUpper, Bool.or_eq_true, Bool.and_eq_true, decide_eq_true_eq,
    beq_iff_eq]
  split <;> omega

@[simp]
theorem isDigit_toUpper (c : Char) : c.toUpper.isDigit = c.isDigit := by
  rw [Bool.eq_iff_iff, isDigit_iff, isDigit_iff]
  simp only [Char.le_def, UInt32.le_iff_toNat_le]
  show '0'.toNat ≤ c.toUpper.toNat ∧ c.toUpper.toNat ≤ '9'.toNat ↔ _
  rw [toNat_toUpper]
  show 48 ≤ _ ∧ _ ≤ 57 ↔ 48 ≤ c.toNat ∧ c.toNat ≤ 57
  split <;> omega

/-! ## Cutting, trimming and words -/

section

variable {mark : Char} (cs : List Char)

theorem dropWhile_raised {p : Char → Bool} (same : ∀ c : Char, p c.toUpper = p c) :
    (cs.map Char.toUpper).dropWhile p = (cs.dropWhile p).map Char.toUpper := by
  rw [List.dropWhile_map, show p ∘ Char.toUpper = p from funext same]

theorem takeWhile_raised {p : Char → Bool} (same : ∀ c : Char, p c.toUpper = p c) :
    (cs.map Char.toUpper).takeWhile p = (cs.takeWhile p).map Char.toUpper := by
  rw [List.takeWhile_map, show p ∘ Char.toUpper = p from funext same]

theorem trim_raised : trim (cs.map Char.toUpper) = (trim cs).map Char.toUpper := by
  rw [trim, trimEnd, trimStart, dropWhile_raised cs isBlank_toUpper, ← List.map_reverse,
    dropWhile_raised _ isBlank_toUpper, ← List.map_reverse]
  rfl

/-- A raised text is cut at the same place, where the mark is no letter. -/
theorem cut_raised (low : mark.toNat < 65) :
    cut mark (cs.map Char.toUpper) =
      (cut mark cs).map (Prod.map (List.map Char.toUpper) (List.map Char.toUpper)) := by
  have same : ∀ c : Char, (c.toUpper != mark) = (c != mark) := by
    intro c
    rw [Bool.eq_iff_iff, bne_iff_ne, bne_iff_ne, ne_eq, ne_eq, toUpper_eq_iff low]
  rw [cut, cut, dropWhile_raised cs same, takeWhile_raised cs same]
  cases cs.dropWhile (· != mark) <;> rfl

theorem pieces_raised (low : mark.toNat < 65) :
    pieces mark (cs.map Char.toUpper) = (pieces mark cs).map (List.map Char.toUpper) := by
  fun_induction pieces mark cs with
  | case1 cs uncut =>
    rw [pieces_eq_splitOn, List.splitOn_eq_singleton]
    · rfl
    · rw [← cut_eq_none, cut_raised cs low, uncut]
      rfl
  | case2 cs before after found _ ih =>
    obtain ⟨rfl, absent⟩ := cut_eq_some found
    have fixed : mark.toUpper = mark := (toUpper_eq_iff low).mpr rfl
    have absent' : mark ∉ before.map Char.toUpper := by
      rw [← cut_eq_none, cut_raised before low, cut_eq_none.mpr absent]
      rfl
    rw [pieces_eq_splitOn] at ih ⊢
    rw [List.map_append, List.map_cons, fixed,
      List.splitOn_append_cons_self_of_not_mem absent', ih]
    rfl

theorem words_raised : words (cs.map Char.toUpper) = (words cs).map (List.map Char.toUpper) := by
  have visible : ∀ c : Char, (!isBlank c.toUpper) = (!isBlank c) := by simp
  fun_induction words cs with
  | case1 cs blank =>
    apply words_of_blank
    rw [dropWhile_raised cs isBlank_toUpper, blank]
    rfl
  | case2 cs first rest start _ ih =>
    have start' : (cs.map Char.toUpper).dropWhile isBlank =
        first.toUpper :: rest.map Char.toUpper := by
      rw [dropWhile_raised cs isBlank_toUpper, start]
      rfl
    rw [words_of_first start', takeWhile_raised rest visible, dropWhile_raised rest visible, ih]
    rfl

/-! ## Numerals -/

theorem isNumeral_raised : isNumeral (cs.map Char.toUpper) = isNumeral cs := by
  have zero : ∀ c : Char, (c.toUpper == '0') = (c == '0') := by
    intro c
    rw [Bool.eq_iff_iff, beq_iff_eq, beq_iff_eq, toUpper_eq_iff (by decide)]
  rw [isNumeral, isNumeral, dropWhile_raised cs zero, List.length_map, List.all_map]
  have digits : Char.isDigit ∘ Char.toUpper = Char.isDigit := funext isDigit_toUpper
  rw [digits]
  cases cs <;> rfl

/-- A numeral has no letters to raise. -/
theorem Numeral.raised {cs : List Char} (numeral : Numeral cs) : cs.map Char.toUpper = cs := by
  have fixed : ∀ c ∈ cs, c.toUpper = id c := by
    intro c member
    have high : c.toNat ≤ '9'.toNat := UInt32.le_iff_toNat_le.mp (numeral.digits c member).2
    exact (toUpper_eq_iff (Nat.lt_of_le_of_lt high (by decide))).mpr rfl
  rw [List.map_congr_left fixed, List.map_id]

theorem readNumeral_raised : readNumeral (cs.map Char.toUpper) = readNumeral cs := by
  by_cases numeral : Numeral cs
  · rw [numeral.raised]
  · have other : ¬ Numeral (cs.map Char.toUpper) := by
      rwa [← isNumeral_iff, isNumeral_raised, isNumeral_iff]
    rw [readNumeral_eq_none.mpr numeral, readNumeral_eq_none.mpr other]

end

end Crontab.Text
