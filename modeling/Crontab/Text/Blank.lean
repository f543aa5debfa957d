/-!
# Blank characters and words

The characters that separate words in a cron expression, trimming, splitting a text at its runs of
blanks, and the words of a text: its maximal runs without a blank. `mem_words` says that a word
holds no blank and is never empty.
-/

namespace Crontab.Text

/-- The characters that count as blank: the ASCII controls of the white-space kind, the space, and
the Unicode spaces and line separators. -/
def isBlank (c : Char) : Bool :=
  let n := c.toNat
  (0x09 ≤ n && n ≤ 0x0D) || (0x1C ≤ n && n ≤ 0x20) || n == 0x85 || n == 0xA0 || n == 0x1680 ||
    (0x2000 ≤ n && n ≤ 0x200A) || n == 0x2028 || n == 0x2029 || n == 0x202F || n == 0x205F ||
    n == 0x3000

/-- The text without its leading blanks. -/
def trimStart (cs : List Char) : List Char := cs.dropWhile isBlank

/-- The text without its trailing blanks. -/
def trimEnd (cs : List Char) : List Char := (cs.reverse.dropWhile isBlank).reverse

/-- The text without the blanks at either end. -/
def trim (cs : List Char) : List Char := trimEnd (trimStart cs)

/-! ## Words -/

theorem length_dropWhile_le {α : Type} (p : α → Bool) (l : List α) :
    (l.dropWhile p).length ≤ l.length :=
  (List.dropWhile_sublist p).length_le

/-- The maximal runs of characters that are not blank, in order. -/
def words (cs : List Char) : List (List Char) :=
  match h : cs.dropWhile isBlank with
  | [] => []
  | c :: rest =>
    have : (rest.dropWhile (! isBlank ·)).length < cs.length := by
      have h₁ := length_dropWhile_le isBlank cs
      have h₂ := length_dropWhile_le (! isBlank ·) rest
      rw [h, List.length_cons] at h₁
      omega
    (c :: rest.takeWhile (! isBlank ·)) :: words (rest.dropWhile (! isBlank ·))
termination_by cs.length

/-- The texts between the runs of blanks. The first is empty where the text starts with a blank, and
the last where it ends with one. -/
def splitAtBlanks (cs : List Char) : List (List Char) :=
  match h : cs.dropWhile (! isBlank ·) with
  | [] => [cs]
  | _ :: rest =>
    have : (rest.dropWhile isBlank).length < cs.length := by
      have h₁ := length_dropWhile_le (! isBlank ·) cs
      have h₂ := length_dropWhile_le isBlank rest
      rw [h, List.length_cons] at h₁
      omega
    cs.takeWhile (! isBlank ·) :: splitAtBlanks (rest.dropWhile isBlank)
termination_by cs.length

/-- The character where dropping stops is one that is kept. -/
theorem head_dropWhile {α : Type} {p : α → Bool} {l rest : List α} {c : α}
    (h : l.dropWhile p = c :: rest) : p c = false := by
  induction l with
  | nil => simp at h
  | cons a l ih =>
    rw [List.dropWhile_cons] at h
    split at h
    · exact ih h
    · next ha => cases h; simpa using ha

/-- A word is not empty and holds no blank. -/
theorem mem_words {cs w : List Char} (h : w ∈ words cs) :
    w ≠ [] ∧ ∀ c ∈ w, isBlank c = false := by
  fun_induction words cs with
  | case1 => simp at h
  | case2 cs c rest hd _ ih =>
    rcases List.mem_cons.mp h with rfl | h
    · refine ⟨by simp, fun d hd' => ?_⟩
      -- the first character is where the blanks end, the others were taken up to the next blank
      rcases List.mem_cons.mp hd' with rfl | hd'
      · exact head_dropWhile hd
      · have := List.all_takeWhile (p := (! isBlank ·)) (l := rest)
        rw [List.all_eq_true] at this
        simpa using this d hd'
    · exact ih h

end Crontab.Text
