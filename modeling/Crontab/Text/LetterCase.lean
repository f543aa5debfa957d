import Crontab.Text.LetterCase.Table

/-!
# Letter case

Upper and lower case of a text, with the full case mappings of Unicode: a letter may become
several (`ß` is `SS` in upper case), and a capital sigma at the end of a word has a lower case of
its own. `upper_map_toUpper` says that the case of ASCII letters does not matter to `upper`.
-/

namespace Crontab.Text

/-- The character that a run of the table maps `n` to. -/
def CaseRun.shifted? (run : CaseRun) (n : Nat) : Option Char :=
  if run.first ≤ n && n ≤ run.last && (n - run.first) % run.stride == 0 then
    some (Char.ofNat (n + run.shift).toNat)
  else none

/-- The mapping of one character by a table of runs and a table of expansions. -/
def mapCase (runs : List CaseRun) (expansions : List (Nat × List Nat)) (c : Char) : List Char :=
  match expansions.lookup c.toNat with
  | some cs => cs.map Char.ofNat
  | none => [(runs.findSome? (·.shifted? c.toNat)).getD c]

/-- A character of ASCII. -/
def isAscii (c : Char) : Bool := c.toNat < 128

/-- The upper case of one character. -/
def upperChar (c : Char) : List Char :=
  if isAscii c then [c.toUpper] else mapCase upperRuns upperExpansions c

/-- The upper case of a text. -/
def upper (cs : List Char) : List Char := cs.flatMap upperChar

/-! ## Lower case -/

def inRanges (ranges : List (Nat × Nat)) (c : Char) : Bool :=
  ranges.any fun r => r.1 ≤ c.toNat && c.toNat ≤ r.2

/-- A letter with a case, for the rule of the final sigma. -/
def isCased (c : Char) : Bool := inRanges casedRanges c

/-- A character that the rule of the final sigma looks through. -/
def isCaseIgnorable (c : Char) : Bool := inRanges caseIgnorableRanges c

/-- The nearest character that is not looked through is a cased letter. -/
def meetsCased (cs : List Char) : Bool :=
  (cs.find? (! isCaseIgnorable ·)).any isCased

/-- The capital sigma. -/
def capitalSigma : Char := '\u03a3'

/-- The lower case of one character, after `before` (nearest first) and before `after`. A capital
sigma that follows a cased letter and precedes none ends a word. -/
def lowerChar (before : List Char) (c : Char) (after : List Char) : List Char :=
  if isAscii c then [c.toLower]
  else if c == capitalSigma then
    [if meetsCased before && !meetsCased after then '\u03c2' else '\u03c3']
  else mapCase lowerRuns lowerExpansions c

/-- The lower case of the text that follows `before` (nearest first). -/
def lowerAfter (before : List Char) : List Char → List Char
  | [] => []
  | c :: cs => lowerChar before c cs ++ lowerAfter (c :: before) cs

/-- The lower case of a text. -/
def lower (cs : List Char) : List Char := lowerAfter [] cs

/-! ## The case of ASCII letters -/

theorem upperChar_toUpper_of_lt : ∀ n < 128,
    upperChar (Char.ofNat n).toUpper = upperChar (Char.ofNat n) := by decide

/-- Raising an ASCII letter first makes no difference to the upper case of a character. -/
theorem upperChar_toUpper (c : Char) : upperChar c.toUpper = upperChar c := by
  by_cases h : c.toNat < 128
  · have := upperChar_toUpper_of_lt c.toNat h
    rwa [Char.ofNat_toNat] at this
  · -- no other character is raised
    have : c.toUpper = c := by
      unfold Char.toUpper
      rw [dif_neg]
      rintro ⟨_, hz⟩
      have : c.toNat ≤ 122 := UInt32.le_iff_toNat_le.mp hz
      omega
    rw [this]

/-- Raising the ASCII letters of a text first makes no difference to its upper case. -/
theorem upper_map_toUpper (cs : List Char) : upper (cs.map Char.toUpper) = upper cs := by
  simp [upper, List.flatMap_map, upperChar_toUpper]

end Crontab.Text
