import Crontab.Proofs.Expression
import Mathlib.Data.Set.Card

/-!
# The words of an expression

The words of a text are its maximal runs of visible characters, and there are as many of them:
`encard_runs`. An expression is split where it is made of five words with blanks around them, and
otherwise it is refused for the number of its words: `split_eq_words`.
-/

namespace Crontab

open Text

namespace Text

variable {c : Char} {cs gap word rest : List Char} {ws : List (List Char)}

/-! ## Blanks and words -/

/-- Nothing but blanks, if anything. -/
def Blank (cs : List Char) : Prop := ∀ c ∈ cs, isBlank c = true

/-- Visible characters, at least one of them. -/
structure Word (cs : List Char) : Prop where
  nonempty : cs ≠ []
  visible : ∀ c ∈ cs, isBlank c = false

/-- What may stand after a whole word: nothing, or a blank and any text. -/
def Breaks (cs : List Char) : Prop := ∀ c ∈ cs.head?, isBlank c = true

theorem Blank.breaks (blank : Blank cs) : Breaks cs :=
  fun c first => blank c (List.mem_of_head? first)

/-- The first character of a word is visible. -/
theorem Word.not_breaks (isWord : Word word) : ¬ Breaks (word ++ rest) := by
  intro breaks
  obtain ⟨first, more, rfl⟩ := List.exists_cons_of_ne_nil isWord.nonempty
  have visible := isWord.visible first List.mem_cons_self
  rw [breaks first rfl] at visible
  cases visible

theorem words_eq_nil : words cs = [] ↔ Blank cs := by
  constructor
  · intro none
    cases start : cs.dropWhile isBlank with
    | nil => exact List.dropWhile_eq_nil_iff.mp start
    | cons first rest =>
      rw [words_of_first start] at none
      cases none
  · exact fun blank => words_of_blank (List.dropWhile_eq_nil_iff.mpr blank)

/-- The first word of a text is what stands between the blanks in front and the next blank. -/
theorem words_of_parts (blank : Blank gap) (isWord : Word word) (breaks : Breaks rest) :
    words (gap ++ word ++ rest) = word :: words rest := by
  have skipped : words (gap ++ word ++ rest) = words (word ++ rest) := by
    apply words_congr
    rw [List.append_assoc, List.dropWhile_append_of_pos blank]
  rw [skipped]
  cases rest with
  | nil =>
    rw [List.append_nil, words_of_visible isWord.nonempty isWord.visible, words_of_blank rfl]
  | cons c rest => exact words_append isWord.nonempty isWord.visible (breaks c rfl)

/-- Up to the end of its first word a text is blanks and the word. -/
theorem exists_first (found : words cs = word :: ws) :
    ∃ gap rest, cs = gap ++ word ++ rest ∧ Blank gap ∧ Breaks rest ∧ words rest = ws := by
  cases start : cs.dropWhile isBlank with
  | nil =>
    rw [words_of_blank start] at found
    cases found
  | cons first tail =>
    rw [words_of_first start] at found
    obtain ⟨rfl, others⟩ := List.cons.inj found
    refine ⟨cs.takeWhile isBlank, tail.dropWhile (! isBlank ·), ?_, ?_, ?_, others⟩
    · rw [List.append_assoc, List.cons_append, List.takeWhile_append_dropWhile, ← start,
        List.takeWhile_append_dropWhile]
    · exact fun c member => List.mem_takeWhile_imp member
    · intro c stopped
      obtain ⟨after, form⟩ := List.head?_eq_some_iff.mp stopped
      simpa using head_dropWhile form

/-- A word after another one stands behind at least one blank. -/
theorem exists_next (breaks : Breaks cs) (found : words cs = word :: ws) :
    ∃ gap rest, cs = gap ++ word ++ rest ∧ gap ≠ [] ∧ Blank gap ∧ Breaks rest ∧
      words rest = ws := by
  obtain ⟨gap, rest, rfl, blank, ended, others⟩ := exists_first found
  refine ⟨gap, rest, rfl, ?_, blank, ended, others⟩
  rintro rfl
  obtain ⟨nonempty, visible⟩ := mem_words (found ▸ List.mem_cons_self)
  exact Word.not_breaks ⟨nonempty, visible⟩ breaks

/-! ## Maximal runs -/

/-- A part of a text, with what stands before and after it. -/
structure Run where
  before : List Char
  inside : List Char
  after : List Char

/-- The maximal runs of visible characters in a text: words with nothing or a blank on either
side. -/
def runs (cs : List Char) : Set Run :=
  { r | r.before ++ r.inside ++ r.after = cs ∧ Word r.inside ∧
    (∀ c ∈ r.before.getLast?, isBlank c = true) ∧ Breaks r.after }

namespace Run

/-- The same run behind some more text. -/
def behind (front : List Char) (r : Run) : Run := { r with before := front ++ r.before }

theorem behind_injective (front : List Char) : Function.Injective (behind front) := by
  intro r r' same
  obtain ⟨before, inside, after⟩ := r
  obtain ⟨before', inside', after'⟩ := r'
  simpa [behind] using same

end Run

theorem runs_nil : runs [] = ∅ := by
  refine Set.eq_empty_of_forall_notMem fun r member => member.2.1.nonempty ?_
  exact (List.append_eq_nil_iff.mp (List.append_eq_nil_iff.mp member.1).1).2

/-- A blank in front is part of no run. -/
theorem runs_blank (blank : isBlank c = true) (cs : List Char) :
    runs (c :: cs) = Run.behind [c] '' runs cs := by
  ext ⟨before, inside, after⟩
  constructor
  · rintro ⟨whole, isWord, starts, ends⟩
    cases before with
    | nil =>
      have solid : ¬ Breaks (inside ++ after) := isWord.not_breaks
      refine absurd ?_ solid
      rw [show inside ++ after = c :: cs from whole]
      rintro _ ⟨⟩
      exact blank
    | cons first before =>
      obtain ⟨rfl, tail⟩ := List.cons.inj whole
      refine ⟨⟨before, inside, after⟩, ⟨tail, isWord, fun d last => starts d ?_, ends⟩, rfl⟩
      rw [List.getLast?_cons, Option.mem_def.mp last]
      rfl
  · rintro ⟨⟨before', inside', after'⟩, ⟨whole, isWord, starts, ends⟩, same⟩
    cases same
    refine ⟨congrArg (c :: ·) whole, isWord, fun d last => ?_, ends⟩
    cases before' with
    | nil =>
      cases last
      exact blank
    | cons first before => exact starts d (by simpa using last)

/-- A text that starts with a word starts with no other one. -/
theorem Word.eq_of_append {word' rest' : List Char} (isWord : Word word) (isWord' : Word word')
    (breaks : Breaks rest) (breaks' : Breaks rest') (same : word ++ rest = word' ++ rest') :
    word = word' ∧ rest = rest' := by
  have none : Blank [] := fun c member => absurd member List.not_mem_nil
  have first : words (word ++ rest) = _ := words_of_parts none isWord breaks
  rw [same, show words (word' ++ rest') = _ from words_of_parts none isWord' breaks'] at first
  obtain ⟨rfl, _⟩ := List.cons.inj first
  exact ⟨rfl, List.append_cancel_left same⟩

/-- A word in front is a run, and the other runs stand behind it. -/
theorem runs_word (isWord : Word word) (breaks : Breaks rest) :
    runs (word ++ rest) = insert ⟨[], word, rest⟩ (Run.behind word '' runs rest) := by
  ext ⟨before, inside, after⟩
  constructor
  · rintro ⟨whole, isInside, starts, ends⟩
    have whole : before ++ (inside ++ after) = word ++ rest := List.append_assoc .. ▸ whole
    rcases List.append_eq_append_iff.mp whole with ⟨more, form, _⟩ | ⟨gap, form, remains⟩
    · -- a run that starts inside the word starts with it
      cases before using List.reverseRecOn with
      | nil =>
        obtain ⟨rfl, rfl⟩ := isInside.eq_of_append isWord ends breaks whole
        exact .inl rfl
      | append_singleton before last =>
        have visible := isWord.visible last (by simp [form])
        rw [starts last (by simp)] at visible
        cases visible
    · refine .inr ⟨⟨gap, inside, after⟩, ⟨?_, isInside, fun d last => starts d ?_, ends⟩, ?_⟩
      · rw [remains, List.append_assoc]
      · rw [form, List.getLast?_append, Option.mem_def.mp last]
        rfl
      · rw [Run.behind, form]
  · rintro (same | ⟨⟨before', inside', after'⟩, ⟨whole, isInside, starts, ends⟩, same⟩)
    · cases same
      exact ⟨rfl, isWord, fun c none => absurd none (by simp), breaks⟩
    · cases same
      refine ⟨?_, isInside, fun d last => ?_, ends⟩
      · rw [← whole]
        simp
      · cases before' using List.reverseRecOn with
        | nil => exact absurd (whole ▸ breaks) (List.append_assoc .. ▸ isInside.not_breaks)
        | append_singleton before' last' => exact starts d (by simpa using last)

/-- There are as many words in a text as maximal runs of visible characters. -/
theorem encard_runs (cs : List Char) : (runs cs).encard = (words cs).length := by
  have skipped : ∀ gap rest, Blank gap → (runs (gap ++ rest)).encard = (runs rest).encard := by
    intro gap rest blank
    induction gap with
    | nil => rfl
    | cons c gap ih =>
      obtain ⟨first, others⟩ := List.forall_mem_cons.mp blank
      rw [List.cons_append, runs_blank first, (Run.behind_injective _).encard_image, ih others]
  generalize found : words cs = ws
  induction ws generalizing cs with
  | nil =>
    have none := skipped cs [] (words_eq_nil.mp found)
    rw [List.append_nil, runs_nil, Set.encard_empty] at none
    simpa using none
  | cons word ws ih =>
    obtain ⟨gap, rest, rfl, blank, breaks, others⟩ := exists_first found
    obtain ⟨nonempty, visible⟩ := mem_words (found ▸ List.mem_cons_self)
    have other : (⟨[], word, rest⟩ : Run) ∉ Run.behind word '' runs rest := by
      rintro ⟨r, _, same⟩
      exact nonempty (List.append_eq_nil_iff.mp (congrArg Run.before same)).1
    rw [List.append_assoc, skipped gap _ blank, runs_word ⟨nonempty, visible⟩ breaks,
      Set.encard_insert_of_notMem other, (Run.behind_injective _).encard_image, ih rest others]
    simp

/-! ## Five words -/

/-- A text has five words where it is made of them, with blanks around them and at least one blank
between two. -/
theorem words_eq_five {a b c d e : List Char} : words cs = [a, b, c, d, e] ↔
    (∀ word ∈ [a, b, c, d, e], Word word) ∧
      ∃ w₀ w₁ w₂ w₃ w₄ w₅, (∀ gap ∈ [w₀, w₁, w₂, w₃, w₄, w₅], Blank gap) ∧
        (∀ gap ∈ [w₁, w₂, w₃, w₄], gap ≠ []) ∧
        cs = w₀ ++ a ++ w₁ ++ b ++ w₂ ++ c ++ w₃ ++ d ++ w₄ ++ e ++ w₅ := by
  constructor
  · intro found
    have each : ∀ word ∈ [a, b, c, d, e], Word word := fun word member =>
      ⟨(mem_words (found ▸ member)).1, (mem_words (found ▸ member)).2⟩
    obtain ⟨w₀, _, rfl, blank₀, breaks, found⟩ := exists_first found
    obtain ⟨w₁, _, rfl, some₁, blank₁, breaks, found⟩ := exists_next breaks found
    obtain ⟨w₂, _, rfl, some₂, blank₂, breaks, found⟩ := exists_next breaks found
    obtain ⟨w₃, _, rfl, some₃, blank₃, breaks, found⟩ := exists_next breaks found
    obtain ⟨w₄, w₅, rfl, some₄, blank₄, _, found⟩ := exists_next breaks found
    have blank₅ := words_eq_nil.mp found
    refine ⟨each, w₀, w₁, w₂, w₃, w₄, w₅, ?_, ?_, by simp⟩
    · simp [blank₀, blank₁, blank₂, blank₃, blank₄, blank₅]
    · simp [some₁, some₂, some₃, some₄]
  · intro ⟨each, w₀, w₁, w₂, w₃, w₄, w₅, blanks, parted, whole⟩
    simp only [List.forall_mem_cons, List.not_mem_nil, false_implies, implies_true, and_true]
      at each blanks parted
    obtain ⟨wordA, wordB, wordC, wordD, wordE⟩ := each
    obtain ⟨blank₀, blank₁, blank₂, blank₃, blank₄, blank₅⟩ := blanks
    obtain ⟨some₁, some₂, some₃, some₄⟩ := parted
    have breaks : ∀ {gap rest}, Blank gap → gap ≠ [] → Breaks (gap ++ rest) := by
      intro gap rest blank nonempty c first
      rw [List.head?_append_of_ne_nil _ nonempty] at first
      exact blank.breaks c first
    simp only [whole, List.append_assoc]
    rw [← List.append_assoc, words_of_parts blank₀ wordA (breaks blank₁ some₁),
      ← List.append_assoc, words_of_parts blank₁ wordB (breaks blank₂ some₂),
      ← List.append_assoc, words_of_parts blank₂ wordC (breaks blank₃ some₃),
      ← List.append_assoc, words_of_parts blank₃ wordD (breaks blank₄ some₄),
      ← List.append_assoc, words_of_parts blank₄ wordE blank₅.breaks, words_eq_nil.mpr blank₅]

end Text

/-! ## Splitting -/

theorem Misshapen.message_eq_blank {why : Misshapen} :
    why.message = "Please enter a cron expression" ↔ why = .blank := by
  constructor
  · intro same
    cases why with
    | blank => rfl
    | fieldCount count =>
      have first : (fieldCount count).message.toList.head? = some 'E' := by
        show ("Expected 5 fields, got " ++ natText count ++ _).toList.head? = _
        rw [String.append_assoc, String.toList_append, List.head?_append]
        rfl
      rw [same] at first
      cases first
  · rintro rfl
    rfl

namespace Expression

variable {text : String} {fields : Fields String}

theorem split_eq_ok_iff_words :
    split text = .ok fields ↔ words text.toList = fields.toList.map String.toList := by
  rw [split_eq_ok]
  constructor
  · intro same
    rw [← same, List.map_map]
    simp [Function.comp_def]
  · intro same
    rw [same, List.map_map]
    simp [Function.comp_def]

theorem split_eq_blank : split text = .error .blank ↔ Blank text.toList := by
  rw [← words_eq_nil, split_eq_ofWords]
  unfold ofWords
  split
  · next none => simp [none]
  · next filled => split <;> simpa using filled

/-- What has words, but not five, is refused for their number. -/
theorem split_eq_fieldCount (filled : ¬ Blank text.toList)
    (other : ∀ fields, split text ≠ .ok fields) :
    split text = .error (.fieldCount (words text.toList).length) := by
  cases result : split text with
  | ok fields => exact absurd result (other fields)
  | error why =>
    rw [split_eq_ofWords] at result
    unfold ofWords at result
    split at result
    · next none => exact absurd (words_eq_nil.mp none) filled
    · split at result
      · cases result
      · exact result.symm

/-- An expression is split into five words where it is made of them, with blanks around them and at
least one blank between two. It is blank where it has no words; in every other case it is refused
for the number of its maximal runs of visible characters. -/
theorem split_eq_words (text : String) :
    (∀ fields : Fields String, split text = .ok fields ↔
      (∀ word ∈ fields.toList, Word word.toList) ∧
        ∃ w₀ w₁ w₂ w₃ w₄ w₅, (∀ gap ∈ [w₀, w₁, w₂, w₃, w₄, w₅], Blank gap) ∧
          (∀ gap ∈ [w₁, w₂, w₃, w₄], gap ≠ []) ∧
          text.toList = w₀ ++ fields.minute.toList ++ w₁ ++ fields.hour.toList ++ w₂ ++
            fields.monthDay.toList ++ w₃ ++ fields.month.toList ++ w₄ ++
            fields.weekday.toList ++ w₅) ∧
      ((∃ why, split text = .error why ∧ why.message = "Please enter a cron expression") ↔
        Blank text.toList) ∧
      (¬ Blank text.toList → (∀ fields, split text ≠ .ok fields) →
        ∃ count : Nat, split text = .error (.fieldCount count) ∧
          (runs text.toList).encard = count) := by
  refine ⟨fun fields => ?_, ?_, fun filled other => ?_⟩
  · rw [split_eq_ok_iff_words, ← List.forall_mem_map]
    exact words_eq_five
  · simp only [Misshapen.message_eq_blank, exists_eq_right]
    exact split_eq_blank
  · exact ⟨_, split_eq_fieldCount filled other, encard_runs _⟩

example : split "\t0 9\u3000* *\n1-5 " = .ok ⟨"0", "9", "*", "*", "1-5"⟩ := by decide +kernel

end Expression

end Crontab
