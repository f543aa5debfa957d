import Crontab.Text.Cut
import Mathlib.Data.List.DropRight
import Mathlib.Data.List.TakeWhile

/-!
# Splitting and trimming

What a text is cut into, and which of its characters trimming keeps. `pieces_eq_splitOn` says that
the pieces of a text are those of the list of its characters, `words_append_blank` that its words
are those on either side of a blank, and `splitAtBlanks_of_flush` that a trimmed text is split into
them at its runs of blanks.
-/

namespace Crontab.Text

variable {mark c : Char} {cs before after : List Char}

/-! ## Cutting -/

/-- A text is cut at its first mark. -/
theorem cut_append (absent : mark ∉ before) :
    cut mark (before ++ mark :: after) = some (before, after) := by
  have passed : ∀ d ∈ before, (d != mark) = true := by
    intro d member
    exact bne_iff_ne.mpr fun equal => absent (equal ▸ member)
  rw [cut, List.dropWhile_append_of_pos passed, List.takeWhile_append_of_pos passed]
  simp

theorem cut_eq_none : cut mark cs = none ↔ mark ∉ cs := by
  constructor
  · intro uncut member
    obtain ⟨before, after, rfl, absent⟩ := List.eq_append_cons_of_mem member
    rw [cut_append absent] at uncut
    cases uncut
  · intro absent
    cases h : cut mark cs with
    | none => rfl
    | some parts =>
      obtain ⟨before, after⟩ := parts
      refine absurd ?_ absent
      rw [(cut_eq_some h).1]
      simp

/-- What stands before and after the first mark is determined by the text. -/
theorem eq_of_append_mark {before' after' : List Char} (absent : mark ∉ before)
    (absent' : mark ∉ before') (same : before ++ mark :: after = before' ++ mark :: after') :
    before = before' ∧ after = after' := by
  have first : cut mark (before ++ mark :: after) = some (before, after) := cut_append absent
  rw [same, cut_append absent'] at first
  cases first
  exact ⟨rfl, rfl⟩

/-- The pieces of a text are those between the occurrences of the mark. -/
theorem pieces_eq_splitOn (mark : Char) (cs : List Char) : pieces mark cs = cs.splitOn mark := by
  fun_induction pieces mark cs with
  | case1 cs uncut => exact (List.splitOn_eq_singleton (cut_eq_none.mp uncut)).symm
  | case2 cs before after split _ ih =>
    obtain ⟨rfl, absent⟩ := cut_eq_some split
    rw [List.splitOn_append_cons_self_of_not_mem absent, ih]

/-- What is not the mark is in one of the pieces. -/
theorem mem_splitOn {c : Char} (member : c ∈ cs) (other : c ≠ mark) :
    ∃ piece ∈ cs.splitOn mark, c ∈ piece := by
  rw [← pieces_eq_splitOn]
  fun_induction pieces mark cs with
  | case1 cs uncut => exact ⟨cs, List.mem_singleton_self cs, member⟩
  | case2 cs before after split _ ih =>
    obtain ⟨rfl, _⟩ := cut_eq_some split
    rcases List.mem_append.mp member with first | rest
    · exact ⟨before, List.mem_cons_self, first⟩
    · obtain ⟨piece, listed, inside⟩ := ih (List.mem_of_ne_of_mem other rest)
      exact ⟨piece, List.mem_cons_of_mem _ listed, inside⟩

/-- The pieces of a text hold nothing but what is in the text. -/
theorem subset_of_mem_splitOn {piece : List Char} (listed : piece ∈ cs.splitOn mark) :
    piece ⊆ cs := by
  rw [← pieces_eq_splitOn] at listed
  fun_induction pieces mark cs with
  | case1 cs uncut => exact List.mem_singleton.mp listed ▸ List.Subset.refl _
  | case2 cs before after found _ ih =>
    obtain ⟨rfl, _⟩ := cut_eq_some found
    rcases List.mem_cons.mp listed with rfl | listed
    · exact List.subset_append_left _ _
    · exact fun c member => List.mem_append_right _ (List.mem_cons_of_mem _ (ih listed member))

/-- What may stand after a whole piece: nothing, or the mark and any text. -/
inductive Ending (mark : Char) : List Char → Prop
  | none : Ending mark []
  | more (cs : List Char) : Ending mark (mark :: cs)

/-- What follows a text after a mark leaves the pieces of the text as they are. -/
theorem splitOn_append_ending {stem rest : List Char} (ending : Ending mark rest) :
    ∃ after, (stem ++ rest).splitOn mark = stem.splitOn mark ++ after := by
  cases ending with
  | none => exact ⟨[], by simp⟩
  | more cs => exact ⟨cs.splitOn mark, List.splitOn_append_cons_self ..⟩

/-- Up to any of its pieces a text is a text of the pieces up to there. -/
theorem exists_stem {first last : List (List Char)} {piece : List Char}
    (split : cs.splitOn mark = first ++ piece :: last) :
    ∃ stem rest, cs = stem ++ rest ∧ Ending mark rest ∧ stem.splitOn mark = first ++ [piece] := by
  rw [← pieces_eq_splitOn] at split
  fun_induction pieces mark cs generalizing first with
  | case1 cs uncut =>
    obtain ⟨rfl, rfl, rfl⟩ : first = [] ∧ cs = piece ∧ last = [] := by
      simpa [List.append_eq_cons_iff, eq_comm] using split
    exact ⟨cs, [], by simp, .none, List.splitOn_eq_singleton (cut_eq_none.mp uncut)⟩
  | case2 cs before after found _ ih =>
    obtain ⟨rfl, absent⟩ := cut_eq_some found
    cases first with
    | nil =>
      obtain ⟨rfl, _⟩ := List.cons.inj split
      exact ⟨before, _, rfl, .more after, List.splitOn_eq_singleton absent⟩
    | cons head first =>
      obtain ⟨rfl, tail⟩ := List.cons.inj split
      obtain ⟨stem, rest, rfl, ending, pieces⟩ := ih tail
      refine ⟨before ++ mark :: stem, rest, by simp, ending, ?_⟩
      rw [List.splitOn_append_cons_self_of_not_mem absent, pieces]
      rfl

/-! ## Trimming -/

theorem mem_dropWhile_of_not {p : Char → Bool} (member : c ∈ cs) (kept : p c = false) :
    c ∈ cs.dropWhile p := by
  rw [← List.takeWhile_append_dropWhile (p := p) (l := cs), List.mem_append] at member
  refine member.resolve_left fun dropped => ?_
  have := List.mem_takeWhile_imp dropped
  rw [kept] at this
  cases this

theorem trim_subset (cs : List Char) : trim cs ⊆ cs := by
  intro c member
  rw [trim, trimEnd, List.mem_reverse] at member
  have kept := (List.dropWhile_sublist _).subset member
  exact (List.dropWhile_sublist _).subset (List.mem_reverse.mp kept)

/-- Trimming keeps every character that is not blank. -/
theorem mem_trim_of_not_blank (member : c ∈ cs) (visible : isBlank c = false) : c ∈ trim cs := by
  rw [trim, trimEnd, trimStart, List.mem_reverse]
  exact mem_dropWhile_of_not (List.mem_reverse.mpr (mem_dropWhile_of_not member visible)) visible

/-- A text without blanks is left as it is. -/
theorem trim_eq_self (visible : ∀ c ∈ cs, isBlank c = false) : trim cs = cs := by
  have stays : ∀ l : List Char, (∀ c ∈ l, isBlank c = false) → l.dropWhile isBlank = l := by
    intro l visible
    cases l with
    | nil => rfl
    | cons d l => rw [List.dropWhile_cons_of_neg]; simp [visible d List.mem_cons_self]
  rw [trim, trimEnd, trimStart, stays cs visible, stays cs.reverse, List.reverse_reverse]
  intro c member
  exact visible c (List.mem_reverse.mp member)

/-- A text with a visible character at either end. -/
structure Flush (cs : List Char) : Prop where
  nonempty : cs ≠ []
  first : ∀ c rest, cs = c :: rest → isBlank c = false
  last : ∀ front c, cs = front ++ [c] → isBlank c = false

theorem trim_append_blanks (cs : List Char) :
    ∃ blanks, (∀ c ∈ blanks, isBlank c = true) ∧ trim cs ++ blanks = trimStart cs := by
  refine ⟨((trimStart cs).reverse.takeWhile isBlank).reverse, fun c member => ?_, ?_⟩
  · exact List.mem_takeWhile_imp (List.mem_reverse.mp member)
  · rw [trim, trimEnd, ← List.reverse_append, List.takeWhile_append_dropWhile, List.reverse_reverse]

/-- A text that is not all blank is flush once it is trimmed. -/
theorem flush_trim (filled : trim cs ≠ []) : Flush (trim cs) where
  nonempty := filled
  first c rest form := by
    obtain ⟨blanks, _, start⟩ := trim_append_blanks cs
    rw [form, List.cons_append] at start
    exact head_dropWhile start.symm
  last front c form := by
    have backwards : (trimStart cs).reverse.dropWhile isBlank = c :: front.reverse := by
      rw [← List.reverse_inj, List.reverse_cons, List.reverse_reverse, ← form]
      rfl
    exact head_dropWhile backwards

/-- There is a visible character behind every blank of a flush text. -/
theorem Flush.dropWhile {rest : List Char} (flush : Flush (before ++ c :: rest))
    (blank : isBlank c = true) : Flush (rest.dropWhile isBlank) where
  nonempty none := by
    have all : ∀ d ∈ c :: rest, isBlank d = true :=
      List.forall_mem_cons.mpr ⟨blank, List.dropWhile_eq_nil_iff.mp none⟩
    obtain ⟨front, d, form⟩ :=
      (List.eq_nil_or_concat' (c :: rest)).resolve_left (List.cons_ne_nil c rest)
    have visible := flush.last (before ++ front) d (by rw [form, List.append_assoc])
    rw [all d (by simp [form])] at visible
    cases visible
  first d more form := head_dropWhile form
  last front d form := by
    refine flush.last (before ++ c :: rest.takeWhile isBlank ++ front) d ?_
    rw [List.append_assoc, List.append_assoc, ← form]
    simp

/-! ## Words -/

theorem words_of_blank (blank : cs.dropWhile isBlank = []) : words cs = [] := by
  rw [words]
  split
  · rfl
  · next found =>
    rw [blank] at found
    cases found

/-- The first word starts at the first visible character and ends before the next blank. -/
theorem words_of_first {first : Char} {rest : List Char}
    (start : cs.dropWhile isBlank = first :: rest) :
    words cs = (first :: rest.takeWhile (! isBlank ·)) :: words (rest.dropWhile (! isBlank ·)) := by
  rw [words]
  split
  · next empty =>
    rw [start] at empty
    cases empty
  · next found =>
    rw [start] at found
    cases found
    rfl

/-- Blanks in front make no difference to the words. -/
theorem words_congr {cs' : List Char} (same : cs.dropWhile isBlank = cs'.dropWhile isBlank) :
    words cs = words cs' := by
  cases start : cs'.dropWhile isBlank with
  | nil => rw [words_of_blank start, words_of_blank (same.trans start)]
  | cons first rest => rw [words_of_first start, words_of_first (same.trans start)]

/-- A text has the words before and the words after any of its blanks. -/
theorem words_append_blank (blank : isBlank c = true) (cs after : List Char) :
    words (cs ++ c :: after) = words cs ++ words after := by
  fun_induction words cs with
  | case1 cs empty =>
    apply words_congr
    rw [List.dropWhile_append, empty]
    simp [blank]
  | case2 cs first rest start _ ih =>
    have passed : (cs ++ c :: after).dropWhile isBlank = first :: (rest ++ c :: after) := by
      rw [List.dropWhile_append, start]
      rfl
    have taken : (rest ++ c :: after).takeWhile (! isBlank ·) = rest.takeWhile (! isBlank ·) := by
      rw [List.takeWhile_append]
      split
      · next all => simp [blank, (List.takeWhile_prefix _).eq_of_length all]
      · rfl
    have left : words ((rest ++ c :: after).dropWhile (! isBlank ·)) =
        words (rest.dropWhile (! isBlank ·) ++ c :: after) := by
      rw [List.dropWhile_append]
      split
      · next none => simp [blank, List.isEmpty_iff.mp none]
      · rfl
    rw [words_of_first passed, taken, left, ih]
    rfl

/-- The words of a text hold nothing but what is in the text. -/
theorem subset_of_mem_words {word : List Char} (listed : word ∈ words cs) : word ⊆ cs := by
  fun_induction words cs with
  | case1 => cases listed
  | case2 cs first rest found _ ih =>
    have kept : first :: rest ⊆ cs := found ▸ (List.dropWhile_sublist _).subset
    rcases List.mem_cons.mp listed with rfl | listed
    · exact fun c member => kept (((List.takeWhile_sublist _).cons_cons first).subset member)
    · have later := List.Subset.trans (ih listed) (List.dropWhile_sublist _).subset
      exact fun c member => kept (List.mem_cons_of_mem first (later member))

theorem flatten_words_subset (cs : List Char) : (words cs).flatten ⊆ cs := by
  intro c member
  obtain ⟨word, listed, inside⟩ := List.mem_flatten.mp member
  exact subset_of_mem_words listed inside

/-- A text without blanks is a word. -/
theorem words_of_visible (nonempty : cs ≠ []) (visible : ∀ c ∈ cs, isBlank c = false) :
    words cs = [cs] := by
  obtain ⟨first, rest, rfl⟩ := List.exists_cons_of_ne_nil nonempty
  have start : (first :: rest).dropWhile isBlank = first :: rest := by
    rw [List.dropWhile_cons_of_neg]
    simp [visible first List.mem_cons_self]
  have all : ∀ d ∈ rest, (!isBlank d) = true := by
    intro d member
    simp [visible d (List.mem_cons_of_mem _ member)]
  rw [words_of_first start, List.takeWhile_eq_self_iff.mpr all, List.dropWhile_eq_nil_iff.mpr all,
    words_of_blank rfl]

/-- Visible characters up to a blank are a word. -/
theorem words_append {word rest : List Char} (nonempty : word ≠ [])
    (visible : ∀ c ∈ word, isBlank c = false) (blank : isBlank c = true) :
    words (word ++ c :: rest) = word :: words (c :: rest) := by
  have skipped : words (c :: rest) = words rest := words_congr (by simp [blank])
  rw [words_append_blank blank, words_of_visible nonempty visible, skipped]
  rfl

/-- A space between two texts parts their words. -/
theorem words_space (a b : String) :
    words (a ++ " " ++ b).toList = words a.toList ++ words b.toList := by
  rw [String.append_assoc, String.toList_append, String.toList_append]
  exact words_append_blank rfl a.toList b.toList

/-! ## Splitting at blanks -/

/-- Blanks at the end make no difference to the words. -/
theorem words_append_blanks (cs : List Char) {blanks : List Char}
    (blank : ∀ c ∈ blanks, isBlank c = true) : words (cs ++ blanks) = words cs := by
  cases blanks with
  | nil => rw [List.append_nil]
  | cons c blanks =>
    obtain ⟨first, rest⟩ := List.forall_mem_cons.mp blank
    rw [words_append_blank first, words_of_blank (List.dropWhile_eq_nil_iff.mpr rest),
      List.append_nil]

theorem words_dropWhile (cs : List Char) : words (cs.dropWhile isBlank) = words cs :=
  words_congr (List.dropWhile_idempotent _ cs)

theorem words_trim (cs : List Char) : words (trim cs) = words cs := by
  obtain ⟨blanks, blank, start⟩ := trim_append_blanks cs
  rw [← words_append_blanks (trim cs) blank, start]
  exact words_dropWhile cs

/-- A flush text is split into its words. -/
theorem splitAtBlanks_of_flush (flush : Flush cs) : splitAtBlanks cs = words cs := by
  fun_induction splitAtBlanks cs with
  | case1 cs all =>
    have visible : ∀ c ∈ cs, isBlank c = false := fun c member => by
      simpa using List.dropWhile_eq_nil_iff.mp all c member
    exact (words_of_visible flush.nonempty visible).symm
  | case2 cs b rest found _ ih =>
    have blank : isBlank b = true := by simpa using head_dropWhile found
    have parted : cs.takeWhile (! isBlank ·) ++ b :: rest = cs := by
      rw [← found, List.takeWhile_append_dropWhile]
    have visible : ∀ c ∈ cs.takeWhile (! isBlank ·), isBlank c = false := fun c member => by
      simpa using List.mem_takeWhile_imp member
    have nonempty : cs.takeWhile (! isBlank ·) ≠ [] := by
      intro empty
      have start := flush.first b rest (by rw [← parted, empty, List.nil_append])
      rw [blank] at start
      cases start
    have flush' : Flush (rest.dropWhile isBlank) := (parted ▸ flush).dropWhile blank
    calc cs.takeWhile (! isBlank ·) :: splitAtBlanks (rest.dropWhile isBlank)
      _ = [cs.takeWhile (! isBlank ·)] ++ words rest := by rw [ih flush', words_dropWhile]; rfl
      _ = words (cs.takeWhile (! isBlank ·) ++ b :: rest) := by
        rw [words_append_blank blank, words_of_visible nonempty visible]
      _ = words cs := by rw [parted]

theorem trim_eq_nil : trim cs = [] ↔ words cs = [] := by
  rw [← words_trim cs]
  constructor
  · intro empty
    rw [empty]
    exact words_of_blank rfl
  · intro none
    by_contra filled
    rw [← splitAtBlanks_of_flush (flush_trim filled), splitAtBlanks] at none
    split at none <;> cases none

end Crontab.Text
