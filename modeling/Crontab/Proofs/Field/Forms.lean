import Crontab.Proofs.Field.Grammar

/-!
# Forms of parts

The form of a part decides which rule of the grammar it can follow and where an overlong numeral
can stand in it: one lemma for each form.
-/

namespace Crontab

open Text

/-! ## Forms -/

namespace Part

/-- The form of a trimmed text: what it is cut into, at which mark. -/
inductive Forms : List Char → Part → Prop
  | wildcard : Forms star .wildcard
  | step {span stride : List Char} : '/' ∉ span →
      Forms (span ++ '/' :: stride) (.step span stride)
  | range {start stop : List Char} : '/' ∉ start ++ '-' :: stop → '-' ∉ start →
      Forms (start ++ '-' :: stop) (.range start stop)
  | single {text : List Char} : text ≠ star → '/' ∉ text → '-' ∉ text → Forms text (.single text)

/-- The form of a part is that of its trimmed text. -/
theorem forms_ofText (cs : List Char) : Forms (trim cs) (ofText cs) := by
  unfold ofText
  dsimp only
  split
  · next equal =>
    rw [equal]
    exact .wildcard
  · next other =>
    split
    · next span stride found =>
      obtain ⟨equal, absent⟩ := cut_eq_some found
      rw [equal]
      exact .step absent
    · next noSlash =>
      have noSlash := cut_eq_none.mp noSlash
      split
      · next start stop found =>
        obtain ⟨equal, absent⟩ := cut_eq_some found
        rw [equal] at noSlash ⊢
        exact .range noSlash absent
      · next noDash => exact .single other noSlash (cut_eq_none.mp noDash)

end Part

/-! ## Overlong numerals -/

variable {start stop span stride text : List Char}

theorem overlongSpan_dash (absent : '-' ∉ start) :
    OverlongSpan (start ++ '-' :: stop) ↔ Overlong (trim start) ∨ Overlong (trim stop) := by
  constructor
  · intro long
    generalize same : start ++ '-' :: stop = text at long
    cases long with
    | single long => exact absurd (by simp [← same]) (long.not_mem_of_trim mark_dash)
    | start absent' long =>
      obtain ⟨rfl, rfl⟩ := eq_of_append_mark absent absent' same
      exact Or.inl long
    | stop absent' long =>
      obtain ⟨rfl, rfl⟩ := eq_of_append_mark absent absent' same
      exact Or.inr long
  · intro given
    rcases given with long | long
    · exact .start absent long
    · exact .stop absent long

theorem overlongSpan_plain (noDash : '-' ∉ text) : OverlongSpan text ↔ Overlong (trim text) := by
  constructor
  · intro long
    cases long with
    | single long => exact long
    | start => exact absurd (by simp) noDash
    | stop => exact absurd (by simp) noDash
  · exact .single

theorem not_overlongSpan_star : ¬ OverlongSpan Part.star := by
  intro long
  have long := (overlongSpan_plain (by decide)).mp long
  exact long.not_mem_of_trim mark_star List.mem_cons_self

theorem overlongPart_step (absent : '/' ∉ span) :
    OverlongPart (span ++ '/' :: stride) ↔
      Overlong stride ∨ Numeral stride ∧ 0 < value stride ∧ OverlongSpan span := by
  constructor
  · intro long
    generalize same : span ++ '/' :: stride = text at long
    cases long with
    | span noSlash => exact absurd (by simp [← same]) noSlash
    | stride absent' long =>
      obtain ⟨rfl, rfl⟩ := eq_of_append_mark absent absent' same
      exact Or.inl long
    | spanOfStep absent' numeral positive long =>
      obtain ⟨rfl, rfl⟩ := eq_of_append_mark absent absent' same
      exact Or.inr ⟨numeral, positive, long⟩
  · intro given
    rcases given with long | ⟨numeral, positive, long⟩
    · exact .stride absent long
    · exact .spanOfStep absent numeral positive long

theorem overlongPart_plain (noSlash : '/' ∉ text) :
    OverlongPart text ↔ OverlongSpan text := by
  constructor
  · intro long
    cases long with
    | span _ long => exact long
    | stride => exact absurd (by simp) noSlash
    | spanOfStep => exact absurd (by simp) noSlash
  · exact .span noSlash

/-! ## Rules -/

namespace Domain

variable {d : Domain} {start stop span stride text : List Char} {a b v : Int} {stretch : Stretch}

theorem Written.stride_pos (written : d.Written text stretch) : 0 < stretch.stride := by
  cases written with
  | wildcard => exact Nat.one_pos
  | step _ _ positive => exact positive
  | interval => exact Nat.one_pos
  | single => exact Nat.one_pos

theorem Interval.bounds (interval : d.Interval text a b) : a ∈ d ∧ b ∈ d := by
  cases interval with
  | dash _ _ _ insideA insideB => exact ⟨insideA, insideB⟩

theorem Interval.not_mem_slash (wellformed : d.Wellformed) (interval : d.Interval text a b) :
    '/' ∉ text := by
  cases interval with
  | dash standsA standsB =>
    have absentA := standsA.not_mem wellformed mark_slash
    have absentB := standsB.not_mem wellformed mark_slash
    simp [absentA, absentB]

theorem Spans.not_mem_slash (wellformed : d.Wellformed) (spans : d.Spans text a b) :
    '/' ∉ text := by
  cases spans with
  | all => decide
  | interval interval => exact interval.not_mem_slash wellformed
  | onward stands => exact stands.not_mem wellformed mark_slash

theorem interval_dash (wellformed : d.Wellformed) (absent : '-' ∉ start) :
    d.Interval (start ++ '-' :: stop) a b ↔
      d.Stands start a ∧ d.Stands stop b ∧ a ≤ b ∧ a ∈ d ∧ b ∈ d := by
  constructor
  · intro interval
    generalize same : start ++ '-' :: stop = text at interval
    cases interval with
    | dash standsA standsB ordered insideA insideB =>
      have absent' := standsA.not_mem wellformed mark_dash
      obtain ⟨rfl, rfl⟩ := eq_of_append_mark absent absent' same
      exact ⟨standsA, standsB, ordered, insideA, insideB⟩
  · intro given
    obtain ⟨standsA, standsB, ordered, insideA, insideB⟩ := given
    exact .dash standsA standsB ordered insideA insideB

theorem not_interval (noDash : '-' ∉ text) : ¬ d.Interval text a b := by
  rintro ⟨⟩
  simp at noDash

theorem spans_star (wellformed : d.Wellformed) : d.Spans Part.star a b ↔ a = d.lo ∧ b = d.hi := by
  constructor
  · intro spans
    cases spans with
    | all => exact ⟨rfl, rfl⟩
    | interval interval => exact absurd interval (not_interval (by decide))
    | onward stands => exact absurd List.mem_cons_self (stands.not_mem wellformed mark_star)
  · intro given
    obtain ⟨rfl, rfl⟩ := given
    exact .all

theorem spans_dash (wellformed : d.Wellformed) :
    d.Spans (start ++ '-' :: stop) a b ↔ d.Interval (start ++ '-' :: stop) a b := by
  constructor
  · intro spans
    generalize same : start ++ '-' :: stop = text at spans ⊢
    have dash : '-' ∈ text := by simp [← same]
    cases spans with
    | all => exact absurd dash (by decide)
    | interval interval => exact interval
    | onward stands => exact absurd dash (stands.not_mem wellformed mark_dash)
  · exact .interval

theorem spans_plain (other : text ≠ Part.star) (noDash : '-' ∉ text) :
    d.Spans text a b ↔ d.Stands text a ∧ a ∈ d ∧ b = d.hi := by
  constructor
  · intro spans
    cases spans with
    | all => exact absurd rfl other
    | interval interval => exact absurd interval (not_interval noDash)
    | onward stands inside => exact ⟨stands, inside, rfl⟩
  · intro given
    obtain ⟨stands, inside, rfl⟩ := given
    exact .onward stands inside

/-- The form of a part is that of its text, and only one rule of the grammar fits each form. -/
theorem written_step (wellformed : d.Wellformed) (absent : '/' ∉ span) :
    d.Written (span ++ '/' :: stride) stretch ↔
      ∃ a b, d.Spans span a b ∧ (Numeral stride ∧ 0 < value stride) ∧
        stretch = ⟨a, b, value stride⟩ := by
  constructor
  · intro written
    generalize same : span ++ '/' :: stride = text at written
    have slash : '/' ∈ text := by simp [← same]
    cases written with
    | wildcard => exact absurd slash (by decide)
    | step spans numeral positive =>
      have absent' := spans.not_mem_slash wellformed
      obtain ⟨rfl, rfl⟩ := eq_of_append_mark absent absent' same
      exact ⟨_, _, spans, ⟨numeral, positive⟩, rfl⟩
    | interval interval => exact absurd slash (interval.not_mem_slash wellformed)
    | single stands => exact absurd slash (stands.not_mem wellformed mark_slash)
  · intro given
    obtain ⟨a, b, spans, ⟨numeral, positive⟩, rfl⟩ := given
    exact .step spans numeral positive

theorem written_range (wellformed : d.Wellformed)
    (noSlash : '/' ∉ start ++ '-' :: stop) :
    d.Written (start ++ '-' :: stop) stretch ↔
      ∃ a b, d.Interval (start ++ '-' :: stop) a b ∧ stretch = ⟨a, b, 1⟩ := by
  constructor
  · intro written
    generalize same : start ++ '-' :: stop = text at written noSlash ⊢
    have dash : '-' ∈ text := by simp [← same]
    cases written with
    | wildcard => exact absurd dash (by decide)
    | step => exact absurd (by simp) noSlash
    | interval interval => exact ⟨_, _, interval, rfl⟩
    | single stands => exact absurd dash (stands.not_mem wellformed mark_dash)
  · intro given
    obtain ⟨a, b, interval, rfl⟩ := given
    exact .interval interval

theorem written_single (other : text ≠ Part.star) (noSlash : '/' ∉ text)
    (noDash : '-' ∉ text) :
    d.Written text stretch ↔ ∃ a, d.Stands text a ∧ a ∈ d ∧ stretch = ⟨a, a, 1⟩ := by
  constructor
  · intro written
    cases written with
    | wildcard => exact absurd rfl other
    | step => exact absurd (by simp) noSlash
    | interval interval => exact absurd interval (not_interval noDash)
    | single stands inside => exact ⟨_, stands, inside, rfl⟩
  · intro given
    obtain ⟨a, stands, inside, rfl⟩ := given
    exact .single stands inside

theorem written_star (wellformed : d.Wellformed) :
    d.Written Part.star stretch ↔ stretch = ⟨d.lo, d.hi, 1⟩ := by
  constructor
  · intro written
    generalize same : Part.star = text at written
    cases written with
    | wildcard => rfl
    | step =>
      have : '/' ∈ Part.star := by simp [same]
      exact absurd this (by decide)
    | interval interval => exact absurd interval (not_interval (same ▸ by decide))
    | single stands =>
      exact absurd (same ▸ List.mem_cons_self) (stands.not_mem wellformed mark_star)
  · rintro rfl
    exact .wildcard

/-! ## Where the values lie -/

theorem Spans.bounds (spans : d.Spans text a b) : d.lo ≤ a ∧ b ≤ d.hi := by
  cases spans with
  | all => exact ⟨Int.le_refl _, Int.le_refl _⟩
  | interval interval => exact ⟨interval.bounds.1.1, interval.bounds.2.2⟩
  | onward _ inside => exact ⟨inside.1, Int.le_refl _⟩

/-- A part denotes values of its domain only. -/
theorem Written.mem_domain (written : d.Written text stretch) (member : v ∈ stretch) : v ∈ d := by
  obtain ⟨above, below, _⟩ := member
  cases written with
  | wildcard => exact ⟨above, below⟩
  | step spans => exact ⟨Int.le_trans spans.bounds.1 above, Int.le_trans below spans.bounds.2⟩
  | interval interval =>
    exact ⟨Int.le_trans interval.bounds.1.1 above, Int.le_trans below interval.bounds.2.2⟩
  | single _ inside => exact ⟨Int.le_trans inside.1 above, Int.le_trans below inside.2⟩

end Domain

end Crontab
