import Crontab.Proofs.Evaluation
import Crontab.Proofs.Field.Forms

/-!
# Expanding a part

When a part of a field is expanded and into which values, said of its text: `resolve_eq_some` for an
end of a range, `interval_eq_ok` for a range, `span_eq_ok` for what a step runs through, and
`expand_eq_ok` for the part.
-/

namespace Crontab

open Text

/-! ## Ends and intervals -/

namespace Domain

variable {d : Domain} {cs start stop text : List Char} {v a b : Int} {fault : Fault}

theorem bounded_eq_ok_iff {w : Int} : d.bounded v = .ok w ↔ v ∈ d ∧ v = w := by
  rw [bounded]
  split
  · next inside => simp [inside]
  · next outside => simp [outside, refuse_ne_ok]

/-! What a refusal says of a domain that is wellformed can be written. -/

theorem writable_outOfRange (wellformed : d.Wellformed) (short : Short v) :
    ∀ n ∈ (Refusal.outOfRange v d.lo d.hi).numbers, isWritable n = true := by
  simp [Refusal.numbers, isWritable_of_short, short, wellformed.low, wellformed.high]

theorem writable_reversed (short : Short a) (short' : Short b) :
    ∀ n ∈ (Refusal.reversed a b).numbers, isWritable n = true := by
  simp [Refusal.numbers, isWritable_of_short, short, short']

theorem bounded_ne_fault (wellformed : d.Wellformed) (short : Short v) :
    d.bounded v ≠ .error (.fault fault) := by
  intro failed
  rw [bounded] at failed
  split at failed
  · cases failed
  · exact (refuse_eq_fault.mp failed).1 (writable_outOfRange wellformed short)

/-- The end of a range is read as the value that it stands for. -/
theorem resolve_eq_some (wellformed : d.Wellformed) :
    d.resolve cs = .ok (some v) ↔ d.Stands cs v ∧ ¬ Overlong (trim cs) := by
  rw [resolve]
  cases named : d.named? (trim cs) with
  | some w =>
    have short : ¬ Overlong (trim cs) := fun long => by
      rw [named?_of_numeral wellformed long.toNumeral] at named
      cases named
    simp [stands_iff_of_named wellformed named, short]
  | none =>
    rw [stands_iff_of_not_named wellformed named]
    cases read : readNumeral (trim cs) with
    | error fault =>
      have long := (readNumeral_eq_error.mp read).1
      simp [Except.map, long]
    | ok number =>
      cases number with
      | none =>
        have noNumeral := readNumeral_eq_none.mp read
        simp [Except.map, noNumeral]
      | some n =>
        obtain ⟨⟨numeral, short⟩, rfl⟩ := readNumeral_eq_some.mp read
        simp [Except.map, numeral, short]

/-- Reading the end of a range fails where it is an overlong numeral. -/
theorem resolve_eq_error (wellformed : d.Wellformed) :
    d.resolve cs = .error fault ↔ Overlong (trim cs) ∧ fault = .tooManyDigits (trim cs).length := by
  rw [resolve, ← readNumeral_eq_error]
  cases named : d.named? (trim cs) with
  | some w =>
    have noNumeral : ¬ Numeral (trim cs) := fun numeral => by
      rw [named?_of_numeral wellformed numeral] at named
      cases named
    simp [readNumeral_eq_none.mpr noNumeral]
  | none => cases readNumeral (trim cs) <;> simp [Except.map]

/-- An end of a range that is no overlong numeral is read. -/
theorem exists_resolve (wellformed : d.Wellformed) (short : ¬ Overlong (trim cs)) :
    ∃ v?, d.resolve cs = .ok v? := by
  cases read : d.resolve cs with
  | error fault => exact absurd ((resolve_eq_error wellformed).mp read).1 short
  | ok v? => exact ⟨v?, rfl⟩

theorem short_of_resolve (wellformed : d.Wellformed) (read : d.resolve cs = .ok (some v)) :
    Short v := ((resolve_eq_some wellformed).mp read).1.short wellformed

theorem not_overlong_of_resolve (wellformed : d.Wellformed) {v? : Option Int}
    (read : d.resolve cs = .ok v?) : ¬ Overlong (trim cs) := by
  intro long
  rw [(resolve_eq_error wellformed).mpr ⟨long, rfl⟩] at read
  cases read

/-- Once the end of a range is read, it is known for what it stands. -/
theorem stands_iff_of_resolve (wellformed : d.Wellformed) {v? : Option Int}
    (read : d.resolve cs = .ok v?) : d.Stands cs v ↔ v? = some v := by
  have short := not_overlong_of_resolve wellformed read
  have answer : d.resolve cs = .ok (some v) ↔ _ := resolve_eq_some wellformed
  rw [read] at answer
  simpa [short] using answer.symm

/-- A range is read where both ends are, and where they are in order and inside the domain. -/
theorem interval_eq_ok (wellformed : d.Wellformed) :
    d.interval start stop = .ok (a, b) ↔
      (d.Stands start a ∧ ¬ Overlong (trim start)) ∧ (d.Stands stop b ∧ ¬ Overlong (trim stop)) ∧
        a ≤ b ∧ a ∈ d ∧ b ∈ d := by
  rw [← resolve_eq_some wellformed, ← resolve_eq_some wellformed]
  simp only [interval, bind_eq_ok, orFault_eq_ok]
  constructor
  · intro given
    obtain ⟨first, hfirst, last, hlast, answered⟩ := given
    split at answered
    · next x y =>
      split at answered
      · exact absurd answered refuse_ne_ok
      · next ordered =>
        simp only [bind_eq_ok, bounded_eq_ok_iff] at answered
        obtain ⟨_, ⟨insideX, rfl⟩, _, ⟨insideY, rfl⟩, equal⟩ := answered
        cases equal
        exact ⟨hfirst, hlast, by omega, insideX, insideY⟩
    · exact absurd answered refuse_ne_ok
  · intro given
    obtain ⟨hfirst, hlast, ordered, insideA, insideB⟩ := given
    refine ⟨some a, hfirst, some b, hlast, ?_⟩
    simp only [if_neg (show ¬ b < a by omega), bounded, if_pos insideA, if_pos insideB]
    rfl

end Domain

/-! ## Spans -/

namespace Domain

variable {d : Domain} {start stop text : List Char} {a b : Int} {fault : Fault}

/-- A span is read where it follows the grammar and has no overlong numeral. -/
theorem span_eq_ok (wellformed : d.Wellformed) :
    d.span text = .ok (a, b) ↔ d.Spans text a b ∧ ¬ OverlongSpan text := by
  rw [span]
  by_cases all : text = Part.star
  · subst all
    rw [if_pos rfl, spans_star wellformed]
    simp [not_overlongSpan_star, eq_comm]
  rw [if_neg all]
  split
  · next start stop found =>
    obtain ⟨rfl, absent⟩ := cut_eq_some found
    rw [interval_eq_ok wellformed, spans_dash wellformed, interval_dash wellformed absent,
      overlongSpan_dash absent]
    tauto
  · next uncut =>
    have noDash := cut_eq_none.mp uncut
    simp only [bind_eq_ok, orFault_eq_ok]
    rw [spans_plain all noDash, overlongSpan_plain noDash]
    constructor
    · intro given
      obtain ⟨first, read, answered⟩ := given
      split at answered
      · next v =>
        obtain ⟨_, checked, equal⟩ := bind_eq_ok.mp answered
        obtain ⟨inside, rfl⟩ := bounded_eq_ok_iff.mp checked
        cases equal
        obtain ⟨stands, short⟩ := (resolve_eq_some wellformed).mp read
        exact ⟨⟨stands, inside, rfl⟩, short⟩
      · exact absurd answered refuse_ne_ok
    · intro given
      obtain ⟨⟨stands, inside, rfl⟩, short⟩ := given
      refine ⟨some a, (resolve_eq_some wellformed).mpr ⟨stands, short⟩, ?_⟩
      exact bind_eq_ok.mpr ⟨a, bounded_eq_ok_iff.mpr ⟨inside, rfl⟩, rfl⟩

end Domain

/-! ## Parts -/

/-- The values of a stretch, in ascending order. -/
def Stretch.list (s : Stretch) : List Int := progression s.first s.last s.stride

theorem Stretch.mem_list {s : Stretch} (positive : 0 < s.stride) {v : Int} :
    v ∈ s.list ↔ v ∈ s := mem_progression positive

theorem progression_self (a : Int) : progression a a 1 = [a] := by
  simp [progression]

namespace Part

variable {d : Domain} {text cs : List Char} {part : Part} {values : List Int} {fault : Fault}

theorem Forms.expand_eq_ok (wellformed : d.Wellformed) (forms : Forms text part) :
    part.expand d = .ok values ↔
      (∃ stretch, d.Written text stretch ∧ values = stretch.list) ∧ ¬ OverlongPart text := by
  cases forms with
  | wildcard =>
    have short : ¬ OverlongPart star := fun long =>
      not_overlongSpan_star ((overlongPart_plain (by decide)).mp long)
    simp only [Domain.written_star wellformed, exists_eq_left, short, not_false_eq_true, and_true]
    exact ⟨fun equal => (Except.ok.inj equal).symm, fun equal => equal ▸ rfl⟩
  | @step span stride absent =>
    simp only [Domain.written_step wellformed absent, overlongPart_step absent, expand, bind_eq_ok,
      orFault_eq_ok]
    constructor
    · intro given
      obtain ⟨number, read, answered⟩ := given
      split at answered
      · next n =>
        obtain ⟨⟨numeral, short⟩, positive⟩ := readNumeral_eq_some.mp read
        obtain ⟨⟨a, b⟩, found, equal⟩ := bind_eq_ok.mp answered
        obtain ⟨spans, shortSpan⟩ := (Domain.span_eq_ok wellformed).mp found
        cases equal
        refine ⟨⟨_, ⟨a, b, spans, ⟨numeral, by omega⟩, rfl⟩, ?_⟩, ?_⟩
        · rw [Stretch.list, positive]
        · intro given
          rcases given with long | ⟨_, _, long⟩
          · exact short long
          · exact shortSpan long
      · exact absurd answered refuse_ne_ok
    · intro given
      obtain ⟨⟨_, ⟨a, b, spans, ⟨numeral, positive⟩, rfl⟩, rfl⟩, short⟩ := given
      obtain ⟨n, equal⟩ : ∃ n, value stride = n + 1 := ⟨value stride - 1, by omega⟩
      have shortStride : ¬ Overlong stride := fun long => short (Or.inl long)
      have shortSpan : ¬ OverlongSpan span := fun long =>
        short (Or.inr ⟨numeral, positive, long⟩)
      refine ⟨some (n + 1), readNumeral_eq_some.mpr ⟨⟨numeral, shortStride⟩, equal⟩, ?_⟩
      refine bind_eq_ok.mpr ⟨(a, b), (Domain.span_eq_ok wellformed).mpr ⟨spans, shortSpan⟩, ?_⟩
      rw [Stretch.list, equal]
      rfl
  | @range start stop noSlash absent =>
    simp only [Domain.written_range wellformed noSlash, overlongPart_plain noSlash,
      overlongSpan_dash absent, Domain.interval_dash wellformed absent, expand, bind_eq_ok]
    constructor
    · intro given
      obtain ⟨⟨a, b⟩, found, equal⟩ := given
      obtain ⟨⟨standsA, shortA⟩, ⟨standsB, shortB⟩, rest⟩ :=
        (Domain.interval_eq_ok wellformed).mp found
      cases equal
      exact ⟨⟨_, ⟨a, b, ⟨standsA, standsB, rest⟩, rfl⟩, rfl⟩, fun long => long.elim shortA shortB⟩
    · intro given
      obtain ⟨⟨_, ⟨a, b, ⟨standsA, standsB, rest⟩, rfl⟩, rfl⟩, short⟩ := given
      refine ⟨(a, b), (Domain.interval_eq_ok wellformed).mpr ?_, rfl⟩
      exact ⟨⟨standsA, fun h => short (Or.inl h)⟩, ⟨standsB, fun h => short (Or.inr h)⟩, rest⟩
  | single other noSlash noDash =>
    simp only [Domain.written_single other noSlash noDash, overlongPart_plain noSlash,
      overlongSpan_plain noDash, expand, bind_eq_ok, orFault_eq_ok]
    constructor
    · intro given
      obtain ⟨v?, read, answered⟩ := given
      split at answered
      · next v =>
        obtain ⟨_, checked, equal⟩ := bind_eq_ok.mp answered
        obtain ⟨inside, rfl⟩ := Domain.bounded_eq_ok_iff.mp checked
        cases equal
        obtain ⟨stands, short⟩ := (Domain.resolve_eq_some wellformed).mp read
        exact ⟨⟨_, ⟨v, stands, inside, rfl⟩, (progression_self v).symm⟩, short⟩
      · exact absurd answered refuse_ne_ok
    · intro given
      obtain ⟨⟨_, ⟨v, stands, inside, rfl⟩, rfl⟩, short⟩ := given
      refine ⟨some v, (Domain.resolve_eq_some wellformed).mpr ⟨stands, short⟩, ?_⟩
      refine bind_eq_ok.mpr ⟨v, Domain.bounded_eq_ok_iff.mpr ⟨inside, rfl⟩, ?_⟩
      rw [Stretch.list, progression_self]
      rfl

/-- A part is expanded where it follows the grammar and reading it comes upon no overlong numeral,
and then into the values that it denotes. -/
theorem expand_eq_ok (wellformed : d.Wellformed) :
    (ofText cs).expand d = .ok values ↔
      (∃ stretch, d.Written (trim cs) stretch ∧ values = stretch.list) ∧
        ¬ OverlongPart (trim cs) :=
  (forms_ofText cs).expand_eq_ok wellformed

end Part

end Crontab
