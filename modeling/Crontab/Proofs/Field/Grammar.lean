import Crontab.Field.Part
import Crontab.Fields
import Crontab.Proofs.Text.Numeral
import Crontab.Proofs.Text.Splitting
import Mathlib.Data.List.Nodup

/-!
# The grammar of a field

How a field is written and which values it denotes, as relations on the text: `Domain.Written` for
one part, `Domain.Accepts` and `Domain.Denotes` for a field, and `Domain.MeetsOverlong` for a field
whose reading comes upon a numeral with too many digits.
-/

namespace Crontab

open Text

/-- Every `stride`-th integer from `first` to `last`. -/
structure Stretch where
  first : Int
  last : Int
  stride : Nat
deriving DecidableEq, Repr

instance : Membership Int Stretch where
  mem s v := s.first ≤ v ∧ v ≤ s.last ∧ (s.stride : Int) ∣ v - s.first

theorem Stretch.mem_iff {s : Stretch} {v : Int} :
    v ∈ s ↔ s.first ≤ v ∧ v ≤ s.last ∧ (s.stride : Int) ∣ v - s.first := Iff.rfl

/-! ## Parts -/

namespace Domain

/-- A text, blanks around it aside, stands for a value: by a name of the domain or as a numeral. -/
inductive Stands (d : Domain) (cs : List Char) : Int → Prop
  | name {i : Nat} {name : String} : d.names[i]? = some name → upper (trim cs) = name.toList →
      Stands d cs (d.lo + i)
  | numeral : Numeral (trim cs) → Stands d cs (value (trim cs))

/-- Two values of the domain with a dash between them, in order. -/
inductive Interval (d : Domain) : List Char → Int → Int → Prop
  | dash {start stop : List Char} {a b : Int} : d.Stands start a → d.Stands stop b → a ≤ b →
      a ∈ d → b ∈ d → Interval d (start ++ '-' :: stop) a b

/-- What a step runs through: all values, an interval, or a value and all after it. -/
inductive Spans (d : Domain) : List Char → Int → Int → Prop
  | all : Spans d ['*'] d.lo d.hi
  | interval {text : List Char} {a b : Int} : d.Interval text a b → Spans d text a b
  | onward {text : List Char} {a : Int} : d.Stands text a → a ∈ d → Spans d text a d.hi

/-- A trimmed part that follows the grammar, and the values that it denotes. -/
inductive Written (d : Domain) : List Char → Stretch → Prop
  | wildcard : Written d ['*'] ⟨d.lo, d.hi, 1⟩
  | step {span stride : List Char} {a b : Int} : d.Spans span a b → Numeral stride →
      0 < value stride → Written d (span ++ '/' :: stride) ⟨a, b, value stride⟩
  | interval {text : List Char} {a b : Int} : d.Interval text a b → Written d text ⟨a, b, 1⟩
  | single {text : List Char} {a : Int} : d.Stands text a → a ∈ d → Written d text ⟨a, a, 1⟩

end Domain

/-- A value, or one of the two ends around the first dash, is an overlong numeral. -/
inductive OverlongSpan : List Char → Prop
  | single {text : List Char} : Overlong (trim text) → OverlongSpan text
  | start {start stop : List Char} : '-' ∉ start → Overlong (trim start) →
      OverlongSpan (start ++ '-' :: stop)
  | stop {start stop : List Char} : '-' ∉ start → Overlong (trim stop) →
      OverlongSpan (start ++ '-' :: stop)

/-- Reading a trimmed part comes upon an overlong numeral. The stride of a step is read first, and
its span only where the stride can be used. -/
inductive OverlongPart : List Char → Prop
  | span {text : List Char} : '/' ∉ text → OverlongSpan text → OverlongPart text
  | stride {span stride : List Char} : '/' ∉ span → Overlong stride →
      OverlongPart (span ++ '/' :: stride)
  | spanOfStep {span stride : List Char} : '/' ∉ span → Numeral stride → 0 < value stride →
      OverlongSpan span → OverlongPart (span ++ '/' :: stride)

/-! ## Fields -/

namespace Domain

/-- Every part of the field follows the grammar. -/
def Accepts (d : Domain) (text : String) : Prop :=
  ∀ piece ∈ text.toList.splitOn ',', ∃ stretch, d.Written (trim piece) stretch

/-- Some part of the field denotes the value. -/
def Denotes (d : Domain) (text : String) (v : Int) : Prop :=
  ∃ piece ∈ text.toList.splitOn ',', ∃ stretch, d.Written (trim piece) stretch ∧ v ∈ stretch

/-- Reading the field part by part comes upon an overlong numeral before it comes upon a part that
does not follow the grammar. -/
def MeetsOverlong (d : Domain) (text : String) : Prop :=
  ∃ before piece after, text.toList.splitOn ',' = before ++ piece :: after ∧
    (∀ earlier ∈ before,
      (∃ stretch, d.Written (trim earlier) stretch) ∧ ¬ OverlongPart (trim earlier)) ∧
    OverlongPart (trim piece)

/-! ## Names -/

/-- The names of the domain are different words of capital letters. They and the bounds are integers
of at most nine digits. -/
structure Wellformed (d : Domain) : Prop where
  nodup : d.names.Nodup
  capital : ∀ name ∈ d.names, ∀ c ∈ name.toList, 'A' ≤ c ∧ c ≤ 'Z'
  low : Short d.lo
  high : Short d.hi
  named : ∀ i : Nat, i < d.names.length → Short (d.lo + i)

theorem wellformed_of_mem {d : Domain} (member : d ∈ Domain.ofFields.toList) : d.Wellformed := by
  have spelled : ∀ d ∈ Domain.ofFields.toList, d.names.Nodup ∧
      (d.names.all fun name => name.toList.all fun c => 'A' ≤ c && c ≤ 'Z') = true := by decide
  have short : ∀ d ∈ Domain.ofFields.toList, Short d.lo ∧ Short d.hi ∧
      ∀ i : Nat, i < d.names.length → Short (d.lo + i) := by decide
  obtain ⟨nodup, capital⟩ := spelled d member
  obtain ⟨low, high, named⟩ := short d member
  simp only [List.all_eq_true, Bool.and_eq_true, decide_eq_true_eq] at capital
  exact ⟨nodup, capital, low, high, named⟩

/-- So are the values of the domain. -/
theorem Wellformed.short {d : Domain} {v : Int} (wellformed : d.Wellformed) (inside : v ∈ d) :
    Short v := by
  obtain ⟨low, high⟩ := inside
  have least : d.lo.natAbs < 1000000000 := wellformed.low
  have greatest : d.hi.natAbs < 1000000000 := wellformed.high
  unfold Short
  omega

theorem named?_eq_some {d : Domain} (wellformed : d.Wellformed) {token : List Char} {v : Int} :
    d.named? token = some v ↔
      ∃ (i : Nat) (name : String), d.names[i]? = some name ∧ upper token = name.toList ∧
        d.lo + i = v := by
  have place : d.named? token =
      (d.names.idxOf? (String.ofList (upper token))).map fun i : Nat => d.lo + i := by
    unfold named?
    cases d.names.idxOf? (String.ofList (upper token)) <;> rfl
  rw [place, Option.map_eq_some_iff]
  refine exists_congr fun i => ?_
  rw [List.idxOf?, List.findIdx?_eq_some_iff_getElem]
  constructor
  · intro given
    obtain ⟨⟨inside, same, _⟩, equal⟩ := given
    refine ⟨d.names[i], List.getElem?_eq_getElem inside, ?_, equal⟩
    rw [eq_of_beq same, String.toList_ofList]
  · intro given
    obtain ⟨name, place, same, equal⟩ := given
    obtain ⟨inside, rfl⟩ := List.getElem?_eq_some_iff.mp place
    have text : String.ofList (upper token) = d.names[i] := by rw [same, String.ofList_toList]
    refine ⟨⟨inside, beq_iff_eq.mpr text.symm, fun j earlier found => ?_⟩, equal⟩
    -- no other place has the same name
    have twice : d.names[j] = d.names[i] := (eq_of_beq found).trans text
    have := (List.Nodup.getElem_inj_iff wellformed.nodup).mp twice
    omega

end Domain

theorem upperChar_of_lt_A : ∀ n < 65, upperChar (Char.ofNat n) = [Char.ofNat n] := by decide

namespace Domain

variable {d : Domain} {cs : List Char} {v : Int}

/-- A text that is a name holds letters only. -/
theorem not_mem_of_named {token : List Char} {c : Char} (wellformed : d.Wellformed)
    (named : d.named? token = some v) (low : c.toNat < 65) : c ∉ token := by
  intro member
  obtain ⟨i, name, place, same, _⟩ := (named?_eq_some wellformed).mp named
  have raised : c ∈ upper token := by
    refine List.mem_flatMap.mpr ⟨c, member, ?_⟩
    have fixed := upperChar_of_lt_A c.toNat low
    rw [Char.ofNat_toNat] at fixed
    rw [fixed]
    exact List.mem_singleton_self c
  rw [same] at raised
  have capital := (wellformed.capital name (List.mem_of_getElem? place) c raised).1
  have : 'A'.toNat ≤ c.toNat := UInt32.le_iff_toNat_le.mp (Char.le_def.mp capital)
  have : 'A'.toNat = 65 := rfl
  omega

end Domain

theorem Text.Numeral.toNat_lt {cs : List Char} (numeral : Numeral cs) {c : Char} (member : c ∈ cs) :
    48 ≤ c.toNat ∧ c.toNat < 58 := by
  obtain ⟨low, high⟩ := numeral.digits c member
  have low : '0'.toNat ≤ c.toNat := UInt32.le_iff_toNat_le.mp (Char.le_def.mp low)
  have high : c.toNat ≤ '9'.toNat := UInt32.le_iff_toNat_le.mp (Char.le_def.mp high)
  exact ⟨low, Nat.lt_succ_of_le high⟩

theorem Text.Numeral.not_mem {cs : List Char} (numeral : Numeral cs) {c : Char}
    (low : c.toNat < 48) : c ∉ cs := by
  intro member
  have range := numeral.toNat_lt member
  omega

theorem Text.Numeral.visible {cs : List Char} (numeral : Numeral cs) {c : Char} (member : c ∈ cs) :
    isBlank c = false := by
  have range := numeral.toNat_lt member
  simp [isBlank]
  omega

theorem Text.Numeral.trim_eq {cs : List Char} (numeral : Numeral cs) : trim cs = cs :=
  trim_eq_self fun _ member => numeral.visible member

namespace Domain

variable {d : Domain} {cs : List Char} {v : Int}

/-- No numeral is a name. -/
theorem named?_of_numeral (wellformed : d.Wellformed) {token : List Char}
    (numeral : Numeral token) : d.named? token = none := by
  cases named : d.named? token with
  | none => rfl
  | some v =>
    obtain ⟨c, rest, rfl⟩ := List.exists_cons_of_ne_nil numeral.nonempty
    have range := numeral.toNat_lt List.mem_cons_self
    exact absurd List.mem_cons_self (not_mem_of_named wellformed named (by omega))

/-- A name stands for its own value only. -/
theorem stands_iff_of_named {w : Int} (wellformed : d.Wellformed)
    (named : d.named? (trim cs) = some w) : d.Stands cs v ↔ w = v := by
  constructor
  · intro stands
    cases stands with
    | name place same =>
      have named' := (named?_eq_some wellformed).mpr ⟨_, _, place, same, rfl⟩
      exact Option.some.inj (named.symm.trans named')
    | numeral numeral =>
      rw [named?_of_numeral wellformed numeral] at named
      cases named
  · rintro rfl
    obtain ⟨i, name, place, same, rfl⟩ := (named?_eq_some wellformed).mp named
    exact .name place same

/-- What is no name can only stand for the value of a numeral. -/
theorem stands_iff_of_not_named (wellformed : d.Wellformed) (unnamed : d.named? (trim cs) = none) :
    d.Stands cs v ↔ Numeral (trim cs) ∧ ((value (trim cs) : Nat) : Int) = v := by
  constructor
  · intro stands
    cases stands with
    | name place same =>
      rw [(named?_eq_some wellformed).mpr ⟨_, _, place, same, rfl⟩] at unnamed
      cases unnamed
    | numeral numeral => exact ⟨numeral, rfl⟩
  · intro given
    obtain ⟨numeral, rfl⟩ := given
    exact .numeral numeral

end Domain

/-! ## Marks -/

/-- The characters at which a field and its parts are cut. They lie below the digits. -/
structure Mark (c : Char) : Prop where
  low : c.toNat < 48
  visible : isBlank c = false

theorem mark_dash : Mark '-' := ⟨by decide, by decide⟩

theorem mark_slash : Mark '/' := ⟨by decide, by decide⟩

theorem mark_star : Mark '*' := ⟨by decide, by decide⟩

/-- A numeral holds no mark. -/
theorem Text.Numeral.not_mem_of_trim {cs : List Char} {c : Char}
    (numeral : Numeral (trim cs)) (mark : Mark c) : c ∉ cs := by
  intro member
  exact numeral.not_mem mark.low (mem_trim_of_not_blank member mark.visible)

namespace Domain

variable {d : Domain} {cs : List Char} {a b : Int} {c : Char}

/-- A text that stands for a value holds no mark. -/
theorem Stands.not_mem (wellformed : d.Wellformed) (stands : d.Stands cs a) (mark : Mark c) :
    c ∉ cs := by
  cases stands with
  | name place same =>
    intro member
    have named := (named?_eq_some wellformed).mpr ⟨_, _, place, same, rfl⟩
    have low := mark.low
    exact not_mem_of_named wellformed named (by omega) (mem_trim_of_not_blank member mark.visible)
  | numeral numeral => exact numeral.not_mem_of_trim mark

/-- What a text stands for has at most nine digits. -/
theorem Stands.short (wellformed : d.Wellformed) (stands : d.Stands cs a) : Short a := by
  cases stands with
  | name place => exact wellformed.named _ (List.getElem?_eq_some_iff.mp place).1
  | numeral numeral => exact numeral.short_value

/-- A text that is a part by itself is the only piece of its field. -/
theorem meetsOverlong_of_part {text : String} (noComma : ',' ∉ text.toList)
    (visible : ∀ c ∈ text.toList, isBlank c = false) (long : OverlongPart text.toList) :
    d.MeetsOverlong text := by
  refine ⟨[], text.toList, [], List.splitOn_eq_singleton noComma, by simp, ?_⟩
  rw [trim_eq_self visible]
  exact long

end Domain

end Crontab
