import Crontab.Field.Domain
import Crontab.Field.Part
import Crontab.Field.Refusal
import Crontab.Text.Numeral

/-!
# The values of a part

Each part of a field stands for values of the field's domain, or is refused. `mem_progression`
says which values a step runs through.
-/

namespace Crontab

open Text

/-- The outcome of an evaluation that a refusal or a fault may stop. -/
abbrev Evaluation (α : Type) := Except (Stop Refusal) α

/-- Refuses a part. The refusal carries its message, which cannot be put together where it would
say an integer with too many digits. -/
def refuse {α : Type} (why : Refusal) : Evaluation α := do
  orFault (sayable why.numbers)
  .error (.refused why)

namespace Domain

/-- The value that one end of a range stands for, blanks around it aside: a name of the domain
before a numeral; `none` where it is neither. -/
def resolve (d : Domain) (cs : List Char) : Except Fault (Option Int) :=
  let token := trim cs
  match d.named? token with
  | some v => .ok (some v)
  | none => (readNumeral token).map (·.map Int.ofNat)

/-- Refuses a value outside the domain. -/
def bounded (d : Domain) (v : Int) : Evaluation Int :=
  if v ∈ d then .ok v else refuse (.outOfRange v d.lo d.hi)

/-- The ends of a range: both must stand for values, in order, inside the domain, and the first of
these that fails is refused. -/
def interval (d : Domain) (start stop : List Char) : Evaluation (Int × Int) := do
  let first ← orFault (d.resolve start)
  let last ← orFault (d.resolve stop)
  match first, last with
  | some a, some b =>
    if b < a then refuse (.reversed a b)
    else return (← d.bounded a, ← d.bounded b)
  | _, _ => refuse (.badRange (String.ofList (start ++ '-' :: stop)))

/-- The first value of a step and the bound that it does not pass: the whole domain for `*`, a
range, or a value and everything after it. -/
def span (d : Domain) (text : List Char) : Evaluation (Int × Int) :=
  if text = Part.star then .ok (d.lo, d.hi)
  else
    match cut '-' text with
    | some (start, stop) => d.interval start stop
    | none => do
      match ← orFault (d.resolve text) with
      | some a => return (← d.bounded a, d.hi)
      | none => refuse (.badRange (String.ofList text))

end Domain

/-- The integers `first`, `first + stride`, … that do not pass `last`. -/
def progression (first last : Int) (stride : Nat) : List Int :=
  (List.range ((last - first) / stride + 1).toNat).map fun k : Nat => first + k * stride

/-- The values of a part in the order in which it lists them. The step of a part is judged before
its span. -/
def Part.expand (d : Domain) : Part → Evaluation (List Int)
  | .wildcard => .ok (progression d.lo d.hi 1)
  | .step span stride => do
    match ← orFault (readNumeral stride) with
    | some (n + 1) =>
      let (first, last) ← d.span span
      return progression first last (n + 1)
    | _ => refuse (.badStep (String.ofList stride))
  | .range start stop => do
    let (first, last) ← d.interval start stop
    return progression first last 1
  | .single value => do
    match ← orFault (d.resolve value) with
    | some v => return [← d.bounded v]
    | none => refuse (.badValue (String.ofList value))

/-! ## Where the values lie -/

/-- A step runs through the integers up to `last` that are whole strides after `first`. -/
theorem mem_progression {first last v : Int} {stride : Nat} (h : 0 < stride) :
    v ∈ progression first last stride ↔
      first ≤ v ∧ v ≤ last ∧ (stride : Int) ∣ v - first := by
  have hs : (0 : Int) < stride := by omega
  simp only [progression, List.mem_map, List.mem_range]
  constructor
  · rintro ⟨k, hk, rfl⟩
    -- stride number `k` is one of those that fit before `last`
    have hle : (k : Int) ≤ (last - first) / stride := by omega
    have hmul := (Int.le_ediv_iff_mul_le hs).mp hle
    have hpos : 0 ≤ (k : Int) * stride := Int.mul_nonneg (by omega) (by omega)
    refine ⟨by omega, by omega, k, ?_⟩
    rw [Int.mul_comm]
    omega
  · rintro ⟨hfirst, hlast, k, hk⟩
    -- a negative number of strides would end before `first`
    have hk₀ : 0 ≤ k := by
      by_cases hneg : k < 0
      · have := Int.mul_neg_of_pos_of_neg hs hneg
        omega
      · omega
    have hmul : k * stride ≤ last - first := by
      rw [Int.mul_comm]
      omega
    have hle := (Int.le_ediv_iff_mul_le hs).mpr hmul
    refine ⟨k.toNat, by omega, ?_⟩
    rw [Int.toNat_of_nonneg hk₀, Int.mul_comm]
    omega

/-- The single steps of a domain run through its values. -/
theorem mem_progression_one {first last v : Int} :
    v ∈ progression first last 1 ↔ first ≤ v ∧ v ≤ last := by
  rw [mem_progression (by omega)]
  constructor
  · rintro ⟨h₁, h₂, _⟩
    exact ⟨h₁, h₂⟩
  · rintro ⟨h₁, h₂⟩
    exact ⟨h₁, h₂, v - first, by simp⟩

end Crontab
