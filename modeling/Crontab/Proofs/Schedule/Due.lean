import Crontab.Schedule.Pattern
import Mathlib.Data.Int.Interval

/-!
# Due minutes

When a schedule is due, said of the value sets themselves and without a pattern.
`ofValueSets_toList` says that value sets within the bounds of their fields make a pattern, and
`fires_toPattern` that it fires at the due minutes and at no others.
-/

namespace Crontab

/-- Some value of the domain is not among the values. -/
def Domain.LeavesOut (d : Domain) (values : List Int) : Prop := ∃ v ∈ d, v ∉ values

instance (d : Domain) (values : List Int) : Decidable (d.LeavesOut values) :=
  decidable_of_iff (∃ k ∈ List.range d.size.toNat, d.lo + (k : Int) ∉ values) (by
    constructor
    · intro ⟨k, early, missing⟩
      have := List.mem_range.mp early
      exact ⟨d.lo + k, ⟨by omega, by unfold Domain.size at this; omega⟩, missing⟩
    · intro ⟨v, ⟨low, high⟩, missing⟩
      obtain ⟨k, equal⟩ := Int.eq_ofNat_of_zero_le (show 0 ≤ v - d.lo by omega)
      obtain rfl : v = d.lo + k := by omega
      exact ⟨k, List.mem_range.mpr (by unfold Domain.size; omega), missing⟩)

namespace Fields

/-- The value sets hold values of their fields' domains only. -/
structure InBounds (sets : Fields (List Int)) : Prop where
  minute : ∀ v ∈ sets.minute, v ∈ Domain.minute
  hour : ∀ v ∈ sets.hour, v ∈ Domain.hour
  monthDay : ∀ v ∈ sets.monthDay, v ∈ Domain.monthDay
  month : ∀ v ∈ sets.month, v ∈ Domain.month
  weekday : ∀ v ∈ sets.weekday, v ∈ Domain.weekday

/-- The day fields call for the day of a minute: one of them does, where both leave out some day;
otherwise both do. -/
def DueDay (sets : Fields (List Int)) (m : Minute) : Prop :=
  if Domain.monthDay.LeavesOut sets.monthDay ∧ Domain.weekday.LeavesOut sets.weekday then
    (m.date.day : Int) ∈ sets.monthDay ∨ (m.weekday : Int) ∈ sets.weekday
  else (m.date.day : Int) ∈ sets.monthDay ∧ (m.weekday : Int) ∈ sets.weekday

/-- All five fields call for a minute. -/
def Due (sets : Fields (List Int)) (m : Minute) : Prop :=
  (m.minuteOfHour : Int) ∈ sets.minute ∧ (m.hour : Int) ∈ sets.hour ∧
    (m.date.month : Int) ∈ sets.month ∧ sets.DueDay m

instance (sets : Fields (List Int)) (m : Minute) : Decidable (sets.DueDay m) :=
  inferInstanceAs (Decidable (ite _ _ _))

instance (sets : Fields (List Int)) (m : Minute) : Decidable (sets.Due m) :=
  inferInstanceAs (Decidable (_ ∧ _ ∧ _ ∧ _))

end Fields

namespace Pattern

/-! ## Slots and restrictions -/

/-- A value of a domain without negative values has a slot, which is its own number. -/
theorem slots_eq_ok {d : Domain} {values : List Int} (natural : 0 ≤ d.lo)
    (inside : ∀ v ∈ values, v ∈ d) : slots d values = .ok (values.map Int.toNat) := by
  unfold slots
  induction values with
  | nil => rfl
  | cons v values ih =>
    obtain ⟨lower, upper⟩ := Domain.mem_iff.mp (inside v List.mem_cons_self)
    obtain ⟨n, rfl⟩ := Int.eq_ofNat_of_zero_le (show 0 ≤ v by omega)
    have slot : slot? (d.hi + 1).toNat (n : Int) = some n := slot?_of_lt (by omega)
    have rest := ih fun w member => inside w (List.mem_cons_of_mem _ member)
    rw [List.mapM_cons, rest]
    simp only [slot, bind, Except.bind, pure, Except.pure, List.map_cons, Int.toNat_natCast]

/-- A slot is set exactly where its number is one of the values. -/
theorem contains_slots {d : Domain} {values : List Int} (natural : 0 ≤ d.lo)
    (inside : ∀ v ∈ values, v ∈ d) (n : Nat) :
    (values.map Int.toNat).contains n = true ↔ (n : Int) ∈ values := by
  rw [List.contains_iff_mem, List.mem_map]
  constructor
  · intro given
    obtain ⟨v, member, rfl⟩ := given
    have lower := (Domain.mem_iff.mp (inside v member)).1
    rwa [Int.toNat_of_nonneg (by omega)]
  · intro member
    exact ⟨n, member, Int.toNat_natCast n⟩

/-- Values of a domain restrict it exactly where they leave out one of its values. -/
theorem restricts_iff {d : Domain} {values : List Int} (inside : ∀ v ∈ values, v ∈ d) :
    restricts d values = true ↔ d.LeavesOut values := by
  have subset : (ascending values).toFinset ⊆ Finset.Icc d.lo d.hi := by
    intro v member
    rw [List.mem_toFinset, mem_ascending] at member
    exact Finset.mem_Icc.mpr (inside v member)
  have distinct : (ascending values).Nodup :=
    (ascending_pairwise values).imp fun hlt => by omega
  have size : (Finset.Icc d.lo d.hi).card = d.size.toNat := by
    rw [Int.card_Icc, Domain.size]
    omega
  rw [restricts, decide_eq_true_eq, ← List.toFinset_card_of_nodup distinct]
  constructor
  · intro fewer
    -- values that leave out none would be as many as the domain has
    by_contra complete
    have whole : Finset.Icc d.lo d.hi ⊆ (ascending values).toFinset := by
      intro v member
      rw [List.mem_toFinset, mem_ascending]
      by_contra missing
      exact complete ⟨v, Finset.mem_Icc.mp member, missing⟩
    have := Finset.card_le_card whole
    omega
  · intro given
    obtain ⟨v, member, missing⟩ := given
    have proper : (ascending values).toFinset ⊂ Finset.Icc d.lo d.hi := by
      refine Finset.ssubset_iff_subset_ne.mpr ⟨subset, fun equal => missing ?_⟩
      rw [← mem_ascending, ← List.mem_toFinset, equal]
      exact Finset.mem_Icc.mpr member
    have := Finset.card_lt_card proper
    omega

end Pattern

/-! ## The pattern of value sets -/

namespace Fields

/-- The pattern in which every value is put into the slot of its own number. -/
def toPattern (sets : Fields (List Int)) : Pattern where
  minutes := sets.minute.map Int.toNat
  hours := sets.hour.map Int.toNat
  monthDays := sets.monthDay.map Int.toNat
  months := sets.month.map Int.toNat
  weekdays := sets.weekday.map Int.toNat
  eitherDay :=
    Pattern.restricts .monthDay sets.monthDay && Pattern.restricts .weekday sets.weekday

/-- Value sets within bounds make a pattern. -/
theorem ofValueSets_toList {sets : Fields (List Int)} (bounded : sets.InBounds) :
    Pattern.ofValueSets sets.toList = .ok sets.toPattern := by
  rw [Pattern.ofValueSets, ofList?_toList]
  simp only [Pattern.ofFields, Pattern.slots_eq_ok (by decide) bounded.minute,
    Pattern.slots_eq_ok (by decide) bounded.hour,
    Pattern.slots_eq_ok (by decide) bounded.monthDay,
    Pattern.slots_eq_ok (by decide) bounded.month,
    Pattern.slots_eq_ok (by decide) bounded.weekday, bind, Except.bind, pure, Except.pure]
  rfl

/-- The two day fields go together in the pattern as they do for `DueDay`. -/
theorem eitherDay_toPattern {sets : Fields (List Int)} (bounded : sets.InBounds) :
    sets.toPattern.eitherDay = true ↔
      Domain.monthDay.LeavesOut sets.monthDay ∧ Domain.weekday.LeavesOut sets.weekday := by
  rw [toPattern, Bool.and_eq_true, Pattern.restricts_iff bounded.monthDay,
    Pattern.restricts_iff bounded.weekday]

/-- The pattern wants the days of the months that the month field and the day fields call for. -/
theorem wantsDay_toPattern {sets : Fields (List Int)} (bounded : sets.InBounds) (m : Minute) :
    sets.toPattern.wantsDay m = true ↔ (m.date.month : Int) ∈ sets.month ∧ sets.DueDay m := by
  have month : sets.toPattern.months.contains m.date.month = true ↔ _ :=
    Pattern.contains_slots (by decide) bounded.month m.date.month
  have monthDay : sets.toPattern.monthDays.contains m.date.day = true ↔ _ :=
    Pattern.contains_slots (by decide) bounded.monthDay m.date.day
  have weekday : sets.toPattern.weekdays.contains m.weekday = true ↔ _ :=
    Pattern.contains_slots (by decide) bounded.weekday m.weekday
  have either := eitherDay_toPattern bounded
  rw [Pattern.wantsDay, Bool.and_eq_true, month, DueDay]
  refine and_congr_right fun _ => ?_
  by_cases both :
    Domain.monthDay.LeavesOut sets.monthDay ∧ Domain.weekday.LeavesOut sets.weekday
  · rw [if_pos both, if_pos (either.mpr both), Bool.or_eq_true, monthDay, weekday]
  · rw [if_neg both, if_neg (mt either.mp both), Bool.and_eq_true, monthDay, weekday]

/-- The pattern of value sets within bounds fires when they are due. -/
theorem fires_toPattern {sets : Fields (List Int)} (bounded : sets.InBounds) (m : Minute) :
    sets.toPattern.fires m = true ↔ sets.Due m := by
  have minute : sets.toPattern.wantsMinute m = true ↔ _ :=
    Pattern.contains_slots (by decide) bounded.minute m.minuteOfHour
  have hour : sets.toPattern.wantsHour m = true ↔ _ :=
    Pattern.contains_slots (by decide) bounded.hour m.hour
  rw [Pattern.fires, Bool.and_eq_true, Bool.and_eq_true, wantsDay_toPattern bounded, hour, minute,
    Due]
  tauto

end Fields

end Crontab
