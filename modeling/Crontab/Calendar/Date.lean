/-!
# Dates

The Gregorian calendar, with days numbered from 0 for the first day of year 1.
`ofDayNumber_dayNumber` and `dayNumber_ofDayNumber` say that numbering the dates and dating the
numbers undo each other.
-/

namespace Crontab

structure Date where
  year : Nat
  month : Nat
  day : Nat
deriving DecidableEq, Repr

namespace Calendar

def isLeap (year : Nat) : Bool := year % 4 == 0 && (year % 100 != 0 || year % 400 == 0)

/-- The lengths of the twelve months. -/
def monthLengths (leap : Bool) : List Nat :=
  [31, if leap then 29 else 28, 31, 30, 31, 30, 31, 31, 30, 31, 30, 31]

/-- How many days a month has; none where there is no such month. -/
def daysInMonth (year month : Nat) : Nat :=
  if month = 0 then 0 else (monthLengths (isLeap year))[month - 1]?.getD 0

/-- How many days lie before a year. -/
def daysBeforeYear (year : Nat) : Nat :=
  365 * (year - 1) + (year - 1) / 4 - (year - 1) / 100 + (year - 1) / 400

/-- The year that a day falls in. The estimate by the mean length of a year is the year or the one
after it. -/
def yearOfDay (dayNumber : Nat) : Nat :=
  let estimate := (400 * dayNumber + 1000) / 146097 + 1
  if dayNumber < daysBeforeYear estimate then estimate - 1 else estimate

/-- The size of blocks together. -/
def total (sizes : List Nat) : Nat := sizes.foldr (· + ·) 0

@[simp]
theorem total_nil : total [] = 0 := rfl

@[simp]
theorem total_cons (size : Nat) (sizes : List Nat) : total (size :: sizes) = size + total sizes :=
  rfl

/-- The block that item `k` falls in where blocks of the given sizes follow one another, and its
place in that block. -/
def locate : List Nat → Nat → Nat × Nat
  | [], k => (0, k)
  | size :: sizes, k =>
    if k < size then (0, k)
    else
      let (block, place) := locate sizes (k - size)
      (block + 1, place)

end Calendar

namespace Date

open Calendar

/-- A date between year 1 and year 9999. -/
def IsValid (d : Date) : Prop :=
  1 ≤ d.year ∧ d.year ≤ 9999 ∧ 1 ≤ d.month ∧ d.month ≤ 12 ∧ 1 ≤ d.day ∧
    d.day ≤ daysInMonth d.year d.month

instance (d : Date) : Decidable d.IsValid :=
  inferInstanceAs (Decidable (_ ∧ _ ∧ _ ∧ _ ∧ _ ∧ _))

/-- The number of a date's day. -/
def dayNumber (d : Date) : Nat :=
  daysBeforeYear d.year + total ((monthLengths (isLeap d.year)).take (d.month - 1)) + (d.day - 1)

/-- The date of a day. -/
def ofDayNumber (n : Nat) : Date :=
  let year := yearOfDay n
  let (month, day) := locate (monthLengths (isLeap year)) (n - daysBeforeYear year)
  { year, month := month + 1, day := day + 1 }

end Date

/-! ## Years -/

namespace Calendar

theorem isLeap_iff (year : Nat) :
    isLeap year = true ↔ year % 4 = 0 ∧ (year % 100 ≠ 0 ∨ year % 400 = 0) := by
  simp [isLeap]

theorem daysBeforeYear_succ {year : Nat} (h : 1 ≤ year) :
    daysBeforeYear (year + 1) = daysBeforeYear year + if isLeap year then 366 else 365 := by
  obtain ⟨y, rfl⟩ : ∃ y, year = y + 1 := ⟨year - 1, by omega⟩
  -- each quotient grows by one where its divisor divides `y + 1`
  have h₄ : (y + 1) / 4 = y / 4 + if (y + 1) % 4 = 0 then 1 else 0 := by split <;> omega
  have h₁ : (y + 1) / 100 = y / 100 + if (y + 1) % 100 = 0 then 1 else 0 := by split <;> omega
  have h₀ : (y + 1) / 400 = y / 400 + if (y + 1) % 400 = 0 then 1 else 0 := by split <;> omega
  rw [daysBeforeYear, daysBeforeYear, Nat.add_sub_cancel, Nat.add_sub_cancel, h₄, h₁, h₀]
  simp only [isLeap_iff]
  have : y / 100 ≤ y / 4 := by omega
  -- a year divisible by 400 is divisible by 100, and that one by 4
  by_cases c₀ : (y + 1) % 400 = 0
  · have c₁ : (y + 1) % 100 = 0 := by omega
    have c₄ : (y + 1) % 4 = 0 := by omega
    simp only [c₀, c₁, c₄]
    simp
    omega
  · by_cases c₁ : (y + 1) % 100 = 0
    · have c₄ : (y + 1) % 4 = 0 := by omega
      simp only [c₀, c₁, c₄]
      simp
      omega
    · by_cases c₄ : (y + 1) % 4 = 0 <;> simp [c₀, c₁, c₄] <;> omega

theorem one_le_yearOfDay (n : Nat) : 1 ≤ yearOfDay n := by
  rw [yearOfDay]
  generalize (400 * n + 1000) / 146097 = y
  rw [daysBeforeYear, Nat.add_sub_cancel]
  cases y with
  | zero => simp
  | succ y => split <;> omega

/-- A day falls into the year found for it. -/
theorem daysBeforeYear_yearOfDay (n : Nat) :
    daysBeforeYear (yearOfDay n) ≤ n ∧ n < daysBeforeYear (yearOfDay n + 1) := by
  rw [yearOfDay]
  generalize he : (400 * n + 1000) / 146097 = y
  split
  -- the estimate is one year late
  · next h =>
    unfold daysBeforeYear at *
    simp only [Nat.add_sub_cancel] at *
    omega
  -- the estimate is right
  · next h =>
    unfold daysBeforeYear at *
    simp only [Nat.add_sub_cancel] at *
    omega

theorem daysBeforeYear_mono {a b : Nat} (h : a ≤ b) : daysBeforeYear a ≤ daysBeforeYear b := by
  rcases Nat.eq_or_lt_of_le h with rfl | hlt
  · exact Nat.le_refl _
  · unfold daysBeforeYear
    omega

/-- Only one year holds a day. -/
theorem yearOfDay_eq {n year : Nat} (h₁ : daysBeforeYear year ≤ n)
    (h₂ : n < daysBeforeYear (year + 1)) : yearOfDay n = year := by
  have := daysBeforeYear_yearOfDay n
  rcases Nat.lt_trichotomy (yearOfDay n) year with h | h | h
  · have := daysBeforeYear_mono (show yearOfDay n + 1 ≤ year by omega)
    omega
  · exact h
  · have := daysBeforeYear_mono (show year + 1 ≤ yearOfDay n by omega)
    omega

/-! ## Months -/

/-- An item is located by the sizes of the blocks before it. -/
theorem locate_eq_iff {sizes : List Nat} {k block place : Nat} (hk : k < total sizes) :
    locate sizes k = (block, place) ↔
      k = total (sizes.take block) + place ∧ ∃ size, sizes[block]? = some size ∧ place < size := by
  induction sizes generalizing k block with
  | nil => simp at hk
  | cons size sizes ih =>
    rw [locate]
    split
    -- the item lies in the first block
    · cases block <;> simp <;> omega
    -- or in a later one, `size` places on
    · have hk' : k - size < total sizes := by
        simp at hk
        omega
      cases block with
      | zero =>
        simp
        omega
      | succ block =>
        have := @ih (k - size) block hk'
        rw [Prod.ext_iff] at this ⊢
        simp at this ⊢
        rw [this]
        exact and_congr_left fun _ => by omega

theorem total_monthLengths (leap : Bool) :
    total (monthLengths leap) = if leap then 366 else 365 := by
  cases leap <;> rfl

/-- A month lies within its year. -/
theorem total_take_monthLengths_le : ∀ leap : Bool, ∀ m < 12,
    total ((monthLengths leap).take m) + (monthLengths leap)[m]?.getD 0 ≤
      total (monthLengths leap) := by decide

end Calendar

/-! ## Numbers and dates -/

namespace Date

open Calendar

theorem dayNumber_ofDayNumber (n : Nat) : (ofDayNumber n).dayNumber = n := by
  have hy := daysBeforeYear_yearOfDay n
  rw [daysBeforeYear_succ (one_le_yearOfDay n)] at hy
  have hk : n - daysBeforeYear (yearOfDay n) < total (monthLengths (isLeap (yearOfDay n))) := by
    rw [total_monthLengths]
    omega
  unfold ofDayNumber
  rcases hloc : locate (monthLengths (isLeap (yearOfDay n))) (n - daysBeforeYear (yearOfDay n))
    with ⟨month, day⟩
  have hl := ((locate_eq_iff hk).mp hloc).1
  simp only [hloc, dayNumber, Nat.add_sub_cancel]
  omega

theorem ofDayNumber_dayNumber {d : Date} (h : d.IsValid) : ofDayNumber d.dayNumber = d := by
  obtain ⟨hy, _, hm₁, hm₂, hd₁, hd₂⟩ := h
  rw [daysInMonth, if_neg (by omega)] at hd₂
  have hsum := total_take_monthLengths_le (isLeap d.year) (d.month - 1) (by omega)
  have hyear : yearOfDay d.dayNumber = d.year := by
    refine yearOfDay_eq (by unfold dayNumber; omega) ?_
    rw [daysBeforeYear_succ hy, ← total_monthLengths]
    unfold dayNumber
    omega
  have hsize : (monthLengths (isLeap d.year))[d.month - 1]? =
      some ((monthLengths (isLeap d.year))[d.month - 1]?.getD 0) := by
    rw [List.getElem?_eq_getElem (by simp [monthLengths]; omega)]
    simp
  have hloc : locate (monthLengths (isLeap d.year)) (d.dayNumber - daysBeforeYear d.year) =
      (d.month - 1, d.day - 1) := by
    refine (locate_eq_iff (by unfold dayNumber; omega)).mpr ⟨by unfold dayNumber; omega, ?_⟩
    exact ⟨_, hsize, by omega⟩
  unfold ofDayNumber
  simp only [hyear, hloc, Nat.sub_add_cancel hm₁, Nat.sub_add_cancel hd₁]

end Date

end Crontab
