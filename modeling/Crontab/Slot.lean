import Crontab.Fault

/-!
# Slots of a table

A table is addressed by an integer: from its start by 0, 1, 2, … and from its end by -1, -2, ….
`slot?_lt` says that the slot found is one of the table's.
-/

namespace Crontab

/-- The slot at `index` of a table with `size` slots; a negative index counts from the end. -/
def slot? (size : Nat) (index : Int) : Option Nat :=
  if 0 ≤ index then
    if index < size then some index.toNat else none
  else if 0 ≤ index + size then some (index + size).toNat
  else none

/-- The fault of an address without a slot: the table's own, unless the address is no index. -/
def slotFault (own : Fault) (index : Int) : Fault :=
  if isIndex index then own else .noIndex

/-- An index inside the table is its own slot. -/
theorem slot?_of_lt {size i : Nat} (h : i < size) : slot? size i = some i := by
  have h₀ : (0 : Int) ≤ i := by omega
  have h₁ : (i : Int) < size := by omega
  simp [slot?, h₀, h₁]

end Crontab
