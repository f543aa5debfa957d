/-!
# Sets of values

The values of a field are kept as an ascending list without repeats. `mem_ascending` and
`ascending_pairwise` say that `ascending` makes one of any list.
-/

namespace Crontab

/-- An ascending list with one more value in it, unless the value is there already. -/
def insertAscending (v : Int) : List Int → List Int
  | [] => [v]
  | w :: rest =>
    if v < w then v :: w :: rest
    else if v = w then w :: rest
    else w :: insertAscending v rest

/-- The values of a list in ascending order, each once. -/
def ascending (values : List Int) : List Int := values.foldr insertAscending []

variable {v x : Int} {l : List Int}

theorem mem_insertAscending : x ∈ insertAscending v l ↔ x = v ∨ x ∈ l := by
  fun_induction insertAscending v l with
  | case1 => rw [List.mem_singleton, or_iff_left List.not_mem_nil]
  | case2 w rest less => rw [List.mem_cons]
  | case3 rest => rw [List.mem_cons, or_self_left]
  | case4 w rest notLess other ih => rw [List.mem_cons, ih, List.mem_cons, or_left_comm]

theorem insertAscending_pairwise (ascends : l.Pairwise (· < ·)) :
    (insertAscending v l).Pairwise (· < ·) := by
  fun_induction insertAscending v l with
  | case1 => exact List.pairwise_singleton _ v
  | case2 w rest less =>
    refine List.pairwise_cons.mpr ⟨fun x member => ?_, ascends⟩
    rcases List.mem_cons.mp member with rfl | member
    · exact less
    · exact Int.lt_trans less ((List.pairwise_cons.mp ascends).1 x member)
  | case3 rest => exact ascends
  | case4 w rest notLess other ih =>
    obtain ⟨first, ascends⟩ := List.pairwise_cons.mp ascends
    refine List.pairwise_cons.mpr ⟨fun x member => ?_, ih ascends⟩
    rcases mem_insertAscending.mp member with rfl | member
    · omega
    · exact first x member

/-- Ordering keeps the values. -/
theorem mem_ascending : v ∈ ascending l ↔ v ∈ l := by
  induction l with
  | nil => rfl
  | cons w l ih =>
    show v ∈ insertAscending w (ascending l) ↔ _
    rw [mem_insertAscending, ih, List.mem_cons]

/-- The values come in ascending order, each once. -/
theorem ascending_pairwise (l : List Int) : (ascending l).Pairwise (· < ·) := by
  induction l with
  | nil => exact .nil
  | cons w l ih => exact insertAscending_pairwise ih

end Crontab
