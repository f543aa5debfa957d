import Crontab.Schedule.Heatmap
import Mathlib.Algebra.Ring.Nat
import Mathlib.Data.List.Nodup

/-!
# Counting keys

What `countKeys` finds in a list: every key that is in the list stands in the counts once, with the
number of its occurrences. `Counts.bump` says that one more key keeps this up, and
`counts_countKeys` that it holds of the whole list.
-/

namespace Crontab

variable {α : Type} [DecidableEq α] {counts : List (α × Nat)} {keys : List α} {key k : α} {n : Nat}

/-- The counts of a list: a pair for every key in it, and no two pairs for one key. -/
structure Counts (counts : List (α × Nat)) (keys : List α) : Prop where
  once : (counts.map Prod.fst).Nodup
  number : ∀ key n, (key, n) ∈ counts ↔ 0 < n ∧ n = keys.countP (· = key)

theorem counts_nil : Counts ([] : List (α × Nat)) [] where
  once := List.nodup_nil
  number key n := by
    simp only [List.not_mem_nil, List.countP_nil, false_iff]
    omega

/-! ## One more -/

/-- Only the key that is counted can be new. -/
theorem mem_fst_bump : k ∈ (bump key counts).map Prod.fst ↔ k = key ∨ k ∈ counts.map Prod.fst := by
  fun_induction bump key counts with
  | case1 => simp
  | case2 n counts => simp
  | case3 k' n counts other ih =>
    rw [List.map_cons, List.mem_cons, ih, List.map_cons, List.mem_cons]
    exact or_left_comm

theorem nodup_bump (once : (counts.map Prod.fst).Nodup) :
    ((bump key counts).map Prod.fst).Nodup := by
  fun_induction bump key counts with
  | case1 => exact List.nodup_singleton key
  | case2 => exact once
  | case3 k' n counts other ih =>
    obtain ⟨absent, once⟩ := List.nodup_cons.mp once
    refine List.nodup_cons.mpr ⟨fun listed => ?_, ih once⟩
    exact (mem_fst_bump.mp listed).elim other absent

theorem mem_bump_self (once : (counts.map Prod.fst).Nodup) : (key, n) ∈ bump key counts ↔
    (∃ m, (key, m) ∈ counts ∧ n = m + 1) ∨ key ∉ counts.map Prod.fst ∧ n = 1 := by
  fun_induction bump key counts with
  | case1 => simp
  | case2 m counts =>
    have absent : ∀ m, (key, m) ∉ counts := fun m listed =>
      (List.nodup_cons.mp once).1 (List.mem_map.mpr ⟨_, listed, rfl⟩)
    simp [absent, eq_comm]
  | case3 k' m counts other ih =>
    have other' : key ≠ k' := Ne.symm other
    simp [ih (List.nodup_cons.mp once).2, other']

theorem mem_bump_of_ne (other : k ≠ key) : (k, n) ∈ bump key counts ↔ (k, n) ∈ counts := by
  fun_induction bump key counts with
  | case1 => simp [other]
  | case2 m counts => simp [other]
  | case3 k' m counts _ ih => rw [List.mem_cons, List.mem_cons, ih]

theorem Counts.not_mem (counted : Counts counts keys) :
    key ∉ counts.map Prod.fst ↔ keys.countP (· = key) = 0 := by
  constructor
  · intro absent
    by_contra some
    have listed := (counted.number key _).mpr ⟨Nat.pos_of_ne_zero some, rfl⟩
    exact absent (List.mem_map_of_mem listed)
  · intro none known
    obtain ⟨⟨k, n⟩, listed, rfl⟩ := List.mem_map.mp known
    obtain ⟨positive, same⟩ := (counted.number k n).mp listed
    exact absurd (same.trans none) (Nat.ne_of_gt positive)

/-- Counting one more key keeps the counts of the others. -/
theorem Counts.bump (counted : Counts counts keys) (key : α) :
    Counts (bump key counts) (keys ++ [key]) where
  once := nodup_bump counted.once
  number k n := by
    rw [List.countP_append, List.countP_singleton]
    by_cases same : k = key
    · subst same
      rw [mem_bump_self counted.once, counted.not_mem, if_pos (decide_eq_true rfl)]
      simp only [counted.number]
      constructor
      · rintro (⟨m, ⟨_, rfl⟩, rfl⟩ | ⟨none, rfl⟩) <;> omega
      · rintro ⟨_, rfl⟩
        rcases Nat.eq_zero_or_pos (keys.countP (· = k)) with none | some
        · exact .inr ⟨none, by omega⟩
        · exact .inl ⟨_, ⟨some, rfl⟩, rfl⟩
    · rw [mem_bump_of_ne same, counted.number, if_neg]
      · rfl
      · simpa using Ne.symm same

/-! ## The whole list -/

theorem Counts.foldl_bump (counted : Counts counts keys) (more : List α) :
    Counts (more.foldl (fun counts key => Crontab.bump key counts) counts) (keys ++ more) := by
  induction more generalizing counts keys with
  | nil => rwa [List.append_nil]
  | cons key more ih =>
    rw [List.foldl_cons, List.append_cons]
    exact ih (counted.bump key)

theorem sum_bump (key : α) (counts : List (α × Nat)) :
    ((bump key counts).map Prod.snd).sum = (counts.map Prod.snd).sum + 1 := by
  fun_induction bump key counts with
  | case1 => rfl
  | case2 n counts => simp only [List.map_cons, List.sum_cons]; omega
  | case3 k n counts other ih => simp only [List.map_cons, List.sum_cons, ih]; omega

theorem sum_foldl_bump (keys : List α) (counts : List (α × Nat)) :
    ((keys.foldl (fun counts key => bump key counts) counts).map Prod.snd).sum =
      (counts.map Prod.snd).sum + keys.length := by
  induction keys generalizing counts with
  | nil => rfl
  | cons key keys ih =>
    rw [List.foldl_cons, ih, sum_bump, List.length_cons]
    omega

/-- Every occurrence is counted once. -/
theorem sum_countKeys (keys : List α) : ((countKeys keys).map Prod.snd).sum = keys.length := by
  rw [countKeys, sum_foldl_bump]
  exact Nat.zero_add _

theorem counts_countKeys (keys : List α) : Counts (countKeys keys) keys :=
  counts_nil.foldl_bump keys

end Crontab
