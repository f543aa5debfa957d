import Crontab.Proofs.Schedule.PlainWalk

/-!
# The next runs

The due minutes after a minute as a list, and the runs of a schedule in terms of it:
`nextRuns_eq` says which runs are found for which count, and when the search for them fails.
-/

namespace Crontab

open Calendar

namespace Minute

/-- The `reach` minutes after `m` in ascending order, as far as the calendar goes. -/
def following (m : Minute) (reach : Nat) : List Minute :=
  (List.range reach).filterMap fun k => m.later? (k + 1)

/-- How many minutes of the calendar come after `m`. -/
def toEnd (m : Minute) : Nat := minuteCount - 1 - m.index

theorem mem_following {m t : Minute} {reach : Nat} :
    t ∈ m.following reach ↔ m.index < t.index ∧ t.index ≤ m.index + reach := by
  simp only [following, List.mem_filterMap, List.mem_range, later?_eq_some]
  constructor
  · intro given
    obtain ⟨k, early, position⟩ := given
    omega
  · intro given
    obtain ⟨after, within⟩ := given
    exact ⟨t.index - m.index - 1, by omega, by omega⟩

theorem pairwise_following (m : Minute) (reach : Nat) :
    (m.following reach).Pairwise fun a b => a.index < b.index := by
  refine List.Pairwise.filterMap _ ?_ List.pairwise_lt_range
  intro i j before a first b second
  rw [later?_eq_some] at first second
  omega

theorem following_succ (m : Minute) (reach : Nat) :
    m.following (reach + 1) =
      match m.later? 1 with
      | none => []
      | some next => next :: next.following reach := by
  rw [following, List.range_succ_eq_map, List.filterMap_cons, List.filterMap_map]
  cases reached : m.later? 1 with
  | none =>
    have past := later?_eq_none.mp reached
    refine List.filterMap_eq_nil_iff.mpr fun k _ => ?_
    exact later?_eq_none.mpr (by omega)
  | some next =>
    show next :: _ = next :: _
    congr 1
    refine List.filterMap_congr fun k _ => ?_
    show m.later? (k + 1 + 1) = next.later? (k + 1)
    rw [later?_later? reached, Nat.add_comm 1]

/-- Nothing comes after the end of the calendar. -/
theorem following_eq_of_toEnd_le {m : Minute} {reach : Nat} (beyond : m.toEnd ≤ reach) :
    m.following reach = m.following m.toEnd := by
  obtain ⟨more, rfl⟩ := Nat.exists_eq_add_of_le beyond
  have rest : (List.map (m.toEnd + ·) (List.range more)).filterMap (fun k => m.later? (k + 1)) =
      [] := by
    rw [List.filterMap_map]
    refine List.filterMap_eq_nil_iff.mpr fun k _ => later?_eq_none.mpr ?_
    show minuteCount ≤ m.index + (m.toEnd + k + 1)
    unfold toEnd
    omega
  rw [following, List.range_add, List.filterMap_append, rest, List.append_nil, following]

end Minute

/-- The due minutes among the `reach` minutes after `m`, in ascending order. -/
def Fields.dueAfter (sets : Fields (List Int)) (m : Minute) (reach : Nat) : List Minute :=
  (m.following reach).filter fun t => sets.Due t

namespace Fields

theorem mem_dueAfter {sets : Fields (List Int)} {m t : Minute} {reach : Nat} :
    t ∈ sets.dueAfter m reach ↔
      (m.index < t.index ∧ t.index ≤ m.index + reach) ∧ sets.Due t := by
  rw [dueAfter, List.mem_filter, Minute.mem_following, decide_eq_true_eq]

theorem dueAfter_eq_nil {sets : Fields (List Int)} {m : Minute} {reach : Nat} :
    sets.dueAfter m reach = [] ↔
      ∀ t : Minute, m.index < t.index → t.index ≤ m.index + reach → ¬ sets.Due t := by
  simp only [List.eq_nil_iff_forall_not_mem, mem_dueAfter, not_and, and_imp]

theorem pairwise_dueAfter (sets : Fields (List Int)) (m : Minute) (reach : Nat) :
    (sets.dueAfter m reach).Pairwise fun a b => a.index < b.index :=
  (m.pairwise_following reach).filter _

theorem nodup_dueAfter (sets : Fields (List Int)) (m : Minute) (reach : Nat) :
    (sets.dueAfter m reach).Nodup := by
  refine (sets.pairwise_dueAfter m reach).imp ?_
  rintro a b before rfl
  exact Nat.lt_irrefl _ before

theorem dueAfter_zero (sets : Fields (List Int)) (m : Minute) : sets.dueAfter m 0 = [] := rfl

theorem dueAfter_succ (sets : Fields (List Int)) (m : Minute) (reach : Nat) :
    sets.dueAfter m (reach + 1) =
      match m.later? 1 with
      | none => []
      | some next =>
        if sets.Due next then next :: sets.dueAfter next reach else sets.dueAfter next reach := by
  rw [dueAfter, Minute.following_succ]
  cases m.later? 1 with
  | none => rfl
  | some next => simp only [List.filter_cons, decide_eq_true_eq, dueAfter]

/-- One minute more to look at is one due minute more at most. -/
theorem length_dueAfter_succ_le (sets : Fields (List Int)) (m : Minute) (reach : Nat) :
    (sets.dueAfter m (reach + 1)).length ≤ (sets.dueAfter m reach).length + 1 := by
  have last : ([reach].filterMap fun k => m.later? (k + 1)).length ≤ 1 :=
    List.length_filterMap_le _ _
  have few := List.length_filter_le (fun t => sets.Due t)
    ([reach].filterMap fun k => m.later? (k + 1))
  rw [dueAfter, dueAfter, Minute.following, Minute.following, List.range_succ,
    List.filterMap_append, List.filter_append, List.length_append]
  omega

theorem dueAfter_eq_of_toEnd_le {sets : Fields (List Int)} {m : Minute} {reach : Nat}
    (beyond : m.toEnd ≤ reach) : sets.dueAfter m reach = sets.dueAfter m m.toEnd := by
  rw [dueAfter, Minute.following_eq_of_toEnd_le beyond, dueAfter]

end Fields

/-- A plain walk through minutes finds the first due ones. It fails where it looks for more than
there are and has the end of the calendar among the minutes to look at. -/
theorem Plain.take_eq (sets : Fields (List Int)) (count : Nat) (m : Minute) (left : Nat)
    (offset? : Option UtcOffset) :
    (take Timestamp.nextMinute sets.DueAt count (.ofMinute m offset?) left).1 =
      { runs := ((sets.dueAfter m left).take count).map (.ofMinute · offset?)
        failure? :=
          if count ≤ (sets.dueAfter m left).length ∨ m.index + left < minuteCount then none
          else some .dateOutOfRange } := by
  induction left generalizing count m with
  | zero =>
    have inside : m.index + 0 < minuteCount := m.index_lt
    rw [Fields.dueAfter_zero, if_pos (Or.inr inside), List.take_nil]
    cases count <;> rfl
  | succ left ih =>
    cases count with
    | zero =>
      rw [take_zero, if_pos (Or.inl (Nat.zero_le _))]
      rfl
    | succ count =>
      rw [take, Timestamp.nextMinute_ofMinute, Fields.dueAfter_succ]
      cases reached : m.later? 1 with
      | none =>
        have past := Minute.later?_eq_none.mp reached
        have failing : ¬ (count + 1 ≤ 0 ∨ m.index + (left + 1) < minuteCount) := by omega
        simp only [List.length_nil, if_neg failing]
        rfl
      | some next =>
        have position := Minute.later?_eq_some.mp reached
        have shifted : m.index + (left + 1) = next.index + left := by omega
        by_cases due : sets.Due next
        · have test : sets.DueAt (.ofMinute next offset?) := due
          simp only [if_pos test, if_pos due, ih count next, shifted, List.take_succ_cons,
            List.map_cons, List.length_cons, Nat.add_le_add_iff_right]
        · have test : ¬ sets.DueAt (.ofMinute next offset?) := due
          simp only [if_neg test, if_neg due, ih (count + 1) next, shifted]

theorem Timestamp.ofMinute_injective (offset? : Option UtcOffset) :
    Function.Injective (ofMinute · offset?) := by
  intro m m' same
  exact congrArg Timestamp.minute same

/-- What comes of asking a walk through the `steps` minutes after `start` for `count` firings. -/
theorem Walk.firings?_fresh {sets : Fields (List Int)} (bounded : sets.InBounds) (start : Minute)
    (steps count : Nat) :
    ((Walk.fresh sets.toList start steps).take count).firings? =
      if count ≤ (sets.dueAfter start steps).length ∨ start.index + steps < minuteCount then
        .ok ((sets.dueAfter start steps).take count)
      else .error .dateOutOfRange := by
  have abreast : Abreast sets none (.fresh sets.toList start steps)
      (some (.ofMinute start none, steps)) := .fresh start steps
  have answer := (abreast.take bounded count).1
  rw [Plain.ask, Plain.take_eq, Batch.mk.injEq] at answer
  obtain ⟨runs, failure⟩ := answer
  have listed := List.map_injective_iff.mpr (Timestamp.ofMinute_injective none) runs
  rw [Taken.firings?, ← failure, ← listed]
  by_cases enough : count ≤ (sets.dueAfter start steps).length ∨ start.index + steps < minuteCount
  · rw [if_pos enough, if_pos enough]
  · rw [if_neg enough, if_neg enough]

/-- What comes of asking a walk through the `steps` minutes after `start` for a number of runs. -/
theorem askedRuns_eq {sets : Fields (List Int)} (bounded : sets.InBounds) (start : Minute)
    (steps : Nat) (offset? : Option UtcOffset) (count : Int) :
    (do
      let firings ← ((Walk.fresh sets.toList start steps).take (← askFor count)).firings?
      return firings.map (.ofMinute · offset?) : Except Fault (List Timestamp)) =
      if count < indexLimit then
        if count.toNat ≤ (sets.dueAfter start steps).length ∨ start.index + steps < minuteCount then
          .ok (((sets.dueAfter start steps).take count.toNat).map (.ofMinute · offset?))
        else .error .dateOutOfRange
      else .error .countTooLarge := by
  rw [askFor]
  split
  · show (do
      let firings ← ((Walk.fresh sets.toList start steps).take count.toNat).firings?
      return firings.map (.ofMinute · offset?) : Except Fault (List Timestamp)) = _
    rw [Walk.firings?_fresh bounded]
    split <;> rfl
  · rfl

/-- The runs that are found, and the two ways in which the search for them fails: more runs are
asked for than can be counted, or the calendar ends before there are as many. -/
theorem nextRuns_eq {sets : Fields (List Int)} (bounded : sets.InBounds) (now : Timestamp)
    (count : Int) :
    nextRuns sets.toList now count =
      if count < indexLimit then
        if count.toNat ≤ (sets.dueAfter now.minute horizon).length ∨
            now.minute.index + horizon < minuteCount then
          .ok (((sets.dueAfter now.minute horizon).take count.toNat).map (.ofMinute · now.offset?))
        else .error .dateOutOfRange
      else .error .countTooLarge :=
  askedRuns_eq bounded now.minute horizon now.offset? count

end Crontab
