import Crontab.Schedule.Search

/-!
# Crossing idle minutes

The search crosses the rest of a day or of an hour in one go. `not_fires_of_idle` says that there is
no firing in what it crosses and that the calendar does not end there, `search_eq_plainSearch` that
the search finds what looking at one minute after the other finds.
-/

namespace Crontab

open Calendar

namespace Minute

theorem later?_zero (m : Minute) : m.later? 0 = some m := later?_eq_some.mpr rfl

/-- Going on from a later minute. -/
theorem later?_later? {m next : Minute} {steps : Nat} (reached : m.later? steps = some next)
    (more : Nat) : next.later? more = m.later? (steps + more) := by
  have position := later?_eq_some.mp reached
  cases further : next.later? more with
  | none =>
    rw [later?_eq_none] at further
    exact (later?_eq_none.mpr (by omega)).symm
  | some last =>
    rw [later?_eq_some] at further
    exact (later?_eq_some.mpr (by omega)).symm

/-- The calendar holds the rest of each of its days. -/
theorem exists_later_of_day {m : Minute} {k : Nat} (rest : m.minuteOfDay + k < minutesPerDay) :
    ∃ m', m.later? k = some m' ∧ m'.dayNumber = m.dayNumber ∧
      m'.minuteOfDay = m.minuteOfDay + k := by
  have inside := m.index_lt
  unfold minuteOfDay minutesPerDay at rest
  have fits : m.index + k < minuteCount := by
    unfold minuteCount dayCount minutesPerDay at *
    omega
  refine ⟨⟨m.index + k, fits⟩, later?_eq_some.mpr rfl, ?_, ?_⟩
  · show (m.index + k) / 1440 = m.index / 1440
    omega
  · show (m.index + k) % 1440 = m.index % 1440 + k
    omega

end Minute

namespace Pattern

variable {p : Pattern}

/-- Whether a day is wanted depends on the day only. -/
theorem wantsDay_congr {m m' : Minute} (same : m'.dayNumber = m.dayNumber) :
    p.wantsDay m' = p.wantsDay m := by
  unfold wantsDay Minute.date Minute.weekday
  rw [same]

/-- Whether an hour is wanted depends on the hour only. -/
theorem wantsHour_congr {m m' : Minute} (same : m'.hour = m.hour) :
    p.wantsHour m' = p.wantsHour m := by
  unfold wantsHour
  rw [same]

/-- Nothing fires from an idle minute to the end of what is crossed, and all of that lies in the
calendar. -/
theorem not_fires_of_idle {m : Minute} {idle k : Nat} (crossed : p.idle? m = some idle)
    (within : k ≤ idle) : ∃ m', m.later? k = some m' ∧ p.fires m' = false := by
  unfold idle? at crossed
  split at crossed
  -- the day is not wanted, and all that is crossed lies in it
  · next unwanted =>
    cases crossed
    have bound : m.minuteOfDay < minutesPerDay := Nat.mod_lt _ (by decide)
    obtain ⟨m', reached, sameDay, _⟩ := m.exists_later_of_day (k := k) (by omega)
    refine ⟨m', reached, ?_⟩
    rw [Bool.not_eq_true'] at unwanted
    rw [fires, wantsDay_congr sameDay, unwanted]
    rfl
  · split at crossed
    -- the hour is not wanted, and all that is crossed lies in it
    · next unwanted =>
      cases crossed
      have bound := m.minuteOfHour_lt
      have day : m.minuteOfDay < minutesPerDay := Nat.mod_lt _ (by decide)
      have inHour : m.minuteOfHour + k < 60 := by omega
      unfold Minute.minuteOfHour minutesPerDay at *
      obtain ⟨m', reached, _, position⟩ :=
        m.exists_later_of_day (k := k) (by unfold minutesPerDay; omega)
      have sameHour : m'.hour = m.hour := by
        unfold Minute.hour
        rw [position]
        omega
      refine ⟨m', reached, ?_⟩
      rw [Bool.not_eq_true'] at unwanted
      rw [fires, wantsHour_congr sameHour, unwanted, Bool.and_false, Bool.false_and]
    · cases crossed

/-- A minute that is not idle fires if its place in the hour is wanted. -/
theorem fires_of_not_idle {m : Minute} (busy : p.idle? m = none) :
    p.fires m = p.wantsMinute m := by
  unfold idle? at busy
  split at busy
  · cases busy
  · next day =>
    split at busy
    · cases busy
    · next hour =>
      rw [Bool.not_eq_true', Bool.not_eq_false] at day hour
      rw [fires, day, hour, Bool.true_and, Bool.true_and]

/-! ## The search -/

/-- The first firing among the `left` minutes after `m`, looking at each of them. -/
def plainSearch (p : Pattern) (m : Minute) : Nat → Search
  | 0 => .exhausted
  | left + 1 =>
    match m.later? 1 with
    | none => .pastEnd
    | some next => if p.fires next then .found next left else p.plainSearch next left

/-- Minutes without a firing may be left out of a search. -/
theorem plainSearch_crossing {m : Minute} {n left : Nat} (enough : n ≤ left)
    (quiet : ∀ k ≤ n, ∃ m', m.later? k = some m' ∧ (0 < k → p.fires m' = false)) :
    ∃ m', m.later? n = some m' ∧ p.plainSearch m left = p.plainSearch m' (left - n) := by
  induction n generalizing m left with
  | zero => exact ⟨m, m.later?_zero, rfl⟩
  | succ n ih =>
    obtain ⟨next, reached, silent⟩ := quiet 1 (by omega)
    obtain ⟨left, rfl⟩ : ∃ l, left = l + 1 := ⟨left - 1, by omega⟩
    -- the minutes that follow `next` are those that follow `m`, one step later
    have quietNext : ∀ k ≤ n, ∃ m', next.later? k = some m' ∧ (0 < k → p.fires m' = false) := by
      intro k within
      obtain ⟨m', there, quietThere⟩ := quiet (1 + k) (by omega)
      rw [← Minute.later?_later? reached] at there
      exact ⟨m', there, fun _ => quietThere (by omega)⟩
    obtain ⟨last, further, rest⟩ := ih (show n ≤ left by omega) quietNext
    rw [Minute.later?_later? reached, Nat.add_comm] at further
    refine ⟨last, further, ?_⟩
    rw [plainSearch, reached]
    simp only [silent (by omega), Bool.false_eq_true, if_false]
    rw [rest, Nat.add_sub_add_right]

/-- Crossing idle minutes changes nothing about what is found, nor about when the search ends. -/
theorem search_eq_plainSearch (m : Minute) (left : Nat) :
    p.search m left = p.plainSearch m left := by
  fun_induction search p m left with
  | case1 m => rfl
  | case2 m left past => rw [plainSearch, past]
  | case3 m left next reached busy wanted =>
    rw [plainSearch, reached]
    simp only [fires_of_not_idle busy, wanted, if_true]
  | case4 m left next reached busy unwanted ih =>
    rw [plainSearch, reached, ih]
    simp only [fires_of_not_idle busy, unwanted, Bool.false_eq_true, if_false]
  | case5 m left next reached idle crossed skipped past =>
    -- what is crossed lies in the calendar
    obtain ⟨m', there, _⟩ := not_fires_of_idle crossed (Nat.min_le_left idle left)
    rw [past] at there
    cases there
  | case6 m left next reached idle crossed skipped last further ih =>
    obtain ⟨here, there, silent⟩ := not_fires_of_idle crossed (Nat.zero_le idle)
    rw [Minute.later?_zero] at there
    cases there
    obtain ⟨m', arrived, rest⟩ := plainSearch_crossing (p := p) (m := next)
      (Nat.min_le_right idle left) fun k within =>
        (not_fires_of_idle crossed (by omega)).imp fun _ h => ⟨h.1, fun _ => h.2⟩
    rw [further] at arrived
    cases arrived
    rw [plainSearch, reached, ih]
    simp only [silent, Bool.false_eq_true, if_false]
    exact rest.symm

/-- The minutes that a search has left at a firing are those that it had, less those it went. -/
theorem index_add_of_search_eq_found {m next : Minute} {left rest : Nat}
    (found : p.search m left = .found next rest) : next.index + rest = m.index + left := by
  rw [search_eq_plainSearch] at found
  induction left generalizing m with
  | zero => cases found
  | succ left ih =>
    rw [plainSearch] at found
    split at found
    · cases found
    · next there reached =>
      have position := Minute.later?_eq_some.mp reached
      split at found
      · cases found
        omega
      · have := ih found
        omega

end Pattern

end Crontab
