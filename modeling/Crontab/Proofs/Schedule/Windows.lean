import Crontab.Proofs.Calendar.Span
import Crontab.Proofs.Calendar.Timestamp
import Crontab.Proofs.Schedule.NextRuns
import Crontab.Schedule.Window

/-!
# Windows

The runs in a window, said of the points in time that its bounds are: `runs_between` says that they
lie after the start and not after the stop, and which of the due minutes in between are listed.
-/

namespace Crontab

open Calendar

namespace Window

variable {w : Window} {clock : WallTime} {start? stop? : Option Timestamp} {m : Minute} {late : Nat}

/-! ## Bounds -/

/-- The bounds of a window are those that are given, with nothing cut off, or made up. Each keeps
its offset, or takes that of the other where it has none. -/
structure Bounds (clock : WallTime) (start? stop? : Option Timestamp) (w : Window) : Prop where
  start_given : ∀ t, start? = some t → w.start.wall = t.wall
  start_now : start? = none → w.start.utcTicks = clock.ticks
  start_offset : w.start.offset? = (start?.bind (·.offset?) <|> stop?.bind (·.offset?))
  stop_given : ∀ t, stop? = some t → w.stop.wall = t.wall
  stop_default : stop? = none → w.stop.utcTicks = w.start.utcTicks + 30 * microsPerDay
  stop_offset : w.stop.offset? = (stop?.bind (·.offset?) <|> start?.bind (·.offset?))

theorem borrowOffset_of_eq {t other : Timestamp} (same : t.offset? = other.offset?) :
    borrowOffset t other = t := by
  obtain ⟨wall, offset?⟩ := t
  rw [borrowOffset, ← same]
  cases offset? <;> rfl

/-- The two bounds before they borrow an offset from each other. -/
theorem ends_of_between (answered : between clock start? stop? = .ok w) :
    ∃ start stop,
      (start? = some start ∨
        start? = none ∧ Timestamp.now clock (stop?.bind (·.offset?)) = .ok start) ∧
      (stop? = some stop ∨ stop? = none ∧ start.shift defaultReach = .ok stop) ∧
      w = ⟨borrowOffset start stop, borrowOffset stop start,
        minutesBetween (borrowOffset start stop) (borrowOffset stop start)⟩ := by
  cases start? with
  | some start =>
    obtain ⟨_, first, rest⟩ := bind_eq_ok.mp answered
    cases first
    cases stop? with
    | some stop =>
      cases rest
      exact ⟨start, stop, Or.inl rfl, Or.inl rfl, rfl⟩
    | none =>
      obtain ⟨stop, shifted, equal⟩ := bind_eq_ok.mp rest
      cases equal
      exact ⟨start, stop, Or.inl rfl, Or.inr ⟨rfl, shifted⟩, rfl⟩
  | none =>
    obtain ⟨start, read, rest⟩ := bind_eq_ok.mp answered
    cases stop? with
    | some stop =>
      cases rest
      exact ⟨start, stop, Or.inr ⟨rfl, read⟩, Or.inl rfl, rfl⟩
    | none =>
      obtain ⟨stop, shifted, equal⟩ := bind_eq_ok.mp rest
      cases equal
      exact ⟨start, stop, Or.inr ⟨rfl, read⟩, Or.inr ⟨rfl, shifted⟩, rfl⟩

theorem bounds_of_between (answered : between clock start? stop? = .ok w) :
    w.Bounds clock start? stop? := by
  obtain ⟨start, stop, first, last, rfl⟩ := ends_of_between answered
  rcases first with rfl | ⟨rfl, read⟩
  · rcases last with rfl | ⟨rfl, shifted⟩
    -- both are given
    · exact {
        start_given := by simp [borrowOffset]
        start_now := by simp
        start_offset := rfl
        stop_given := by simp [borrowOffset]
        stop_default := by simp
        stop_offset := rfl }
    -- only the start is given
    · obtain ⟨offset, ticks⟩ := Timestamp.of_shift shifted
      rw [borrowOffset_of_eq offset, borrowOffset_of_eq offset.symm]
      exact {
        start_given := by simp
        start_now := by simp
        start_offset := by simp
        stop_given := by simp
        stop_default := fun _ => ticks
        stop_offset := by simp [offset] }
  · obtain ⟨offset, now⟩ := Timestamp.of_now read
    rcases last with rfl | ⟨rfl, shifted⟩
    -- only the end is given
    · have offset : start.offset? = stop.offset? := offset
      rw [borrowOffset_of_eq offset, borrowOffset_of_eq offset.symm]
      exact {
        start_given := by simp
        start_now := fun _ => now
        start_offset := by simp [offset]
        stop_given := by simp
        stop_default := by simp
        stop_offset := by simp }
    -- none is given
    · obtain ⟨offset', ticks⟩ := Timestamp.of_shift shifted
      rw [borrowOffset_of_eq offset', borrowOffset_of_eq offset'.symm]
      exact {
        start_given := by simp
        start_now := fun _ => now
        start_offset := offset
        stop_given := by simp
        stop_default := fun _ => ticks
        stop_offset := offset'.trans offset }

theorem minutes_of_between (answered : between clock start? stop? = .ok w) :
    w.minutes = minutesBetween w.start w.stop := by
  obtain ⟨start, stop, _, _, rfl⟩ := ends_of_between answered
  rfl

/-! ## Minutes -/

/-- The time from the minute of the start to the minute of the end; negative backwards. -/
def span (w : Window) : Int := w.stop.truncate.utcTicks - w.start.truncate.utcTicks

/-- The offsets of the bounds differ by a whole number of minutes. -/
def OffsetsAlign (w : Window) : Prop := (microsPerMinute : Int) ∣ w.stop.lead - w.start.lead

/-- The length of the window is kept without a loss: the offsets differ by a whole number of
seconds, or the window has fewer than `exactSeconds`. -/
def IsExact (w : Window) : Prop :=
  (microsPerSecond : Int) ∣ w.stop.lead - w.start.lead ∨ w.span < exactSeconds * microsPerSecond

theorem OffsetsAlign.isExact (align : w.OffsetsAlign) : w.IsExact := by
  obtain ⟨k, minutes⟩ := align
  refine Or.inl ⟨60 * k, ?_⟩
  unfold microsPerMinute at minutes
  unfold microsPerSecond
  omega

/-- After the start of the window and not after its end. -/
def Holds (w : Window) (t : Timestamp) : Prop :=
  w.start.utcTicks < t.utcTicks ∧ t.utcTicks ≤ w.stop.utcTicks

theorem span_eq (w : Window) :
    w.span = (w.stop.minute.index * microsPerMinute - w.stop.lead) -
      (w.start.minute.index * microsPerMinute - w.start.lead) := by
  rw [span, Timestamp.truncate, Timestamp.truncate, Timestamp.utcTicks_ofMinute,
    Timestamp.utcTicks_ofMinute]

theorem span_lt (w : Window) : w.span.toNat < (1 <<< 39) * microsPerSecond := by
  have start := w.start.lead_bounds
  have stop := w.stop.lead_bounds
  have last := w.stop.minute.index_lt
  have day : (microsPerDay : Int) = 86400000000 := rfl
  rw [span_eq]
  unfold minuteCount dayCount minutesPerDay at last
  unfold microsPerMinute microsPerSecond
  omega

/-- The minutes of a window are those that its whole seconds fill. -/
theorem minutes_mul_le (counted : w.minutes = minutesBetween w.start w.stop) :
    w.minutes * microsPerMinute ≤ wholeSeconds w.span.toNat * microsPerSecond := by
  rw [counted, minutesBetween, ← span]
  unfold microsPerMinute microsPerSecond
  omega

theorem minutes_mul_le_of_isExact (counted : w.minutes = minutesBetween w.start w.stop)
    (exact : w.IsExact) : w.minutes * microsPerMinute ≤ w.span.toNat := by
  refine Nat.le_trans (minutes_mul_le counted) ?_
  rcases exact with ⟨k, seconds⟩ | short
  · obtain ⟨n, whole⟩ : ∃ n, w.span.toNat = n * microsPerSecond := by
      refine ⟨((w.stop.minute.index - w.start.minute.index) * 60 - k).toNat, ?_⟩
      rw [span_eq]
      unfold microsPerMinute microsPerSecond at *
      omega
    rw [whole, wholeSeconds_mul]
  · exact wholeSeconds_mul_le (by
      have : 0 < exactSeconds * microsPerSecond := by decide
      omega)

/-- Where the offsets differ by whole minutes, so do the minutes of the bounds. -/
theorem minutes_of_offsetsAlign (counted : w.minutes = minutesBetween w.start w.stop)
    (align : w.OffsetsAlign) : ∃ k : Int, w.span = k * microsPerMinute ∧ w.minutes = k.toNat := by
  obtain ⟨k, minutes⟩ := align
  refine ⟨w.stop.minute.index - w.start.minute.index - k, ?_, ?_⟩
  · rw [span_eq]
    unfold microsPerMinute at *
    omega
  · have whole : w.span.toNat =
        (w.stop.minute.index - w.start.minute.index - k).toNat * 60 * microsPerSecond := by
      rw [span_eq]
      unfold microsPerMinute microsPerSecond at *
      omega
    rw [counted, minutesBetween, ← span, whole, wholeSeconds_mul]
    omega

/-- As many minutes as its length fills come after the start of a window, and not after its end but
for what the length is rounded up by. -/
theorem holds_of_inside {reach : Nat} (after : w.start.minute.index < m.index)
    (within : m.index ≤ w.start.minute.index + reach)
    (filled : reach * microsPerMinute ≤ w.span.toNat + late) (little : late < microsPerMinute) :
    w.start.utcTicks < (Timestamp.ofMinute m w.start.offset?).utcTicks ∧
      (Timestamp.ofMinute m w.start.offset?).utcTicks ≤ w.stop.utcTicks + late := by
  have cut := w.start.wall.micros_lt
  rw [Timestamp.utcTicks_ofMinute, Timestamp.utcTicks_eq, Timestamp.utcTicks_eq]
  rw [span_eq] at filled
  unfold microsPerMinute at *
  omega

theorem holds_of_isExact (counted : w.minutes = minutesBetween w.start w.stop) (exact : w.IsExact)
    (after : w.start.minute.index < m.index)
    (within : m.index ≤ w.start.minute.index + w.minutes) :
    w.Holds (.ofMinute m w.start.offset?) := by
  have filled : w.minutes * microsPerMinute ≤ w.span.toNat + 0 :=
    minutes_mul_le_of_isExact counted exact
  obtain ⟨later, bound⟩ := holds_of_inside after within filled (by decide)
  rw [Int.natCast_zero, Int.add_zero] at bound
  exact ⟨later, bound⟩

/-- Where the offsets differ by whole minutes, no minute of the window is left out. -/
theorem inside_of_holds (counted : w.minutes = minutesBetween w.start w.stop)
    (align : w.OffsetsAlign) (holds : w.Holds (.ofMinute m w.start.offset?)) :
    w.start.minute.index < m.index ∧ m.index ≤ w.start.minute.index + w.minutes := by
  obtain ⟨k, whole, minutes⟩ := minutes_of_offsetsAlign counted align
  have cut := w.stop.wall.micros_lt
  rw [Holds, Timestamp.utcTicks_ofMinute, Timestamp.utcTicks_eq, Timestamp.utcTicks_eq] at holds
  rw [span_eq] at whole
  unfold microsPerMinute at *
  omega

/-! ## Runs -/

variable {sets : Fields (List Int)} {limit : Int} {runs : List Timestamp}

theorem runs_eq (bounded : sets.InBounds) (w : Window) (limit : Int) :
    w.runs sets.toList limit =
      if limit < indexLimit then
        if limit.toNat ≤ (sets.dueAfter w.start.minute w.minutes).length ∨
            w.start.minute.index + w.minutes < minuteCount then
          .ok (((sets.dueAfter w.start.minute w.minutes).take limit.toNat).map
            (.ofMinute · w.start.offset?))
        else .error .dateOutOfRange
      else .error .countTooLarge :=
  askedRuns_eq bounded w.start.minute w.minutes w.start.offset? limit

theorem eq_of_runs (bounded : sets.InBounds) (listed : w.runs sets.toList limit = .ok runs) :
    runs = ((sets.dueAfter w.start.minute w.minutes).take limit.toNat).map
      (.ofMinute · w.start.offset?) := by
  rw [runs_eq bounded] at listed
  split at listed
  · split at listed
    · exact (Except.ok.inj listed).symm
    · cases listed
  · cases listed

/-- The runs of a window are due minutes after its start, by the wall of the start, and not after
its end. -/
theorem mem_runs (bounded : sets.InBounds) (counted : w.minutes = minutesBetween w.start w.stop)
    (listed : w.runs sets.toList limit = .ok runs) {t : Timestamp} (member : t ∈ runs) :
    (∃ m, t = .ofMinute m w.start.offset? ∧ sets.Due m) ∧ w.start.utcTicks < t.utcTicks ∧
      t.utcTicks ≤ w.stop.utcTicks + 30 ∧ (w.IsExact → w.Holds t) := by
  rw [eq_of_runs bounded listed] at member
  obtain ⟨m, early, rfl⟩ := List.mem_map.mp member
  obtain ⟨⟨after, within⟩, due⟩ := Fields.mem_dueAfter.mp (List.mem_of_mem_take early)
  have rounded := Nat.le_trans (minutes_mul_le counted) (wholeSeconds_mul_le_add w.span_lt)
  obtain ⟨later, bound⟩ := holds_of_inside after within rounded (by decide)
  exact ⟨⟨m, rfl, due⟩, later, bound, fun exact => holds_of_isExact counted exact after within⟩

/-- Where the offsets differ by whole minutes, the runs are the first ones of all due minutes in the
window. -/
theorem runs_of_offsetsAlign (bounded : sets.InBounds)
    (counted : w.minutes = minutesBetween w.start w.stop) (align : w.OffsetsAlign)
    (listed : w.runs sets.toList limit = .ok runs) :
    ∃ due : List Minute, (due.Pairwise fun a b => a.index < b.index) ∧
      (∀ m, m ∈ due ↔ sets.Due m ∧ w.Holds (.ofMinute m w.start.offset?)) ∧
      runs = (due.take limit.toNat).map (.ofMinute · w.start.offset?) := by
  refine ⟨sets.dueAfter w.start.minute w.minutes, sets.pairwise_dueAfter _ _, fun m => ?_,
    eq_of_runs bounded listed⟩
  rw [Fields.mem_dueAfter, and_comm]
  refine and_congr_right fun _ => ⟨fun inside => ?_, inside_of_holds counted align⟩
  exact holds_of_isExact counted align.isExact inside.1 inside.2

/-- A window between bounds that share their offset lies in the calendar. -/
theorem inside_of_shared (clock : WallTime) {start stop : Timestamp}
    (shared : start.offset? = stop.offset? ∨ start.offset? = none ∨ stop.offset? = none) :
    ∃ w, between clock (some start) (some stop) = .ok w ∧
      w.start.minute.index + w.minutes < minuteCount := by
  let w : Window := ⟨borrowOffset start stop, borrowOffset stop start,
    minutesBetween (borrowOffset start stop) (borrowOffset stop start)⟩
  have lead : w.stop.lead = w.start.lead := by
    show (borrowOffset stop start).lead = (borrowOffset start stop).lead
    unfold Timestamp.lead borrowOffset
    rcases shared with same | none | none
    · rw [same]
    · rw [none]
      cases stop.offset? <;> rfl
    · rw [none]
      cases start.offset? <;> rfl
  have align : w.OffsetsAlign := ⟨0, by rw [lead, Int.sub_self, Int.mul_zero]⟩
  obtain ⟨k, whole, minutes⟩ := minutes_of_offsetsAlign rfl align
  have first := w.start.minute.index_lt
  have last := w.stop.minute.index_lt
  refine ⟨w, rfl, ?_⟩
  rw [span_eq, lead] at whole
  unfold microsPerMinute at whole
  omega

/-- The bounds of a window are the given ones or made up, and its runs are due minutes after the
start. They are not after the end, either, but by 30 microseconds at most in a window whose length
is not kept exactly. Where the offsets of the bounds differ by whole minutes, the first `limit` due
minutes of the window are listed, and between bounds that share their offset the calendar does not
end too early for that. -/
theorem runs_between (bounded : sets.InBounds) (clock : WallTime)
    (start? stop? : Option Timestamp) :
    (∀ w, between clock start? stop? = .ok w →
      w.Bounds clock start? stop? ∧
        ∀ (limit : Int) (runs : List Timestamp), w.runs sets.toList limit = .ok runs →
          (∀ t ∈ runs, (∃ m, t = .ofMinute m w.start.offset? ∧ sets.Due m) ∧
            w.start.utcTicks < t.utcTicks ∧ t.utcTicks ≤ w.stop.utcTicks + 30 ∧
            (w.IsExact → w.Holds t)) ∧
          (w.OffsetsAlign → ∃ due : List Minute, (due.Pairwise fun a b => a.index < b.index) ∧
            (∀ m, m ∈ due ↔ sets.Due m ∧ w.Holds (.ofMinute m w.start.offset?)) ∧
            runs = (due.take limit.toNat).map (.ofMinute · w.start.offset?))) ∧
      ∀ start stop, start? = some start → stop? = some stop →
        start.offset? = stop.offset? ∨ start.offset? = none ∨ stop.offset? = none →
        ∃ w, between clock start? stop? = .ok w ∧
          ∀ limit : Int, (limit < indexLimit → ∃ runs, w.runs sets.toList limit = .ok runs) ∧
            w.runs sets.toList limit ≠ .error .dateOutOfRange := by
  refine ⟨fun w answered => ⟨bounds_of_between answered, fun limit runs listed => ?_⟩, ?_⟩
  · have counted := minutes_of_between answered
    exact ⟨fun t member => mem_runs bounded counted listed member,
      fun align => runs_of_offsetsAlign bounded counted align listed⟩
  · rintro start stop rfl rfl shared
    obtain ⟨w, answered, inside⟩ := inside_of_shared clock shared
    refine ⟨w, answered, fun limit => ?_⟩
    rw [runs_eq bounded, if_pos (Or.inr inside)]
    split
    · exact ⟨fun _ => ⟨_, rfl⟩, by simp⟩
    · next many => exact ⟨fun countable => absurd countable many, by simp⟩

/-- A window to the last minute of the calendar, whose end borrows the offset of its start. -/
theorem runs_between_calendarEnd :
    let sets : Fields (List Int) := ⟨[59, 0], [23], [31, 30], [12], [0, 1, 2, 3, 4, 5, 6]⟩
    let start : Timestamp := ⟨⟨⟨minuteCount - 120, by decide⟩, 30000000, by decide⟩, some .utc⟩
    let stop : Timestamp := ⟨⟨⟨minuteCount - 1, by decide⟩, 59999999, by decide⟩, none⟩
    sets.InBounds ∧ ∃ w, between start.wall (some start) (some stop) = .ok w ∧ w.OffsetsAlign ∧
      ∃ runs, w.runs sets.toList 5 = .ok runs ∧ (∀ t ∈ runs, w.Holds t) ∧
        ∃ due : List Minute, (∀ m, m ∈ due ↔ sets.Due m ∧ w.Holds (.ofMinute m (some .utc))) ∧
          runs = (due.take 5).map (.ofMinute · (some .utc)) := by
  intro sets start stop
  have bounded : sets.InBounds := ⟨by decide, by decide, by decide, by decide, by decide⟩
  obtain ⟨windows, shared⟩ := runs_between bounded start.wall (some start) (some stop)
  obtain ⟨w, answered, answers⟩ := shared start stop rfl rfl (Or.inr (Or.inr rfl))
  obtain ⟨runs, listed⟩ := (answers 5).1 (by decide)
  obtain ⟨bounds, each⟩ := windows w answered
  have offset : w.start.offset? = some .utc := bounds.start_offset
  have align : w.OffsetsAlign := by
    have offset' : w.stop.offset? = some .utc := bounds.stop_offset
    rw [OffsetsAlign, Timestamp.lead, Timestamp.lead, offset, offset']
    decide
  obtain ⟨inside, first⟩ := each 5 runs listed
  obtain ⟨due, _, members, equal⟩ := first align
  rw [offset] at members equal
  exact ⟨bounded, w, answered, align, runs, listed,
    fun t member => (inside t member).2.2.2 align.isExact, due, members, equal⟩

/-! ## Windows of centuries -/

theorem length_dueAfter_le_reach (sets : Fields (List Int)) (m : Minute) (reach : Nat) :
    (sets.dueAfter m reach).length ≤ reach := by
  calc (sets.dueAfter m reach).length
      ≤ (m.following reach).length := List.length_filter_le _ _
    _ ≤ (List.range reach).length := List.length_filterMap_le _ _
    _ = reach := List.length_range

/-- A microsecond before its last due minute a window of 548 years ends, and still lists it. -/
theorem runs_past_end :
    let sets : Fields (List Int) := ⟨[0], [0], [29], [2], [0, 1, 2, 3, 4, 5, 6]⟩
    let leapDay : Minute := ⟨Date.dayNumber ⟨548, 2, 29⟩ * minutesPerDay, by decide⟩
    let start : Timestamp := .ofMinute ⟨0, by decide⟩ (some .utc)
    let stop : Timestamp := .ofMinute ⟨leapDay.index + 60, by decide⟩ (some ⟨3600000001, by decide⟩)
    ∃ w runs, between start.wall (some start) (some stop) = .ok w ∧
      w.runs sets.toList 1000000000 = .ok runs ∧ w.stop = stop ∧
      ∃ t ∈ runs, stop.utcTicks < t.utcTicks := by
  intro sets leapDay start stop
  have bounded : sets.InBounds := ⟨by decide, by decide, by decide, by decide, by decide⟩
  let w : Window := ⟨start, stop, minutesBetween start stop⟩
  have minutes : w.minutes = leapDay.index := by decide +kernel
  have inside : w.start.minute.index + w.minutes < minuteCount := by
    rw [minutes]
    decide
  have listed : w.runs sets.toList 1000000000 =
      .ok ((sets.dueAfter w.start.minute w.minutes).map (.ofMinute · w.start.offset?)) := by
    have few : (sets.dueAfter w.start.minute w.minutes).length ≤ 1000000000 := by
      refine Nat.le_trans (length_dueAfter_le_reach _ _ _) ?_
      rw [minutes]
      decide
    rw [runs_eq bounded, if_pos (by decide), if_pos (Or.inr inside)]
    show Except.ok (List.map _ ((sets.dueAfter w.start.minute w.minutes).take 1000000000)) = _
    rw [List.take_of_length_le few]
  have due : leapDay ∈ sets.dueAfter w.start.minute w.minutes := by
    refine Fields.mem_dueAfter.mpr ⟨⟨by decide, ?_⟩, by decide +kernel⟩
    rw [minutes]
    exact Nat.le_add_left _ _
  exact ⟨w, _, rfl, listed, rfl, _, List.mem_map_of_mem due, by decide⟩

end Window

end Crontab
