import Crontab.Proofs.Schedule.Counting
import Crontab.Proofs.Schedule.Windows

/-!
# Heatmaps

The heatmap of a window against the list of its runs: `heatCells_eq` says that the counted and
sorted cells are the slots of the week with a firing in them, `tallies_heatCells` that they tally
the firings, and `heat_tallies` that these are the runs that the window lists, where more of them
are asked for than it has.
-/

namespace Crontab

open Calendar

/-! ## Cells -/

/-- The minute lies in the hour of the week that the cell is for. -/
def HeatCell.Covers (c : HeatCell) (m : Minute) : Prop := m.hour = c.hour ∧ m.weekday = c.weekday

instance (c : HeatCell) (m : Minute) : Decidable (c.Covers m) :=
  inferInstanceAs (Decidable (_ ∧ _))

/-- A cell stands before another one by its hour, or in the same hour by its day. -/
def HeatCell.Before (a b : HeatCell) : Prop :=
  a.hour < b.hour ∨ a.hour = b.hour ∧ a.weekday < b.weekday

theorem countLe_iff {a b : (Nat × Nat) × Nat} : countLe a b = true ↔
    a.1.1 < b.1.1 ∨ a.1.1 = b.1.1 ∧ (a.1.2 < b.1.2 ∨ a.1.2 = b.1.2 ∧ a.2 ≤ b.2) := by
  simp [countLe]

theorem pairwise_countLe (counts : List ((Nat × Nat) × Nat)) :
    (counts.mergeSort countLe).Pairwise fun a b => countLe a b = true := by
  refine List.pairwise_mergeSort (fun a b c => ?_) (fun a b => ?_) counts
  · simp only [countLe_iff]
    omega
  · rw [Bool.or_eq_true, countLe_iff, countLe_iff]
    omega

section Cells

variable {firings : List Minute} {cell : HeatCell}

/-- The cells are those of the hours of the week in which there is a firing, each with the number
of its firings. -/
theorem mem_heatCells : cell ∈ heatCells firings ↔
    (cell.hour < 24 ∧ cell.weekday < 7) ∧ 0 < cell.count ∧
      cell.count = firings.countP (cell.Covers ·) := by
  have counted := counts_countKeys (firings.map Minute.heatKey)
  have number : (firings.map Minute.heatKey).countP (· = (cell.hour, cell.weekday)) =
      firings.countP (cell.Covers ·) := by
    rw [List.countP_map]
    refine List.countP_congr fun m _ => ?_
    rw [Function.comp_apply, decide_eq_true_eq, decide_eq_true_eq]
    exact Prod.mk_inj
  have listed : cell ∈ heatCells firings ↔
      ((cell.hour, cell.weekday), cell.count) ∈ countKeys (firings.map Minute.heatKey) := by
    rw [heatCells, List.mem_map]
    constructor
    · rintro ⟨entry, member, rfl⟩
      exact List.mem_mergeSort.mp member
    · exact fun member => ⟨_, List.mem_mergeSort.mpr member, rfl⟩
  rw [listed, counted.number, number]
  refine ⟨fun given => ⟨?_, given⟩, And.right⟩
  -- the hour and the day are those of some firing
  obtain ⟨positive, count⟩ := given
  rw [count, List.countP_pos_iff] at positive
  obtain ⟨m, _, covered⟩ := positive
  obtain ⟨hour, weekday⟩ := of_decide_eq_true covered
  exact ⟨hour ▸ m.hour_lt, weekday ▸ m.weekday_lt⟩

theorem pairwise_heatCells (firings : List Minute) :
    (heatCells firings).Pairwise HeatCell.Before := by
  have counted := counts_countKeys (firings.map Minute.heatKey)
  have distinct := ((List.mergeSort_perm _ countLe).map Prod.fst).nodup_iff.mpr counted.once
  rw [heatCells, List.pairwise_map]
  refine ((pairwise_countLe _).and (List.pairwise_map.mp distinct)).imp ?_
  rintro ⟨⟨hour, weekday⟩, n⟩ ⟨⟨hour', weekday'⟩, n'⟩ ⟨ordered, other⟩
  have ordered := countLe_iff.mp ordered
  simp only [ne_eq, Prod.mk.injEq, not_and] at ordered other
  show hour < hour' ∨ hour = hour' ∧ weekday < weekday'
  omega

/-- Every firing is in one cell. -/
theorem sum_count_heatCells (firings : List Minute) :
    ((heatCells firings).map HeatCell.count).sum = firings.length := by
  have sorted := (List.mergeSort_perm (countKeys (firings.map Minute.heatKey)) countLe).map Prod.snd
  rw [heatCells, List.map_map]
  exact sorted.sum_eq.trans ((sum_countKeys _).trans (List.length_map _))

end Cells

/-! ## Slots of the week -/

/-- The hour of the week of a minute, in the order of hours first and days second. -/
def Minute.heatSlot (m : Minute) : Nat := m.hour * 7 + m.weekday

/-- The cell for a slot of the week; none where no firing is in it. -/
def heatCell? (slots : List Nat) (slot : Nat) : Option HeatCell :=
  match slots.count slot with
  | 0 => none
  | count => some { hour := slot / 7, weekday := slot % 7, count }

instance : Std.Irrefl HeatCell.Before where
  irrefl a := by
    unfold HeatCell.Before
    omega

instance : Std.Antisymm HeatCell.Before where
  antisymm a b before after := by
    unfold HeatCell.Before at before after
    omega

section Slots

variable {firings : List Minute} {slots : List Nat} {cell : HeatCell} {slot : Nat}

/-- A slot of the week is one hour of one day. -/
theorem Minute.heatSlot_eq_iff {m : Minute} :
    m.heatSlot = slot ↔ m.hour = slot / 7 ∧ m.weekday = slot % 7 := by
  have := m.weekday_lt
  unfold heatSlot
  omega

theorem heatCell?_eq_some : heatCell? slots slot = some cell ↔
    0 < slots.count slot ∧ cell = ⟨slot / 7, slot % 7, slots.count slot⟩ := by
  unfold heatCell?
  split
  · next none => simp [none]
  · next some => simp [Nat.pos_of_ne_zero some, eq_comm]

theorem count_heatSlot (firings : List Minute) (slot : Nat) :
    (firings.map Minute.heatSlot).count slot =
      firings.countP fun m => m.hour = slot / 7 ∧ m.weekday = slot % 7 := by
  rw [List.count, List.countP_map]
  refine List.countP_congr fun m _ => ?_
  simp [Minute.heatSlot_eq_iff]

/-- The counted hours in order are the slots of the week with a firing in them. -/
theorem heatCells_eq (firings : List Minute) : heatCells firings =
    (List.range (24 * 7)).filterMap (heatCell? (firings.map Minute.heatSlot)) := by
  refine List.Pairwise.eq_of_mem_iff (pairwise_heatCells firings) ?_ fun cell => ?_
  · refine List.Pairwise.filterMap _ ?_ List.pairwise_lt_range
    intro slot slot' before cell found cell' found'
    obtain ⟨_, rfl⟩ := heatCell?_eq_some.mp found
    obtain ⟨_, rfl⟩ := heatCell?_eq_some.mp found'
    show slot / 7 < slot' / 7 ∨ slot / 7 = slot' / 7 ∧ slot % 7 < slot' % 7
    omega
  simp only [mem_heatCells, List.mem_filterMap, List.mem_range, heatCell?_eq_some]
  constructor
  · rintro ⟨⟨hour, weekday⟩, positive, count⟩
    have place : (cell.hour * 7 + cell.weekday) / 7 = cell.hour := by omega
    have place' : (cell.hour * 7 + cell.weekday) % 7 = cell.weekday := by omega
    refine ⟨cell.hour * 7 + cell.weekday, by omega, ?_⟩
    have number :
        (firings.map Minute.heatSlot).count (cell.hour * 7 + cell.weekday) = cell.count := by
      rw [count_heatSlot, place, place', count]
      rfl
    rw [number, place, place']
    exact ⟨positive, rfl⟩
  · rintro ⟨slot, early, positive, rfl⟩
    refine ⟨⟨?_, ?_⟩, positive, count_heatSlot firings slot⟩
    · show slot / 7 < 24
      omega
    · show slot % 7 < 7
      omega

end Slots

/-! ## The peak -/

/-- Of the counts and what they are compared with from the start, the greatest is found. -/
theorem foldl_max_spec (cells : List HeatCell) (start : Nat) :
    let peak := cells.foldl (fun peak cell => max peak cell.count) start
    start ≤ peak ∧ (∀ c ∈ cells, c.count ≤ peak) ∧
      (peak = start ∨ ∃ c ∈ cells, c.count = peak) := by
  induction cells generalizing start with
  | nil => simp
  | cons cell cells ih =>
    obtain ⟨above, each, reached⟩ := ih (max start cell.count)
    simp only [List.foldl_cons]
    refine ⟨Nat.le_trans (Nat.le_max_left _ _) above, ?_, ?_⟩
    · exact List.forall_mem_cons.mpr ⟨Nat.le_trans (Nat.le_max_right _ _) above, each⟩
    · rcases reached with equal | ⟨c, member, equal⟩
      · rcases Nat.le_total cell.count start with low | high
        · exact .inl (equal.trans (Nat.max_eq_left low))
        · exact .inr ⟨cell, List.mem_cons_self, (equal.trans (Nat.max_eq_right high)).symm⟩
      · exact .inr ⟨c, List.mem_cons_of_mem _ member, equal⟩

/-- The peak is the greatest count of a cell, and 0 only where there is none. -/
theorem heatPeak_spec (firings : List Minute) :
    heatCells firings = [] ∧ heatPeak (heatCells firings) = 0 ∨
      (∃ c ∈ heatCells firings, c.count = heatPeak (heatCells firings)) ∧
        ∀ c ∈ heatCells firings, c.count ≤ heatPeak (heatCells firings) := by
  obtain ⟨_, each, reached⟩ := foldl_max_spec (heatCells firings) 0
  rcases reached with zero | reached
  · refine .inl ⟨List.eq_nil_iff_forall_not_mem.mpr fun c member => ?_, zero⟩
    have positive := (mem_heatCells.mp member).2.1
    have := each c member
    omega
  · exact .inr ⟨reached, each⟩

/-- The cells tally the runs: one cell for each hour of the week with a run in it, ordered by hour
and then by day, with the number of runs in it. -/
structure Tallies (cells : List HeatCell) (runs : List Timestamp) : Prop where
  ascending : cells.Pairwise fun a b =>
    a.hour < b.hour ∨ a.hour = b.hour ∧ a.weekday < b.weekday
  bounds : ∀ c ∈ cells, c.hour ≤ 23 ∧ c.weekday ≤ 6 ∧ 1 ≤ c.count
  present : ∀ hour weekday, (∃ c ∈ cells, c.hour = hour ∧ c.weekday = weekday) ↔
    ∃ t ∈ runs, t.minute.hour = hour ∧ t.minute.weekday = weekday
  counts : ∀ c ∈ cells, c.count =
    runs.countP fun t => t.minute.hour = c.hour ∧ t.minute.weekday = c.weekday
  total : (cells.map HeatCell.count).sum = runs.length
  peak : cells = [] ∧ heatPeak cells = 0 ∨
    (∃ c ∈ cells, c.count = heatPeak cells) ∧ ∀ c ∈ cells, c.count ≤ heatPeak cells

/-- The cells tally the firings that they are made from, by whatever offset. -/
theorem tallies_heatCells (firings : List Minute) (offset? : Option UtcOffset) :
    Tallies (heatCells firings) (firings.map (.ofMinute · offset?)) where
  ascending := pairwise_heatCells firings
  bounds c member := by
    have := mem_heatCells.mp member
    omega
  present hour weekday := by
    constructor
    · rintro ⟨c, member, rfl, rfl⟩
      obtain ⟨_, positive, count⟩ := mem_heatCells.mp member
      rw [count, List.countP_pos_iff] at positive
      obtain ⟨m, listed, covered⟩ := positive
      exact ⟨_, List.mem_map_of_mem listed, of_decide_eq_true covered⟩
    · rintro ⟨t, member, rfl, rfl⟩
      obtain ⟨m, listed, rfl⟩ := List.mem_map.mp member
      let c : HeatCell :=
        ⟨m.hour, m.weekday, firings.countP (HeatCell.Covers ⟨m.hour, m.weekday, 0⟩ ·)⟩
      have positive : 0 < c.count := List.countP_pos_iff.mpr ⟨m, listed, decide_eq_true ⟨rfl, rfl⟩⟩
      exact ⟨c, mem_heatCells.mpr ⟨⟨m.hour_lt, m.weekday_lt⟩, positive, rfl⟩, rfl, rfl⟩
  counts c member := by
    rw [(mem_heatCells.mp member).2.2, List.countP_map]
    rfl
  total := by rw [sum_count_heatCells, List.length_map]
  peak := heatPeak_spec firings

/-! ## The due minutes of a window -/

namespace Window

variable {w : Window} {sets : Fields (List Int)} {m : Minute} {limit : Int}

instance (w : Window) (t : Timestamp) : Decidable (w.Holds t) :=
  inferInstanceAs (Decidable (_ ∧ _))

/-- The due minutes of a window, by the wall of its start. -/
def dueMinutes (w : Window) (sets : Fields (List Int)) : List Minute :=
  (sets.dueAfter w.start.minute w.start.minute.toEnd).filter fun m =>
    w.Holds (.ofMinute m w.start.offset?)

theorem mem_dueMinutes :
    m ∈ w.dueMinutes sets ↔ sets.Due m ∧ w.Holds (.ofMinute m w.start.offset?) := by
  rw [dueMinutes, List.mem_filter, Fields.mem_dueAfter, decide_eq_true_eq]
  constructor
  · exact fun given => ⟨given.1.2, given.2⟩
  · rintro ⟨due, holds⟩
    have after := holds.1
    have cut := w.start.wall.micros_lt
    have inside := m.index_lt
    rw [Timestamp.utcTicks_ofMinute, Timestamp.utcTicks_eq] at after
    unfold microsPerMinute at after cut
    refine ⟨⟨⟨by omega, ?_⟩, due⟩, holds⟩
    unfold Minute.toEnd
    omega

/-- Short of its last minute, the minutes of a window lie in it. -/
theorem length_dueAfter_le_dueMinutes (counted : w.minutes = minutesBetween w.start w.stop)
    {reach : Nat} (short : reach < w.minutes) :
    (sets.dueAfter w.start.minute reach).length ≤ (w.dueMinutes sets).length := by
  have rounded : w.minutes * microsPerMinute ≤ w.span.toNat + 30 :=
    Nat.le_trans (minutes_mul_le counted) (wholeSeconds_mul_le_add w.span_lt)
  have minute : (reach + 1) * microsPerMinute ≤ w.minutes * microsPerMinute :=
    Nat.mul_le_mul_right _ short
  have filled : reach * microsPerMinute ≤ w.span.toNat + 0 := by
    have : 30 ≤ microsPerMinute := by decide
    rw [Nat.succ_mul] at minute
    omega
  have inside : sets.dueAfter w.start.minute reach ⊆ w.dueMinutes sets := by
    intro m member
    obtain ⟨⟨after, within⟩, due⟩ := Fields.mem_dueAfter.mp member
    obtain ⟨later, bound⟩ := holds_of_inside after within filled (by decide)
    rw [Int.natCast_zero, Int.add_zero] at bound
    exact mem_dueMinutes.mpr ⟨due, later, bound⟩
  exact ((sets.nodup_dueAfter _ _).subperm inside).length_le

/-- A walk through the minutes of a window finds one due minute more than the window has at most,
and none where it comes to the end of the calendar. -/
theorem length_dueAfter_minutes_le (counted : w.minutes = minutesBetween w.start w.stop) :
    (sets.dueAfter w.start.minute w.minutes).length ≤ (w.dueMinutes sets).length + 1 ∧
      (minuteCount ≤ w.start.minute.index + w.minutes →
        (sets.dueAfter w.start.minute w.minutes).length ≤ (w.dueMinutes sets).length) := by
  cases minutes : w.minutes with
  | zero => simp [Fields.dueAfter_zero]
  | succ reach =>
    have short : (sets.dueAfter w.start.minute reach).length ≤ _ :=
      length_dueAfter_le_dueMinutes counted (by omega)
    refine ⟨?_, fun past => ?_⟩
    · exact Nat.le_trans (sets.length_dueAfter_succ_le _ _) (Nat.succ_le_succ short)
    · have beyond : w.start.minute.toEnd ≤ reach := by
        unfold Minute.toEnd
        omega
      rw [Fields.dueAfter_eq_of_toEnd_le (Nat.le_succ_of_le beyond),
        ← Fields.dueAfter_eq_of_toEnd_le beyond]
      exact short

/-! ## The tally -/

/-- The heatmap of a window is made from all due minutes that a walk through it finds. -/
theorem heat_eq (bounded : sets.InBounds) (w : Window) : w.heat sets.toList =
    if w.start.minute.index + w.minutes < minuteCount then
      .ok (heatCells (sets.dueAfter w.start.minute w.minutes))
    else .error .dateOutOfRange := by
  have few := length_dueAfter_le_reach sets w.start.minute w.minutes
  have many : ¬ w.minutes + 1 ≤ (sets.dueAfter w.start.minute w.minutes).length := by omega
  rw [heat, walk, Walk.firings?_fresh bounded]
  by_cases inside : w.start.minute.index + w.minutes < minuteCount
  · rw [if_pos (Or.inr inside), if_pos inside, List.take_of_length_le (Nat.le_succ_of_le few)]
    rfl
  · rw [if_neg fun given => given.elim many inside, if_neg inside]
    rfl

/-- With more runs asked for than a window has due minutes, all that a walk through it finds are
listed. -/
theorem runs_eq_of_lt (bounded : sets.InBounds)
    (counted : w.minutes = minutesBetween w.start w.stop) (countable : limit < indexLimit)
    (plenty : ((w.dueMinutes sets).length : Int) < limit) : w.runs sets.toList limit =
      if w.start.minute.index + w.minutes < minuteCount then
        .ok ((sets.dueAfter w.start.minute w.minutes).map (.ofMinute · w.start.offset?))
      else .error .dateOutOfRange := by
  obtain ⟨few, fewer⟩ : (sets.dueAfter w.start.minute w.minutes).length ≤ _ ∧ _ :=
    length_dueAfter_minutes_le counted
  rw [runs_eq bounded, if_pos countable]
  by_cases inside : w.start.minute.index + w.minutes < minuteCount
  · rw [if_pos (Or.inr inside), if_pos inside, List.take_of_length_le (by omega)]
  · have fewer := fewer (by omega)
    have many : ¬ limit.toNat ≤ (sets.dueAfter w.start.minute w.minutes).length := by omega
    rw [if_neg fun given => given.elim many inside, if_neg inside]

/-- The window between two bounds, with an answer about it. -/
def answerBetween {α : Type} (clock : WallTime) (start? stop? : Option Timestamp)
    (answer : Window → Except Fault α) : Except Fault (Window × α) := do
  let w ← between clock start? stop?
  return (w, ← answer w)

section Answers

variable {α : Type} {clock : WallTime} {start? stop? : Option Timestamp} {fault : Fault}

theorem answerBetween_of_error (failed : between clock start? stop? = .error fault)
    (answer : Window → Except Fault α) :
    answerBetween clock start? stop? answer = .error fault := by
  rw [answerBetween, failed]
  rfl

theorem answerBetween_of_ok (answered : between clock start? stop? = .ok w)
    (answer : Window → Except Fault α) :
    answerBetween clock start? stop? answer = (answer w).map (w, ·) := by
  rw [answerBetween, answered]
  show (do return (w, ← answer w)) = _
  cases answer w <;> rfl

end Answers

/-- The heatmap of a window and the list of its runs are of the same window and fail alike, and the
heatmap tallies the runs, where more are asked for than the window has due minutes. Only the list
fails where more are asked for than can be counted. -/
theorem heat_tallies (bounded : sets.InBounds) (clock : WallTime)
    (start? stop? : Option Timestamp) (limit : Int)
    (plenty : ∀ w, between clock start? stop? = .ok w →
      ((w.dueMinutes sets).length : Int) < limit) :
    let mapped := answerBetween clock start? stop? fun w => w.heat sets.toList
    let listed := answerBetween clock start? stop? fun w => w.runs sets.toList limit
    (limit < indexLimit → ∀ fault, mapped = .error fault ↔ listed = .error fault) ∧
      (indexLimit ≤ limit → ∀ w, between clock start? stop? = .ok w →
        listed = .error .countTooLarge) ∧
      ∀ w w' cells runs, mapped = .ok (w, cells) → listed = .ok (w', runs) →
        w = w' ∧ Tallies cells runs := by
  intro mapped listed
  cases answered : between clock start? stop? with
  | error fault =>
    have unmapped : mapped = .error fault := answerBetween_of_error answered _
    have unlisted : listed = .error fault := answerBetween_of_error answered _
    simp [unmapped, unlisted]
  | ok w =>
    have mapped_eq : mapped = (w.heat sets.toList).map (w, ·) := answerBetween_of_ok answered _
    have listed_eq : listed = (w.runs sets.toList limit).map (w, ·) :=
      answerBetween_of_ok answered _
    rw [mapped_eq, listed_eq, heat_eq bounded]
    by_cases countable : limit < indexLimit
    · rw [runs_eq_of_lt bounded (minutes_of_between answered) countable (plenty w answered)]
      refine ⟨fun _ fault => ?_, fun many => absurd countable (by omega), ?_⟩
      · split <;> simp [Except.map]
      · intro w₁ w₂ cells runs made found
        split at made
        · next inside =>
          rw [if_pos inside] at found
          cases made
          cases found
          exact ⟨rfl, tallies_heatCells _ _⟩
        · cases made
    · have uncounted : w.runs sets.toList limit = .error .countTooLarge := by
        rw [runs_eq bounded, if_neg countable]
      rw [uncounted]
      refine ⟨fun holds => absurd holds countable, fun _ _ _ => rfl, ?_⟩
      intro _ _ _ _ _ found
      cases found

/-- The last two hours of the calendar, with three runs in two hours of a Friday. -/
theorem heat_tallies_calendarEnd :
    let sets : Fields (List Int) := ⟨[30, 0], [23, 22], [31], [12], [0, 1, 2, 3, 4, 5, 6]⟩
    let start : Timestamp := ⟨⟨⟨minuteCount - 120, by decide⟩, 30000000, by decide⟩, some .utc⟩
    let stop : Timestamp := ⟨⟨⟨minuteCount - 1, by decide⟩, 59999999, by decide⟩, none⟩
    sets.InBounds ∧
      (∀ w, between start.wall (some start) (some stop) = .ok w →
        ((w.dueMinutes sets).length : Int) < 4) ∧
      ∃ w runs,
        answerBetween start.wall (some start) (some stop) (fun w => w.heat sets.toList) =
          .ok (w, [⟨22, 5, 1⟩, ⟨23, 5, 2⟩]) ∧
        answerBetween start.wall (some start) (some stop) (fun w => w.runs sets.toList 4) =
          .ok (w, runs) ∧
        Tallies [⟨22, 5, 1⟩, ⟨23, 5, 2⟩] runs := by
  intro sets start stop
  have bounded : sets.InBounds := ⟨by decide, by decide, by decide, by decide, by decide⟩
  let w : Window := ⟨borrowOffset start stop, borrowOffset stop start,
    minutesBetween (borrowOffset start stop) (borrowOffset stop start)⟩
  have answered : between start.wall (some start) (some stop) = .ok w := rfl
  have minutes : w.minutes = 119 := by decide +kernel
  have plenty : ∀ w, between start.wall (some start) (some stop) = .ok w →
      ((w.dueMinutes sets).length : Int) < 4 := by
    intro w' answered'
    cases answered.symm.trans answered'
    decide +kernel
  have found : w.heat sets.toList = .ok [⟨22, 5, 1⟩, ⟨23, 5, 2⟩] := by
    rw [heat_eq bounded, minutes, if_pos (by decide), heatCells_eq]
    exact congrArg Except.ok (by decide +kernel)
  have mapped : answerBetween start.wall (some start) (some stop) (fun w => w.heat sets.toList) =
      .ok (w, [⟨22, 5, 1⟩, ⟨23, 5, 2⟩]) :=
    (answerBetween_of_ok answered _).trans (by rw [found]; rfl)
  obtain ⟨alike, _, tallies⟩ := heat_tallies bounded start.wall (some start) (some stop) 4 plenty
  cases listed : answerBetween start.wall (some start) (some stop)
      (fun w => w.runs sets.toList 4) with
  | error fault =>
    have failed := (alike (by decide) fault).mpr listed
    rw [mapped] at failed
    cases failed
  | ok answer =>
    obtain ⟨same, tallied⟩ := tallies _ _ _ _ mapped listed
    exact ⟨bounded, plenty, w, answer.2, mapped, by rw [same], tallied⟩

/-- Between bounds whose offsets differ by whole minutes there are no more due minutes than
minutes. -/
theorem length_dueMinutes_le (counted : w.minutes = minutesBetween w.start w.stop)
    (align : w.OffsetsAlign) : (w.dueMinutes sets).length ≤ w.minutes := by
  have inside : w.dueMinutes sets ⊆ sets.dueAfter w.start.minute w.minutes := by
    intro m member
    obtain ⟨due, holds⟩ := mem_dueMinutes.mp member
    exact Fields.mem_dueAfter.mpr ⟨inside_of_holds counted align holds, due⟩
  have distinct : (w.dueMinutes sets).Nodup := (sets.nodup_dueAfter _ _).filter _
  exact Nat.le_trans (distinct.subperm inside).length_le (length_dueAfter_le_reach _ _ _)

/-- A window with one run has a heatmap, but it has no list where more runs are asked for than can
be counted. -/
theorem heat_past_counts :
    let sets : Fields (List Int) := ⟨[35], [10], [15], [1], [0, 1, 2, 3, 4, 5, 6]⟩
    let start : Timestamp :=
      .ofMinute ⟨Date.dayNumber ⟨2024, 1, 15⟩ * minutesPerDay + 630, by decide⟩ none
    let stop : Timestamp :=
      .ofMinute ⟨Date.dayNumber ⟨2024, 1, 15⟩ * minutesPerDay + 640, by decide⟩ none
    ∃ w, between start.wall (some start) (some stop) = .ok w ∧
      ((w.dueMinutes sets).length : Int) < 9223372036854775808 ∧
      w.heat sets.toList = .ok [⟨10, 1, 1⟩] ∧
      w.runs sets.toList 9223372036854775808 = .error .countTooLarge := by
  intro sets start stop
  have bounded : sets.InBounds := ⟨by decide, by decide, by decide, by decide, by decide⟩
  let w : Window := ⟨borrowOffset start stop, borrowOffset stop start,
    minutesBetween (borrowOffset start stop) (borrowOffset stop start)⟩
  have minutes : w.minutes = 10 := by decide +kernel
  have found : w.heat sets.toList = .ok [⟨10, 1, 1⟩] := by
    rw [heat_eq bounded, minutes, if_pos (by decide), heatCells_eq]
    exact congrArg Except.ok (by decide +kernel)
  have refused : w.runs sets.toList 9223372036854775808 = .error .countTooLarge := by
    rw [runs_eq bounded, if_neg (by decide)]
  have few : (w.dueMinutes sets).length ≤ w.minutes := length_dueMinutes_le rfl ⟨0, by decide⟩
  rw [minutes] at few
  exact ⟨w, rfl, by omega, found, refused⟩

end Window

end Crontab
