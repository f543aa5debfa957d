import Crontab.Proofs.Schedule.Crossing
import Crontab.Proofs.Schedule.Due
import Crontab.Schedule.Walk

/-!
# The plain walk

A plain walk adds one minute to a timestamp again and again and tests each minute that it comes to.
`batches_eq_plainBatches` says that the walk of a schedule answers every sequence of requests as the
plain walk does.
-/

namespace Crontab

open Calendar

/-- Where a plain walk stands and how many minutes it has left to look at; `none` once it has
ended. -/
abbrev Stand := Option (Timestamp × Nat)

namespace Plain

variable (later : Timestamp → Except Fault Timestamp) (due : Timestamp → Prop) [DecidablePred due]

/-- The next `count` due timestamps, found one step after the other, and where that leads. The walk
ends where it has no steps left, and where a step fails. -/
def take : Nat → Timestamp → Nat → Batch × Stand
  | 0, t, left => (⟨[], none⟩, some (t, left))
  | _ + 1, _, 0 => (⟨[], none⟩, none)
  | count + 1, t, left + 1 =>
    match later t with
    | .error fault => (⟨[], some fault⟩, none)
    | .ok next =>
      if due next then
        let (batch, stand) := take count next left
        ({ batch with runs := next :: batch.runs }, stand)
      else take (count + 1) next left

/-- A plain walk, which may have ended, asked for `count` timestamps. -/
def ask (count : Nat) : Stand → Batch × Stand
  | none => (⟨[], none⟩, none)
  | some (t, left) => take later due count t left

/-- A plain walk asked for one number of timestamps after the other. -/
def batches (stand : Stand) : List Nat → List Batch
  | [] => []
  | count :: counts =>
    let answer := ask later due count stand
    answer.1 :: batches answer.2 counts

theorem take_zero (t : Timestamp) (left : Nat) :
    take later due 0 t left = (⟨[], none⟩, some (t, left)) := by
  rw [take]

end Plain

/-- The timestamp one minute later. -/
def Timestamp.nextMinute (t : Timestamp) : Except Fault Timestamp := t.shift microsPerMinute

namespace Fields

/-- The value sets are due in the minute of a timestamp. -/
def DueAt (sets : Fields (List Int)) (t : Timestamp) : Prop := sets.Due t.minute

instance (sets : Fields (List Int)) : DecidablePred sets.DueAt := fun t =>
  inferInstanceAs (Decidable (sets.Due t.minute))

/-- The plain walk through the `steps` minutes after the minute of a timestamp. -/
def plainBatches (sets : Fields (List Int)) (start : Timestamp) (steps : Int)
    (counts : List Nat) : List Batch :=
  Plain.batches Timestamp.nextMinute sets.DueAt (some (start.truncate, steps.toNat)) counts

end Fields

/-! ## One minute later -/

/-- A whole number of minutes is the start of a minute. -/
theorem WallTime.ofTicks?_mul (n : Nat) :
    ofTicks? ((n * microsPerMinute : Nat) : Int) =
      if h : n < minuteCount then some (.ofMinute ⟨n, h⟩) else none := by
  have quotient : n * microsPerMinute / microsPerMinute = n :=
    Nat.mul_div_cancel n (by decide)
  unfold ofTicks?
  by_cases inside : n < minuteCount
  · rw [dif_pos inside, dif_pos ⟨Int.natCast_nonneg _, by rwa [Int.toNat_natCast, quotient]⟩]
    simp only [Int.toNat_natCast, quotient, Nat.mul_mod_left, ofMinute]
  · rw [dif_neg inside, dif_neg]
    intro given
    obtain ⟨_, early⟩ := given
    rw [Int.toNat_natCast, quotient] at early
    exact inside early

/-- A shift to the start of a minute. -/
theorem Timestamp.shift_eq {t : Timestamp} {micros : Int} {n : Nat}
    (arrival : t.wall.ticks + micros = (n * microsPerMinute : Nat)) :
    t.shift micros =
      if h : n < minuteCount then .ok (ofMinute ⟨n, h⟩ t.offset?) else .error .dateOutOfRange := by
  rw [shift, WallTime.shift, arrival, WallTime.ofTicks?_mul]
  by_cases inside : n < minuteCount
  · rw [dif_pos inside, dif_pos inside]
    rfl
  · rw [dif_neg inside, dif_neg inside]
    rfl

theorem WallTime.ticks_ofMinute (m : Minute) :
    (ofMinute m).ticks = m.index * microsPerMinute := by
  simp only [WallTime.ticks, WallTime.ofMinute, Nat.add_zero]

/-- One minute after the start of a minute comes the start of the next one. -/
theorem Timestamp.nextMinute_ofMinute (m : Minute) (offset? : Option UtcOffset) :
    (ofMinute m offset?).nextMinute =
      match m.later? 1 with
      | none => .error .dateOutOfRange
      | some next => .ok (ofMinute next offset?) := by
  have arrival : ((WallTime.ofMinute m).ticks : Int) + microsPerMinute =
      ((m.index + 1) * microsPerMinute : Nat) := by
    rw [WallTime.ticks_ofMinute, Nat.add_mul, Nat.one_mul, Int.natCast_add]
  rw [nextMinute, shift_eq (t := ofMinute m offset?) arrival, Minute.later?]
  by_cases inside : m.index + 1 < minuteCount
  · rw [dif_pos inside, dif_pos inside]
    rfl
  · rw [dif_neg inside, dif_neg inside]

/-! ## Taking -/

namespace Walk

/-- What comes of asking for one firing more. -/
theorem take_succ (count : Nat) (w : Walk) :
    w.take (count + 1) =
      match w.pull with
      | .firing m rest =>
        { rest.take count with firings := m :: (rest.take count).firings }
      | .ended => ⟨[], none, .ended⟩
      | .failed fault => ⟨[], some fault, .ended⟩ := by
  rw [take, takeAfter]
  cases w.pull with
  | firing m rest => exact takeAfter_eq [m] count rest
  | ended => rfl
  | failed fault => rfl

end Walk

/-- A plain walk that is asked for one firing more searches for it. -/
theorem Plain.take_succ {sets : Fields (List Int)} (bounded : sets.InBounds) (count : Nat)
    (m : Minute) (left : Nat) (offset? : Option UtcOffset) :
    take Timestamp.nextMinute sets.DueAt (count + 1) (.ofMinute m offset?) left =
      match sets.toPattern.plainSearch m left with
      | .found next rest =>
        let (batch, stand) :=
          take Timestamp.nextMinute sets.DueAt count (.ofMinute next offset?) rest
        ({ batch with runs := .ofMinute next offset? :: batch.runs }, stand)
      | .exhausted => (⟨[], none⟩, none)
      | .pastEnd => (⟨[], some .dateOutOfRange⟩, none) := by
  induction left generalizing m with
  | zero => rfl
  | succ left ih =>
    rw [take, Timestamp.nextMinute_ofMinute, Pattern.plainSearch]
    cases m.later? 1 with
    | none => rfl
    | some next =>
      have test : sets.DueAt (.ofMinute next offset?) ↔ sets.toPattern.fires next = true :=
        (Fields.fires_toPattern bounded next).symm
      by_cases due : sets.toPattern.fires next = true
      · simp only [if_pos (test.mpr due), if_pos due]
      · simp only [if_neg (mt test.mp due), if_neg due]
        exact ih next

/-! ## The simulation -/

/-- A walk through the firings of value sets and a plain walk that stand at the same minute. -/
inductive Abreast (sets : Fields (List Int)) (offset? : Option UtcOffset) : Walk → Stand → Prop
  | fresh (m : Minute) (left : Nat) :
      Abreast sets offset? (.fresh sets.toList m left) (some (.ofMinute m offset?, left))
  | running (m : Minute) (left : Nat) :
      Abreast sets offset? (.running sets.toPattern m left) (some (.ofMinute m offset?, left))
  | ended : Abreast sets offset? .ended none

namespace Abreast

variable {sets : Fields (List Int)} {offset? : Option UtcOffset} {w : Walk} {stand : Stand}

/-- The answer of a walk to one request is the plain walk's, and both then stand abreast again. -/
theorem take (bounded : sets.InBounds) (abreast : Abreast sets offset? w stand) (count : Nat) :
    (Plain.ask Timestamp.nextMinute sets.DueAt count stand).1 =
        ⟨(w.take count).firings.map (.ofMinute · offset?), (w.take count).failure?⟩ ∧
      Abreast sets offset? (w.take count).rest
        (Plain.ask Timestamp.nextMinute sets.DueAt count stand).2 := by
  induction count generalizing w stand with
  | zero =>
    cases abreast with
    | fresh m left =>
      rw [Plain.ask, Plain.take_zero]
      exact ⟨rfl, .fresh m left⟩
    | running m left =>
      rw [Plain.ask, Plain.take_zero]
      exact ⟨rfl, .running m left⟩
    | ended => exact ⟨rfl, .ended⟩
  | succ count ih =>
    -- a walk that has not ended searches from where it stands, be it fresh or running
    have search : ∀ (w : Walk) (m : Minute) (left : Nat),
        w.pull = Walk.advance sets.toPattern m left →
        (Plain.take Timestamp.nextMinute sets.DueAt (count + 1) (.ofMinute m offset?) left).1 =
            ⟨(w.take (count + 1)).firings.map (.ofMinute · offset?),
              (w.take (count + 1)).failure?⟩ ∧
          Abreast sets offset? (w.take (count + 1)).rest
            (Plain.take Timestamp.nextMinute sets.DueAt (count + 1) (.ofMinute m offset?) left).2 := by
      intro w m left pull
      rw [Plain.take_succ bounded, Walk.take_succ, pull, Walk.advance,
        Pattern.search_eq_plainSearch]
      cases sets.toPattern.plainSearch m left with
      | found next rest =>
        obtain ⟨batch, stand⟩ := ih (.running next rest)
        rw [Plain.ask] at batch
        refine ⟨?_, stand⟩
        simp only [batch, List.map_cons]
      | exhausted => exact ⟨rfl, .ended⟩
      | pastEnd => exact ⟨rfl, .ended⟩
    cases abreast with
    | fresh m left => exact search _ m left (by rw [Walk.pull, Fields.ofValueSets_toList bounded])
    | running m left => exact search _ m left rfl
    | ended => exact ⟨rfl, .ended⟩

/-- Walks that stand abreast answer every sequence of requests alike. -/
theorem batches (bounded : sets.InBounds) (abreast : Abreast sets offset? w stand)
    (counts : List Nat) :
    w.batches offset? counts =
      Plain.batches Timestamp.nextMinute sets.DueAt stand counts := by
  induction counts generalizing w stand with
  | nil => rfl
  | cons count counts ih =>
    obtain ⟨batch, abreast'⟩ := abreast.take bounded count
    rw [Walk.batches, Plain.batches, batch, ih abreast']

end Abreast

/-! ## The refinement -/

/-- Crossing idle minutes passes over no due minute, stays in the calendar and counts every
minute. -/
structure Pattern.CrossesIdly (p : Pattern) (sets : Fields (List Int)) : Prop where
  quiet : ∀ m idle, p.idle? m = some idle →
    ∀ k ≤ idle, ∃ m', m.later? k = some m' ∧ ¬ sets.Due m'
  counted : ∀ m left next rest, p.search m left = .found next rest →
    next.index + rest = m.index + left

theorem Fields.crossesIdly_toPattern {sets : Fields (List Int)} (bounded : sets.InBounds) :
    sets.toPattern.CrossesIdly sets where
  quiet m idle crossed k within := by
    obtain ⟨m', reached, silent⟩ := Pattern.not_fires_of_idle crossed within
    refine ⟨m', reached, fun due => ?_⟩
    rw [(fires_toPattern bounded m').mpr due] at silent
    cases silent
  counted _ _ _ _ := Pattern.index_add_of_search_eq_found

/-- The walk of a schedule answers every sequence of requests as the plain walk does: with the same
runs, the same end and the same failure, request by request. -/
theorem batches_eq_plainBatches {sets : Fields (List Int)} (bounded : sets.InBounds)
    (start : Timestamp) (steps : Int) (counts : List Nat) :
    (Walk.after sets.toList start steps).batches start.offset? counts =
        sets.plainBatches start steps counts ∧
      ∃ p, Pattern.ofValueSets sets.toList = .ok p ∧ p.CrossesIdly sets := by
  refine ⟨?_, sets.toPattern, Fields.ofValueSets_toList bounded,
    Fields.crossesIdly_toPattern bounded⟩
  exact (Abreast.fresh start.minute steps.toNat).batches bounded counts

/-- The last hours of the calendar, with a failure at its end. -/
theorem batches_eq_plainBatches_calendarEnd :
    let sets : Fields (List Int) := ⟨[30, 0, 30], [22], [31], [12, 1], [5, 5]⟩
    let start : Timestamp := ⟨⟨⟨minuteCount - 240, by decide⟩, 59999999, by decide⟩, some .utc⟩
    sets.InBounds ∧
      ((Walk.after sets.toList start 525600).batches start.offset? [1, 0, 2, 1] =
          sets.plainBatches start 525600 [1, 0, 2, 1] ∧
        ∃ p, Pattern.ofValueSets sets.toList = .ok p ∧ p.CrossesIdly sets) := by
  intro sets start
  have bounded : sets.InBounds :=
    ⟨by decide, by decide, by decide, by decide, by decide⟩
  exact ⟨bounded, batches_eq_plainBatches bounded start 525600 [1, 0, 2, 1]⟩

end Crontab
