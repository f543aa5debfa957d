import Crontab.Calendar.Timestamp
import Crontab.Proofs.Evaluation

/-!
# Points in time

A timestamp as a point in time: `utcTicks_eq` places it on the scale of UTC, `of_now` and `of_shift`
say where the clock and a shift put it.
-/

namespace Crontab

open Calendar

namespace WallTime

variable {w w' : WallTime} {ticks micros : Int}

theorem ticks_of_ofTicks? (found : ofTicks? ticks = some w) : (w.ticks : Int) = ticks := by
  unfold ofTicks? at found
  split at found
  · next inside =>
    cases found
    have parts := Nat.div_add_mod' ticks.toNat microsPerMinute
    show ((ticks.toNat / microsPerMinute * microsPerMinute + ticks.toNat % microsPerMinute : Nat)
      : Int) = ticks
    omega
  · cases found

theorem ticks_of_shift (shifted : w.shift micros = .ok w') :
    (w'.ticks : Int) = w.ticks + micros := by
  unfold shift at shifted
  split at shifted
  · next found =>
    cases shifted
    exact ticks_of_ofTicks? found
  · cases shifted

end WallTime

namespace Timestamp

/-- How far the wall is ahead of UTC, in microseconds; not at all where that is not known. -/
def lead (t : Timestamp) : Int := (t.offset?.map UtcOffset.micros).getD 0

theorem lead_bounds (t : Timestamp) : -(microsPerDay : Int) < t.lead ∧ t.lead < microsPerDay := by
  unfold lead
  cases t.offset? with
  | none => decide
  | some offset => exact offset.bounds

/-- A timestamp on the scale of UTC. -/
theorem utcTicks_eq (t : Timestamp) :
    t.utcTicks = t.minute.index * microsPerMinute + t.wall.micros - t.lead := by
  rw [utcTicks, lead, WallTime.ticks, Int.natCast_add, Int.natCast_mul]
  rfl

theorem utcTicks_ofMinute (m : Minute) (t : Timestamp) :
    (ofMinute m t.offset?).utcTicks = m.index * microsPerMinute - t.lead := by
  rw [utcTicks_eq]
  show m.index * (microsPerMinute : Int) + 0 - t.lead = _
  rw [Int.add_zero]

theorem of_now {clock : WallTime} {offset? : Option UtcOffset} {t : Timestamp}
    (read : now clock offset? = .ok t) : t.offset? = offset? ∧ t.utcTicks = clock.ticks := by
  cases offset? with
  | none =>
    cases read
    exact ⟨rfl, Int.sub_zero _⟩
  | some offset =>
    obtain ⟨wall, shifted, equal⟩ := bind_eq_ok.mp read
    cases equal
    refine ⟨rfl, ?_⟩
    show (wall.ticks : Int) - offset.micros = clock.ticks
    rw [WallTime.ticks_of_shift shifted, Int.add_sub_cancel]

theorem of_shift {t t' : Timestamp} {micros : Int} (shifted : t.shift micros = .ok t') :
    t'.offset? = t.offset? ∧ t'.utcTicks = t.utcTicks + micros := by
  obtain ⟨wall, moved, equal⟩ := bind_eq_ok.mp shifted
  cases equal
  refine ⟨rfl, ?_⟩
  show (wall.ticks : Int) - t.lead = t.wall.ticks - t.lead + micros
  rw [WallTime.ticks_of_shift moved]
  omega

end Timestamp

end Crontab
