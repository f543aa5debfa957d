import Crontab.Calendar.Timestamp
import Crontab.Schedule.Search

/-!
# Walks

A walk hands out the firings of a schedule one after another, each only when it is asked for: the
schedule itself is made into a pattern when the first one is. After a failure, and after its last
firing, a walk hands out nothing more.
-/

namespace Crontab

/-- A walk through the minutes after a start, between two firings. -/
inductive Walk where
  /-- Nothing was asked for so far. -/
  | fresh (sets : List (List Int)) (start : Minute) (steps : Nat)
  /-- The walk stands at `minute` with `left` minutes to look at. -/
  | running (pattern : Pattern) (minute : Minute) (left : Nat)
  | ended
deriving DecidableEq, Repr

/-- What a walk answers when it is asked for the next firing. -/
inductive Pull where
  | firing (minute : Minute) (rest : Walk)
  | ended
  | failed (fault : Fault)

namespace Walk

/-- The next firing after a minute. -/
def advance (p : Pattern) (m : Minute) (left : Nat) : Pull :=
  match p.search m left with
  | .found next left => .firing next (.running p next left)
  | .exhausted => .ended
  | .pastEnd => .failed .dateOutOfRange

/-- The next firing of a walk. -/
def pull : Walk → Pull
  | .fresh sets start steps =>
    match Pattern.ofValueSets sets with
    | .ok p => advance p start steps
    | .error fault => .failed fault
  | .running p m left => advance p m left
  | .ended => .ended

/-- What came of asking a walk for a number of firings: those handed out, the fault that cut them
short, and the walk as it then stands. -/
structure Taken where
  firings : List Minute
  failure? : Option Fault
  rest : Walk
deriving DecidableEq, Repr

/-- Asks for `count` firings, in addition to those before, the latest of which comes first. -/
def takeAfter (before : List Minute) : Nat → Walk → Taken
  | 0, w => ⟨before.reverse, none, w⟩
  | count + 1, w =>
    match w.pull with
    | .firing m rest => takeAfter (m :: before) count rest
    | .ended => ⟨before.reverse, none, .ended⟩
    | .failed fault => ⟨before.reverse, some fault, .ended⟩

/-- Asks for `count` firings. -/
def take (count : Nat) (w : Walk) : Taken := takeAfter [] count w

/-- The firings that a walk was asked for, provided that it did not fail. -/
def Taken.firings? (t : Taken) : Except Fault (List Minute) :=
  match t.failure? with
  | some fault => .error fault
  | none => .ok t.firings

theorem takeAfter_eq (before : List Minute) (count : Nat) (w : Walk) :
    takeAfter before count w =
      { w.take count with firings := before.reverse ++ (w.take count).firings } := by
  induction count generalizing before w with
  | zero => simp [take, takeAfter]
  | succ count ih =>
    rw [take, takeAfter, takeAfter]
    split
    · next m rest _ =>
      -- one firing more comes before what is asked for afterwards, on either side
      rw [ih (m :: before) rest, ih [m] rest]
      simp
    · simp
    · simp

end Walk

/-! ## Batches -/

/-- What one of several requests to a walk is answered with: the firings, at the offset of the
walk's start, and the fault that cut them short. -/
structure Batch where
  runs : List Timestamp
  failure? : Option Fault
deriving DecidableEq, Repr

/-- A walk through the `steps` minutes after the minute of a timestamp; through none where `steps`
is negative. -/
def Walk.after (sets : List (List Int)) (start : Timestamp) (steps : Int) : Walk :=
  .fresh sets start.minute steps.toNat

/-- Asks a walk for one number of firings after the other. -/
def Walk.batches (offset? : Option UtcOffset) (w : Walk) : List Nat → List Batch
  | [] => []
  | count :: counts =>
    let taken := w.take count
    { runs := taken.firings.map (.ofMinute · offset?), failure? := taken.failure? } ::
      taken.rest.batches offset? counts

/-! ## The next runs -/

/-- The minutes that the search for the next firings looks at: a year without a leap day. -/
def horizon : Nat := 525600

/-- A number of firings to ask for: none for a negative count. -/
def askFor (count : Int) : Except Fault Nat :=
  if count < indexLimit then .ok count.toNat else .error .countTooLarge

/-- The first `count` firings after a timestamp, at its offset. Fewer mean that the schedule does
not fire more often within the horizon. -/
def nextRuns (sets : List (List Int)) (now : Timestamp) (count : Int) :
    Except Fault (List Timestamp) := do
  let firings ← ((Walk.fresh sets now.minute horizon).take (← askFor count)).firings?
  return firings.map (.ofMinute · now.offset?)

end Crontab
