import Crontab.Calendar.Span
import Crontab.Calendar.Timestamp
import Crontab.Schedule.Walk

/-!
# Windows

The firings of a schedule after one timestamp and up to another. A bound that is not given is made
up from the clock, and a bound without an offset takes that of the other one.
-/

namespace Crontab

/-- Two bounds and the whole minutes between the minutes that they lie in. -/
structure Window where
  start : Timestamp
  stop : Timestamp
  minutes : Nat
deriving DecidableEq, Repr

namespace Window

/-- How far a window reaches whose end is not given: thirty days. -/
def defaultReach : Int := 30 * microsPerDay

/-- The whole minutes from the minute of one timestamp to that of another; none backwards. -/
def minutesBetween (start stop : Timestamp) : Nat :=
  wholeSeconds (stop.truncate.utcTicks - start.truncate.utcTicks).toNat / 60

/-- The timestamp, taken to be at the offset of another one where it has none of its own. -/
def borrowOffset (t other : Timestamp) : Timestamp :=
  { t with offset? := t.offset? <|> other.offset? }

/-- The window between two bounds. Without a start it starts now, without an end it reaches
`defaultReach` from its start. -/
def between (clock : WallTime) (start? stop? : Option Timestamp) : Except Fault Window := do
  let start ← match start? with
    | some start => .ok start
    | none => Timestamp.now clock (stop?.bind (·.offset?))
  let stop ← match stop? with
    | some stop => .ok stop
    | none => start.shift defaultReach
  let start' := borrowOffset start stop
  let stop' := borrowOffset stop start
  return { start := start', stop := stop', minutes := minutesBetween start' stop' }

/-- A walk through the minutes of a window. -/
def walk (w : Window) (sets : List (List Int)) : Walk := .fresh sets w.start.minute w.minutes

/-- The first `limit` firings in a window, by the offset of its start. -/
def runs (w : Window) (sets : List (List Int)) (limit : Int) :
    Except Fault (List Timestamp) := do
  let firings ← ((w.walk sets).take (← askFor limit)).firings?
  return firings.map (.ofMinute · w.start.offset?)

end Window

end Crontab
