import Crontab.Schedule.Pattern

/-!
# The search for the next firing

`Pattern.search` looks for the first minute after a given one at which a schedule fires, through a
bounded number of minutes. It crosses a day or an hour that the pattern does not want in one go;
the minutes crossed count as looked at all the same.
-/

namespace Crontab

open Calendar

/-- How a search ends. -/
inductive Search where
  /-- A firing, and how many minutes were left to look at. -/
  | found (minute : Minute) (left : Nat)
  /-- All minutes were looked at. -/
  | exhausted
  /-- The calendar ended before that. -/
  | pastEnd
deriving DecidableEq, Repr

namespace Pattern

/-- The minutes after `m` that cannot fire because `m` lies in a day or an hour that is not wanted:
the rest of that day or hour; `none` where both are wanted. -/
def idle? (p : Pattern) (m : Minute) : Option Nat :=
  if !p.wantsDay m then some (minutesPerDay - 1 - m.minuteOfDay)
  else if !p.wantsHour m then some (59 - m.minuteOfHour)
  else none

/-- The first firing among the `left` minutes after `m`. -/
def search (p : Pattern) (m : Minute) (left : Nat) : Search :=
  match left with
  | 0 => .exhausted
  | left + 1 =>
    match m.later? 1 with
    | none => .pastEnd
    | some next =>
      match p.idle? next with
      | none => if p.wantsMinute next then .found next left else search p next left
      | some idle =>
        -- the crossing is cut short where fewer minutes are left
        let skipped := min idle left
        match next.later? skipped with
        | none => .pastEnd
        | some next => search p next (left - skipped)
termination_by left

end Pattern

end Crontab
