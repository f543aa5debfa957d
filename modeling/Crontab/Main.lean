import Crontab.CommandLine.Output
import Std.Time.DateTime.Timestamp

/-!
# The program

Runs the command line at the current time, on UTC.
-/

namespace Crontab

/-- What the clock shows; past the end of the calendar, its first minute. -/
def readClock : IO WallTime := do
  let nanoseconds := (← Std.Time.Timestamp.now).toNanosecondsSinceUnixEpoch.val
  return (WallTime.ofTicks? (WallTime.unixEpoch + nanoseconds / 1000)).getD
    (.ofMinute ⟨0, by decide⟩)

end Crontab

open Crontab in
def main (args : List String) : IO UInt32 := do
  let exit := CommandLine.run .program (← readClock) args
  match exit with
  | .usage => IO.eprintln "usage: parse [--count N] [--now TIME] [--json] EXPRESSION | examples"
  | .finished _ stdout stderr =>
    IO.print stdout
    IO.eprint stderr
  | .failed fault => IO.eprintln fault.message
  return exit.code.toUInt32
