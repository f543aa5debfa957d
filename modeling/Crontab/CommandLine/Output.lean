import Crontab.CommandLine.Arguments
import Crontab.Json.Encoding

/-!
# Command-line output

What a command prints and the code that it exits with. Every line printed is freed of the control
sequences that would move the cursor or change colours.
-/

namespace Crontab.CommandLine

open Text

/-! ## Lines -/

/-- A letter of ASCII, which ends a control sequence. -/
def endsSequence (c : Char) : Bool := c.isAlpha

/-- A parameter character of a control sequence. -/
def isParameter (c : Char) : Bool := c.isDigit || c == ';' || c == '?'

theorem length_lt_of_dropWhile {p : Char → Bool} {c : Char} {cs after : List Char}
    (h : cs.dropWhile p = c :: after) : after.length < cs.length := by
  have := length_dropWhile_le p cs
  rw [h, List.length_cons] at this
  exact this

/-- The text without terminal control sequences: an escape, a bracket, parameters and a letter. -/
def stripSequences (cs : List Char) : List Char :=
  match cs with
  | [] => []
  | '\x1b' :: '[' :: rest =>
    match h : rest.dropWhile isParameter with
    | [] => '\x1b' :: stripSequences ('[' :: rest)
    | c :: after =>
      have := length_lt_of_dropWhile h
      if endsSequence c then stripSequences after
      else '\x1b' :: stripSequences ('[' :: rest)
  | c :: rest => c :: stripSequences rest
termination_by cs.length
decreasing_by
  · exact Nat.lt_succ_self _
  · exact Nat.lt_succ_of_lt (Nat.lt_succ_of_lt this)
  · exact Nat.lt_succ_self _
  · exact Nat.lt_succ_self _

/-- A line as it is printed. -/
def line (text : String) : String := String.ofList (stripSequences text.toList) ++ "\n"

def lines (texts : List String) : String := String.join (texts.map line)

/-! ## Reports -/

/-- What a run of the program leaves behind. -/
inductive Exit where
  /-- The arguments were not used as they should be. -/
  | usage
  | finished (code : Nat) (stdout stderr : String)
  /-- A fault ended the command before it had printed anything. -/
  | failed (fault : Fault)
deriving DecidableEq, Repr

def Exit.code : Exit → Nat
  | .usage => 2
  | .finished code .. => code
  | .failed _ => 1

/-- The line for one field: its description, or why it is refused. -/
def fieldText (r : Reading) : String :=
  let marker := if r.isValid then "ok" else "!!"
  let detail := match r.refusal? with
    | some why => why.message
    | none => r.description
  s!"  [{marker}] {padRight 13 r.domain.label} {padRight 12 r.text} {detail}"

/-- The lines about the runs of an expression that is usable. -/
def runTexts (r : Report) : List String :=
  s!"\n{r.description}\n" ::
    if r.runs.isEmpty then ["No runs within the next year."]
    else r.runs.map fun run => "  " ++ run.shortText

/-- A report in words. -/
def wordedReport (r : Report) : Exit :=
  let fieldTexts := r.fields.map fieldText
  match r.problem? with
  | some problem => .finished 1 (lines fieldTexts) (line ("Error: " ++ problem.message))
  | none => .finished 0 (lines (fieldTexts ++ runTexts r)) ""

/-- A report as JSON. -/
def jsonReport (r : Report) : Exit :=
  .finished (if r.isValid then 0 else 1) (line (r.toJson Iso.zuluText).pretty) ""

def exampleText (e : Example) : String :=
  s!"{padRight 16 e.expression} {padRight 24 e.label} {e.description}"

/-! ## Commands -/

def Command.run (clock : WallTime) : Command → Exit
  | .report options =>
    match Report.atTimeOrNow clock options.expression options.count options.now? with
    | .ok r => if options.json then jsonReport r else wordedReport r
    | .error fault => .failed fault
  | .examples => .finished 0 (lines (catalogue.map exampleText)) ""

/-- Runs the program on its arguments, at the time that the clock shows. -/
def run (readers : ValueReaders) (clock : WallTime) (args : List String) : Exit :=
  match Command.ofArgs readers args with
  | some command => command.run clock
  | none => .usage

end Crontab.CommandLine
