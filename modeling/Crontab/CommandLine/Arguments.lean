import Crontab.CommandLine.Readers

/-!
# Command-line arguments

The commands of the program and how their arguments are read. Options and operands may be mixed;
after `--` everything is an operand, and a lone `-` always is one. Of an option given more than
once the last value counts, and only that one has to be acceptable.
-/

namespace Crontab.CommandLine

open Text

/-- The options of a command. -/
inductive Flag where
  | count
  | now
  | json
deriving DecidableEq, Repr

/-- What an argument is by its spelling. -/
inductive Word where
  | operand (text : String)
  /-- The mark after which there are only operands. -/
  | operandsOnly
  /-- An option, with the value that is attached to it. -/
  | flag (flag : Flag) (value? : Option String)
  | unknown
deriving DecidableEq, Repr

/-- The option of a long name. -/
def longFlag? (name : List Char) : Option Flag :=
  if name = "count".toList then some .count
  else if name = "now".toList then some .now
  else if name = "json".toList then some .json
  else none

/-- A long option with what is attached to it after `=`. -/
def longWord (text : List Char) : Word :=
  let (name, value?) :=
    match cut '=' text with
    | some (name, value) => (name, some (String.ofList value))
    | none => (text, none)
  match longFlag? name with
  | some flag => .flag flag value?
  | none => .unknown

/-- An argument by its spelling. A value follows the short option `-n` directly. -/
def Word.ofText (arg : String) : Word :=
  match arg.toList with
  | ['-', '-'] => .operandsOnly
  | '-' :: '-' :: text => longWord text
  | ['-', 'n'] => .flag .count none
  | '-' :: 'n' :: value => .flag .count (some (String.ofList value))
  | '-' :: _ :: _ => .unknown
  | _ => .operand arg

/-- The values of options and the operands, as given. -/
structure Given where
  count? : Option String := none
  now? : Option String := none
  json : Bool := false
  operands : List String := []
deriving DecidableEq, Repr

def Given.addOperands (g : Given) (operands : List String) : Given :=
  { g with operands := g.operands ++ operands }

/-- Records an option that takes a value. -/
def Given.setValue (g : Given) (flag : Flag) (value : String) : Given :=
  match flag with
  | .count => { g with count? := some value }
  | .now => { g with now? := some value }
  | .json => g

/-- Reads arguments after those given before; `none` for an unknown option, an option without its
value, or a value where none belongs. A value that is not attached is the next argument, whatever
that is. -/
def Given.read (g : Given) : List String → Option Given
  | [] => some g
  | arg :: args =>
    match Word.ofText arg with
    | .operand text => (g.addOperands [text]).read args
    | .operandsOnly => some (g.addOperands args)
    | .flag .json none => { g with json := true }.read args
    | .flag .json (some _) => none
    | .flag flag (some value) => (g.setValue flag value).read args
    | .flag flag none =>
      match args with
      | value :: args => (g.setValue flag value).read args
      | [] => none
    | .unknown => none

/-! ## Commands -/

/-- A report asked for on the command line. -/
structure ReportOptions where
  expression : String
  count : Int
  now? : Option Timestamp
  json : Bool

inductive Command where
  | report (options : ReportOptions)
  | examples

/-- A count of runs from 1 to 100. -/
def readCount (readers : ValueReaders) (text : String) : Option Int :=
  (readers.integer? text).filter fun n => 1 ≤ n && n ≤ 100

/-- The report that is asked for: one operand, and option values that can be read. -/
def ReportOptions.ofGiven (readers : ValueReaders) (g : Given) : Option ReportOptions :=
  match g.operands with
  | [expression] => do
    let count ← match g.count? with
      | some text => readCount readers text
      | none => some 5
    let now? ← match g.now? with
      | some text => (readers.timestamp? text).map some
      | none => some none
    return { expression, count, now?, json := g.json }
  | _ => none

/-- The command of a list of arguments; `none` where they are not used as they should be. -/
def Command.ofArgs (readers : ValueReaders) (args : List String) : Option Command :=
  match if args.head? = some "--" then args.tail else args with
  | "parse" :: args => do
    return .report (← ReportOptions.ofGiven readers (← Given.read {} args))
  | "examples" :: args =>
    match args with
    | [] => some .examples
    | ["--"] => some .examples
    | _ => none
  | _ => none

end Crontab.CommandLine
