import Crontab.Expression
import Crontab.Prose.Sentence
import Crontab.Schedule.Walk

/-!
# Reports

What there is to say about an expression at a reference time: why it is not usable, or what it
means and when it fires next. A report has one of three shapes, `Outcome`; the functions below it
are the questions that a reader may ask of any of them.
-/

namespace Crontab

/-- The three shapes of a report. -/
inductive Outcome where
  /-- The text has not five fields. -/
  | misshapen (why : Misshapen)
  /-- Some field is refused; `why` is the refusal of the leftmost one. -/
  | refused (fields : Fields Reading) (why : Refusal)
  /-- All fields are valid. -/
  | scheduled (fields : Fields Reading) (description : String) (runs : List Timestamp)

/-- An expression seen from the start of a minute. -/
structure Report where
  expression : String
  reference : Timestamp
  outcome : Outcome

namespace Report

/-- The refusal of the leftmost field that is refused. -/
def firstRefusal? (fields : Fields Reading) : Option Refusal :=
  fields.toList.findSome? Reading.refusal?

/-- What becomes of five fields: the first `count` runs after the reference, if all are valid. -/
def ofFields (fields : Fields Reading) (count : Int) (reference : Timestamp) :
    Except Fault Outcome :=
  match firstRefusal? fields with
  | some why => .ok (.refused fields why)
  | none => do
    let runs ← nextRuns (fields.map Reading.values).toList reference count
    let description ← composeSentence (fields.map Reading.clause).toList
    return .scheduled fields description runs

/-- The report on an expression at a reference time, with at most `count` runs. -/
def atTime (expression : String) (count : Int) (time : Timestamp) : Except Fault Report := do
  let reference := time.truncate
  let outcome ← match Expression.read expression with
    | .ok fields => ofFields fields count reference
    | .error (.refused why) => .ok (.misshapen why)
    | .error (.fault fault) => .error fault
  return { expression, reference, outcome }

/-- The report at a time that may be given; without one, at what the clock shows. -/
def atTimeOrNow (clock : WallTime) (expression : String) (count : Int) (now? : Option Timestamp) :
    Except Fault Report :=
  Report.atTime expression count (now?.getD ⟨clock, none⟩)

/-! ## Questions -/

def isValid (r : Report) : Bool :=
  match r.outcome with
  | .scheduled .. => true
  | _ => false

/-- Why the expression is not usable. -/
def problem? (r : Report) : Option Problem :=
  match r.outcome with
  | .misshapen why => some (.misshapen why)
  | .refused _ why => some (.refused why)
  | .scheduled .. => none

/-- The fields as read; none where there are not five. -/
def fields (r : Report) : List Reading :=
  match r.outcome with
  | .misshapen _ => []
  | .refused fields _ => fields.toList
  | .scheduled fields .. => fields.toList

def description (r : Report) : String :=
  match r.outcome with
  | .scheduled _ description _ => description
  | _ => invalidDescription

def runs (r : Report) : List Timestamp :=
  match r.outcome with
  | .scheduled _ _ runs => runs
  | _ => []

end Report

/-! ## Paging -/

/-- The reports that page through the runs of an expression: each starts from the last run found
before it, and one that fails leaves the reference where it is. -/
def pages (expression : String) (reference : Timestamp) : List Int → List (Except Fault Report)
  | [] => []
  | count :: counts =>
    let page := Report.atTime expression count reference
    let next :=
      match page with
      | .ok report => report.runs.getLast?.getD reference
      | .error _ => reference
    page :: pages expression next counts

end Crontab
