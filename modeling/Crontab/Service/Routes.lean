import Crontab.Json.Encoding
import Crontab.Service.Request

/-!
# Routes

What the service answers on each of its routes. A request about a window is made only with an
expression that is usable; otherwise the reason is the answer.
-/

namespace Crontab.Service

/-- The questions that the service answers. -/
inductive Route where
  | health
  | examples
  | report
  | runs
  | heatmap
deriving DecidableEq, Repr

/-- An answer of the service. -/
inductive Response where
  | ok (body : Json)
  /-- The expression is not usable. -/
  | badExpression (detail : String)
  /-- The body is not accepted. -/
  | unacceptable (errors : List MemberError)

def Response.status : Response → Nat
  | .ok _ => 200
  | .badExpression _ => 400
  | .unacceptable _ => 422

/-! ## Handlers -/

/-- The runs of an expression in a window, or the heatmap of it. -/
structure WindowAnswer (α : Type) where
  expression : String
  window : Window
  content : α

/-- The value sets of an expression, or why it is not usable: the report on it, without runs. -/
def usableSets (clock : WallTime) (expression : String) :
    Except Fault (Except Problem (List (List Int))) := do
  let report ← Report.atTimeOrNow clock expression 0 none
  match report.problem? with
  | some problem => return .error problem
  | none => return .ok (report.fields.map Reading.values)

/-- Answers a request about a window from the window and the value sets of the expression. -/
def overWindow {α : Type} (clock : WallTime) (request : WindowRequest)
    (answer : Window → List (List Int) → Except Fault α) :
    Except Fault (Except Problem (WindowAnswer α)) := do
  match ← usableSets clock request.expression with
  | .error problem => return .error problem
  | .ok sets =>
    let window ← Window.between clock request.start? request.stop?
    return .ok { expression := request.expression, window, content := ← answer window sets }

def reportAnswer (clock : WallTime) (request : ReportRequest) : Except Fault Report :=
  Report.atTimeOrNow clock request.expression request.count request.now?

def runsAnswer (clock : WallTime) (request : WindowRequest) :
    Except Fault (Except Problem (WindowAnswer (List Timestamp))) :=
  overWindow clock request fun window sets => window.runs sets request.limit

def heatmapAnswer (clock : WallTime) (request : WindowRequest) :
    Except Fault (Except Problem (WindowAnswer (List HeatCell))) :=
  overWindow clock request Window.heat

/-! ## Responses -/

/-- The answer to a body that is accepted, and the errors of one that is not. -/
def respond {α : Type} (request : Checked α) (answer : α → Except Fault Response) :
    Except Fault Response :=
  match request with
  | .ok request => answer request
  | .error errors => .ok (.unacceptable errors)

def WindowAnswer.toResponse {α : Type} (members : α → List (String × Json)) :
    Except Problem (WindowAnswer α) → Response
  | .ok answer =>
    .ok (.obj (
      ("expression", .str answer.expression) :: answer.window.members Iso.zuluText ++
        members answer.content))
  | .error problem => .badExpression problem.message

def runsMembers (runs : List Timestamp) : List (String × Json) :=
  [("occurrences", .times Iso.zuluText runs)]

def heatmapMembers (cells : List HeatCell) : List (String × Json) :=
  [("data", .arr (cells.map (·.toJson))), ("max_count", .count (heatPeak cells))]

/-- The answer on a route to a body, at the time that the clock shows. -/
def answer (readers : ValueReaders) (clock : WallTime) (route : Route) (body : Json) :
    Except Fault Response :=
  match route with
  | .health => .ok (.ok (.obj [("status", .str "ok")]))
  | .examples => .ok (.ok (.arr (catalogue.map (·.toJson))))
  | .report =>
    respond (ReportRequest.ofJson readers body) fun request =>
      return .ok ((← reportAnswer clock request).toJson Iso.zuluText)
  | .runs =>
    respond (WindowRequest.ofJson readers true body) fun request =>
      return (← runsAnswer clock request) |> WindowAnswer.toResponse runsMembers
  | .heatmap =>
    respond (WindowRequest.ofJson readers false body) fun request =>
      return (← heatmapAnswer clock request) |> WindowAnswer.toResponse heatmapMembers

end Crontab.Service
