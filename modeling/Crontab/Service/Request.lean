import Crontab.Json
import Crontab.Service.Moment
import Crontab.Text.Integer

/-!
# Requests

The bodies of requests to the service, read from JSON. Every member is checked on its own, and all
members that cannot be accepted are reported together, in the order in which a request lists them.
Members that a request does not know are ignored. Which values stand for integers and for points in
time is no concern of the requests, which take it as `ValueReaders`; `ValueReaders.program` are
those that the service runs with.
-/

namespace Crontab.Service

/-- Why a body or a member of it is not accepted. -/
inductive MemberFault where
  /-- The body is no object. -/
  | notObject
  | missing
  | notText
  | notInteger
  /-- A number with a fraction. -/
  | partialInteger
  | unreadableInteger
  | longInteger
  | notTimestamp
  /-- A number that stands for no point in time. -/
  | noTimestamp
  /-- A text that gives no point in time. -/
  | unreadableTimestamp
  | tooSmall
  | tooLarge
deriving DecidableEq, Repr

def MemberFault.label : MemberFault → String
  | .notObject => "model_type"
  | .missing => "missing"
  | .notText => "string_type"
  | .notInteger => "int_type"
  | .partialInteger => "int_from_float"
  | .unreadableInteger => "int_parsing"
  | .longInteger => "int_parsing_size"
  | .notTimestamp => "datetime_type"
  | .noTimestamp => "datetime_parsing"
  | .unreadableTimestamp => "datetime_from_date_parsing"
  | .tooSmall => "greater_than_equal"
  | .tooLarge => "less_than_equal"

/-- What is not accepted: a member, or the body as a whole. -/
structure MemberError where
  member? : Option String
  fault : MemberFault
deriving DecidableEq, Repr

/-- A value, or everything that keeps it from being made. -/
abbrev Checked (α : Type) := Except (List MemberError) α

/-- Both values, or the errors of both. -/
def Checked.and {α β : Type} (a : Checked α) (b : Checked β) : Checked (α × β) :=
  match a, b with
  | .ok a, .ok b => .ok (a, b)
  | .ok _, .error es => .error es
  | .error es, .ok _ => .error es
  | .error es, .error fs => .error (es ++ fs)

def reject {α : Type} (member : String) (fault : MemberFault) : Checked α :=
  .error [⟨some member, fault⟩]

/-! ## Members -/

/-- A text that must be given. -/
def text (body : Json) (member : String) : Checked String :=
  match body.member? member with
  | none => reject member .missing
  | some (.str s) => .ok s
  | some _ => reject member .notText

/-- What the values of members are read by. -/
structure ValueReaders where
  integer : Json → Except MemberFault Int
  timestamp : Json → Except MemberFault Timestamp

/-- The integer that a value stands for: itself, 1 or 0 for a truth value, or what a text reads as
an integer. -/
def integerOf : Json → Except MemberFault Int
  | .int n => .ok n
  | .decimal mantissa places =>
    let one : Int := Nat.pow 10 places
    if mantissa % one = 0 then .ok (mantissa / one) else .error .partialInteger
  | .bool true => .ok 1
  | .bool false => .ok 0
  | .str s =>
    match Text.readInteger s.toList with
    | .ok n => .ok n
    | .error .unreadable => .error .unreadableInteger
    | .error .tooLong => .error .longInteger
  | _ => .error .notInteger

/-- The point in time that a text or a number gives. -/
def timestampOf : Json → Except MemberFault Timestamp
  | .str s =>
    match Moment.ofText? s.toList with
    | some t => .ok t
    | none => .error .unreadableTimestamp
  | .int n =>
    match Moment.ofNumber? n with
    | some t => .ok t
    | none => .error .noTimestamp
  | .decimal mantissa places =>
    match Moment.ofDecimal? mantissa places with
    | some t => .ok t
    | none => .error .noTimestamp
  | _ => .error .notTimestamp

/-- The readers of the service. -/
def ValueReaders.program : ValueReaders where
  integer := integerOf
  timestamp := timestampOf

/-- An integer within bounds, or the default where it is not given. -/
def integer (readers : ValueReaders) (body : Json) (member : String) (default lo hi : Int) :
    Checked Int :=
  match body.member? member with
  | none => .ok default
  | some value =>
    match readers.integer value with
    | .ok n =>
      if n < lo then reject member .tooSmall
      else if hi < n then reject member .tooLarge
      else .ok n
    | .error fault => reject member fault

/-- A timestamp that may be left out or null. -/
def timestamp? (readers : ValueReaders) (body : Json) (member : String) :
    Checked (Option Timestamp) :=
  match body.member? member with
  | none => .ok none
  | some .null => .ok none
  | some value =>
    match readers.timestamp value with
    | .ok t => .ok (some t)
    | .error fault => reject member fault

/-! ## Requests -/

/-- Bodies are objects. -/
def objectOnly : Json → Checked Unit
  | .obj _ => .ok ()
  | _ => .error [⟨none, .notObject⟩]

/-- A request for a report. -/
structure ReportRequest where
  expression : String
  count : Int
  now? : Option Timestamp

def ReportRequest.ofJson (readers : ValueReaders) (body : Json) : Checked ReportRequest := do
  objectOnly body
  let (expression, count, now?) ←
    (text body "expression").and
      (Checked.and (integer readers body "count" 5 1 100) (timestamp? readers body "now"))
  return { expression, count, now? }

/-- A request about the runs in a window. -/
structure WindowRequest where
  start? : Option Timestamp
  stop? : Option Timestamp
  limit : Int
  expression : String

/-- Reads a request about a window; only one for a list of runs has a limit. -/
def WindowRequest.ofJson (readers : ValueReaders) (limited : Bool) (body : Json) :
    Checked WindowRequest := do
  objectOnly body
  let limit := if limited then integer readers body "limit" 500 1 5000 else .ok 500
  let (start?, stop?, limit, expression) ←
    (timestamp? readers body "from_dt").and
      (Checked.and (timestamp? readers body "to_dt") (limit.and (text body "expression")))
  return { start?, stop?, limit, expression }

end Crontab.Service
