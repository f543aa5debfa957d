import Crontab.Text.Decimal

/-!
# Refusals

Why a field or a whole expression is not usable: causes, their wording, and the kind under which
each is reported.
-/

namespace Crontab

open Text

/-- The kinds under which refusals are reported. -/
inductive RefusalKind where
  | structural
  | range
  | order
  | step
  | token
deriving DecidableEq, Repr

def RefusalKind.label : RefusalKind → String
  | .structural => "structural"
  | .range => "range"
  | .order => "order"
  | .step => "step"
  | .token => "token"

/-- Why a part of a field is refused. -/
inductive Refusal where
  /-- A value outside the bounds of the domain. -/
  | outOfRange (value lo hi : Int)
  /-- A range that starts after its end. -/
  | reversed (start stop : Int)
  /-- A step that is no positive numeral. -/
  | badStep (text : String)
  /-- A range, or the span of a step, with an end that is neither a numeral nor a name. -/
  | badRange (text : String)
  /-- A single value that is neither a numeral nor a name. -/
  | badValue (text : String)
deriving DecidableEq, Repr

def Refusal.kind : Refusal → RefusalKind
  | .outOfRange .. => .range
  | .reversed .. => .order
  | .badStep _ => .step
  | .badRange _ => .token
  | .badValue _ => .token

/-- The integers that the message says. -/
def Refusal.numbers : Refusal → List Int
  | .outOfRange value lo hi => [value, lo, hi]
  | .reversed start stop => [start, stop]
  | .badStep _ => []
  | .badRange _ => []
  | .badValue _ => []

def Refusal.message : Refusal → String
  | .outOfRange value lo hi =>
    s!"Value {intText value} out of range ({intText lo}-{intText hi})"
  | .reversed start stop =>
    s!"Invalid range: start ({intText start}) > end ({intText stop})"
  | .badStep text => "Invalid step value: " ++ text
  | .badRange text => "Invalid range: " ++ text
  | .badValue text => "Invalid value: " ++ text

/-- Why a text is no expression of five fields. -/
inductive Misshapen where
  | blank
  | fieldCount (count : Nat)
deriving DecidableEq, Repr

def Misshapen.message : Misshapen → String
  | .blank => "Please enter a cron expression"
  | .fieldCount count =>
    s!"Expected 5 fields, got {natText count}. Format: minute hour day-of-month month day-of-week"

/-- Why an expression is not usable. -/
inductive Problem where
  | misshapen (why : Misshapen)
  | refused (why : Refusal)
deriving DecidableEq, Repr

def Problem.kind : Problem → RefusalKind
  | .misshapen _ => .structural
  | .refused why => why.kind

def Problem.message : Problem → String
  | .misshapen why => why.message
  | .refused why => why.message

/-- The refusal of a part is never reported as a matter of structure. -/
theorem Refusal.kind_ne_structural (r : Refusal) : r.kind ≠ .structural := by
  cases r <;> simp [Refusal.kind]

end Crontab
