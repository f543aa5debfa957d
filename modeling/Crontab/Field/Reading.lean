import Crontab.Field.Expansion
import Crontab.Field.Values
import Crontab.Prose.Fragment

/-!
# Reading a field

The parts of a field are judged from left to right. The first one refused refuses the field;
otherwise the field holds the values of all parts, in ascending order, each once.
-/

namespace Crontab

open Text

/-- A field as read: the values it holds or why it is refused, and its description. -/
structure Reading where
  domain : Domain
  text : String
  verdict : Except Refusal (List Int)
  description : String

namespace Reading

def isValid (r : Reading) : Bool := r.verdict.toBool

/-- The values of the field; a refused field has none. -/
def values (r : Reading) : List Int :=
  match r.verdict with
  | .ok vs => vs
  | .error _ => []

def refusal? (r : Reading) : Option Refusal :=
  match r.verdict with
  | .ok _ => none
  | .error why => some why

/-- The field as a sentence sees it. -/
def clause (r : Reading) : Clause where
  text := r.text
  values := r.values
  valid := r.isValid
  description := r.description

end Reading

/-- The values of all parts of a field, in the order of the parts. -/
def expandAll (d : Domain) (text : List Char) : Evaluation (List Int) :=
  return (← (pieces ',' text).mapM fun piece => (Part.ofText piece).expand d).flatten

/-- A field is read only on a domain whose values can be counted and have room in a table. -/
def Domain.admitted (d : Domain) (room : Nat) : Except Fault Unit :=
  if !isIndex d.size then .error .uncountable
  else if room < d.size then .error .tableTooLarge
  else .ok ()

/-- Reads a field where there is room for a table of so many slots. A refusal is part of the
reading; only a fault has none. -/
def Reading.ofTextWithin (room : Nat) (d : Domain) (text : String) : Except Fault Reading := do
  d.admitted room
  let verdict ← match expandAll d text.toList with
    | .ok values => .ok (.ok (ascending values))
    | .error (.refused why) => .ok (.error why)
    | .error (.fault fault) => .error fault
  let plain : Reading := { domain := d, text, verdict, description := "" }
  return { plain with description := ← plain.clause.describe d }

/-- Reads a field with room for every table whose slots can be counted. -/
def Reading.ofText (d : Domain) (text : String) : Except Fault Reading :=
  ofTextWithin indexLimit d text

end Crontab
