import Crontab.Prose.Names
import Crontab.Text.Numeral

/-!
# The description of one field

A field is described by a fragment of a sentence, such as `every 15 minutes` or `Monday through
Friday`. `Clause.fragment` chooses the shape of the fragment, `Fragment.render` words it.
-/

namespace Crontab

open Text

/-- A field as a description sees it. -/
structure Clause where
  text : String
  values : List Int
  valid : Bool := true
  description : String := ""
deriving DecidableEq, Repr

/-- The shapes of a description. -/
inductive Fragment where
  /-- The field has no values to describe. -/
  | unusable
  /-- All values of the domain. -/
  | every
  /-- Every so many values of the domain. -/
  | everyNth (stride : Nat)
  /-- One value. -/
  | single (value : Int)
  /-- A run of three or more consecutive values. -/
  | run (first last : Int)
  /-- Values one by one. -/
  | listed (values : List Int)
deriving DecidableEq, Repr

/-- The stride of a text that is a step over all values, `*` and `/` and a numeral. -/
def everyStride? (text : String) : Except Fault (Option Nat) :=
  match text.toList with
  | '*' :: '/' :: stride => readNumeral stride
  | _ => .ok none

/-- Each value is one more than the value before it. -/
def isConsecutive (values : List Int) : Bool :=
  (values.zip values.tail).all fun (a, b) => b == a + 1

/-- The shape that describes a list of values by itself. -/
def Fragment.ofValues : List Int → Fragment
  | [] => .unusable
  | [v] => .single v
  | v :: w :: x :: rest =>
    let values := v :: w :: x :: rest
    if isConsecutive values then .run v (values.getLast (by simp [values])) else .listed values
  | values => .listed values

/-- The shape that describes a field: its text decides where it covers the domain or steps over all
of it, its values otherwise. -/
def Clause.fragment (d : Domain) (c : Clause) : Except Fault Fragment :=
  if !c.valid || c.values.isEmpty then .ok .unusable
  else if c.text = "*" ∨ c.values.length = d.size then .ok .every
  else do
    match ← everyStride? c.text with
    | some n => return .everyNth n
    | none => return .ofValues c.values

/-- The wording of a fragment for a field of a domain. -/
def Fragment.render (d : Domain) : Fragment → Except Fault String
  | .unusable => .ok "invalid"
  | .every => .ok ("every " ++ label)
  | .everyNth n => .ok (s!"every {natText n} {label}" ++ if 1 < n then "s" else "")
  | .single v => d.valueText v
  | .run first last => return (← d.valueText first) ++ " through " ++ (← d.valueText last)
  | .listed values => return ", ".intercalate (← values.mapM d.valueText)
where
  label := String.ofList (lower d.label.toList)

/-- The description of a field of a domain. -/
def Clause.describe (d : Domain) (c : Clause) : Except Fault String := do
  (← c.fragment d).render d

end Crontab
