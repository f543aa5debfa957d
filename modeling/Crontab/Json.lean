import Crontab.Text.Decimal

/-!
# JSON

JSON documents and their indented text. A number is an integer or a decimal fraction; members stay
in the order in which they are given.
-/

namespace Crontab

open Text

inductive Json where
  | null
  | bool (value : Bool)
  | int (value : Int)
  /-- A number with so many decimal places, all of whose digits make up the mantissa. -/
  | decimal (mantissa : Int) (places : Nat)
  | str (value : String)
  | arr (items : List Json)
  | obj (members : List (String × Json))
deriving Inhabited

namespace Json

/-- A text, or `null` where there is none. -/
def str? : Option String → Json
  | some s => .str s
  | none => .null

/-- The value of a member of an object; of several of one name, the last counts. -/
def member? (name : String) : Json → Option Json
  | .obj members => members.reverse.lookup name
  | _ => none

/-! ## Text -/

def hexDigit (n : Nat) : Char := if n < 10 then digitChar n else Char.ofNat (87 + n)

/-- A character as it stands in a quoted text. Only quotes, backslashes and the controls below the
space are written in another way. -/
def escape (c : Char) : List Char :=
  if c = '"' then ['\\', '"']
  else if c = '\\' then ['\\', '\\']
  else if c = '\x08' then ['\\', 'b']
  else if c = '\t' then ['\\', 't']
  else if c = '\n' then ['\\', 'n']
  else if c = '\x0c' then ['\\', 'f']
  else if c = '\r' then ['\\', 'r']
  else if c.toNat < 0x20 then
    ['\\', 'u', '0', '0', hexDigit (c.toNat / 16), hexDigit (c.toNat % 16)]
  else [c]

def quote (s : String) : String := String.ofList ('"' :: s.toList.flatMap escape ++ ['"'])

/-- A decimal fraction as it is written, with one digit at least on either side of the point. -/
def decimalText (mantissa : Int) (places : Nat) : String :=
  let sign := if mantissa < 0 then "-" else ""
  let cs := (zeroPadded (places + 1) mantissa.natAbs).toList
  let whole := String.ofList (cs.take (cs.length - places))
  let fraction := if places = 0 then "0" else String.ofList (cs.drop (cs.length - places))
  s!"{sign}{whole}.{fraction}"

/-- A line break and the indentation of a nesting depth, two spaces for each level. -/
def lineBreak (depth : Nat) : String := String.ofList ('\n' :: List.replicate (2 * depth) ' ')

mutual

/-- The text of a document that stands at a nesting depth, one item or member to a line. -/
def prettyAt (depth : Nat) : Json → String
  | .null => "null"
  | .bool value => if value then "true" else "false"
  | .int value => intText value
  | .decimal mantissa places => decimalText mantissa places
  | .str value => quote value
  | .arr [] => "[]"
  | .arr (item :: items) =>
    "[" ++ lineBreak (depth + 1) ++ prettyAt (depth + 1) item ++ prettyItems (depth + 1) items ++
      lineBreak depth ++ "]"
  | .obj [] => "\x7b\x7d"
  | .obj ((name, value) :: members) =>
    "\x7b" ++ lineBreak (depth + 1) ++ quote name ++ ": " ++ prettyAt (depth + 1) value ++
      prettyMembers (depth + 1) members ++ lineBreak depth ++ "\x7d"

/-- The items after the first one. -/
def prettyItems (depth : Nat) : List Json → String
  | [] => ""
  | item :: items => "," ++ lineBreak depth ++ prettyAt depth item ++ prettyItems depth items

/-- The members after the first one. -/
def prettyMembers (depth : Nat) : List (String × Json) → String
  | [] => ""
  | (name, value) :: members =>
    "," ++ lineBreak depth ++ quote name ++ ": " ++ prettyAt depth value ++
      prettyMembers depth members

end

/-- The indented text of a document. -/
def pretty (json : Json) : String := prettyAt 0 json

end Json

end Crontab
