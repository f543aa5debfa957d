import Crontab.Text.Cut

/-!
# Parts of a field

A field is a list of parts between commas. A trimmed part is a wildcard, a step, a range or a
single value, told apart by the first mark that it holds: `*` alone, then `/`, then `-`.
-/

namespace Crontab

open Text

/-- A part by its form, with the texts around its mark as they stand. -/
inductive Part where
  | wildcard
  | step (span stride : List Char)
  | range (start stop : List Char)
  | single (value : List Char)
deriving DecidableEq, Repr

namespace Part

/-- The text `*`, which stands for all values. -/
def star : List Char := ['*']

/-- The form of a text, blanks around it aside. -/
def ofText (cs : List Char) : Part :=
  let text := trim cs
  if text = star then .wildcard
  else
    match cut '/' text with
    | some (span, stride) => .step span stride
    | none =>
      match cut '-' text with
      | some (start, stop) => .range start stop
      | none => .single text

/-- The part as it was written. -/
def text : Part → List Char
  | .wildcard => star
  | .step span stride => span ++ '/' :: stride
  | .range start stop => start ++ '-' :: stop
  | .single value => value

/-- The name of the part's form. -/
def form : Part → String
  | .wildcard => "wildcard"
  | .step .. => "step"
  | .range .. => "range"
  | .single _ => "singleton"

end Part

end Crontab
