import Crontab.Fault
import Crontab.Text.Blank
import Crontab.Text.Cut
import Crontab.Text.Decimal

/-!
# Integers as people type them

The reader for an integer that is given as text in a request, more liberal than the numerals of an
expression. A text is read as a plain integer: digits without a zero in front, after a minus sign or
none. A text that is no plain integer is read once more with blanks, a plus sign, zeros in front of
the digits, a fraction of zeros and underscores taken off.
-/

namespace Crontab.Text

/-- Why a text is not read as an integer. -/
inductive IntegerFault where
  /-- It is none. -/
  | unreadable
  /-- It has more digits than `digitLimit`. -/
  | tooLong
deriving DecidableEq, Repr

/-! ## Plain integers -/

/-- A text after its minus sign, and whether there is one. -/
def afterMinus : List Char → Bool × List Char
  | '-' :: ds => (true, ds)
  | ds => (false, ds)

/-- Reads a plain integer. The limit is on the digits at the start, whatever their sign, and comes
before what may follow them. -/
def readPlain (cs : List Char) : Except IntegerFault Int :=
  let (negative, ds) := afterMinus cs
  let run := ds.takeWhile Char.isDigit
  if run.head? = some '0' then if ds = ['0'] then .ok 0 else .error .unreadable
  else if digitLimit < run.length then .error .tooLong
  else if run.isEmpty || run.length < ds.length then .error .unreadable
  else .ok (if negative then -(value run : Int) else value run)

/-! ## Taking off -/

/-- The blanks that may stand around an integer: all but the separators `U+001C` to `U+001F`. -/
def isMargin (c : Char) : Bool := isBlank c && !(0x1C ≤ c.toNat && c.toNat ≤ 0x1F)

def withoutMargins (cs : List Char) : List Char :=
  ((cs.dropWhile isMargin).reverse.dropWhile isMargin).reverse

/-- The text after a plus sign, which no minus sign may follow. -/
def withoutPlus? (cs : List Char) : Option (List Char) :=
  match cs with
  | '+' :: '-' :: _ => none
  | '+' :: rest => some rest
  | rest => some rest

/-- A zero, or an underscore between zeros. -/
def isFiller (c : Char) : Bool := c = '0' || c = '_'

/-- The text after the zeros in front, between which underscores may stand. What they stand in front
of is a digit or a late minus sign; where that is a point or nothing, the last of them stays. -/
def withoutZeros? (cs : List Char) : Option (List Char) :=
  match cs with
  | '0' :: rest =>
    let last := ('0' :: rest.takeWhile isFiller).getLast (by simp)
    match rest.dropWhile isFiller with
    | [] => some [last]
    | c :: more =>
      if c = '.' then some (last :: c :: more)
      else if c = '-' || c.isDigit then some (c :: more)
      else none
  | c :: _ => if c.isDigit then some cs else none
  | [] => none

/-- The text before a fraction that is zero; a text without one is left as it is. -/
def withoutFraction (cs : List Char) : List Char :=
  match cut '.' cs with
  | none => cs
  | some (whole, fraction) =>
    if !fraction.isEmpty && fraction.all (· == '0') then whole else cs

/-- The text without its underscores, if they stand one by one between other characters. -/
def withoutUnderscores (cs : List Char) : List Char :=
  if (pieces '_' cs).any List.isEmpty then cs else cs.filter (· != '_')

/-! ## Reading -/

/-- The plain integer that a text comes down to. A minus sign in front stays there. -/
def plainText? (cs : List Char) : Option (List Char) := do
  let (negative, rest) := afterMinus (← withoutPlus? (withoutMargins cs))
  let digits := withoutUnderscores (withoutFraction (← withoutZeros? rest))
  return if negative then '-' :: digits else digits

/-- The integer that a text stands for. -/
def readInteger (cs : List Char) : Except IntegerFault Int :=
  match readPlain cs with
  | .error .unreadable =>
    match plainText? cs with
    | some text => readPlain text
    | none => .error .unreadable
  | result => result

end Crontab.Text
