import Crontab.Calendar.Iso.Reader
import Crontab.Text.Cut
import Crontab.Text.Integer

/-!
# Values of options

How an integer and a time are read where they stand as the value of an option. An integer is
written in the decimal digits of any script. What the readers accept is no concern of the commands,
which take them as `ValueReaders`; `ValueReaders.program` are those that the program runs with.
-/

namespace Crontab.CommandLine

open Text

/-! ## Integers -/

/-- The zeros of the scripts of Unicode 14 that have decimal digits. The other nine digits follow
each of them. -/
def scriptZeros : List Nat := [
  0x30, 0x660, 0x6F0, 0x7C0, 0x966, 0x9E6, 0xA66, 0xAE6, 0xB66, 0xBE6, 0xC66, 0xCE6, 0xD66, 0xDE6,
  0xE50, 0xED0, 0xF20, 0x1040, 0x1090, 0x17E0, 0x1810, 0x1946, 0x19D0, 0x1A80, 0x1A90, 0x1B50,
  0x1BB0, 0x1C40, 0x1C50, 0xA620, 0xA8D0, 0xA900, 0xA9D0, 0xA9F0, 0xAA50, 0xABF0, 0xFF10, 0x104A0,
  0x10D30, 0x11066, 0x110F0, 0x11136, 0x111D0, 0x112F0, 0x11450, 0x114D0, 0x11650, 0x116C0,
  0x11730, 0x118E0, 0x11950, 0x11C50, 0x11D50, 0x11DA0, 0x16A60, 0x16AC0, 0x16B50, 0x1D7CE,
  0x1D7D8, 0x1D7E2, 0x1D7EC, 0x1D7F6, 0x1E140, 0x1E2F0, 0x1E950, 0x1FBF0]

/-- The number that a decimal digit of some script stands for. -/
def scriptDigit? (c : Char) : Option Nat :=
  (scriptZeros.find? fun start => start ≤ c.toNat && c.toNat < start + 10).map (c.toNat - ·)

/-- A text after its sign, and whether that is a minus sign. -/
def afterSign : List Char → Bool × List Char
  | '-' :: ds => (true, ds)
  | '+' :: ds => (false, ds)
  | ds => (false, ds)

/-- The number that digits stand for, of whichever scripts they are. Single underscores may stand
between them, and with more digits than `digitLimit` there is none. -/
def readDigits? (cs : List Char) : Option Nat := do
  let groups := pieces '_' cs
  guard (groups.all (! ·.isEmpty))
  let numbers ← groups.flatten.mapM scriptDigit?
  guard (numbers.length ≤ digitLimit)
  return numbers.foldl (10 * · + ·) 0

/-- The integer that digits stand for after a sign or none, with blanks around all of it. -/
def readInteger? (cs : List Char) : Option Int :=
  let (negative, ds) := afterSign (withoutMargins cs)
  (readDigits? ds).map fun n : Nat => if negative then -(n : Int) else n

/-! ## Readers -/

/-- What the values of options are read by. -/
structure ValueReaders where
  integer? : String → Option Int
  timestamp? : String → Option Timestamp

/-- The readers of the program. -/
def ValueReaders.program : ValueReaders where
  integer? text := readInteger? text.toList
  timestamp? text := Iso.timestamp? text.toList

end Crontab.CommandLine
