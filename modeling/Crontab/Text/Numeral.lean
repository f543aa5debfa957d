import Crontab.Fault
import Crontab.Text.Decimal

/-!
# Short numerals

The numerals of a cron expression: ASCII digits, at most nine of them after the leading zeros. A
longer one names no value of any field, so it is no numeral at all. Leading zeros are free up to
`digitLimit` digits altogether, past which reading is a fault.
-/

namespace Crontab.Text

/-- Digits only, at least one, and at most nine after the leading zeros. -/
def isNumeral (cs : List Char) : Bool :=
  !cs.isEmpty && cs.all Char.isDigit && (cs.dropWhile (· == '0')).length ≤ 9

/-- The value of a numeral, or `none` for a text that is none. -/
def readNumeral (cs : List Char) : Except Fault (Option Nat) :=
  if !isNumeral cs then .ok none
  else if digitLimit < cs.length then .error (.tooManyDigits cs.length)
  else .ok (some (value cs))

end Crontab.Text
