import Crontab.Field.Reading
import Crontab.Fields

/-!
# Expressions

A cron expression is five words: the fields for minute, hour, day of the month, month and day of
the week. Every field is read, whatever becomes of the others.
-/

namespace Crontab

open Text

namespace Expression

/-- The texts of the five fields: those between the runs of blanks, once there is no blank at either
end. -/
def split (text : String) : Except Misshapen (Fields String) :=
  match trim text.toList with
  | [] => .error .blank
  | trimmed =>
    let texts := (splitAtBlanks trimmed).map String.ofList
    match Fields.ofList? texts with
    | some fields => .ok fields
    | none => .error (.fieldCount texts.length)

/-- Each of the five texts read on the domain of its field. -/
def readFields (texts : Fields String) : Except Fault (Fields Reading) := do
  return {
    minute := ← Reading.ofText .minute texts.minute
    hour := ← Reading.ofText .hour texts.hour
    monthDay := ← Reading.ofText .monthDay texts.monthDay
    month := ← Reading.ofText .month texts.month
    weekday := ← Reading.ofText .weekday texts.weekday }

/-- Reads an expression; refused only where it has not five fields. -/
def read (text : String) : Except (Stop Misshapen) (Fields Reading) :=
  match split text with
  | .error why => .error (.refused why)
  | .ok texts => orFault (readFields texts)

end Expression

end Crontab
