import Crontab.Field.Domain
import Crontab.Slot
import Crontab.Text.Decimal

/-!
# Values in prose

How a value of a field is written in a description: months and weekdays by their English names,
anything else in decimal.
-/

namespace Crontab

def monthNames : List String :=
  ["January", "February", "March", "April", "May", "June", "July", "August", "September",
    "October", "November", "December"]

def weekdayNames : List String :=
  ["Sunday", "Monday", "Tuesday", "Wednesday", "Thursday", "Friday", "Saturday"]

/-- The name at a place of a list, which may be counted from the end. -/
def nameAt (names : List String) (index : Int) : Except Fault String :=
  match (slot? names.length index).bind (names[·]?) with
  | some name => .ok name
  | none => .error (slotFault .noName index)

/-- A value of a domain in prose. -/
def Domain.valueText (d : Domain) (v : Int) : Except Fault String :=
  if d = Domain.month then nameAt monthNames (v - 1)
  else if d = Domain.weekday then nameAt weekdayNames v
  else Text.writeInt v

end Crontab
