import Crontab.Text.LetterCase

/-!
# Field domains

A field of a cron expression ranges over a domain: integers from `lo` to `hi`, the first few of
which may have names. The five domains of an expression are `minute`, `hour`, `monthDay`, `month`
and `weekday`; other domains are read by the same rules.
-/

namespace Crontab

/-- The integers that a field may hold. The name at place `i` of `names` stands for `lo + i`; a
name is written in upper case. -/
structure Domain where
  label : String
  lo : Int
  hi : Int
  names : List String := []
deriving DecidableEq, Repr

namespace Domain

def minute : Domain := { label := "Minute", lo := 0, hi := 59 }

def hour : Domain := { label := "Hour", lo := 0, hi := 23 }

def monthDay : Domain := { label := "Day of Month", lo := 1, hi := 31 }

def month : Domain where
  label := "Month"
  lo := 1
  hi := 12
  names := ["JAN", "FEB", "MAR", "APR", "MAY", "JUN", "JUL", "AUG", "SEP", "OCT", "NOV", "DEC"]

def weekday : Domain where
  label := "Day of Week"
  lo := 0
  hi := 6
  names := ["SUN", "MON", "TUE", "WED", "THU", "FRI", "SAT"]

/-- The value lies between the bounds. -/
instance : Membership Int Domain where
  mem d v := d.lo ≤ v ∧ v ≤ d.hi

theorem mem_iff {d : Domain} {v : Int} : v ∈ d ↔ d.lo ≤ v ∧ v ≤ d.hi := Iff.rfl

instance (v : Int) (d : Domain) : Decidable (v ∈ d) :=
  inferInstanceAs (Decidable (d.lo ≤ v ∧ v ≤ d.hi))

/-- How many values the domain has, where `lo` does not exceed `hi`. -/
def size (d : Domain) : Int := d.hi - d.lo + 1

/-- The value that a text names, whatever the case of its letters. -/
def named? (d : Domain) (token : List Char) : Option Int :=
  (d.names.idxOf? (String.ofList (Text.upper token))).map (d.lo + ·)

end Domain

end Crontab
