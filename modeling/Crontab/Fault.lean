/-!
# Faults

What can go wrong that is no mistake of the expression's author: a date outside the calendar, an
integer with too many digits to be read or written, a table asked for a slot it does not have, a
number beyond those that count and index. No report is made of a fault; it leaves the operation that
met it.
-/

namespace Crontab

/-- The most digits of an integer that are read or written. -/
def digitLimit : Nat := 4300

/-- Counts and indices lie below this limit, and indices from an end not below its negative. -/
def indexLimit : Nat := 1 <<< 63

/-- A number that can be an index. -/
def isIndex (n : Int) : Bool := -(indexLimit : Int) ≤ n && n < indexLimit

/-- The ways in which an operation ends without an answer. -/
inductive Fault where
  /-- A date before year 1 or after year 9999 was asked for. -/
  | dateOutOfRange
  /-- A numeral has more digits than `digitLimit`. -/
  | tooManyDigits (count : Nat)
  /-- An integer that should be written has more digits than `digitLimit`. -/
  | tooLongToWrite
  /-- A schedule was given by a number of value sets other than five. -/
  | valueSetCount (count : Nat)
  /-- A month or weekday value has no name. -/
  | noName
  /-- A value has no slot in the table of its field. -/
  | noSlot
  /-- A value or a name was asked for by a number that is no index. -/
  | noIndex
  /-- More firings were asked for than can be counted. -/
  | countTooLarge
  /-- A field has more values than can be counted. -/
  | uncountable
  /-- There is no room for a table with a slot for each value of a field. -/
  | tableTooLarge
deriving DecidableEq, Repr

/-- The wording of a fault. -/
def Fault.message : Fault → String
  | .dateOutOfRange => "date value out of range"
  | .tooManyDigits count =>
    s!"Exceeds the limit ({digitLimit} digits) for integer string conversion: value has {count} " ++
      "digits; use sys.set_int_max_str_digits() to increase the limit"
  | .tooLongToWrite =>
    s!"Exceeds the limit ({digitLimit} digits) for integer string conversion; use " ++
      "sys.set_int_max_str_digits() to increase the limit"
  | .valueSetCount count => s!"Expected 5 value sets, got {count}"
  | .noName => "tuple index out of range"
  | .noSlot => "list assignment index out of range"
  | .noIndex => "cannot fit 'int' into an index-sized integer"
  | .countTooLarge =>
    "Stop argument for islice() must be None or an integer: 0 <= x <= sys.maxsize."
  | .uncountable => "cannot fit 'int' into an index-sized integer"
  | .tableTooLarge => ""

/-- Why an evaluation stopped: a refusal that can be reported, or a fault. -/
inductive Stop (ε : Type) where
  | refused (why : ε)
  | fault (fault : Fault)
deriving DecidableEq, Repr

/-- A computation that can only fail by a fault, as one that may also refuse. -/
def orFault {ε α : Type} : Except Fault α → Except (Stop ε) α
  | .ok a => .ok a
  | .error f => .error (.fault f)

end Crontab
