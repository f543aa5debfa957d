import Crontab.Field.Domain

/-!
# The five fields

One thing for each field of an expression, in the order in which the fields are written.
-/

namespace Crontab

structure Fields (α : Type) where
  minute : α
  hour : α
  monthDay : α
  month : α
  weekday : α
deriving DecidableEq, Repr

namespace Fields

variable {α β : Type}

def toList (f : Fields α) : List α := [f.minute, f.hour, f.monthDay, f.month, f.weekday]

/-- The fields of a list of five. -/
def ofList? : List α → Option (Fields α)
  | [minute, hour, monthDay, month, weekday] => some { minute, hour, monthDay, month, weekday }
  | _ => none

def map (g : α → β) (f : Fields α) : Fields β where
  minute := g f.minute
  hour := g f.hour
  monthDay := g f.monthDay
  month := g f.month
  weekday := g f.weekday

theorem ofList?_toList (f : Fields α) : ofList? f.toList = some f := rfl

theorem toList_map (g : α → β) (f : Fields α) : (f.map g).toList = f.toList.map g := rfl

theorem ofList?_eq_some {l : List α} {f : Fields α} (h : ofList? l = some f) :
    l = f.toList := by
  unfold ofList? at h
  split at h
  · cases h
    rfl
  · cases h

end Fields

/-- The domains of the five fields. -/
def Domain.ofFields : Fields Domain where
  minute := .minute
  hour := .hour
  monthDay := .monthDay
  month := .month
  weekday := .weekday

end Crontab
