import Crontab.Schedule.Window

/-!
# Heatmaps

How often a schedule fires in a window, by hour of the day and day of the week.
-/

namespace Crontab

/-- The firings in one hour of one day of the week, 0 being Sunday. -/
structure HeatCell where
  hour : Nat
  weekday : Nat
  count : Nat
deriving DecidableEq, Repr

/-! ## Counting -/

/-- Counts with one more for a key. A new key comes last. -/
def bump {α : Type} [DecidableEq α] (key : α) : List (α × Nat) → List (α × Nat)
  | [] => [(key, 1)]
  | (k, n) :: counts => if k = key then (k, n + 1) :: counts else (k, n) :: bump key counts

/-- How often each key is in a list, in the order in which the keys first come. -/
def countKeys {α : Type} [DecidableEq α] (keys : List α) : List (α × Nat) :=
  keys.foldl (fun counts key => bump key counts) []

/-! ## Cells -/

/-- The hour and the day of a minute, under which its firing is counted. -/
def Minute.heatKey (m : Minute) : Nat × Nat := (m.hour, m.weekday)

/-- The order of counts: by hour, then by day, then by number. -/
def countLe (a b : (Nat × Nat) × Nat) : Bool :=
  a.1.1 < b.1.1 || a.1.1 = b.1.1 && (a.1.2 < b.1.2 || a.1.2 = b.1.2 && a.2 ≤ b.2)

def HeatCell.ofCount (entry : (Nat × Nat) × Nat) : HeatCell where
  hour := entry.1.1
  weekday := entry.1.2
  count := entry.2

/-- The cells in which there is a firing, ordered by hour and then by day. -/
def heatCells (firings : List Minute) : List HeatCell :=
  ((countKeys (firings.map Minute.heatKey)).mergeSort countLe).map .ofCount

/-- The greatest count of a cell, 0 where there is none. -/
def heatPeak (cells : List HeatCell) : Nat := cells.foldl (fun peak cell => max peak cell.count) 0

/-- The cells of all firings in a window. Asking for one firing more than the window has minutes
runs the walk to its end. -/
def Window.heat (w : Window) (sets : List (List Int)) : Except Fault (List HeatCell) := do
  return heatCells (← ((w.walk sets).take (w.minutes + 1)).firings?)

end Crontab
