import Crontab.Fields
import Crontab.Prose.Fragment

/-!
# The description of an expression

One sentence for five fields: the time of day, then the days, then the months, each said only where
the expression restricts it. `Sentence.ofClauses` chooses what to say, `Sentence.render` says it.
-/

namespace Crontab

open Text

/-- How a sentence names the times of a day. -/
inductive Timing where
  | everyMinute
  | everyHour
  | everyMinutes (stride : Nat)
  | everyHours (stride : Nat)
  /-- One time of day. -/
  | clock (hour minute : Int)
  /-- One minute of the given hours, of all hours where none are given. -/
  | atMinute (minute : Int) (hours : Option String)
  /-- Several minutes of the given hours. -/
  | atMinutes (minutes : String) (hours : Option String)
deriving DecidableEq, Repr

/-- What a sentence says of an expression. -/
structure Sentence where
  timing : Timing
  monthDays : Option String
  weekdays : Option String
  months : Option String
deriving DecidableEq, Repr

/-! ## Choosing what to say -/

/-- The description of a field that does not read `*`. -/
def Clause.restriction? (c : Clause) : Option String :=
  if c.text = "*" then none else some c.description

/-- An hour on the twelve-hour clock. -/
def shownHour (hour : Int) : Int := if hour = 0 then 12 else if 12 < hour then hour - 12 else hour

/-- The times of day for a minute field and an hour field. Steps over all minutes or all hours are
said as such, and then the other of the two fields is left unsaid. -/
def Timing.ofClauses (minute hour : Clause) : Except Fault Timing := do
  if minute.text = "*" ∧ hour.text = "*" then return .everyMinute
  if minute.text = "0" ∧ hour.text = "*" then return .everyHour
  if let some n ← everyStride? minute.text then return .everyMinutes n
  if let some n ← everyStride? hour.text then return .everyHours n
  match minute.values, hour.values with
  | [m], [h] =>
    sayable [shownHour h, m]
    return .clock h m
  | [m], _ =>
    sayable [m]
    return .atMinute m hour.restriction?
  | _, _ => return .atMinutes minute.description hour.restriction?

def Sentence.ofClauses (fields : Fields Clause) : Except Fault Sentence :=
  return {
    timing := ← Timing.ofClauses fields.minute fields.hour
    monthDays := fields.monthDay.restriction?
    weekdays := fields.weekday.restriction?
    months := fields.month.restriction? }

/-! ## Saying it -/

/-- An integer with at least two characters, a minus sign included. -/
def twoDigits : Int → String
  | .ofNat n => zeroPadded 2 n
  | .negSucc n => "-" ++ natText (n + 1)

/-- A time on the twelve-hour clock. -/
def clockText (hour minute : Int) : String :=
  let half := if hour < 12 then "AM" else "PM"
  s!"At {intText (shownHour hour)}:{twoDigits minute} {half}"

/-- `text` after a space and an introducing phrase, or nothing. -/
def phrase (intro : String) : Option String → String
  | some text => s!" {intro} {text}"
  | none => ""

def Timing.render : Timing → String
  | .everyMinute => "Every minute"
  | .everyHour => "Every hour"
  | .everyMinutes n => s!"Every {natText n} minutes"
  | .everyHours n => s!"Every {natText n} hours"
  | .clock hour minute => clockText hour minute
  | .atMinute minute hours => s!"At minute {intText minute}" ++ phrase "past hour" hours
  | .atMinutes minutes hours => s!"At minutes {minutes}" ++ phrase "past hour" hours

def Sentence.render (s : Sentence) : String :=
  s.timing.render ++ phrase "on day" s.monthDays ++
    phrase (if s.monthDays.isSome then "and on" else "on") s.weekdays ++ phrase "in" s.months

/-! ## The description -/

/-- What stands in place of a sentence where there is none. -/
def invalidDescription : String := "Invalid expression"

/-- The sentence for a list of fields, which has one only where it is five valid fields. -/
def composeSentence (clauses : List Clause) : Except Fault String :=
  match Fields.ofList? clauses with
  | some fields =>
    if fields.toList.all (·.valid) then return (← Sentence.ofClauses fields).render
    else .ok invalidDescription
  | none => .ok invalidDescription

end Crontab
