import Crontab.Calendar.Iso
import Crontab.Proofs.Prose.Description
import Crontab.Proofs.Text.Decimal

/-!
# The characters of prose

Descriptions, sentences and short dates are written with letters, digits, spaces, commas, colons
and dashes alone: `worded_describe`, `worded_composeSentence` and `worded_shortText`.
-/

namespace Crontab

open Text

/-- The characters of words and numbers, and what stands between them. -/
def inProse (c : Char) : Bool := c.isAlphanum || c == ' ' || c == ',' || c == ':' || c == '-'

/-- The text is written with the characters of prose. -/
def Worded (text : String) : Prop := text.toList.all inProse = true

instance (text : String) : Decidable (Worded text) := inferInstanceAs (Decidable (_ = true))

theorem Worded.inProse {text : String} (worded : Worded text) :
    ∀ c ∈ text.toList, inProse c = true := List.all_eq_true.mp worded

theorem Worded.not_mem {text : String} {c : Char} (worded : Worded text)
    (other : Crontab.inProse c = false) : c ∉ text.toList := by
  intro member
  rw [worded.inProse c member] at other
  cases other

theorem worded_ofList {cs : List Char} : Worded (String.ofList cs) ↔ cs.all inProse = true := by
  rw [Worded, String.toList_ofList]

theorem worded_append {a b : String} : Worded (a ++ b) ↔ Worded a ∧ Worded b := by
  unfold Worded
  rw [String.toList_append, List.all_append, Bool.and_eq_true]

/-! ## Numbers -/

theorem all_digits (n : Nat) : (digits n).all inProse = true := by
  have digit : ∀ k < 10, inProse (digitChar k) = true := by decide
  induction n using Nat.strongRecOn with
  | ind n ih =>
    rw [digits]
    split
    · next small => simp [digit n small]
    · next large =>
      have first := ih (n / 10) (by omega)
      simp [first, digit (n % 10) (by omega)]

theorem worded_natText (n : Nat) : Worded (natText n) := worded_ofList.mpr (all_digits n)

theorem worded_intText (v : Int) : Worded (intText v) := by
  cases v with
  | ofNat n => exact worded_natText n
  | negSucc n => exact worded_append.mpr ⟨by decide, worded_natText _⟩

theorem worded_zeroPadded (width n : Nat) : Worded (zeroPadded width n) := by
  have zero : inProse '0' = true := by decide
  refine worded_append.mpr ⟨worded_ofList.mpr ?_, worded_natText n⟩
  rw [List.all_replicate, zero]
  split <;> rfl

/-! ## Lists -/

theorem worded_getD {texts : List String} (each : ∀ text ∈ texts, Worded text) (i : Nat) :
    Worded (texts[i]?.getD "") := by
  cases found : texts[i]? with
  | none => exact rfl
  | some text => exact each text (List.mem_of_getElem? found)

theorem worded_intercalate {texts : List String} (each : ∀ text ∈ texts, Worded text) :
    Worded (", ".intercalate texts) := by
  induction texts with
  | nil => exact rfl
  | cons text texts ih =>
    obtain ⟨first, others⟩ := List.forall_mem_cons.mp each
    cases texts with
    | nil => exact (String.intercalate_singleton ..).symm ▸ first
    | cons next texts =>
      rw [String.intercalate_cons_cons]
      exact worded_append.mpr ⟨worded_append.mpr ⟨first, by decide⟩, ih others⟩

/-! ## Fields -/

variable {d : Domain} {text : String}

theorem worded_nameAt {names : List String} {index : Int} (each : ∀ name ∈ names, Worded name)
    (named : nameAt names index = .ok text) : Worded text := by
  unfold nameAt at named
  split at named
  · next name found =>
    obtain rfl := Except.ok.inj named
    obtain ⟨place, _, found⟩ := Option.bind_eq_some_iff.mp found
    exact each name (List.mem_of_getElem? found)
  · cases named

theorem worded_valueText {v : Int} (written : d.valueText v = .ok text) : Worded text := by
  unfold Domain.valueText at written
  split at written
  · exact worded_nameAt (by decide) written
  split at written
  · exact worded_nameAt (by decide) written
  · obtain ⟨_, rfl⟩ := writeInt_eq_ok.mp written
    exact worded_intText v

theorem worded_unit (member : d ∈ Domain.ofFields.toList) :
    Worded (String.ofList (lower d.label.toList)) := by
  have each : ∀ d ∈ Domain.ofFields.toList, Worded (String.ofList (lower d.label.toList)) := by
    decide +kernel
  exact each d member

theorem worded_render {fragment : Fragment} (member : d ∈ Domain.ofFields.toList)
    (rendered : fragment.render d = .ok text) : Worded text := by
  cases fragment with
  | unusable =>
    obtain rfl := Except.ok.inj rendered
    decide
  | every =>
    obtain rfl := Except.ok.inj rendered
    exact worded_append.mpr ⟨by decide, worded_unit member⟩
  | everyNth n =>
    obtain rfl := Except.ok.inj rendered
    have plural : Worded (if 1 < n then "s" else "") := by split <;> decide
    simp only [worded_append]
    exact ⟨⟨⟨⟨by decide, worded_natText n⟩, by decide⟩, worded_unit member⟩, plural⟩
  | single v => exact worded_valueText rendered
  | run first last =>
    obtain ⟨start, written, rest⟩ := bind_eq_ok.mp rendered
    obtain ⟨stop, written', same⟩ := bind_eq_ok.mp rest
    obtain rfl := Except.ok.inj same
    simp only [worded_append]
    exact ⟨⟨worded_valueText written, by decide⟩, worded_valueText written'⟩
  | listed values =>
    obtain ⟨texts, written, same⟩ := bind_eq_ok.mp rendered
    obtain rfl := Except.ok.inj same
    refine worded_intercalate ?_
    have spoken := mapM_eq_ok.mp written
    clear written rendered same
    induction spoken with
    | nil => exact fun text none => absurd none List.not_mem_nil
    | cons first _ ih => exact List.forall_mem_cons.mpr ⟨worded_valueText first, ih⟩

/-- The description of a field is prose. -/
theorem worded_describe {c : Clause} (member : d ∈ Domain.ofFields.toList)
    (described : c.describe d = .ok text) : Worded text := by
  obtain ⟨fragment, _, rendered⟩ := bind_eq_ok.mp described
  exact worded_render member rendered

/-! ## Sentences -/

theorem worded_phrase {intro : String} {text? : Option String} (introduced : Worded intro)
    (each : ∀ text ∈ text?, Worded text) : Worded (phrase intro text?) := by
  cases text? with
  | none => exact rfl
  | some text =>
    simp only [phrase, worded_append]
    exact ⟨⟨⟨by decide, introduced⟩, by decide⟩, each text rfl⟩

theorem worded_clockText (hour minute : Int) : Worded (clockText hour minute) := by
  have minutes : Worded (twoDigits minute) := by
    cases minute with
    | ofNat n => exact worded_zeroPadded 2 n
    | negSucc n => exact worded_append.mpr ⟨by decide, worded_natText _⟩
  have half : Worded (if hour < 12 then "AM" else "PM") := by split <;> decide
  simp only [clockText, worded_append]
  exact ⟨⟨⟨⟨⟨by decide, worded_intText _⟩, by decide⟩, minutes⟩, by decide⟩, half⟩

/-- The description of a field that a sentence may say. -/
theorem worded_restriction {c : Clause} (worded : Worded c.description) :
    ∀ text ∈ c.restriction?, Worded text := by
  intro text said
  unfold Clause.restriction? at said
  split at said
  · cases said
  · obtain rfl := Option.some.inj said
    exact worded

theorem worded_timing {minute hour : Clause} {timing : Timing}
    (wordedMinute : Worded minute.description) (wordedHour : Worded hour.description)
    (chosen : Timing.ofClauses minute hour = .ok timing) : Worded timing.render := by
  have hours : Worded (phrase "past hour" hour.restriction?) :=
    worded_phrase (by decide) (worded_restriction wordedHour)
  unfold Timing.ofClauses at chosen
  split at chosen
  · obtain rfl := Except.ok.inj chosen
    decide
  split at chosen
  · obtain rfl := Except.ok.inj chosen
    decide
  obtain ⟨minuteStride, _, chosen⟩ := bind_eq_ok.mp chosen
  split at chosen
  · obtain rfl := Except.ok.inj chosen
    simp only [Timing.render, worded_append]
    exact ⟨⟨by decide, worded_natText _⟩, by decide⟩
  obtain ⟨hourStride, _, chosen⟩ := bind_eq_ok.mp chosen
  split at chosen
  · obtain rfl := Except.ok.inj chosen
    simp only [Timing.render, worded_append]
    exact ⟨⟨by decide, worded_natText _⟩, by decide⟩
  split at chosen
  · obtain ⟨_, _, chosen⟩ := bind_eq_ok.mp chosen
    obtain rfl := Except.ok.inj chosen
    exact worded_clockText _ _
  · obtain ⟨_, _, chosen⟩ := bind_eq_ok.mp chosen
    obtain rfl := Except.ok.inj chosen
    simp only [Timing.render, worded_append]
    exact ⟨⟨by decide, worded_intText _⟩, hours⟩
  · obtain rfl := Except.ok.inj chosen
    simp only [Timing.render, worded_append]
    exact ⟨⟨by decide, wordedMinute⟩, hours⟩

/-- The sentence for fields whose descriptions are prose is prose as well. -/
theorem worded_composeSentence {fields : Fields Clause}
    (each : ∀ c ∈ fields.toList, Worded c.description)
    (composed : composeSentence fields.toList = .ok text) : Worded text := by
  simp only [Fields.toList, List.forall_mem_cons, List.not_mem_nil, false_implies, implies_true,
    and_true] at each
  obtain ⟨minute, hour, monthDay, month, weekday⟩ := each
  rw [composeSentence, Fields.ofList?_toList] at composed
  dsimp only at composed
  split at composed
  · obtain ⟨s, chosen, same⟩ := bind_eq_ok.mp composed
    obtain rfl := Except.ok.inj same
    obtain ⟨timing, timed, same⟩ := bind_eq_ok.mp chosen
    obtain rfl := Except.ok.inj same
    have intro : Worded (if fields.monthDay.restriction?.isSome then "and on" else "on") := by
      split <;> decide
    simp only [Sentence.render, worded_append]
    exact ⟨⟨⟨worded_timing minute hour timed,
      worded_phrase (by decide) (worded_restriction monthDay)⟩,
      worded_phrase intro (worded_restriction weekday)⟩,
      worded_phrase (by decide) (worded_restriction month)⟩
  · obtain rfl := Except.ok.inj composed
    decide

/-! ## Dates -/

/-- The short form of a timestamp is prose. -/
theorem worded_shortText (t : Timestamp) : Worded t.shortText := by
  have half : Worded (if t.minute.hour < 12 then "AM" else "PM") := by split <;> decide
  have weekday : Worded (shortWeekdays[t.minute.weekday]?.getD "") := worded_getD (by decide) _
  have month : Worded (shortMonths[t.minute.date.month - 1]?.getD "") := worded_getD (by decide) _
  simp only [Timestamp.shortText, worded_append]
  exact ⟨⟨⟨⟨⟨⟨⟨⟨⟨⟨weekday, by decide⟩, month⟩, by decide⟩, worded_natText _⟩, by decide⟩,
    worded_zeroPadded 2 _⟩, by decide⟩, worded_zeroPadded 2 _⟩, by decide⟩, half⟩

end Crontab
