import Crontab.Proofs.Field.Telling
import Crontab.Proofs.Prose.Sentence
import Crontab.Proofs.Report

/-!
# What the sentence for an expression tells

Where neither the minutes nor the hours are a step over all of them, the sentence for a valid
expression tells of its five value sets. Expressions with the same sentence then have the same runs:
`composeSentence_determines`.
-/

namespace Crontab

open Text

/-! ## Phrases -/

/-- What is said of a field tells of its values, or else its text is `*`. -/
theorem Reading.restricts {d : Domain} {r : Reading} (member : d ∈ Domain.ofFields.toList)
    (read : ofText d r.text = .ok r) (valid : r.isValid = true) :
    Restricts d (r.clause.restriction?.map (words ·.toList)) r.values := by
  unfold Clause.restriction?
  split
  · next star =>
    have star : r.text = "*" := star
    rw [values_of_star member (star ▸ read) valid]
    exact .unsaid
  · exact .told (tells member read valid)

/-- The words for the times of a day tell of the minutes and hours. -/
theorem Timing.times {minute hour : Reading}
    (readMinute : Reading.ofText .minute minute.text = .ok minute)
    (readHour : Reading.ofText .hour hour.text = .ok hour) (validMinute : minute.isValid = true)
    (validHour : hour.isValid = true) (noStep : ¬ StepsOverAll minute.text)
    (noStep' : ¬ StepsOverAll hour.text) {timing : Timing}
    (chosen : Timing.ofClauses minute.clause hour.clause = .ok timing) :
    ∃ time phrase, words timing.render.toList = time ++ said pastHour phrase ∧
      Times time phrase minute.values hour.values := by
  have insideMinute := Reading.mem_domain_of_valid (by decide) readMinute validMinute
  have insideHour := Reading.mem_domain_of_valid (by decide) readHour validHour
  have restricts := Reading.restricts (by decide) readHour validHour
  unfold Timing.ofClauses at chosen
  split at chosen
  · next stars =>
    obtain ⟨star, star'⟩ : minute.text = "*" ∧ hour.text = "*" := stars
    cases chosen
    rw [Reading.values_of_star (by decide) (star ▸ readMinute) validMinute,
      Reading.values_of_star (by decide) (star' ▸ readHour) validHour]
    have said : words "Every minute".toList = ["Every".toList, "minute".toList] := by decide +kernel
    exact ⟨_, none, said.trans (List.append_nil _).symm, .everyMinute⟩
  split at chosen
  · next zero =>
    obtain ⟨zero, star⟩ : minute.text = "0" ∧ hour.text = "*" := zero
    cases chosen
    have read : Reading.ofText .minute "0" = .ok ⟨.minute, "0", .ok [0], "0"⟩ := by decide +kernel
    rw [zero, read] at readMinute
    rw [← Except.ok.inj readMinute, Reading.values_of_star (by decide) (star ▸ readHour) validHour]
    have said : words "Every hour".toList = ["Every".toList, "hour".toList] := by decide +kernel
    exact ⟨_, none, said.trans (List.append_nil _).symm, .everyHour⟩
  rw [show everyStride? minute.clause.text = .ok none from everyStride?_eq_none noStep,
    show everyStride? hour.clause.text = .ok none from everyStride?_eq_none noStep'] at chosen
  obtain ⟨_, stepless, chosen⟩ := bind_eq_ok.mp chosen
  obtain rfl := Except.ok.inj stepless
  obtain ⟨_, stepless, chosen⟩ := bind_eq_ok.mp chosen
  obtain rfl := Except.ok.inj stepless
  dsimp only at chosen
  split at chosen
  · next m h hm hh =>
    have hm : minute.values = [m] := hm
    have hh : hour.values = [h] := hh
    obtain ⟨_, _, chosen⟩ := bind_eq_ok.mp chosen
    cases chosen
    have insideMinute : m ∈ Domain.minute := insideMinute m (by simp [hm])
    have insideHour : h ∈ Domain.hour := insideHour h (by simp [hh])
    rw [hm, hh]
    exact ⟨_, none, (words_clockText insideHour insideMinute).trans (List.append_nil _).symm,
      .clock insideHour insideMinute⟩
  · next m hm _ =>
    have hm : minute.values = [m] := hm
    obtain ⟨_, _, chosen⟩ := bind_eq_ok.mp chosen
    cases chosen
    have inside : m ∈ Domain.minute := insideMinute m (by simp [hm])
    rw [hm]
    refine ⟨_, _, ?_, .atMinute inside restricts⟩
    show words (_ ++ phrase _ _).toList = _
    rw [words_phrase_pastHour, words_atMinute inside]
  · cases chosen
    have told := Reading.tells (by decide) readMinute validMinute
    refine ⟨_, _, ?_, .atMinutes told restricts⟩
    show words (_ ++ phrase _ _).toList = _
    rw [words_phrase_pastHour, words_atMinutes]
    rfl

/-! ## Sentences -/

variable {expression : String} {fields : Fields Reading}

/-- The sentence for a valid expression tells of its value sets. -/
theorem exists_tellsOf (read : Expression.read expression = .ok fields)
    (valid : ∀ r ∈ fields.toList, r.isValid = true) (noStep : ¬ StepsOverAll fields.minute.text)
    (noStep' : ¬ StepsOverAll fields.hour.text) {sentence : String}
    (composed : composeSentence (fields.map Reading.clause).toList = .ok sentence) :
    ∃ p : Phrases, words sentence.toList = p.inOrder ∧ p.TellsOf (fields.map Reading.values) := by
  obtain ⟨s, chosen, rfl⟩ := (composeSentence_eq_ok (Expression.valid_clauses valid)).mp composed
  obtain ⟨timing, answered, made⟩ := bind_eq_ok.mp chosen
  obtain ⟨⟨minute, validMinute⟩, ⟨hour, validHour⟩, ⟨monthDay, validMonthDay⟩, ⟨month, validMonth⟩,
    weekday, validWeekday⟩ := Expression.fields_of_read read
      (p := fun d r => Reading.ofText d r.text = .ok r ∧ r.isValid = true)
      fun r listed _ reads => ⟨reads, valid r listed⟩
  obtain ⟨time, hours, told, times⟩ :=
    Timing.times minute hour validMinute validHour noStep noStep' answered
  cases made
  exact ⟨_, words_render told, times, Reading.restricts (by decide) monthDay validMonthDay,
    Reading.restricts (by decide) month validMonth,
    Reading.restricts (by decide) weekday validWeekday⟩

/-- The expression reads as five valid fields, and neither the minutes nor the hours are a step over
all of them. -/
structure Unstepped (expression : String) (fields : Fields Reading) : Prop where
  read : Expression.read expression = .ok fields
  valid : ∀ r ∈ fields.toList, r.isValid = true
  minute : ¬ StepsOverAll fields.minute.text
  hour : ¬ StepsOverAll fields.hour.text

theorem runs_congr {expression expression' : String} {fields fields' : Fields Reading}
    (read : Expression.read expression = .ok fields)
    (valid : ∀ r ∈ fields.toList, r.isValid = true)
    (read' : Expression.read expression' = .ok fields')
    (valid' : ∀ r ∈ fields'.toList, r.isValid = true)
    (same : fields.map Reading.values = fields'.map Reading.values) (count : Int)
    (now : Timestamp) :
    (Report.atTime expression count now).map Report.runs =
      (Report.atTime expression' count now).map Report.runs := by
  obtain ⟨description, answer⟩ := Report.atTime_eq read valid now
  obtain ⟨description', answer'⟩ := Report.atTime_eq read' valid' now
  rw [answer, answer', same]
  cases nextRuns (fields'.map Reading.values).toList now.truncate count <;> rfl

/-- Expressions of this kind have sentences, and where they have the same sentence, they have the
same value sets and the same runs. -/
theorem composeSentence_determines {expression expression' : String}
    {fields fields' : Fields Reading} (unstepped : Unstepped expression fields)
    (unstepped' : Unstepped expression' fields') :
    ∃ sentence sentence', composeSentence (fields.map Reading.clause).toList = .ok sentence ∧
      composeSentence (fields'.map Reading.clause).toList = .ok sentence' ∧
      (sentence = sentence' →
        fields.map Reading.values = fields'.map Reading.values ∧
          ∀ count now, (Report.atTime expression count now).map Report.runs =
            (Report.atTime expression' count now).map Report.runs) := by
  obtain ⟨read, valid, minute, hour⟩ := unstepped
  obtain ⟨read', valid', minute', hour'⟩ := unstepped'
  obtain ⟨sentence, composed⟩ := Expression.exists_composeSentence_of_read read valid
  obtain ⟨sentence', composed'⟩ := Expression.exists_composeSentence_of_read read' valid'
  refine ⟨sentence, sentence', composed, composed', fun equal => ?_⟩
  obtain ⟨p, spelled, tells⟩ := exists_tellsOf read valid minute hour composed
  obtain ⟨p', spelled', tells'⟩ := exists_tellsOf read' valid' minute' hour' composed'
  rw [equal, spelled'] at spelled
  have phrases := Phrases.inOrder_inj tells'.apart tells.apart spelled
  rw [phrases] at tells'
  have same := tells.unique tells'
  exact ⟨same, fun count now => runs_congr read valid read' valid' same count now⟩

/-- The fields of `0 9 */5 * 1-5`. -/
def workdays : Fields Reading where
  minute := ⟨.minute, "0", .ok [0], "0"⟩
  hour := ⟨.hour, "9", .ok [9], "9"⟩
  monthDay := ⟨.monthDay, "*/5", .ok [1, 6, 11, 16, 21, 26, 31], "every 5 day of months"⟩
  month := ⟨.month, "*", .ok (progression 1 12 1), "every month"⟩
  weekday := ⟨.weekday, "1-5", .ok [1, 2, 3, 4, 5], "Monday through Friday"⟩

/-- The fields of `00 09 */05 * MON-FRI`. -/
def namedWorkdays : Fields Reading where
  minute := ⟨.minute, "00", .ok [0], "0"⟩
  hour := ⟨.hour, "09", .ok [9], "9"⟩
  monthDay := ⟨.monthDay, "*/05", .ok [1, 6, 11, 16, 21, 26, 31], "every 5 day of months"⟩
  month := ⟨.month, "*", .ok (progression 1 12 1), "every month"⟩
  weekday := ⟨.weekday, "MON-FRI", .ok [1, 2, 3, 4, 5], "Monday through Friday"⟩

theorem composeSentence_determines_workdays :
    Unstepped "0 9 */5 * 1-5" workdays ∧ Unstepped "00 09 */05 * MON-FRI" namedWorkdays ∧
      ∀ count now, (Report.atTime "0 9 */5 * 1-5" count now).map Report.runs =
        (Report.atTime "00 09 */05 * MON-FRI" count now).map Report.runs := by
  have plain : Unstepped "0 9 */5 * 1-5" workdays := by
    refine ⟨by decide +kernel, ?_, ?_, ?_⟩
    · simp [workdays, Fields.toList, Reading.isValid, Except.toBool]
    · exact fun steps => absurd steps.head (by decide)
    · exact fun steps => absurd steps.head (by decide)
  have named : Unstepped "00 09 */05 * MON-FRI" namedWorkdays := by
    refine ⟨by decide +kernel, ?_, ?_, ?_⟩
    · simp [namedWorkdays, Fields.toList, Reading.isValid, Except.toBool]
    · exact fun steps => absurd steps.head (by decide)
    · exact fun steps => absurd steps.head (by decide)
  let sentence := "At 9:00 AM on day every 5 day of months and on Monday through Friday"
  have said : composeSentence (workdays.map Reading.clause).toList = .ok sentence := by
    decide +kernel
  have said' : composeSentence (namedWorkdays.map Reading.clause).toList = .ok sentence := by
    decide +kernel
  obtain ⟨_, _, composed, composed', same⟩ := composeSentence_determines plain named
  rw [said] at composed
  rw [said'] at composed'
  refine ⟨plain, named, (same ?_).2⟩
  rw [← Except.ok.inj composed, Except.ok.inj composed']

end Crontab
