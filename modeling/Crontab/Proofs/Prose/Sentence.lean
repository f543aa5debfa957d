import Crontab.Proofs.Prose.Fragment
import Crontab.Prose.Sentence

/-!
# What a sentence tells

A sentence, word by word, is a time of day and up to four phrases, each after words of its own.
`Phrases.inOrder_inj` says that the phrases can be told from one another. `Phrases.TellsOf` relates
them to the value sets that they speak of, and `Phrases.TellsOf.unique` says that they leave no
choice of value sets.
-/

namespace Crontab

open Text

/-! ## Keywords -/

/-- The words that part the phrases of a sentence. -/
def keywords : List (List Char) := ["past", "on", "and", "in"].map String.toList

/-- No word of the list parts phrases. -/
def Plain (words : List (List Char)) : Prop := ∀ word ∈ words, word ∉ keywords

/-- The list ends, or goes on with a word that parts phrases. -/
def Parts (words : List (List Char)) : Prop := ∀ word ∈ words.head?, word ∈ keywords

theorem not_keyword_of_capitalized {word : List Char} (start : capitalized word = true) :
    word ∉ keywords := by
  have lower : ∀ word ∈ keywords, capitalized word = false := by decide
  intro member
  rw [lower word member] at start
  cases start

theorem plain_nil : Plain [] := fun _ member => absurd member List.not_mem_nil

theorem plain_cons {word : List Char} {words : List (List Char)} (first : word ∉ keywords)
    (others : Plain words) : Plain (word :: words) :=
  List.forall_mem_cons.mpr ⟨first, others⟩

/-- Plain words end where the first keyword stands. -/
theorem eq_of_append_parts {ws ws' rest rest' : List (List Char)} (plain : Plain ws)
    (plain' : Plain ws') (parts : Parts rest) (parts' : Parts rest')
    (same : ws ++ rest = ws' ++ rest') : ws = ws' ∧ rest = rest' := by
  have taken : ∀ ws rest : List (List Char), Plain ws → Parts rest →
      (ws ++ rest).takeWhile (fun word => decide (word ∉ keywords)) = ws := by
    intro ws rest plain parts
    rw [List.takeWhile_append_of_pos fun word member => decide_eq_true (plain word member)]
    cases rest with
    | nil => simp
    | cons word rest => simp [parts word rfl]
  have first := congrArg (List.takeWhile fun word => decide (word ∉ keywords)) same
  rw [taken ws rest plain parts, taken ws' rest' plain' parts'] at first
  subst first
  exact ⟨rfl, List.append_cancel_left same⟩

/-! ## Phrases -/

/-- The words of a phrase after its introduction; none where there is nothing to say. -/
def said (intro : List (List Char)) : Option (List (List Char)) → List (List Char)
  | some words => intro ++ words
  | none => []

theorem head_said {first : List Char} {intro rest : List (List Char)}
    {phrase : Option (List (List Char))} :
    ∀ word ∈ (said (first :: intro) phrase ++ rest).head?, word = first ∨ word ∈ rest.head? := by
  intro word begins
  cases phrase with
  | none => exact .inr begins
  | some ws => exact .inl (Option.some.inj begins).symm

theorem not_prefix_of_head {first : List Char} {intro rest : List (List Char)}
    (other : ∀ word ∈ rest.head?, word ≠ first) : ¬ first :: intro <+: rest := by
  intro begins
  obtain ⟨more, rfl⟩ := begins
  exact other first rfl rfl

/-- A phrase can be told from what follows it, where that does not begin as the phrase does. -/
theorem said_inj {intro rest rest' : List (List Char)} {phrase phrase' : Option (List (List Char))}
    (plain : ∀ ws ∈ phrase, Plain ws) (plain' : ∀ ws ∈ phrase', Plain ws)
    (parts : Parts rest) (parts' : Parts rest') (other : ¬ intro <+: rest)
    (other' : ¬ intro <+: rest') (same : said intro phrase ++ rest = said intro phrase' ++ rest') :
    phrase = phrase' ∧ rest = rest' := by
  cases phrase with
  | none =>
    cases phrase' with
    | none => exact ⟨rfl, same⟩
    | some ws' =>
      refine absurd ?_ other
      rw [show rest = intro ++ ws' ++ rest' from same, List.append_assoc]
      exact List.prefix_append _ _
  | some ws =>
    cases phrase' with
    | none =>
      refine absurd ?_ other'
      rw [← show intro ++ ws ++ rest = rest' from same, List.append_assoc]
      exact List.prefix_append _ _
    | some ws' =>
      have same : intro ++ ws ++ rest = intro ++ ws' ++ rest' := same
      rw [List.append_assoc, List.append_assoc] at same
      obtain ⟨rfl, rfl⟩ := eq_of_append_parts (plain ws rfl) (plain' ws' rfl) parts parts'
        (List.append_cancel_left same)
      exact ⟨rfl, rfl⟩

def pastHour : List (List Char) := ["past".toList, "hour".toList]

def onDay : List (List Char) := ["on".toList, "day".toList]

/-- The words before weekdays, which stand alone where no days of the month come before them. -/
def onWeekday (alone : Bool) : List (List Char) :=
  if alone then ["on".toList] else ["and".toList, "on".toList]

def inMonth : List (List Char) := ["in".toList]

/-- A sentence in words, phrase by phrase. -/
structure Phrases where
  time : List (List Char)
  hours : Option (List (List Char))
  monthDays : Option (List (List Char))
  weekdays : Option (List (List Char))
  months : Option (List (List Char))

namespace Phrases

variable {p p' : Phrases}

/-- The words about weekdays and months. -/
def onWeekdays (p : Phrases) : List (List Char) :=
  said (onWeekday p.monthDays.isNone) p.weekdays ++ said inMonth p.months

/-- The words about days and months. -/
def onDays (p : Phrases) : List (List Char) := said onDay p.monthDays ++ p.onWeekdays

/-- The words of the sentence. -/
def inOrder (p : Phrases) : List (List Char) := p.time ++ (said pastHour p.hours ++ p.onDays)

/-- The phrases can be told from one another. -/
structure Apart (p : Phrases) : Prop where
  time : Plain p.time
  hours : ∀ ws ∈ p.hours, Plain ws
  monthDays : ∀ ws ∈ p.monthDays, Plain ws
  weekdays : ∀ ws ∈ p.weekdays, Plain ws
  months : ∀ ws ∈ p.months, Plain ws
  /-- What comes after `on` is not read as a day of the month. -/
  weekday : ∀ ws ∈ p.weekdays, ∃ word rest, ws = word :: rest ∧ word ≠ "day".toList

/-! Where the phrases begin. -/

theorem head_months (p : Phrases) : ∀ word ∈ (said inMonth p.months).head?, word = "in".toList := by
  intro word begins
  cases months : p.months with
  | none =>
    rw [months] at begins
    cases begins
  | some ws =>
    rw [months] at begins
    exact (Option.some.inj begins).symm

theorem head_onWeekdays (p : Phrases) : ∀ word ∈ p.onWeekdays.head?,
    word ∈ ["on".toList, "and".toList, "in".toList] := by
  intro word begins
  unfold onWeekdays onWeekday at begins
  split at begins
  · rcases head_said word begins with rfl | begins
    · decide
    · rw [head_months p word begins]
      decide
  · rcases head_said word begins with rfl | begins
    · decide
    · rw [head_months p word begins]
      decide

theorem head_onDays (p : Phrases) : ∀ word ∈ p.onDays.head?,
    word ∈ ["on".toList, "and".toList, "in".toList] := by
  intro word begins
  rcases head_said word begins with rfl | begins
  · decide
  · exact head_onWeekdays p word begins

theorem parts_of_head {ws : List (List Char)} (begins : ∀ word ∈ ws.head?,
    word ∈ ["on".toList, "and".toList, "in".toList]) : Parts ws := by
  have among : ∀ word ∈ ["on".toList, "and".toList, "in".toList], word ∈ keywords := by decide
  exact fun word member => among word (begins word member)

theorem parts_onDays (p : Phrases) : Parts (said pastHour p.hours ++ p.onDays) := by
  intro word begins
  rcases head_said word begins with rfl | begins
  · decide
  · exact parts_of_head p.head_onDays word begins

theorem parts_months (p : Phrases) : Parts (said inMonth p.months) := by
  intro word begins
  rw [p.head_months word begins]
  decide

theorem pastHour_not_onDays (p : Phrases) : ¬ pastHour <+: p.onDays := by
  have other : ∀ word ∈ ["on".toList, "and".toList, "in".toList], word ≠ "past".toList := by decide
  exact not_prefix_of_head fun word begins => other word (p.head_onDays word begins)

theorem onWeekday_not_months (p : Phrases) (alone : Bool) :
    ¬ onWeekday alone <+: said inMonth p.months := by
  cases alone with
  | true => exact not_prefix_of_head fun word begins => by rw [p.head_months word begins]; decide
  | false => exact not_prefix_of_head fun word begins => by rw [p.head_months word begins]; decide

theorem onDay_not_onWeekdays (apart : p.Apart) : ¬ onDay <+: p.onWeekdays := by
  have other : ∀ word ∈ (said inMonth p.months).head?, word ≠ "on".toList := by
    intro word begins
    rw [head_months p word begins]
    decide
  unfold onWeekdays
  cases weekdays : p.weekdays with
  | none => exact not_prefix_of_head other
  | some ws =>
    obtain ⟨word, rest, rfl, notDay⟩ := apart.weekday ws weekdays
    unfold onWeekday
    split
    · intro begins
      obtain ⟨more, same⟩ := begins
      have second := (List.cons.inj same).2
      exact notDay (List.cons.inj second).1.symm
    · exact not_prefix_of_head fun word begins => by
        rw [← Option.some.inj begins]
        decide

/-- The words of a sentence give its phrases away. -/
theorem inOrder_inj (apart : p.Apart) (apart' : p'.Apart) (same : p.inOrder = p'.inOrder) :
    p = p' := by
  obtain ⟨time, same⟩ :=
    eq_of_append_parts apart.time apart'.time p.parts_onDays p'.parts_onDays same
  obtain ⟨hours, same⟩ := said_inj apart.hours apart'.hours (parts_of_head p.head_onDays)
    (parts_of_head p'.head_onDays) p.pastHour_not_onDays p'.pastHour_not_onDays same
  obtain ⟨monthDays, same⟩ := said_inj apart.monthDays apart'.monthDays
    (parts_of_head p.head_onWeekdays) (parts_of_head p'.head_onWeekdays)
    (onDay_not_onWeekdays apart)
    (onDay_not_onWeekdays apart') same
  unfold onWeekdays at same
  rw [← monthDays] at same
  obtain ⟨weekdays, same⟩ := said_inj apart.weekdays apart'.weekdays p.parts_months p'.parts_months
    (p.onWeekday_not_months _) (p'.onWeekday_not_months _) same
  have months : p.months = p'.months := by
    have last : Parts [] := fun word begins => by cases begins
    have nothing : ¬ inMonth <+: [] := by decide
    refine (said_inj apart.months apart'.months last last nothing nothing ?_).1
    rw [List.append_nil, List.append_nil]
    exact same
  cases p
  cases p'
  simp only at time hours monthDays weekdays months
  rw [time, hours, monthDays, weekdays, months]

end Phrases

/-! ## The clock -/

theorem toList_twoDigits (n : Nat) :
    (twoDigits n).toList = List.replicate (2 - (natText n).length) '0' ++ digits n := by
  show (String.ofList _ ++ natText n).toList = _
  rw [String.toList_append, natText, String.toList_ofList, String.toList_ofList]

theorem toNat_of_mem_twoDigits {n : Nat} {c : Char} (member : c ∈ (twoDigits n).toList) :
    48 ≤ c.toNat ∧ c.toNat < 58 := by
  rw [toList_twoDigits, List.mem_append] at member
  rcases member with member | member
  · rw [List.eq_of_mem_replicate member]
    decide
  · exact toNat_of_mem_digits member

theorem twoDigits_inj {n m : Nat} (same : (twoDigits n).toList = (twoDigits m).toList) : n = m := by
  rw [toList_twoDigits, toList_twoDigits] at same
  rw [← value_padded _ n, same, value_padded]

def halfDay (hour : Int) : List Char := (if hour < 12 then "AM" else "PM").toList

/-- The time that the clock shows. -/
def clockWord (hour minute : Int) : List Char :=
  digits (shownHour hour).toNat ++ ':' :: (twoDigits minute.toNat).toList

section Clock

variable {hour hour' minute minute' : Int}

theorem shownHour_pos (inside : hour ∈ Domain.hour) : 0 < shownHour hour := by
  obtain ⟨low, _⟩ := inside
  have low : 0 ≤ hour := low
  unfold shownHour
  split
  · omega
  · split <;> omega

/-- The hour shown and the half of the day give the hour. -/
theorem hour_of_shown (inside : hour ∈ Domain.hour) (inside' : hour' ∈ Domain.hour)
    (shown : shownHour hour = shownHour hour') (half : halfDay hour = halfDay hour') :
    hour = hour' := by
  have early : hour < 12 ↔ hour' < 12 := by
    unfold halfDay at half
    split at half <;> split at half
    · exact iff_of_true ‹_› ‹_›
    · cases half
    · cases half
    · exact iff_of_false ‹_› ‹_›
  have low : 0 ≤ hour := inside.1
  have high : hour ≤ 23 := inside.2
  have low' : 0 ≤ hour' := inside'.1
  have high' : hour' ≤ 23 := inside'.2
  have folded : ∀ h : Int, 0 ≤ h → shownHour h = 12 ∧ (h = 0 ∨ h = 12) ∨
      shownHour h = h ∧ 0 < h ∧ h < 12 ∨ shownHour h = h - 12 ∧ 12 < h := by
    intro h natural
    unfold shownHour
    split
    · omega
    · split <;> omega
  have := folded hour low
  have := folded hour' low'
  omega

theorem clockWord_inj (same : clockWord hour minute = clockWord hour' minute') :
    (shownHour hour).toNat = (shownHour hour').toNat ∧ minute.toNat = minute'.toNat := by
  have noColon : ∀ n, ':' ∉ digits n := fun n member =>
    absurd (toNat_of_mem_digits member).2 (by decide)
  obtain ⟨hours, minutes⟩ := eq_of_append_mark (noColon _) (noColon _) same
  exact ⟨digits_inj hours, twoDigits_inj minutes⟩

theorem clockWord_ne {word : List Char} (noColon : ':' ∉ word) : clockWord hour minute ≠ word := by
  rintro rfl
  simp [clockWord] at noColon

theorem visible_of_mem_clockWord : ∀ c ∈ clockWord hour minute, isBlank c = false := by
  intro c member
  rcases List.mem_append.mp member with member | member
  · exact not_blank_of_digit (toNat_of_mem_digits member)
  · rcases List.mem_cons.mp member with rfl | member
    · rfl
    · exact not_blank_of_digit (toNat_of_mem_twoDigits member)

end Clock

/-! ## What the phrases tell -/

/-- What is said of a field that may be left unsaid. -/
inductive Restricts (d : Domain) : Option (List (List Char)) → List Int → Prop
  | unsaid : Restricts d none (progression d.lo d.hi 1)
  | told {words : List (List Char)} {values : List Int} : Tells d words values →
      Restricts d (some words) values

/-- The words for the times of a day, with those for the hours apart, and the minutes and hours that
they tell of. -/
inductive Times : List (List Char) → Option (List (List Char)) → List Int → List Int → Prop
  | everyMinute : Times ["Every".toList, "minute".toList] none
      (progression Domain.minute.lo Domain.minute.hi 1)
      (progression Domain.hour.lo Domain.hour.hi 1)
  | everyHour : Times ["Every".toList, "hour".toList] none [0]
      (progression Domain.hour.lo Domain.hour.hi 1)
  | clock {hour minute : Int} : hour ∈ Domain.hour → minute ∈ Domain.minute →
      Times ["At".toList, clockWord hour minute, halfDay hour] none [minute] [hour]
  | atMinute {minute : Int} {phrase : Option (List (List Char))} {hours : List Int} :
      minute ∈ Domain.minute → Restricts .hour phrase hours →
      Times ["At".toList, "minute".toList, digits minute.toNat] phrase [minute] hours
  | atMinutes {words : List (List Char)} {phrase : Option (List (List Char))}
      {minutes hours : List Int} : Tells .minute words minutes → Restricts .hour phrase hours →
      Times ("At".toList :: "minutes".toList :: words) phrase minutes hours

/-- The value sets that a sentence tells of, phrase by phrase. -/
structure Phrases.TellsOf (p : Phrases) (sets : Fields (List Int)) : Prop where
  times : Times p.time p.hours sets.minute sets.hour
  monthDay : Restricts .monthDay p.monthDays sets.monthDay
  month : Restricts .month p.months sets.month
  weekday : Restricts .weekday p.weekdays sets.weekday

/-! ### No word of theirs parts phrases -/

theorem Domain.plain_unit {d : Domain} (member : d ∈ ofFields.toList) (plural : Bool) :
    Plain (d.unit plural) := by
  have spelled : ∀ d ∈ ofFields.toList, ∀ plural : Bool,
      ∀ word ∈ d.unit plural, word ∉ keywords := by decide +kernel
  exact spelled d member plural

theorem Tells.plain {d : Domain} (member : d ∈ Domain.ofFields.toList) {words : List (List Char)}
    {values : List Int} (tells : Tells d words values) : Plain words := by
  cases tells with
  | every => exact plain_cons (by decide) (Domain.plain_unit member false)
  | @everyNth n =>
    have number := not_keyword_of_capitalized (capitalized_digits n)
    exact plain_cons (by decide) (plain_cons number (Domain.plain_unit member _))
  | run first last =>
    have start := not_keyword_of_capitalized (first.valueWord member).capitalized
    have stop := not_keyword_of_capitalized (last.valueWord member).capitalized
    exact plain_cons start (plain_cons (by decide) (plain_cons stop plain_nil))
  | listed _ calls =>
    have capitals := Tells.capitalized_of_listed member calls
    exact fun word listed => not_keyword_of_capitalized (capitals word listed)

theorem Restricts.plain {d : Domain} (member : d ∈ Domain.ofFields.toList)
    {phrase : Option (List (List Char))} {values : List Int}
    (restricts : Restricts d phrase values) : ∀ ws ∈ phrase, Plain ws := by
  intro ws given
  cases restricts with
  | unsaid => cases given
  | told tells =>
    cases given
    exact tells.plain member

theorem Times.plain {time : List (List Char)} {phrase : Option (List (List Char))}
    {minutes hours : List Int} (times : Times time phrase minutes hours) :
    Plain time ∧ ∀ ws ∈ phrase, Plain ws := by
  have unsaid : ∀ ws ∈ (none : Option (List (List Char))), Plain ws := by
    intro ws given
    cases given
  cases times with
  | everyMinute => exact ⟨plain_cons (by decide) (plain_cons (by decide) plain_nil), unsaid⟩
  | everyHour => exact ⟨plain_cons (by decide) (plain_cons (by decide) plain_nil), unsaid⟩
  | @clock hour minute =>
    have time : clockWord hour minute ∉ keywords :=
      not_keyword_of_capitalized (capitalized_append (capitalized_digits _) _)
    have half : halfDay hour ∉ keywords := by
      unfold halfDay
      split <;> decide
    exact ⟨plain_cons (by decide) (plain_cons time (plain_cons half plain_nil)), unsaid⟩
  | @atMinute minute _ _ _ restricts =>
    have number := not_keyword_of_capitalized (capitalized_digits minute.toNat)
    exact ⟨plain_cons (by decide) (plain_cons (by decide) (plain_cons number plain_nil)),
      restricts.plain (by decide)⟩
  | atMinutes tells restricts =>
    exact ⟨plain_cons (by decide) (plain_cons (by decide) (tells.plain (by decide))),
      restricts.plain (by decide)⟩

theorem Phrases.TellsOf.apart {p : Phrases} {sets : Fields (List Int)} (tells : p.TellsOf sets) :
    p.Apart where
  time := tells.times.plain.1
  hours := tells.times.plain.2
  monthDays := tells.monthDay.plain (by decide)
  weekdays := tells.weekday.plain (by decide)
  months := tells.month.plain (by decide)
  weekday ws given := by
    have weekday := tells.weekday
    rw [given] at weekday
    cases weekday with
    | told tells =>
      obtain ⟨word, rest, rfl, start⟩ := tells.start (by decide)
      refine ⟨word, rest, rfl, ?_⟩
      rintro rfl
      rcases start with every | capital
      · cases every
      · cases capital

/-! ### They leave no choice -/

theorem Restricts.unique {d : Domain} (member : d ∈ Domain.ofFields.toList)
    {phrase : Option (List (List Char))} {values values' : List Int}
    (restricts : Restricts d phrase values) (restricts' : Restricts d phrase values') :
    values = values' := by
  cases restricts with
  | unsaid =>
    cases restricts'
    rfl
  | told tells =>
    cases restricts' with
    | told tells' => exact tells.unique member tells'

theorem toNat_inj {v w : Int} (natural : 0 ≤ v) (natural' : 0 ≤ w) (same : v.toNat = w.toNat) :
    v = w := by
  omega

/-- The first two words decide how the times are told. -/
theorem Times.unique {time : List (List Char)} {phrase : Option (List (List Char))}
    {minutes minutes' hours hours' : List Int} (times : Times time phrase minutes hours)
    (times' : Times time phrase minutes' hours') : minutes = minutes' ∧ hours = hours' := by
  cases times with
  | everyMinute =>
    generalize form : ["Every".toList, "minute".toList] = time at times'
    cases times' with
    | everyMinute => exact ⟨rfl, rfl⟩
    | _ => cases form
  | everyHour =>
    generalize form : ["Every".toList, "hour".toList] = time at times'
    cases times' with
    | everyHour => exact ⟨rfl, rfl⟩
    | _ => cases form
  | @clock hour minute insideHour insideMinute =>
    generalize form : ["At".toList, clockWord hour minute, halfDay hour] = time at times'
    cases times' with
    | everyMinute => cases form
    | everyHour => cases form
    | clock insideHour' insideMinute' =>
      obtain ⟨clock, half⟩ := List.cons.inj (List.cons.inj form).2
      obtain ⟨shown, minute⟩ := clockWord_inj clock
      have shown := toNat_inj (Int.le_of_lt (shownHour_pos insideHour))
        (Int.le_of_lt (shownHour_pos insideHour')) shown
      rw [toNat_inj insideMinute.1 insideMinute'.1 minute,
        hour_of_shown insideHour insideHour' shown (List.cons.inj half).1]
      exact ⟨rfl, rfl⟩
    | atMinute => exact absurd (List.cons.inj (List.cons.inj form).2).1 (clockWord_ne (by decide))
    | atMinutes => exact absurd (List.cons.inj (List.cons.inj form).2).1 (clockWord_ne (by decide))
  | @atMinute minute phrase hours inside restricts =>
    generalize form : ["At".toList, "minute".toList, digits minute.toNat] = time at times'
    cases times' with
    | everyMinute => cases form
    | everyHour => cases form
    | clock => exact absurd (List.cons.inj (List.cons.inj form).2).1.symm (clockWord_ne (by decide))
    | atMinute inside' restricts' =>
      have same := digits_inj (List.cons.inj (List.cons.inj (List.cons.inj form).2).2).1
      rw [toNat_inj inside.1 inside'.1 same, restricts.unique (by decide) restricts']
      exact ⟨rfl, rfl⟩
    | atMinutes => cases form
  | @atMinutes words phrase minutes hours tells restricts =>
    generalize form : "At".toList :: "minutes".toList :: words = time at times'
    cases times' with
    | everyMinute => cases form
    | everyHour => cases form
    | clock => exact absurd (List.cons.inj (List.cons.inj form).2).1.symm (clockWord_ne (by decide))
    | atMinute => cases form
    | atMinutes tells' restricts' =>
      cases form
      rw [tells.unique (by decide) tells', restricts.unique (by decide) restricts']
      exact ⟨rfl, rfl⟩

/-- The phrases of a sentence tell of five value sets only. -/
theorem Phrases.TellsOf.unique {p : Phrases} {sets sets' : Fields (List Int)}
    (tells : p.TellsOf sets) (tells' : p.TellsOf sets') : sets = sets' := by
  obtain ⟨minute, hour⟩ := tells.times.unique tells'.times
  have monthDay := tells.monthDay.unique (by decide) tells'.monthDay
  have month := tells.month.unique (by decide) tells'.month
  have weekday := tells.weekday.unique (by decide) tells'.weekday
  cases sets
  cases sets'
  simp only at minute hour monthDay month weekday
  rw [minute, hour, monthDay, month, weekday]

/-! ## Rendering -/

theorem words_clockText {hour minute : Int} (insideHour : hour ∈ Domain.hour)
    (insideMinute : minute ∈ Domain.minute) :
    words (clockText hour minute).toList = ["At".toList, clockWord hour minute, halfDay hour] := by
  obtain ⟨m, rfl⟩ := Int.eq_ofNat_of_zero_le insideMinute.1
  let time := intText (shownHour hour) ++ (":" ++ twoDigits m)
  have parts : clockText hour m =
      "At" ++ " " ++ (time ++ " " ++ (if hour < 12 then "AM" else "PM")) := by
    unfold clockText
    simp only [time, String.append_assoc]
    rfl
  have clock : time.toList = clockWord hour m := by
    rw [String.toList_append, intText_of_nonneg (Int.le_of_lt (shownHour_pos insideHour)), natText,
      String.toList_ofList, String.toList_append]
    rfl
  have start : words "At".toList = ["At".toList] := by decide +kernel
  have half : words (if hour < 12 then "AM" else "PM").toList = [halfDay hour] := by
    unfold halfDay
    split <;> decide +kernel
  rw [parts, words_space, words_space, clock, start, half,
    words_of_visible (by simp [clockWord]) visible_of_mem_clockWord]
  rfl

theorem words_atMinute {minute : Int} (inside : minute ∈ Domain.minute) :
    words s!"At minute {intText minute}".toList =
      ["At".toList, "minute".toList, digits minute.toNat] := by
  have parts : s!"At minute {intText minute}" = "At minute" ++ " " ++ natText minute.toNat := by
    rw [intText_of_nonneg inside.1]
    simp only [String.append_assoc]
    rfl
  have start : words "At minute".toList = ["At".toList, "minute".toList] := by decide +kernel
  rw [parts, words_space, start, words_natText]
  rfl

theorem words_atMinutes (minutes : String) :
    words s!"At minutes {minutes}".toList =
      "At".toList :: "minutes".toList :: words minutes.toList := by
  have parts : s!"At minutes {minutes}" = "At minutes" ++ " " ++ minutes := by
    simp only [String.append_assoc]
    rfl
  have start : words "At minutes".toList = ["At".toList, "minutes".toList] := by decide +kernel
  rw [parts, words_space, start]
  rfl

theorem words_phrase (before intro : String) (text? : Option String) :
    words (before ++ phrase intro text?).toList =
      words before.toList ++ said (words intro.toList) (text?.map (words ·.toList)) := by
  cases text? with
  | none =>
    rw [phrase, String.append_empty]
    exact (List.append_nil _).symm
  | some text =>
    have parts : before ++ phrase intro (some text) = before ++ " " ++ (intro ++ " " ++ text) := by
      simp only [phrase, String.append_assoc]
      rfl
    rw [parts, words_space, words_space]
    rfl

theorem words_phrase_pastHour (before : String) (text? : Option String) :
    words (before ++ phrase "past hour" text?).toList =
      words before.toList ++ said pastHour (text?.map (words ·.toList)) := by
  have intro : words "past hour".toList = pastHour := by decide +kernel
  rw [words_phrase, intro]

/-- The words of a sentence, phrase by phrase. -/
theorem words_render {s : Sentence} {time : List (List Char)} {hours : Option (List (List Char))}
    (timing : words s.timing.render.toList = time ++ said pastHour hours) :
    words s.render.toList = Phrases.inOrder {
      time, hours
      monthDays := s.monthDays.map (words ·.toList)
      weekdays := s.weekdays.map (words ·.toList)
      months := s.months.map (words ·.toList) } := by
  have day : words "on day".toList = onDay := by decide +kernel
  have month : words "in".toList = inMonth := by decide +kernel
  have alone : words "on".toList = onWeekday true := by decide +kernel
  have joined : words "and on".toList = onWeekday false := by decide +kernel
  have weekday : words (if s.monthDays.isSome then "and on" else "on").toList =
      onWeekday (s.monthDays.map (words ·.toList)).isNone := by
    cases s.monthDays with
    | none => exact alone
    | some text => exact joined
  rw [Sentence.render, words_phrase, words_phrase, words_phrase, timing, day, month, weekday]
  simp only [Phrases.inOrder, Phrases.onDays, Phrases.onWeekdays, List.append_assoc]

end Crontab
