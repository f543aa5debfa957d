import Crontab.CommandLine.Output
import Crontab.Proofs.Outcome
import Crontab.Proofs.Prose.Alphabet

/-!
# What a report prints

The lines of a report on a valid expression, character by character. None but the line that says
that there are no runs holds a full stop, so that this line is printed where there are none and
nowhere else: `wordedReport_prints_iff`.
-/

namespace Crontab

open Text

/-! ## The texts of valid fields -/

namespace Domain

variable {d : Domain} {cs : List Char} {c : Char}

/-- A part that follows the grammar holds no marks but those of the grammar. -/
theorem Written.not_mem {stretch : Stretch} (wellformed : d.Wellformed)
    (written : d.Written cs stretch) (mark : Mark c) (other : c ∉ ['*', '/', '-']) : c ∉ cs := by
  simp only [List.mem_cons, List.not_mem_nil, or_false, not_or] at other
  obtain ⟨star, slash, dash⟩ := other
  have interval : ∀ {cs : List Char} {a b : Int}, d.Interval cs a b → c ∉ cs := by
    intro cs a b interval
    cases interval with
    | dash start stop =>
      simp [start.not_mem wellformed mark, stop.not_mem wellformed mark, dash]
  cases written with
  | wildcard => simpa using star
  | step spans numeral =>
    have absent := numeral.not_mem mark.low
    cases spans with
    | all => simp [absent, star, slash]
    | interval spans => simp [absent, slash, interval spans]
    | onward stands => simp [absent, slash, stands.not_mem wellformed mark]
  | interval spans => exact interval spans
  | single stands => exact stands.not_mem wellformed mark

end Domain

/-- A valid field holds no full stop. -/
theorem Reading.not_mem_text {d : Domain} {text : String} {r : Reading}
    (member : d ∈ Domain.ofFields.toList) (read : ofText d text = .ok r)
    (valid : r.isValid = true) : '.' ∉ r.text.toList := by
  intro stop
  obtain ⟨_, rfl, accepts, _⟩ := ofText_eq_ok member read
  obtain ⟨piece, listed, inside⟩ := mem_splitOn stop (show '.' ≠ ',' by decide)
  obtain ⟨stretch, written⟩ := accepts.mp valid piece listed
  have mark : Mark '.' := ⟨by decide, by decide⟩
  exact written.not_mem (Domain.wellformed_of_mem member) mark (by decide)
    (mem_trim_of_not_blank inside mark.visible)

namespace CommandLine

/-! ## Lines -/

/-- What the program writes to its standard output. -/
def Exit.stdout : Exit → String
  | .finished _ stdout _ => stdout
  | _ => ""

/-- The text is part of what the program writes to its standard output. -/
def Exit.Prints (e : Exit) (text : String) : Prop := text.toList <:+: e.stdout.toList

/-- Freeing a text of control sequences only leaves characters out. -/
theorem stripSequences_sublist (cs : List Char) : (stripSequences cs).Sublist cs := by
  fun_induction stripSequences cs with
  | case1 => exact .slnil
  | case2 rest _ ih => exact ih.cons_cons _
  | case3 rest d after found _ _ ih =>
    have kept : (d :: after).Sublist rest := found ▸ List.dropWhile_sublist _
    exact (((ih.cons d).trans kept).cons _).cons _
  | case4 rest _ _ _ _ _ ih => exact ih.cons_cons _
  | case5 d rest _ ih => exact ih.cons_cons _

variable {texts : List String} {text : String} {c : Char}

theorem toList_lines (texts : List String) :
    (lines texts).toList = texts.flatMap fun text => (line text).toList := by
  rw [lines, String.toList_join, List.flatMap_map]

/-- What is printed comes from the texts of the lines, but for the ends of the lines. -/
theorem mem_lines (member : c ∈ (lines texts).toList) (other : c ≠ '\n') :
    ∃ text ∈ texts, c ∈ text.toList := by
  rw [toList_lines] at member
  obtain ⟨text, listed, inside⟩ := List.mem_flatMap.mp member
  rw [line, String.toList_append, String.toList_ofList] at inside
  rcases List.mem_append.mp inside with stripped | ending
  · exact ⟨text, listed, (stripSequences_sublist _).subset stripped⟩
  · exact absurd (List.mem_singleton.mp ending) other

/-- A text without control sequences is printed as it is. -/
theorem infix_lines (member : text ∈ texts) (plain : stripSequences text.toList = text.toList) :
    text.toList <:+: (lines texts).toList := by
  obtain ⟨before, after, rfl⟩ := List.append_of_mem member
  rw [toList_lines, List.flatMap_append, List.flatMap_cons, line, plain, String.ofList_toList,
    String.toList_append, List.append_assoc, ← List.append_assoc]
  exact List.infix_append _ _ _

/-! ## Reports on valid expressions -/

theorem not_mem_padRight {width : Nat} (absent : '.' ∉ text.toList) :
    '.' ∉ (padRight width text).toList := by
  simp [padRight, absent]

/-- The line for a valid field holds no full stop. -/
theorem not_mem_fieldText {r : Reading} (member : r.domain ∈ Domain.ofFields.toList)
    (read : Reading.ofText r.domain r.text = .ok r) (valid : r.isValid = true) :
    '.' ∉ (fieldText r).toList := by
  have each : ∀ d ∈ Domain.ofFields.toList, '.' ∉ d.label.toList := by decide
  have label := each _ member
  have text := Reading.not_mem_text member read valid
  have worded := worded_describe member (Reading.describe_of_ofText read)
  have description : '.' ∉ r.description.toList := worded.not_mem (by decide)
  have unrefused := Reading.refusal?_eq_none.mpr valid
  simp only [fieldText, valid, unrefused, if_true, String.toList_append, List.mem_append, not_or]
  exact ⟨⟨⟨⟨⟨⟨⟨by decide, by decide⟩, by decide⟩, not_mem_padRight label⟩, by decide⟩,
    not_mem_padRight text⟩, by decide⟩, description⟩

variable {expression : String} {count : Int} {now : Timestamp} {report : Report}
  {fields : Fields Reading}

/-- The report on a valid expression says in prose what it means. -/
theorem scheduled_of_read (read : Expression.read expression = .ok fields)
    (valid : ∀ r ∈ fields.toList, r.isValid = true)
    (answered : Report.atTime expression count now = .ok report) :
    ∃ description runs, report.outcome = .scheduled fields description runs ∧
      Worded description := by
  rw [Report.atTime, read] at answered
  obtain ⟨outcome, found, made⟩ := bind_eq_ok.mp answered
  cases made
  rcases Report.cases_of_ofFields found with ⟨why, refused, _⟩ | ⟨_, runs, sentence, composed, form⟩
  · rw [Report.firstRefusal?_eq_none.mpr valid] at refused
    cases refused
  · refine ⟨sentence, runs, form, worded_composeSentence ?_ composed⟩
    intro c member
    rw [Fields.toList_map, List.mem_map] at member
    obtain ⟨r, member, rfl⟩ := member
    obtain ⟨domain, reads⟩ := (Expression.each_of_read read).2 r member
    exact worded_describe domain (Reading.describe_of_ofText reads)

/-- Of all that a report on a valid expression says, only the line about no runs has a full stop:
it is printed where there are no runs. -/
theorem wordedReport_prints_iff (read : Expression.read expression = .ok fields)
    (valid : ∀ r ∈ fields.toList, r.isValid = true)
    (answered : Report.atTime expression count now = .ok report) :
    (wordedReport report).Prints "No runs within the next year." ↔ report.runs = [] := by
  obtain ⟨description, runs, form, worded⟩ := scheduled_of_read read valid answered
  have printed : (wordedReport report).stdout =
      lines (fields.toList.map fieldText ++ runTexts report) := by
    simp only [wordedReport, Report.problem?, Report.fields, form, Exit.stdout]
  have said : report.description = description := by simp only [Report.description, form]
  rw [Exit.Prints, printed]
  constructor
  · intro message
    have stop : '.' ∈ (lines (fields.toList.map fieldText ++ runTexts report)).toList :=
      message.subset (by decide)
    obtain ⟨text, listed, inside⟩ := mem_lines stop (by decide)
    rcases List.mem_append.mp listed with field | run
    · obtain ⟨r, member, rfl⟩ := List.mem_map.mp field
      obtain ⟨domain, reads⟩ := (Expression.each_of_read read).2 r member
      exact absurd inside (not_mem_fieldText domain reads (valid r member))
    · rcases List.mem_cons.mp run with rfl | run
      · refine absurd inside ?_
        simp only [said, String.toList_append, List.mem_append, not_or]
        exact ⟨⟨by decide, worded.not_mem (by decide)⟩, by decide⟩
      · split at run
        · next empty => exact List.isEmpty_iff.mp empty
        · obtain ⟨t, _, rfl⟩ := List.mem_map.mp run
          refine absurd inside ?_
          rw [String.toList_append, List.mem_append, not_or]
          exact ⟨by decide, (worded_shortText t).not_mem (by decide)⟩
  · intro empty
    refine infix_lines (List.mem_append_right _ ?_) (by simp [stripSequences])
    simp [runTexts, empty]

end CommandLine

end Crontab
