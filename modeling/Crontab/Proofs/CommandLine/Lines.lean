import Crontab.Proofs.CommandLine.NoRuns
import Crontab.Proofs.Quotation

/-!
# The lines that a report is printed in

Whatever the expression, a report is printed in as many lines as it should be: `run_lines`. All that
is printed of an expression is characters of its words, and a character that ends a line is in no
word.
-/

namespace Crontab

open Text

/-! ## What a report is of -/

namespace Report

variable {expression : String} {fields : Fields Reading} {report : Report} {count : Int}
  {now : Timestamp}

/-- Where there is a report, the expression could be read. -/
theorem readable_of_atTime (answered : atTime expression count now = .ok report)
    (fault : Fault) : Expression.read expression ≠ .error (.fault fault) := by
  intro failed
  rw [atTime, failed] at answered
  cases answered

theorem fields_of_misshapen {why : Misshapen} (split : Expression.split expression = .error why)
    (answered : atTime expression count now = .ok report) : report.fields = [] := by
  rw [atTime, Expression.read, split] at answered
  cases answered
  rfl

theorem fields_of_read (read : Expression.read expression = .ok fields)
    (answered : atTime expression count now = .ok report) :
    report.fields = fields.toList := by
  rw [atTime, read] at answered
  obtain ⟨outcome, found, made⟩ := bind_eq_ok.mp answered
  cases made
  rcases cases_of_ofFields found with ⟨_, _, rfl⟩ | ⟨_, _, _, _, rfl⟩ <;> rfl

/-- An expression of five words on which there is a report has five fields. -/
theorem exists_read_of_split {texts : Fields String}
    (split : Expression.split expression = .ok texts)
    (answered : atTime expression count now = .ok report) :
    ∃ fields, Expression.read expression = .ok fields ∧ fields.map Reading.text = texts := by
  cases read : Expression.read expression with
  | ok fields =>
    obtain ⟨texts', split', reads⟩ := Expression.read_eq_ok.mp read
    rw [split] at split'
    cases split'
    exact ⟨fields, rfl, (Expression.readFields_each reads).2.1⟩
  | error stop =>
    cases stop with
    | refused why =>
      obtain ⟨_, misshapen⟩ := Expression.read_eq_refused.mp ⟨why, read⟩
      rw [split] at misshapen
      cases misshapen
    | fault fault => exact absurd read (readable_of_atTime answered fault)

/-- The fields of a report are read from five words, or there are none. -/
theorem fields_cases (answered : atTime expression count now = .ok report) :
    (∃ why, Expression.split expression = .error why ∧ report.fields = []) ∨
      ∃ fields, Expression.read expression = .ok fields ∧ report.fields = fields.toList := by
  cases split : Expression.split expression with
  | error why => exact .inl ⟨why, rfl, fields_of_misshapen split answered⟩
  | ok texts =>
    obtain ⟨fields, read, _⟩ := exists_read_of_split split answered
    exact .inr ⟨fields, read, fields_of_read read answered⟩

theorem isValid_iff_usable (answered : atTime expression count now = .ok report) :
    report.isValid = true ↔ ∃ fields, Usable expression fields := by
  constructor
  · intro valid
    refine (usable_or_unusable (readable_of_atTime answered)).resolve_right ?_
    rintro ⟨problem, unusable⟩
    rw [(problem?_of_unusable unusable answered).1] at valid
    cases valid
  · rintro ⟨fields, usable⟩
    exact (problem?_of_usable usable answered).1

end Report

namespace CommandLine

/-! ## Texts on one line -/

/-- The characters that end a line. -/
def lineEnds : List Char :=
  ['\n', '\x0b', '\x0c', '\r', '\x1c', '\x1d', '\x1e', '\u0085', '\u2028', '\u2029']

/-- The text does not end a line. -/
def OneLine (text : String) : Prop := ∀ c ∈ text.toList, c ∉ lineEnds

instance (text : String) : Decidable (OneLine text) :=
  List.decidableBAll (· ∉ lineEnds) text.toList

/-- The text is made of these lines, every one of them ended. -/
def Lined (text : String) (ls : List String) : Prop :=
  text.toList.splitOnP (· ∈ lineEnds) = ls.map String.toList ++ [[]]

instance (text : String) (ls : List String) : Decidable (Lined text ls) :=
  inferInstanceAs (Decidable (_ = _))

section Lines

variable {cs : List Char} {a b text : String} {texts : List String}

theorem oneLine_append : OneLine (a ++ b) ↔ OneLine a ∧ OneLine b := by
  simp only [OneLine, String.toList_append, List.forall_mem_append]

/-- Words do not end a line: what does is blank. -/
theorem not_mem_lineEnds_of_words {c : Char} (member : c ∈ (words cs).flatten) : c ∉ lineEnds := by
  obtain ⟨word, listed, inside⟩ := List.mem_flatten.mp member
  have blank : ∀ c ∈ lineEnds, isBlank c = true := by simp [lineEnds, isBlank]
  intro ending
  have visible := (mem_words listed).2 c inside
  rw [blank c ending] at visible
  cases visible

/-- A message that quotes words is on one line. -/
theorem oneLine_of_quotes (quotes : Quotes (words cs).flatten text) : OneLine text := by
  have other : ∀ c ∈ lineEnds, inNotice c = false := by simp [lineEnds, inNotice, inProse]
  intro c member ending
  have absent : c ∉ (words cs).flatten := fun quoted => not_mem_lineEnds_of_words quoted ending
  exact quotes.not_mem (other c ending) absent member

theorem oneLine_of_worded (worded : Worded text) : OneLine text := by
  have quotes : Quotes (words []).flatten text := quotes_of_worded worded
  exact oneLine_of_quotes quotes

theorem oneLine_padRight (width : Nat) (one : OneLine text) : OneLine (padRight width text) := by
  refine oneLine_append.mpr ⟨one, fun c member => ?_⟩
  rw [String.toList_ofList] at member
  rw [List.eq_of_mem_replicate member]
  decide

/-! ## Control sequences -/

/-- A text as it is printed, freed of control sequences. -/
def displayed (text : String) : String := String.ofList (stripSequences text.toList)

theorem OneLine.displayed (one : OneLine text) : OneLine (displayed text) := by
  intro c member
  rw [CommandLine.displayed, String.toList_ofList] at member
  exact one c ((stripSequences_sublist _).subset member)

/-- What comes before the first escape is printed as it is. -/
theorem stripSequences_append {front : List Char} (plain : '\x1b' ∉ front) (cs : List Char) :
    stripSequences (front ++ cs) = front ++ stripSequences cs := by
  induction front with
  | nil => rfl
  | cons c front ih =>
    obtain ⟨other, plain⟩ := not_or.mp (mt List.mem_cons.mpr plain)
    rw [List.cons_append, stripSequences, ih plain, List.cons_append]
    rintro rest rfl
    exact absurd rfl other

@[simp]
theorem stripSequences_nil : stripSequences [] = [] := by
  rw [stripSequences]

theorem displayed_append (plain : '\x1b' ∉ a.toList) : displayed (a ++ b) = a ++ displayed b := by
  rw [displayed, String.toList_append, stripSequences_append plain, String.ofList_append,
    String.ofList_toList, displayed]

theorem displayed_of_plain (plain : '\x1b' ∉ a.toList) : displayed a = a := by
  have whole := stripSequences_append plain []
  rw [List.append_nil, stripSequences_nil, List.append_nil] at whole
  rw [displayed, whole, String.ofList_toList]

/-- The text is printed as it is, on one line. -/
structure PlainLine (text : String) : Prop where
  one : OneLine text
  escapeless : '\x1b' ∉ text.toList

theorem PlainLine.displayed (plain : PlainLine text) : displayed text = text :=
  displayed_of_plain plain.escapeless

theorem plainLine_of_worded (worded : Worded text) : PlainLine text :=
  ⟨oneLine_of_worded worded, worded.not_mem (by decide)⟩

/-! ## Printed lines -/

theorem lines_cons (text : String) (texts : List String) :
    lines (text :: texts) = displayed text ++ "\n" ++ lines texts := by
  rw [← String.toList_inj, toList_lines, List.flatMap_cons, ← toList_lines, String.toList_append]
  rfl

theorem lines_append (texts texts' : List String) :
    lines (texts ++ texts') = lines texts ++ lines texts' := by
  rw [← String.toList_inj, String.toList_append, toList_lines, toList_lines, toList_lines,
    List.flatMap_append]

/-- Texts on one line are printed as so many lines. -/
theorem lined_lines (each : ∀ text ∈ texts, OneLine text) :
    Lined (lines texts) (texts.map displayed) := by
  induction texts with
  | nil => rfl
  | cons text texts ih =>
    obtain ⟨first, others⟩ := List.forall_mem_cons.mp each
    have ih : (lines texts).toList.splitOnP (· ∈ lineEnds) = _ := ih others
    rw [Lined, lines_cons, String.toList_append, String.toList_append, List.append_assoc]
    show ((displayed text).toList ++ '\n' :: (lines texts).toList).splitOnP _ = _
    rw [List.splitOnP_append_cons_of_forall_mem _ _ (by decide), ih]
    · rfl
    · exact fun c member => decide_eq_false (first.displayed c member)

end Lines

/-! ## Reports -/

/-- How the line for a field starts. -/
def fieldMark (valid : Bool) : String := if valid then "  [ok] " else "  [!!] "

/-- The lines about the runs of an expression that is usable. -/
def runLines (r : Report) : List String :=
  if r.runs.isEmpty then ["No runs within the next year."]
  else r.runs.map fun run => "  " ++ run.shortText

/-- The lines for the fields of a report. -/
def fieldLines (r : Report) : List String := r.fields.map fun f => displayed (fieldText f)

/-- The lines of a usable expression that are not about its fields. -/
def restLines (r : Report) : List String := ["", r.description, ""] ++ runLines r

/-- What a report is printed as: a line for every field, and then what the expression means or what
is wrong with it. An error loses its control sequences, which can only come from the expression. -/
structure Printed (expression : String) (r : Report) (stdout stderr : String) : Prop where
  misshapen : ∀ why, Expression.split expression = .error why → r.fields = []
  five : ∀ texts, Expression.split expression = .ok texts →
    r.fields.map Reading.domain = Domain.ofFields.toList ∧ r.fields.map Reading.text = texts.toList
  marked : ∀ f ∈ r.fields, (fieldMark f.isValid).toList <+: (displayed (fieldText f)).toList
  usable : r.isValid = true → Lined stdout (fieldLines r ++ restLines r) ∧ stderr = ""
  unusable : r.isValid = false → Lined stdout (fieldLines r) ∧
    ∃ problem, r.problem? = some problem ∧ Lined stderr ["Error: " ++ displayed problem.message] ∧
      ('\x1b' ∉ expression.toList → displayed problem.message = problem.message)

section Reports

variable {expression : String} {problem : Problem} {fields : Fields Reading} {r : Reading}
  {report : Report} {count : Int} {now : Timestamp}

theorem exists_fieldText (r : Reading) : ∃ rest, fieldText r = fieldMark r.isValid ++ rest := by
  unfold fieldText fieldMark
  cases r.isValid
  · exact ⟨_, by simp only [String.append_assoc]; rfl⟩
  · exact ⟨_, by simp only [String.append_assoc]; rfl⟩

theorem fieldMark_prefix (r : Reading) :
    (fieldMark r.isValid).toList <+: (displayed (fieldText r)).toList := by
  obtain ⟨rest, form⟩ := exists_fieldText r
  have plain : '\x1b' ∉ (fieldMark r.isValid).toList := by
    unfold fieldMark
    split <;> decide
  rw [form, displayed_append plain, String.toList_append]
  exact List.prefix_append _ _

theorem oneLine_text (read : Expression.read expression = .ok fields)
    (member : r ∈ fields.toList) : OneLine r.text := by
  intro c inside
  exact not_mem_lineEnds_of_words
    (List.mem_flatten.mpr ⟨_, Expression.text_mem_words read member, inside⟩)

/-- The line for a field is one line. -/
theorem oneLine_fieldText (read : Expression.read expression = .ok fields)
    (member : r ∈ fields.toList) : OneLine (fieldText r) := by
  obtain ⟨domain, reads⟩ := (Expression.each_of_read read).2 r member
  have each : ∀ d ∈ Domain.ofFields.toList, OneLine d.label := by decide
  have parts : ∀ {marker detail : String}, OneLine marker → OneLine detail →
      OneLine s!"  [{marker}] {padRight 13 r.domain.label} {padRight 12 r.text} {detail}" := by
    intro marker detail one other
    simp only [oneLine_append]
    exact ⟨⟨⟨⟨⟨⟨⟨by decide, one⟩, by decide⟩, oneLine_padRight 13 (each _ domain)⟩, by decide⟩,
      oneLine_padRight 12 (oneLine_text read member)⟩, by decide⟩, other⟩
  have marker : OneLine (if r.isValid then "ok" else "!!") := by split <;> decide
  cases refused : r.refusal? with
  | some why =>
    simp only [fieldText, refused]
    exact parts marker (oneLine_of_quotes (Expression.quotes_of_refused read member refused))
  | none =>
    simp only [fieldText, refused]
    exact parts marker
      (oneLine_of_worded (worded_describe domain (Reading.describe_of_ofText reads)))

theorem plainLine_runLines : ∀ text ∈ runLines report, PlainLine text := by
  intro text listed
  unfold runLines at listed
  split at listed
  · rw [List.mem_singleton.mp listed]
    exact ⟨by decide, by decide⟩
  · obtain ⟨run, _, rfl⟩ := List.mem_map.mp listed
    exact plainLine_of_worded (worded_append.mpr ⟨by decide, worded_shortText run⟩)

theorem plainLine_restLines (worded : Worded report.description) :
    ∀ text ∈ restLines report, PlainLine text := by
  have empty : PlainLine "" := plainLine_of_worded (by decide)
  rw [restLines, List.forall_mem_append]
  refine ⟨?_, plainLine_runLines⟩
  simp only [List.forall_mem_cons, List.not_mem_nil, false_implies, implies_true, and_true]
  exact ⟨empty, plainLine_of_worded worded, empty⟩

/-- The description stands between two empty lines. -/
theorem lines_runTexts (worded : Worded report.description) :
    lines (runTexts report) = lines (restLines report) := by
  have description := plainLine_of_worded worded
  have plain : '\x1b' ∉ ("\n" ++ report.description ++ "\n").toList := by
    simp [description.escapeless]
  have empty : displayed "" = "" := displayed_of_plain (by decide)
  show lines (("\n" ++ report.description ++ "\n") :: runLines report) = _
  rw [restLines, lines_append, lines_cons, lines_cons, lines_cons, lines_cons,
    displayed_of_plain plain, description.displayed, empty]
  simp [String.append_assoc, lines]

theorem oneLine_fieldTexts (answered : Report.atTime expression count now = .ok report) :
    ∀ text ∈ report.fields.map fieldText, OneLine text := by
  rcases Report.fields_cases answered with ⟨_, _, form⟩ | ⟨fields, read, form⟩
  · simp [form]
  · rw [form, List.forall_mem_map]
    exact fun r member => oneLine_fieldText read member

/-- A report on an expression that is usable is printed on the standard output alone. -/
theorem wordedReport_of_usable (usable : Usable expression fields)
    (answered : Report.atTime expression count now = .ok report) :
    ∃ stdout, wordedReport report = .finished 0 stdout "" ∧
      Lined stdout (fieldLines report ++ restLines report) := by
  obtain ⟨_, unrefused, _⟩ := Report.problem?_of_usable usable answered
  obtain ⟨description, runs, form, worded⟩ := scheduled_of_read usable.read usable.valid answered
  have said : report.description = description := by simp only [Report.description, form]
  rw [← said] at worded
  have rest := plainLine_restLines worded
  refine ⟨lines (report.fields.map fieldText ++ restLines report), ?_, ?_⟩
  · rw [wordedReport, unrefused]
    show Exit.finished 0 (lines _) _ = _
    rw [lines_append, lines_runTexts worded, ← lines_append]
  · have lined := lined_lines (List.forall_mem_append.mpr
      ⟨oneLine_fieldTexts answered, fun text listed => (rest text listed).one⟩)
    have same := List.map_congr_left fun text listed => (rest text listed).displayed
    rwa [List.map_append, same, List.map_id', List.map_map] at lined

/-- A report on an expression that is not usable has one line on the standard error. -/
theorem wordedReport_of_unusable (unusable : Unusable expression problem)
    (answered : Report.atTime expression count now = .ok report) :
    ∃ stdout stderr, wordedReport report = .finished 1 stdout stderr ∧
      Lined stdout (fieldLines report) ∧ Lined stderr ["Error: " ++ displayed problem.message] := by
  obtain ⟨_, refused⟩ := Report.problem?_of_unusable unusable answered
  have message : OneLine ("Error: " ++ problem.message) :=
    oneLine_append.mpr ⟨by decide, oneLine_of_quotes unusable.quotes⟩
  refine ⟨lines (report.fields.map fieldText), lines ["Error: " ++ problem.message], ?_, ?_, ?_⟩
  · rw [wordedReport, refused]
    show Exit.finished 1 _ (line _) = _
    simp [lines]
  · have lined := lined_lines (oneLine_fieldTexts answered)
    rwa [List.map_map] at lined
  · have lined := lined_lines (List.forall_mem_singleton.mpr message)
    rwa [List.map_singleton, displayed_append (by decide)] at lined

theorem oneLine_problem (answered : Report.atTime expression count now = .ok report) :
    ∀ problem ∈ report.problem?, OneLine problem.message := by
  rcases usable_or_unusable (Report.readable_of_atTime answered) with
    ⟨fields, usable⟩ | ⟨problem, unusable⟩
  · simp [(Report.problem?_of_usable usable answered).2.1]
  · rw [(Report.problem?_of_unusable unusable answered).2]
    rintro _ ⟨⟩
    exact oneLine_of_quotes unusable.quotes

/-- The exit code of a report in words. -/
theorem code_wordedReport (report : Report) :
    (wordedReport report).code = if report.isValid then 0 else 1 := by
  unfold wordedReport Report.problem? Report.isValid
  cases report.outcome <;> rfl

/-- A report in words is printed as it should be, whatever the expression. -/
theorem printed_wordedReport (answered : Report.atTime expression count now = .ok report)
    {code : Nat} {stdout stderr : String}
    (finished : wordedReport report = .finished code stdout stderr) :
    Printed expression report stdout stderr := by
  have five : ∀ texts, Expression.split expression = .ok texts →
      report.fields.map Reading.domain = Domain.ofFields.toList ∧
        report.fields.map Reading.text = texts.toList := by
    intro texts split
    obtain ⟨fields, read, rfl⟩ := Report.exists_read_of_split split answered
    rw [Report.fields_of_read read answered, ← Fields.toList_map, ← Fields.toList_map,
      (Expression.each_of_read read).1]
    exact ⟨rfl, rfl⟩
  have misshapen : ∀ why, Expression.split expression = .error why → report.fields = [] :=
    fun _ split => Report.fields_of_misshapen split answered
  rcases usable_or_unusable (Report.readable_of_atTime answered) with
    ⟨fields, usable⟩ | ⟨problem, unusable⟩
  · obtain ⟨valid, _⟩ := Report.problem?_of_usable usable answered
    obtain ⟨_, printed, lined⟩ := wordedReport_of_usable usable answered
    rw [finished] at printed
    cases printed
    refine ⟨misshapen, five, fun f _ => fieldMark_prefix f, fun _ => ⟨lined, rfl⟩,
      fun invalid => ?_⟩
    rw [valid] at invalid
    cases invalid
  · obtain ⟨invalid, refused⟩ := Report.problem?_of_unusable unusable answered
    obtain ⟨_, _, printed, lined, told⟩ := wordedReport_of_unusable unusable answered
    rw [finished] at printed
    cases printed
    refine ⟨misshapen, five, fun f _ => fieldMark_prefix f, fun valid => ?_,
      fun _ => ⟨lined, problem, refused, told, fun plain => ?_⟩⟩
    · rw [invalid] at valid
      cases valid
    · -- an escape in the message would be one in a word of the expression
      have absent : '\x1b' ∉ (words expression.toList).flatten :=
        fun quoted => plain (flatten_words_subset _ quoted)
      exact displayed_of_plain (unusable.quotes.not_mem (by decide) absent)

end Reports

/-! ## Runs of the program -/

section Runs

variable {readers : ValueReaders} {clock : WallTime} {args opts : List String}
  {g given : Given} {options : ReportOptions} {report : Report} {text : String}

/-- What stands last, behind `--`, is taken for an operand, whatever it is. So is that mark itself
behind another one. -/
theorem Given.exists_read_append (taken : g.read opts = some given) :
    ∃ marks, ∀ text,
      g.read (opts ++ ["--", text]) = some (given.addOperands (marks ++ [text])) := by
  fun_induction Given.read g opts with
  | case1 g =>
    cases taken
    exact ⟨[], fun text => rfl⟩
  | case2 g arg args operand spelled ih =>
    obtain ⟨marks, rest⟩ := ih taken
    exact ⟨marks, by simpa only [List.cons_append, Given.read, spelled] using rest⟩
  | case3 g arg args spelled =>
    cases taken
    exact ⟨["--"], by simp [Given.read, spelled, Given.addOperands]⟩
  | case4 g arg args spelled ih =>
    obtain ⟨marks, rest⟩ := ih taken
    exact ⟨marks, by simpa only [List.cons_append, Given.read, spelled] using rest⟩
  | case6 g arg args flag value other spelled ih =>
    obtain ⟨marks, rest⟩ := ih taken
    cases flag with
    | json => exact absurd rfl other
    | count | now => exact ⟨marks, by simpa only [List.cons_append, Given.read, spelled] using rest⟩
  | case7 g arg flag other spelled value args ih =>
    obtain ⟨marks, rest⟩ := ih taken
    cases flag with
    | json => exact absurd rfl other
    | count | now => exact ⟨marks, by simpa only [List.cons_append, Given.read, spelled] using rest⟩
  | case5 | case8 | case9 => cases taken

/-- Behind options and `--` the last argument is the expression, and it may be any text. -/
theorem ofArgs_last (asked : Command.ofArgs readers ("parse" :: opts ++ ["--", text]) =
      some (.report options)) (taken : Given.read {} opts = some given) :
    options.expression = text ∧ ∀ text',
      Command.ofArgs readers ("parse" :: opts ++ ["--", text']) =
        some (.report { options with expression := text' }) := by
  obtain ⟨marks, read⟩ := Given.exists_read_append taken
  have opened : ∀ text, Command.ofArgs readers ("parse" :: opts ++ ["--", text]) =
      (ReportOptions.ofGiven readers (given.addOperands (marks ++ [text]))).map .report := by
    intro text
    show (Given.read {} (opts ++ ["--", text]) >>= fun g => ReportOptions.ofGiven readers g >>=
      fun made => some (Command.report made)) = _
    rw [read, Option.map_eq_bind]
    rfl
  rw [opened] at asked
  obtain ⟨_, found, same⟩ := Option.map_eq_some_iff.mp asked
  cases same
  obtain ⟨single, values⟩ := ofGiven_eq_some.mp found
  have single : (given.operands ++ marks) ++ [text] = [] ++ [options.expression] :=
    (List.append_assoc ..).trans single
  -- the text is all that there is among the operands
  obtain ⟨none, last⟩ := List.append_inj' single rfl
  refine ⟨(List.singleton_inj.mp last).symm, fun text' => ?_⟩
  rw [opened, Option.map_eq_some_iff]
  refine ⟨{ options with expression := text' }, ofGiven_eq_some.mpr ⟨?_, values⟩, rfl⟩
  rw [Given.addOperands, ← List.append_assoc, none, List.nil_append]

/-- Whatever the expression, and however the values of the options are read, a report is printed in
the lines that it should have, and the exit code says whether the expression is usable, in words and
as JSON. -/
theorem run_lines (readers : ValueReaders) (clock : WallTime) {code : Nat} {stdout stderr : String}
    (asked : Command.ofArgs readers args = some (.report options))
    (finished : run readers clock args = .finished code stdout stderr) :
    (∀ opts given text, args = "parse" :: opts ++ ["--", text] → Given.read {} opts = some given →
        options.expression = text ∧ ∀ text',
          Command.ofArgs readers ("parse" :: opts ++ ["--", text']) =
            some (.report { options with expression := text' })) ∧
      ∃ report, Report.atTimeOrNow clock options.expression options.count options.now? =
          .ok report ∧
        (report.isValid = true ↔ ∃ fields, Usable options.expression fields) ∧
        (code = if report.isValid then 0 else 1) ∧
        (∀ f ∈ report.fields, OneLine f.text ∧ ∀ why ∈ f.refusal?, OneLine why.message) ∧
        (∀ problem ∈ report.problem?, OneLine problem.message) ∧
        (options.json = false → Printed options.expression report stdout stderr) := by
  refine ⟨?_, ?_⟩
  · rintro opts given text rfl taken
    exact ofArgs_last asked taken
  cases answered : Report.atTime options.expression options.count
    (options.now?.getD ⟨clock, none⟩) with
  | error fault =>
    rw [run_of_error asked answered] at finished
    cases finished
  | ok report =>
    rw [run_of_report asked answered] at finished
    refine ⟨report, answered, Report.isValid_iff_usable answered, ?_, ?_, oneLine_problem answered,
      fun worded => ?_⟩
    · have code := congrArg Exit.code finished
      split at code
      · exact code.symm
      · exact code.symm.trans (code_wordedReport report)
    · rcases Report.fields_cases answered with ⟨_, _, form⟩ | ⟨fields, read, form⟩
      · simp [form]
      · rw [form]
        refine fun f member => ⟨?_, fun why refused => ?_⟩
        · exact oneLine_text read member
        · exact oneLine_of_quotes (Expression.quotes_of_refused read member refused)
    · rw [if_neg (by simp [worded])] at finished
      exact printed_wordedReport answered finished

/-! ## Lines within the expression -/

/-- The fields of an expression on three lines, with a minute out of range. -/
def broken : Fields Reading where
  minute := ⟨.minute, "60", .error (.outOfRange 60 0 59), "invalid"⟩
  hour := ⟨.hour, "0", .ok [0], "0"⟩
  monthDay := ⟨.monthDay, "1", .ok [1], "1"⟩
  month := ⟨.month, "1", .ok [1], "January"⟩
  weekday := ⟨.weekday, "*", .ok (progression 0 6 1), "every day of week"⟩

theorem unusable_broken :
    Unusable "60 0\n1 1\u2028*\n" (.refused (.outOfRange 60 0 59)) := by
  have read : Expression.read "60 0\n1 1\u2028*\n" = .ok broken := by decide +kernel
  exact .refused read rfl

theorem run_lines_broken :
    let clock : WallTime := .ofMinute ⟨0, by decide⟩
    ∃ report stdout stderr,
      run .program clock ["parse", "--", "60 0\n1 1\u2028*\n"] = .finished 1 stdout stderr ∧
        Printed "60 0\n1 1\u2028*\n" report stdout stderr ∧
        report.problem? = some (.refused (.outOfRange 60 0 59)) := by
  intro clock
  have asked : Command.ofArgs .program ["parse", "--", "60 0\n1 1\u2028*\n"] =
      some (.report ⟨"60 0\n1 1\u2028*\n", 5, none, false⟩) := by rfl
  obtain ⟨report, answered, _, refused⟩ :=
    Report.atTime_of_unusable unusable_broken 5 ⟨clock, none⟩
  obtain ⟨stdout, stderr, worded, _⟩ := wordedReport_of_unusable unusable_broken answered
  have finished := (run_of_ok asked rfl answered).trans worded
  obtain ⟨_, _, same, _, _, _, _, printed⟩ := run_lines .program clock asked finished
  have same := answered.symm.trans same
  cases same
  exact ⟨report, stdout, stderr, finished, printed rfl, refused⟩

/-- The fields of an expression whose minute is an `x` in red. -/
def red : Fields Reading where
  minute := ⟨.minute, "\x1b[31mx", .error (.badValue "\x1b[31mx"), "invalid"⟩
  hour := ⟨.hour, "*", .ok (progression 0 23 1), "every hour"⟩
  monthDay := ⟨.monthDay, "*", .ok (progression 1 31 1), "every day of month"⟩
  month := ⟨.month, "*", .ok (progression 1 12 1), "every month"⟩
  weekday := ⟨.weekday, "*", .ok (progression 0 6 1), "every day of week"⟩

theorem unusable_red : Unusable "\x1b[31mx * * * *" (.refused (.badValue "\x1b[31mx")) := by
  have read : Expression.read "\x1b[31mx * * * *" = .ok red := by decide +kernel
  exact .refused read rfl

/-- An error that quotes a control sequence is not printed as it is. -/
theorem run_red_not_quoted :
    let clock : WallTime := .ofMinute ⟨0, by decide⟩
    let problem : Problem := .refused (.badValue "\x1b[31mx")
    ∃ report stdout,
      Report.atTime "\x1b[31mx * * * *" 5 ⟨clock, none⟩ = .ok report ∧
        report.problem? = some problem ∧
        run .program clock ["parse", "--", "\x1b[31mx * * * *"] =
          .finished 1 stdout "Error: Invalid value: x\n" ∧
        ¬ Lined "Error: Invalid value: x\n" ["Error: " ++ problem.message] := by
  intro clock problem
  have asked : Command.ofArgs .program ["parse", "--", "\x1b[31mx * * * *"] =
      some (.report ⟨"\x1b[31mx * * * *", 5, none, false⟩) := by rfl
  obtain ⟨report, answered, _, refused⟩ := Report.atTime_of_unusable unusable_red 5 ⟨clock, none⟩
  have finished := run_of_ok asked rfl answered
  have told : line "Error: Invalid value: \x1b[31mx" = "Error: Invalid value: x\n" := by
    decide +kernel
  have error : line ("Error: " ++ problem.message) = "Error: Invalid value: x\n" := told
  refine ⟨report, lines (report.fields.map fieldText), answered, refused, ?_, ?_⟩
  · rw [finished, wordedReport, refused, ← error]
  · show ¬ Lined _ ["Error: Invalid value: \x1b[31mx"]
    decide

end Runs

end CommandLine

end Crontab
