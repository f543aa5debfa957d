import Crontab.Proofs.Field.Capitals
import Crontab.Proofs.Report

/-!
# Letter case

The case of its letters makes no difference to what an expression means. `Report.atTime_raised`
says that the report on an expression in capitals is the report on the expression with its echoed
and quoted texts in capitals; `Report.atTime_letterCase` what two spellings of one expression have
in common.
-/

namespace Crontab

open Calendar Text

/-! ## Expressions -/

theorem Fields.ofList?_map {α β : Type} (g : α → β) (l : List α) :
    ofList? (l.map g) = (ofList? l).map (Fields.map g) := by
  match l with
  | [] | [_] | [_, _] | [_, _, _] | [_, _, _, _] => rfl
  | [_, _, _, _, _] => rfl
  | _ :: _ :: _ :: _ :: _ :: _ :: _ => rfl

namespace Expression

theorem split_raised (text : String) :
    split text.toUpper = (split text).map (Fields.map String.toUpper) := by
  have listed (ws : List (List Char)) :
      Fields.ofList? ((ws.map (List.map Char.toUpper)).map String.ofList) =
        (Fields.ofList? (ws.map String.ofList)).map (Fields.map String.toUpper) := by
    rw [← Fields.ofList?_map, List.map_map, List.map_map]
    exact congrArg _ (List.map_congr_left fun w _ => ofList_raised w)
  rw [split_eq_ofWords, split_eq_ofWords, toList_toUpper, words_raised]
  cases words text.toList with
  | nil => rfl
  | cons w ws =>
    have answered := listed (w :: ws)
    simp only [ofWords, List.map_cons, List.length_cons, List.length_map] at answered ⊢
    rw [answered]
    cases Fields.ofList? (String.ofList w :: ws.map String.ofList) <;> rfl

theorem readFields_raised (texts : Fields String) :
    readFields (texts.map String.toUpper) = (readFields texts).map (Fields.map Reading.raised) := by
  simp only [readFields, Fields.map, Reading.ofText_raised]
  cases Reading.ofText .minute texts.minute with
  | error fault => rfl
  | ok minute =>
    cases Reading.ofText .hour texts.hour with
    | error fault => rfl
    | ok hour =>
      cases Reading.ofText .monthDay texts.monthDay with
      | error fault => rfl
      | ok monthDay =>
        cases Reading.ofText .month texts.month with
        | error fault => rfl
        | ok month => cases Reading.ofText .weekday texts.weekday <;> rfl

theorem read_raised (text : String) :
    read text.toUpper = (read text).map (Fields.map Reading.raised) := by
  rw [read, read, split_raised]
  cases split text with
  | error why => rfl
  | ok texts =>
    show orFault (readFields (texts.map String.toUpper)) = (orFault (readFields texts)).map _
    rw [readFields_raised]
    cases readFields texts <;> rfl

end Expression

/-! ## Sentences -/

theorem Clause.zero_raised (c : Clause) : c.raised.text = "0" ↔ c.text = "0" :=
  toUpper_eq_mark (show "0".toList = ['0'] from rfl) (by decide)

theorem Clause.restriction?_raised (c : Clause) : c.raised.restriction? = c.restriction? := by
  by_cases star : c.text = "*"
  · rw [restriction?, restriction?, if_pos star, if_pos (c.star_raised.mpr star)]
  · rw [restriction?, restriction?, if_neg star, if_neg (mt c.star_raised.mp star)]
    rfl

theorem Timing.ofClauses_raised (minute hour : Clause) :
    ofClauses minute.raised hour.raised = ofClauses minute hour := by
  have stride (c : Clause) : everyStride? c.raised.text = everyStride? c.text :=
    everyStride?_raised c.text
  simp only [ofClauses, Clause.star_raised, Clause.zero_raised, Clause.restriction?_raised, stride]
  rfl

theorem composeSentence_raised (clauses : List Clause) :
    composeSentence (clauses.map Clause.raised) = composeSentence clauses := by
  rw [composeSentence, composeSentence, Fields.ofList?_map]
  cases Fields.ofList? clauses with
  | none => rfl
  | some fields =>
    simp only [Option.map_some, Sentence.ofClauses, Fields.map, Timing.ofClauses_raised,
      Clause.restriction?_raised]
    rfl

/-! ## Reports -/

/-- The problem with the text that it quotes in capitals. -/
def Problem.raised : Problem → Problem
  | .misshapen why => .misshapen why
  | .refused why => .refused why.raised

@[simp]
theorem Problem.kind_raised (p : Problem) : p.raised.kind = p.kind := by
  cases p with
  | misshapen why => rfl
  | refused why => exact why.kind_raised

def Outcome.raised : Outcome → Outcome
  | .misshapen why => .misshapen why
  | .refused fields why => .refused (fields.map Reading.raised) why.raised
  | .scheduled fields description runs => .scheduled (fields.map Reading.raised) description runs

namespace Report

/-- The report with the texts that it echoes and quotes in capitals. -/
def raised (r : Report) : Report :=
  { r with expression := r.expression.toUpper, outcome := r.outcome.raised }

theorem firstRefusal?_raised (fields : Fields Reading) :
    firstRefusal? (fields.map Reading.raised) = (firstRefusal? fields).map Refusal.raised := by
  rw [firstRefusal?, firstRefusal?, Fields.toList_map, List.findSome?_map]
  have each : Reading.refusal? ∘ Reading.raised = fun r => r.refusal?.map Refusal.raised :=
    funext Reading.refusal?_raised
  rw [each]
  exact List.map_findSome?.symm

theorem ofFields_raised (fields : Fields Reading) (count : Int) (reference : Timestamp) :
    ofFields (fields.map Reading.raised) count reference =
      (ofFields fields count reference).map Outcome.raised := by
  have values : (fields.map Reading.raised).map Reading.values = fields.map Reading.values := by
    simp only [Fields.map, Reading.values_raised]
  have clauses : ((fields.map Reading.raised).map Reading.clause).toList =
      (fields.map Reading.clause).toList.map Clause.raised := by
    simp only [Fields.map, Fields.toList, Reading.clause_raised, List.map_cons, List.map_nil]
  rw [ofFields, ofFields, firstRefusal?_raised, values, clauses, composeSentence_raised]
  cases firstRefusal? fields with
  | some why => rfl
  | none =>
    simp only [Option.map_none]
    cases nextRuns (fields.map Reading.values).toList reference count with
    | error fault => rfl
    | ok runs => cases composeSentence (fields.map Reading.clause).toList <;> rfl

/-- The report on an expression in capitals. -/
theorem atTime_raised (expression : String) (count : Int) (time : Timestamp) :
    atTime expression.toUpper count time = (atTime expression count time).map raised := by
  rw [atTime, atTime, Expression.read_raised]
  cases Expression.read expression with
  | ok fields =>
    simp only [Except.map, ofFields_raised]
    cases ofFields fields count time.truncate <;> rfl
  | error stop => cases stop <;> rfl

@[simp]
theorem isValid_raised (r : Report) : r.raised.isValid = r.isValid := by
  unfold raised isValid
  cases r.outcome <;> rfl

@[simp]
theorem problem?_raised (r : Report) : r.raised.problem? = r.problem?.map Problem.raised := by
  unfold raised problem?
  cases r.outcome <;> rfl

@[simp]
theorem fields_raised (r : Report) : r.raised.fields = r.fields.map Reading.raised := by
  unfold raised fields
  cases r.outcome <;> rfl

@[simp]
theorem description_raised (r : Report) : r.raised.description = r.description := by
  unfold raised description
  cases r.outcome <;> rfl

@[simp]
theorem runs_raised (r : Report) : r.raised.runs = r.runs := by
  unfold raised runs
  cases r.outcome <;> rfl

end Report

/-! ## Spellings of one expression -/

/-- Two readings that differ in the case of letters only, and that only in the text that they echo
and in the text that a refusal quotes. -/
structure Reading.Alike (r r' : Reading) : Prop where
  domain : r.domain = r'.domain
  text : r.text.toUpper = r'.text.toUpper
  isValid : r.isValid = r'.isValid
  values : r.values = r'.values
  kind : r.refusal?.map Refusal.kind = r'.refusal?.map Refusal.kind
  refusal : r.refusal?.map Refusal.raised = r'.refusal?.map Refusal.raised
  description : r.description = r'.description

theorem Reading.alike_of_raised {r r' : Reading} (same : r.raised = r'.raised) : r.Alike r' := by
  have refusal := congrArg refusal? same
  have kind := congrArg (fun r => (refusal? r).map Refusal.kind) same
  have isValid := congrArg isValid same
  have values := congrArg values same
  simp only [refusal?_raised, Option.map_map, Function.comp_def, Refusal.kind_raised,
    isValid_raised, values_raised] at refusal kind isValid values
  have domain : r.raised.domain = r'.raised.domain := congrArg Reading.domain same
  have text : r.raised.text = r'.raised.text := congrArg Reading.text same
  have description : r.raised.description = r'.raised.description :=
    congrArg Reading.description same
  exact ⟨domain, text, isValid, values, kind, refusal, description⟩

/-- Two reports that differ in the case of letters only, and that only in the texts that they echo
and in the text that a problem quotes. -/
structure Report.Alike (r r' : Report) : Prop where
  expression : r.expression.toUpper = r'.expression.toUpper
  reference : r.reference = r'.reference
  isValid : r.isValid = r'.isValid
  kind : r.problem?.map Problem.kind = r'.problem?.map Problem.kind
  problem : r.problem?.map Problem.raised = r'.problem?.map Problem.raised
  fields : List.Forall₂ Reading.Alike r.fields r'.fields
  description : r.description = r'.description
  runs : r.runs = r'.runs

namespace Report

theorem alike_of_raised {r r' : Report} (same : r.raised = r'.raised) : r.Alike r' := by
  have problem := congrArg problem? same
  have kind := congrArg (fun r => (problem? r).map Problem.kind) same
  have isValid := congrArg isValid same
  have fields := congrArg fields same
  have description := congrArg description same
  have runs := congrArg runs same
  simp only [problem?_raised, Option.map_map, Function.comp_def, Problem.kind_raised,
    isValid_raised, fields_raised, description_raised, runs_raised]
    at problem kind isValid fields description runs
  have expression : r.raised.expression = r'.raised.expression := congrArg Report.expression same
  have reference : r.raised.reference = r'.raised.reference := congrArg Report.reference same
  rw [← List.forall₂_eq_eq_eq, List.forall₂_map_left_iff, List.forall₂_map_right_iff] at fields
  exact ⟨expression, reference, isValid, kind, problem,
    fields.imp fun _ _ => Reading.alike_of_raised, description, runs⟩

/-- Two expressions that differ in the case of ASCII letters only fail by the same fault or have
reports that are alike. -/
theorem atTime_letterCase {expression expression' : String}
    (same : expression.toUpper = expression'.toUpper) (count : Int) (now : Timestamp) :
    (∃ fault, atTime expression count now = .error fault ∧
        atTime expression' count now = .error fault) ∨
      ∃ r r', atTime expression count now = .ok r ∧ atTime expression' count now = .ok r' ∧
        r.Alike r' := by
  have reports := atTime_raised expression count now
  rw [same, atTime_raised] at reports
  cases answer : atTime expression count now with
  | error fault =>
    cases answer' : atTime expression' count now with
    | error fault' =>
      rw [answer, answer'] at reports
      exact .inl ⟨fault, rfl, reports⟩
    | ok r' =>
      rw [answer, answer'] at reports
      cases reports
  | ok r =>
    cases answer' : atTime expression' count now with
    | error fault' =>
      rw [answer, answer'] at reports
      cases reports
    | ok r' =>
      rw [answer, answer'] at reports
      exact .inr ⟨r, r', rfl, rfl, alike_of_raised (Except.ok.inj reports).symm⟩

/-- The fields of `0 9 * jan-mar mon`. -/
def springMondays : Fields Reading where
  minute := ⟨.minute, "0", .ok [0], "0"⟩
  hour := ⟨.hour, "9", .ok [9], "9"⟩
  monthDay := ⟨.monthDay, "*", .ok (progression 1 31 1), "every day of month"⟩
  month := ⟨.month, "jan-mar", .ok [1, 2, 3], "January through March"⟩
  weekday := ⟨.weekday, "mon", .ok [1], "Monday"⟩

theorem atTime_letterCase_mondays :
    let now : Timestamp :=
      .ofMinute ⟨Date.dayNumber ⟨2024, 1, 15⟩ * minutesPerDay + 630, by decide⟩ none
    "0 9 * jan-mar mon".toUpper = "0 9 * JAN-Mar Mon".toUpper ∧
      ∃ r r', atTime "0 9 * jan-mar mon" 5 now = .ok r ∧ atTime "0 9 * JAN-Mar Mon" 5 now = .ok r' ∧
        r.Alike r' ∧ r'.isValid = true := by
  intro now
  have same : "0 9 * jan-mar mon".toUpper = "0 9 * JAN-Mar Mon".toUpper := by
    rw [← String.toList_inj, toList_toUpper, toList_toUpper]
    decide
  have read : Expression.read "0 9 * jan-mar mon" = .ok springMondays := by decide +kernel
  have valid : ∀ r ∈ springMondays.toList, r.isValid = true := by
    simp [springMondays, Fields.toList, Reading.isValid, Except.toBool]
  have year : now.minute.index + horizon < minuteCount := by decide
  obtain ⟨description, answer⟩ := atTime_eq_ite read valid now
  have answered := answer 5
  rw [if_pos ⟨by decide, Or.inl year⟩] at answered
  rcases atTime_letterCase same 5 now with ⟨fault, failed, _⟩ | ⟨r, r', first, second, alike⟩
  · rw [answered] at failed
    cases failed
  · rw [answered] at first
    cases first
    exact ⟨same, _, r', answered, second, alike, alike.isValid.symm⟩

end Report

end Crontab
