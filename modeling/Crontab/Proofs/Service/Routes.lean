import Crontab.Proofs.Report
import Crontab.Proofs.Schedule.Heatmap
import Crontab.Service.Routes

/-!
# Routes of one expression

Whether an expression is usable is settled before any time is looked at, so all routes agree on it,
and the clock matters only where a request leaves its point in time open. `routes_agree` says so.
-/

namespace Crontab

open Calendar

/-! ## Usable expressions -/

/-- Why an expression is not usable. No time has a part in it. -/
inductive Unusable (expression : String) : Problem → Prop
  | misshapen {why : Misshapen} : Expression.read expression = .error (.refused why) →
      Unusable expression (.misshapen why)
  | refused {fields : Fields Reading} {why : Refusal} : Expression.read expression = .ok fields →
      Report.firstRefusal? fields = some why → Unusable expression (.refused why)

/-- The expression has five valid fields. -/
structure Usable (expression : String) (fields : Fields Reading) : Prop where
  read : Expression.read expression = .ok fields
  valid : ∀ r ∈ fields.toList, r.isValid = true

section Reports

variable {expression : String} {problem : Problem} {fields : Fields Reading} {count : Int}
  {now : Timestamp} {report : Report}

/-- An expression that can be read is usable, or there is a reason why it is not. -/
theorem usable_or_unusable
    (readable : ∀ fault, Expression.read expression ≠ .error (.fault fault)) :
    (∃ fields, Usable expression fields) ∨ ∃ problem, Unusable expression problem := by
  cases read : Expression.read expression with
  | error stop =>
    cases stop with
    | refused why => exact .inr ⟨_, .misshapen read⟩
    | fault fault => exact absurd read (readable fault)
  | ok fields =>
    cases refused : Report.firstRefusal? fields with
    | none => exact .inl ⟨fields, read, Report.firstRefusal?_eq_none.mp refused⟩
    | some why => exact .inr ⟨_, .refused read refused⟩

namespace Report

/-- There is a report on an expression that is not usable, at any time. -/
theorem atTime_of_unusable (unusable : Unusable expression problem) (count : Int)
    (now : Timestamp) : ∃ report, atTime expression count now = .ok report ∧
      report.isValid = false ∧ report.problem? = some problem := by
  cases unusable with
  | @misshapen why read =>
    refine ⟨⟨expression, now.truncate, .misshapen why⟩, ?_, rfl, rfl⟩
    rw [atTime, read]
    rfl
  | @refused fields why read leftmost =>
    refine ⟨⟨expression, now.truncate, .refused fields why⟩, ?_, rfl, rfl⟩
    rw [atTime, read]
    simp only [ofFields, leftmost]
    rfl

theorem problem?_of_unusable (unusable : Unusable expression problem)
    (answered : atTime expression count now = .ok report) :
    report.isValid = false ∧ report.problem? = some problem := by
  obtain ⟨_, same, invalid, refused⟩ := atTime_of_unusable unusable count now
  rw [answered] at same
  cases same
  exact ⟨invalid, refused⟩

theorem problem?_of_usable (usable : Usable expression fields)
    (answered : atTime expression count now = .ok report) :
    report.isValid = true ∧ report.problem? = none ∧ report.fields = fields.toList := by
  obtain ⟨description, answer⟩ := atTime_eq_ite usable.read usable.valid now
  rw [answer count] at answered
  split at answered
  · cases answered
    exact ⟨rfl, rfl, rfl⟩
  · cases answered

/-- Without runs there is a report on a usable expression at any time, even at the end of the
calendar. -/
theorem exists_atTime_of_usable (usable : Usable expression fields) (now : Timestamp) :
    ∃ report, atTime expression 0 now = .ok report := by
  rw [exists_atTime_iff usable.read usable.valid]
  -- none of the minutes up to the end has to be due
  exact ⟨by decide, .inr (Int.natCast_nonneg _)⟩

end Report

end Reports

namespace Service

/-! ## Value sets -/

section Sets

variable {expression : String} {problem : Problem} {fields : Fields Reading} {fault : Fault}

theorem usableSets_of_unusable (unusable : Unusable expression problem) (clock : WallTime) :
    usableSets clock expression = .ok (.error problem) := by
  obtain ⟨report, answered, _, refused⟩ := Report.atTime_of_unusable unusable 0 ⟨clock, none⟩
  have asked : Report.atTimeOrNow clock expression 0 none = .ok report := answered
  rw [usableSets, asked]
  simp only [bind, Except.bind, refused]
  rfl

theorem usableSets_of_usable (usable : Usable expression fields) (clock : WallTime) :
    usableSets clock expression = .ok (.ok (fields.map Reading.values).toList) := by
  obtain ⟨report, answered⟩ := Report.exists_atTime_of_usable usable ⟨clock, none⟩
  have asked : Report.atTimeOrNow clock expression 0 none = .ok report := answered
  obtain ⟨_, unrefused, form⟩ := Report.problem?_of_usable usable answered
  rw [usableSets, asked]
  simp only [bind, Except.bind, unrefused, form, Fields.toList_map]
  rfl

theorem usableSets_of_fault (failed : Expression.read expression = .error (.fault fault))
    (clock : WallTime) : usableSets clock expression = .error fault := by
  have asked : Report.atTimeOrNow clock expression 0 none = .error fault := by
    rw [Report.atTimeOrNow, Report.atTime, failed]
    rfl
  rw [usableSets, asked]
  rfl

/-- The value sets of an expression do not depend on the clock. -/
theorem usableSets_clock (clock clock' : WallTime) :
    usableSets clock expression = usableSets clock' expression := by
  by_cases readable : ∀ fault, Expression.read expression ≠ .error (.fault fault)
  · rcases usable_or_unusable readable with ⟨fields, usable⟩ | ⟨problem, unusable⟩
    · rw [usableSets_of_usable usable, usableSets_of_usable usable]
    · rw [usableSets_of_unusable unusable, usableSets_of_unusable unusable]
  · simp only [ne_eq, not_forall, not_not] at readable
    obtain ⟨fault, failed⟩ := readable
    rw [usableSets_of_fault failed, usableSets_of_fault failed]

end Sets

/-! ## Windows -/

section Windows

variable {α : Type} {request : WindowRequest} {problem : Problem} {fields : Fields Reading}
  {members : α → List (String × Json)} {content : Window → List (List Int) → Except Fault α}

/-- What a request about a window is answered from the given value sets. -/
def respondFrom (clock : WallTime) (request : WindowRequest) (sets : List (List Int))
    (members : α → List (String × Json)) (content : Window → List (List Int) → Except Fault α) :
    Except Fault Response :=
  (Window.answerBetween clock request.start? request.stop? (content · sets)).map fun found =>
    WindowAnswer.toResponse members (.ok ⟨request.expression, found.1, found.2⟩)

/-- A request about a window is turned down for an expression that is not usable, and for the reason
why it is not. -/
theorem overWindow_of_unusable (unusable : Unusable request.expression problem)
    (clock : WallTime) {detail : String} :
    (overWindow clock request content).map (WindowAnswer.toResponse members) =
      .ok (.badExpression detail) ↔ problem.message = detail := by
  rw [overWindow, usableSets_of_unusable unusable]
  show (Except.ok (Response.badExpression problem.message) : Except Fault Response) = _ ↔ _
  simp

theorem overWindow_of_usable (usable : Usable request.expression fields) (clock : WallTime) :
    (overWindow clock request content).map (WindowAnswer.toResponse members) =
      respondFrom clock request (fields.map Reading.values).toList members content := by
  rw [overWindow, usableSets_of_usable usable, respondFrom, Window.answerBetween]
  simp only [bind, Except.bind]
  cases Window.between clock request.start? request.stop? with
  | error fault => rfl
  | ok w =>
    dsimp only
    cases content w (fields.map Reading.values).toList <;> rfl

theorem respondFrom_ne_badExpression {clock : WallTime} {sets : List (List Int)}
    {detail : String} :
    respondFrom clock request sets members content ≠ .ok (.badExpression detail) := by
  rw [respondFrom]
  cases Window.answerBetween clock request.start? request.stop? (content · sets) with
  | error fault => simp [Except.map]
  | ok found => simp [Except.map, WindowAnswer.toResponse]

/-- A window with a given start does not depend on the clock. -/
theorem overWindow_clock (given : request.start?.isSome) (clock clock' : WallTime) :
    overWindow clock request content = overWindow clock' request content := by
  obtain ⟨start, given⟩ := Option.isSome_iff_exists.mp given
  -- an end that is not given reaches from the start, not from the clock
  have same : Window.between clock request.start? request.stop? =
      Window.between clock' request.start? request.stop? := by
    rw [given]
    rfl
  rw [overWindow, overWindow, usableSets_clock clock clock', same]

end Windows

/-! ## Answers -/

/-- The answer is a report that says that the expression is not usable, and why. -/
def Rejects (answered : Except Fault Response) (detail : String) : Prop :=
  ∃ body, answered = .ok (.ok body) ∧ body.member? "is_valid" = some (.bool false) ∧
    body.member? "error" = some (.str detail)

section Answers

variable {readers : ValueReaders} {body : Json} {clock : WallTime} {detail : String}
  {problem : Problem} {fields : Fields Reading}

theorem answer_report {request : ReportRequest}
    (accepted : ReportRequest.ofJson readers body = .ok request) (clock : WallTime) :
    answer readers clock .report body =
      (reportAnswer clock request).map fun report => .ok (report.toJson Iso.zuluText) := by
  simp only [answer, accepted, respond]
  cases reportAnswer clock request <;> rfl

theorem answer_runs {request : WindowRequest}
    (accepted : WindowRequest.ofJson readers true body = .ok request) (clock : WallTime) :
    answer readers clock .runs body =
      (overWindow clock request fun window sets => window.runs sets request.limit).map
        (WindowAnswer.toResponse runsMembers) := by
  simp only [answer, accepted, respond, runsAnswer]
  cases overWindow clock request fun window sets => window.runs sets request.limit <;> rfl

theorem answer_heatmap {request : WindowRequest}
    (accepted : WindowRequest.ofJson readers false body = .ok request) (clock : WallTime) :
    answer readers clock .heatmap body =
      (overWindow clock request Window.heat).map (WindowAnswer.toResponse heatmapMembers) := by
  simp only [answer, accepted, respond, heatmapAnswer]
  cases overWindow clock request Window.heat <;> rfl

/-- The report on an expression that is not usable says why. -/
theorem rejects_iff_of_unusable {request : ReportRequest}
    (accepted : ReportRequest.ofJson readers body = .ok request)
    (unusable : Unusable request.expression problem) :
    Rejects (answer readers clock .report body) detail ↔ problem.message = detail := by
  obtain ⟨report, answered, invalid, refused⟩ := Report.atTime_of_unusable unusable
    request.count (request.now?.getD ⟨clock, none⟩)
  have asked : reportAnswer clock request = .ok report := answered
  have valid : (report.toJson Iso.zuluText).member? "is_valid" = some (.bool false) :=
    congrArg (fun valid => some (Json.bool valid)) invalid
  have error : (report.toJson Iso.zuluText).member? "error" = some (.str problem.message) := by
    show some (Json.str? (report.problem?.map (·.message))) = _
    rw [refused]
    rfl
  rw [answer_report accepted, asked]
  constructor
  · rintro ⟨_, made, _, said⟩
    cases made
    rw [error] at said
    cases said
    rfl
  · rintro rfl
    exact ⟨_, rfl, valid, error⟩

/-- No report on a usable expression says that it is not. -/
theorem not_rejects_of_usable {request : ReportRequest}
    (accepted : ReportRequest.ofJson readers body = .ok request)
    (usable : Usable request.expression fields) :
    ¬ Rejects (answer readers clock .report body) detail := by
  rw [answer_report accepted]
  rintro ⟨_, answered, invalid, _⟩
  cases asked : reportAnswer clock request with
  | error fault =>
    rw [asked] at answered
    cases answered
  | ok report =>
    rw [asked] at answered
    cases answered
    have valid : (report.toJson Iso.zuluText).member? "is_valid" = some (.bool true) :=
      congrArg (fun valid => some (Json.bool valid)) (Report.problem?_of_usable usable asked).1
    rw [valid] at invalid
    cases invalid

end Answers

/-- The three routes that take an expression agree on whether it is usable and on the reason why it
is not, whatever else is asked, however that is read and whatever the clock shows. The answers about
a window are made from the values of the five fields. No answer depends on the clock where the
request gives the start of its window, or the time of its report. -/
theorem routes_agree (readers : ValueReaders) {expression : String}
    (readable : ∀ fault, Expression.read expression ≠ .error (.fault fault))
    {reportBody runsBody heatmapBody : Json} {asked : ReportRequest} {listed mapped : WindowRequest}
    (accepted : ReportRequest.ofJson readers reportBody = .ok asked ∧
      WindowRequest.ofJson readers true runsBody = .ok listed ∧
      WindowRequest.ofJson readers false heatmapBody = .ok mapped)
    (same : asked.expression = expression ∧ listed.expression = expression ∧
      mapped.expression = expression) :
    (∀ clock clock' detail,
      (answer readers clock .runs runsBody = .ok (.badExpression detail) ↔
        Rejects (answer readers clock' .report reportBody) detail) ∧
      (answer readers clock .heatmap heatmapBody = .ok (.badExpression detail) ↔
        Rejects (answer readers clock' .report reportBody) detail)) ∧
      (∀ clock', (∀ detail, ¬ Rejects (answer readers clock' .report reportBody) detail) →
        ∃ fields, Expression.read expression = .ok fields ∧
          (∀ r ∈ fields.toList, r.isValid = true) ∧ ∀ clock,
            let sets := (fields.map Reading.values).toList
            answer readers clock .runs runsBody = respondFrom clock listed sets runsMembers
              (fun w sets => w.runs sets listed.limit) ∧
            answer readers clock .heatmap heatmapBody =
              respondFrom clock mapped sets heatmapMembers Window.heat) ∧
      ∀ clock clock',
        (listed.start?.isSome →
          answer readers clock .runs runsBody = answer readers clock' .runs runsBody) ∧
        (mapped.start?.isSome →
          answer readers clock .heatmap heatmapBody = answer readers clock' .heatmap heatmapBody) ∧
        (asked.now?.isSome →
          answer readers clock .report reportBody = answer readers clock' .report reportBody) := by
  obtain ⟨reportAccepted, runsAccepted, heatmapAccepted⟩ := accepted
  obtain ⟨sameReport, sameRuns, sameHeatmap⟩ := same
  have known := usable_or_unusable readable
  refine ⟨fun clock clock' detail => ?_, fun clock' unrejected => ?_,
    fun clock clock' => ⟨?_, ?_, ?_⟩⟩
  · rw [answer_runs runsAccepted, answer_heatmap heatmapAccepted]
    rcases known with ⟨fields, usable⟩ | ⟨problem, unusable⟩
    · rw [overWindow_of_usable (sameRuns ▸ usable), overWindow_of_usable (sameHeatmap ▸ usable)]
      have unrejected : ¬ Rejects (answer readers clock' .report reportBody) detail :=
        not_rejects_of_usable reportAccepted (sameReport ▸ usable)
      exact ⟨iff_of_false respondFrom_ne_badExpression unrejected,
        iff_of_false respondFrom_ne_badExpression unrejected⟩
    · rw [overWindow_of_unusable (sameRuns ▸ unusable),
        overWindow_of_unusable (sameHeatmap ▸ unusable),
        rejects_iff_of_unusable reportAccepted (sameReport ▸ unusable)]
      exact ⟨Iff.rfl, Iff.rfl⟩
  · rcases known with ⟨fields, usable⟩ | ⟨problem, unusable⟩
    · refine ⟨fields, usable.read, usable.valid, fun clock => ?_⟩
      rw [answer_runs runsAccepted, answer_heatmap heatmapAccepted]
      exact ⟨overWindow_of_usable (sameRuns ▸ usable) clock,
        overWindow_of_usable (sameHeatmap ▸ usable) clock⟩
    · have rejected : Rejects (answer readers clock' .report reportBody) problem.message :=
        (rejects_iff_of_unusable reportAccepted (sameReport ▸ unusable)).mpr rfl
      exact absurd rejected (unrejected _)
  · intro given
    rw [answer_runs runsAccepted, answer_runs runsAccepted, overWindow_clock given clock clock']
  · intro given
    rw [answer_heatmap heatmapAccepted, answer_heatmap heatmapAccepted,
      overWindow_clock given clock clock']
  · intro given
    obtain ⟨now, given⟩ := Option.isSome_iff_exists.mp given
    rw [answer_report reportAccepted, answer_report reportAccepted, reportAnswer, reportAnswer,
      given]
    rfl

/-- A stride of zero, with a report and windows at the end of the calendar. -/
theorem routes_agree_calendarEnd :
    let end? : Option Timestamp :=
      some ⟨⟨⟨minuteCount - 1, by decide⟩, 30000000, by decide⟩, none⟩
    let reportBody : Json :=
      .obj [("expression", .str "0/0 * * * *"), ("now", .str "9999-12-31T23:59:30")]
    let windowBody : Json :=
      .obj [("expression", .str "0/0 * * * *"), ("from_dt", .str "9999-12-31T23:59:30")]
    ReportRequest.ofJson .program reportBody = .ok ⟨"0/0 * * * *", 5, end?⟩ ∧
      WindowRequest.ofJson .program true windowBody = .ok ⟨end?, none, 500, "0/0 * * * *"⟩ ∧
      WindowRequest.ofJson .program false windowBody = .ok ⟨end?, none, 500, "0/0 * * * *"⟩ ∧
      ∀ clock clock',
        answer .program clock .runs windowBody = .ok (.badExpression "Invalid step value: 0") ∧
        answer .program clock .heatmap windowBody = .ok (.badExpression "Invalid step value: 0") ∧
        answer .program clock .report reportBody = answer .program clock' .report reportBody := by
  intro end? reportBody windowBody
  let fields : Fields Reading :=
    { minute := ⟨.minute, "0/0", .error (.badStep "0"), "invalid"⟩
      hour := ⟨.hour, "*", .ok (progression 0 23 1), "every hour"⟩
      monthDay := ⟨.monthDay, "*", .ok (progression 1 31 1), "every day of month"⟩
      month := ⟨.month, "*", .ok (progression 1 12 1), "every month"⟩
      weekday := ⟨.weekday, "*", .ok (progression 0 6 1), "every day of week"⟩ }
  have read : Expression.read "0/0 * * * *" = .ok fields := by decide +kernel
  have reportAccepted :
      ReportRequest.ofJson .program reportBody = .ok ⟨"0/0 * * * *", 5, end?⟩ := by rfl
  have runsAccepted :
      WindowRequest.ofJson .program true windowBody = .ok ⟨end?, none, 500, "0/0 * * * *"⟩ := by
    rfl
  have heatmapAccepted :
      WindowRequest.ofJson .program false windowBody = .ok ⟨end?, none, 500, "0/0 * * * *"⟩ := by
    rfl
  have readable : ∀ fault, Expression.read "0/0 * * * *" ≠ .error (.fault fault) := by simp [read]
  obtain ⟨agree, _, timeless⟩ := routes_agree .program readable
    ⟨reportAccepted, runsAccepted, heatmapAccepted⟩ ⟨rfl, rfl, rfl⟩
  have rejected clock :
      Rejects (answer .program clock .report reportBody) "Invalid step value: 0" :=
    (rejects_iff_of_unusable reportAccepted (.refused read rfl)).mpr rfl
  refine ⟨reportAccepted, runsAccepted, heatmapAccepted, fun clock clock' => ⟨?_, ?_, ?_⟩⟩
  · exact (agree clock clock' _).1.mpr (rejected clock')
  · exact (agree clock clock' _).2.mpr (rejected clock')
  · exact (timeless clock clock').2.2 rfl

end Service

end Crontab
