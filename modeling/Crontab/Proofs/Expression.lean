import Crontab.Expression
import Crontab.Proofs.Field.Reading

/-!
# Reading an expression

An expression is misshapen exactly where it has not five words. With five, every field is read on
its own, and the only fault is an overlong numeral that the reading of some field comes upon.
-/

namespace Crontab

open Text

theorem Fields.toList_inj {α : Type} {f g : Fields α} : f.toList = g.toList ↔ f = g := by
  constructor
  · intro same
    have same := congrArg Fields.ofList? same
    rw [Fields.ofList?_toList, Fields.ofList?_toList] at same
    exact Option.some.inj same
  · intro same
    rw [same]

namespace Expression

variable {text : String} {texts : Fields String} {fields : Fields Reading} {fault : Fault}

/-! ## Splitting -/

/-- The five fields that words make, or why they make none. -/
def ofWords (ws : List (List Char)) : Except Misshapen (Fields String) :=
  match ws with
  | [] => .error .blank
  | ws =>
    match Fields.ofList? (ws.map String.ofList) with
    | some fields => .ok fields
    | none => .error (.fieldCount ws.length)

/-- What is between the blanks of a trimmed text is its words. -/
theorem split_eq_ofWords (text : String) : split text = ofWords (words text.toList) := by
  unfold split ofWords
  split
  · next empty => rw [trim_eq_nil.mp empty]
  · next filled =>
    have filled : trim text.toList ≠ [] := filled
    rw [splitAtBlanks_of_flush (flush_trim filled), words_trim]
    split
    · next none => exact absurd (trim_eq_nil.mpr none) filled
    · cases five : Fields.ofList? ((words text.toList).map String.ofList) with
      | some fields => simp only [five]
      | none => simp only [five, List.length_map]

theorem split_eq_ok : split text = .ok texts ↔
    (words text.toList).map String.ofList = texts.toList := by
  rw [split_eq_ofWords]
  unfold ofWords
  split
  · next empty => simp [empty, Fields.toList]
  · split
    · next found five =>
      rw [Fields.ofList?_eq_some five]
      rw [Fields.toList_inj, Except.ok.injEq]
    · next other =>
      constructor
      · intro equal
        cases equal
      · intro equal
        rw [equal, Fields.ofList?_toList] at other
        cases other

/-- A text is misshapen where it has not five words. -/
theorem split_eq_error : (∃ why, split text = .error why) ↔ (words text.toList).length ≠ 5 := by
  constructor
  · intro ⟨why, failed⟩ five
    match form : words text.toList, five with
    | [a, b, c, d, e], _ =>
      have read : split text = .ok ⟨.ofList a, .ofList b, .ofList c, .ofList d, .ofList e⟩ := by
        rw [split_eq_ok, form]
        rfl
      rw [read] at failed
      cases failed
  · intro other
    cases result : split text with
    | error why => exact ⟨why, rfl⟩
    | ok texts =>
      have five := congrArg List.length (split_eq_ok.mp result)
      rw [List.length_map] at five
      exact absurd five other

/-! ## The five fields -/

/-- The domains of the fields, each with the text to be read on it. -/
def tasks (texts : Fields String) : List (Domain × String) :=
  Domain.ofFields.toList.zip texts.toList

theorem mem_domain_of_task {task : Domain × String} (member : task ∈ tasks texts) :
    task.1 ∈ Domain.ofFields.toList :=
  (List.of_mem_zip member).1

/-- The five fields are read one after the other. -/
theorem toList_readFields (texts : Fields String) :
    (readFields texts).map Fields.toList =
      (tasks texts).mapM fun task => Reading.ofText task.1 task.2 := by
  simp only [readFields, tasks, Domain.ofFields, Fields.toList, List.zip_cons_cons,
    List.zip_nil_left, List.mapM_cons, List.mapM_nil]
  cases Reading.ofText .minute texts.minute with
  | error fault => rfl
  | ok minute =>
    cases Reading.ofText .hour texts.hour with
    | error fault => rfl
    | ok hour =>
      cases Reading.ofText .monthDay texts.monthDay with
      | error fault => rfl
      | ok monthDay =>
        cases Reading.ofText .month texts.month with
        | error fault => rfl
        | ok month => cases Reading.ofText .weekday texts.weekday <;> rfl

/-- Reading the fields fails by the reading of one of them. -/
theorem task_of_fault (failed : readFields texts = .error fault) :
    ∃ task ∈ tasks texts, Reading.ofText task.1 task.2 = .error fault := by
  have failed : (tasks texts).mapM (fun task => Reading.ofText task.1 task.2) = .error fault := by
    rw [← toList_readFields, failed]
    rfl
  obtain ⟨before, task, after, split, _, failed⟩ := mapM_eq_error.mp failed
  exact ⟨task, by simp [split], failed⟩

theorem mapM_of_readFields (answered : readFields texts = .ok fields) :
    (tasks texts).mapM (fun task => Reading.ofText task.1 task.2) = .ok fields.toList := by
  rw [← toList_readFields, answered]
  rfl

/-- Readings of tasks are of the domains and the texts that were given. -/
theorem own_of_reads {tasks : List (Domain × String)} {rs : List Reading}
    (each : List.Forall₂ (fun task r => Reading.ofText task.1 task.2 = .ok r) tasks rs)
    (members : ∀ task ∈ tasks, task.1 ∈ Domain.ofFields.toList) :
    rs.map (fun r => (r.domain, r.text)) = tasks ∧
      ∀ r ∈ rs, r.domain ∈ Domain.ofFields.toList ∧ Reading.ofText r.domain r.text = .ok r := by
  induction each with
  | nil => simp
  | cons read _ ih =>
    obtain ⟨member, members⟩ := List.forall_mem_cons.mp members
    obtain ⟨same, reads⟩ := ih members
    obtain ⟨domain, text, _⟩ := Reading.ofText_eq_ok member read
    refine ⟨?_, List.forall_mem_cons.mpr ⟨?_, reads⟩⟩
    · rw [List.map_cons, same, domain, text]
    · rw [domain, text]
      exact ⟨member, read⟩

theorem readFields_each (answered : readFields texts = .ok fields) :
    fields.map Reading.domain = Domain.ofFields ∧ fields.map Reading.text = texts ∧
      ∀ r ∈ fields.toList, r.domain ∈ Domain.ofFields.toList ∧
        Reading.ofText r.domain r.text = .ok r := by
  have each := mapM_eq_ok.mp (mapM_of_readFields answered)
  obtain ⟨same, reads⟩ := own_of_reads each fun task member => mem_domain_of_task member
  have domains := congrArg (List.map Prod.fst) same
  have texts := congrArg (List.map Prod.snd) same
  exact ⟨Fields.toList_inj.mp domains, Fields.toList_inj.mp texts, reads⟩

/-! ## Whole expressions -/

theorem read_eq_refused : (∃ why, read text = .error (.refused why)) ↔
    ∃ why, split text = .error why := by
  unfold read
  cases split text with
  | error why => simp
  | ok texts => simp [orFault_ne_refused]

theorem read_eq_fault : read text = .error (.fault fault) ↔
    ∃ texts, split text = .ok texts ∧ readFields texts = .error fault := by
  unfold read
  cases split text with
  | error why => simp
  | ok texts => simp [orFault_eq_fault]

theorem read_eq_ok : read text = .ok fields ↔
    ∃ texts, split text = .ok texts ∧ readFields texts = .ok fields := by
  unfold read
  cases split text with
  | error why => simp
  | ok texts => simp [orFault_eq_ok]

/-- Reading five fields fails where the reading of one of them comes upon an overlong numeral. -/
theorem exists_readFields_eq_error : (∃ fault, readFields texts = .error fault) ↔
    ∃ task ∈ tasks texts, task.1.MeetsOverlong task.2 := by
  constructor
  · intro ⟨fault, failed⟩
    obtain ⟨task, member, failed⟩ := task_of_fault failed
    exact ⟨task, member, (Reading.overlong_of_ofText (mem_domain_of_task member) failed).1⟩
  · intro ⟨task, member, meets⟩
    cases result : readFields texts with
    | error fault => exact ⟨fault, rfl⟩
    | ok fields =>
      have answered := exists_mapM_eq_ok.mp ⟨_, mapM_of_readFields result⟩ task member
      exact absurd meets ((Reading.exists_ofText_iff (mem_domain_of_task member)).mp answered)

/-- An expression is misshapen where it has not five words. Otherwise its five fields are read, each
on its own domain and valid where it follows the grammar, unless the reading of some field comes
upon an overlong numeral; nothing else goes wrong. -/
theorem read_correct (text : String) :
    ((∃ why, read text = .error (.refused why)) ↔ (words text.toList).length ≠ 5) ∧
      ((∃ fault, read text = .error (.fault fault)) ↔
        ∃ texts, split text = .ok texts ∧ ∃ task ∈ tasks texts, task.1.MeetsOverlong task.2) ∧
      (∀ fault, read text = .error (.fault fault) →
        ∃ n, digitLimit < n ∧ fault = .tooManyDigits n) ∧
      ∀ fields, read text = .ok fields →
        fields.map Reading.domain = Domain.ofFields ∧
          split text = .ok (fields.map Reading.text) ∧
          ∀ r ∈ fields.toList, r.isValid = true ↔ r.domain.Accepts r.text := by
  refine ⟨read_eq_refused.trans split_eq_error, ?_, ?_, ?_⟩
  · simp only [read_eq_fault, ← exists_readFields_eq_error]
    constructor
    · intro ⟨fault, texts, split, failed⟩
      exact ⟨texts, split, fault, failed⟩
    · intro ⟨texts, split, fault, failed⟩
      exact ⟨fault, texts, split, failed⟩
  · intro fault failed
    obtain ⟨texts, _, failed⟩ := read_eq_fault.mp failed
    obtain ⟨task, member, failed⟩ := task_of_fault failed
    exact (Reading.overlong_of_ofText (mem_domain_of_task member) failed).2
  · intro fields answered
    obtain ⟨texts, split, answered⟩ := read_eq_ok.mp answered
    obtain ⟨domains, rfl, each⟩ := readFields_each answered
    refine ⟨domains, split, fun r member => ?_⟩
    exact (Reading.ofText_eq_ok (each r member).1 (each r member).2).2.2.1

/-- A numeral for the minute, and stars for the other fields. -/
theorem split_numeral {cs : List Char} (numeral : Numeral cs) :
    split (String.ofList (cs ++ " * * * *".toList)) =
      .ok ⟨String.ofList cs, "*", "*", "*", "*"⟩ := by
  have others : words " * * * *".toList = [['*'], ['*'], ['*'], ['*']] := by decide +kernel
  rw [split_eq_ok, String.toList_ofList]
  show (words (cs ++ ' ' :: _)).map _ = _
  rw [words_append numeral.nonempty (fun c member => numeral.visible member) (by decide)]
  show (cs :: words " * * * *".toList).map _ = _
  rw [others]
  rfl

theorem accepts_numeral {cs : List Char} (numeral : Numeral cs)
    (inside : (value cs : Int) ∈ Domain.minute) :
    Domain.minute.Accepts (String.ofList cs) := by
  intro piece member
  rw [String.toList_ofList, List.splitOn_eq_singleton (numeral.not_mem (by decide))] at member
  rw [List.mem_singleton.mp member, numeral.trim_eq]
  have stands : Domain.minute.Stands cs (value (trim cs)) := by
    apply Domain.Stands.numeral
    rw [numeral.trim_eq]
    exact numeral
  rw [numeral.trim_eq] at stands
  exact ⟨_, .single stands inside⟩

/-- Many zeros are a minute by the grammar, but they cannot be read. -/
theorem read_zeros {n : Nat} (many : digitLimit < n) :
    Domain.minute.Accepts (String.ofList (List.replicate n '0')) ∧
      ∃ fault, read (String.ofList (List.replicate n '0' ++ " * * * *".toList)) =
        .error (.fault fault) := by
  have long := overlong_zeros many
  constructor
  · apply accepts_numeral long.toNumeral
    rw [value_zeros]
    decide
  · have meets : Domain.minute.MeetsOverlong (String.ofList (List.replicate n '0')) := by
      apply Domain.meetsOverlong_of_part <;> rw [String.toList_ofList]
      · exact long.not_mem (by decide)
      · exact fun c member => long.visible member
      · apply OverlongPart.span (long.not_mem (by decide))
        apply OverlongSpan.single
        rw [long.trim_eq]
        exact long
    let texts : Fields String := ⟨String.ofList (List.replicate n '0'), "*", "*", "*", "*"⟩
    obtain ⟨fault, failed⟩ := exists_readFields_eq_error.mpr
      ⟨(.minute, texts.minute), List.mem_cons_self, meets⟩
    exact ⟨fault, read_eq_fault.mpr ⟨texts, split_numeral long.toNumeral, failed⟩⟩

theorem read_zeros_past_limit :
    Domain.minute.Accepts (String.ofList (List.replicate 4301 '0')) ∧
      ∃ fault, read (String.ofList (List.replicate 4301 '0' ++ " * * * *".toList)) =
        .error (.fault fault) :=
  read_zeros (by decide)

end Expression

end Crontab
