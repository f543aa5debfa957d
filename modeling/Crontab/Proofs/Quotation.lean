import Crontab.Proofs.Field.Blame
import Crontab.Proofs.Prose.Alphabet
import Crontab.Proofs.Service.Routes
import Crontab.Proofs.Words

/-!
# What messages quote

A message about an expression is made of the program's own words, and of characters of the words of
the expression: `Unusable.quotes`. So nothing that is blank gets into a message but the spaces
between the program's own words.
-/

namespace Crontab

open Text

/-! ## Quoting a text -/

/-- The characters of the program's own words in a message. -/
def inNotice (c : Char) : Bool := inProse c || c == '(' || c == ')' || c == '>' || c == '.'

/-- The message has nothing but words of the program and characters of the text. -/
def Quotes (cs : List Char) (message : String) : Prop :=
  ∀ c ∈ message.toList, inNotice c = true ∨ c ∈ cs

section Quoting

variable {cs cs' : List Char} {message message' : String}

theorem quotes_append :
    Quotes cs (message ++ message') ↔ Quotes cs message ∧ Quotes cs message' := by
  simp only [Quotes, String.toList_append, List.forall_mem_append]

theorem quotes_of_all (all : message.toList.all inNotice = true) : Quotes cs message :=
  fun c member => .inl (List.all_eq_true.mp all c member)

theorem quotes_of_worded (worded : Worded message) : Quotes cs message := by
  intro c member
  refine .inl ?_
  simp [inNotice, worded.inProse c member]

theorem quotes_ofList (subset : cs' ⊆ cs) : Quotes cs (String.ofList cs') := by
  intro c member
  rw [String.toList_ofList] at member
  exact .inr (subset member)

theorem Quotes.mono (quotes : Quotes cs message) (subset : cs ⊆ cs') : Quotes cs' message :=
  fun c member => (quotes c member).imp id fun quoted => subset quoted

theorem Quotes.not_mem {c : Char} (quotes : Quotes cs message) (other : inNotice c = false)
    (absent : c ∉ cs) : c ∉ message.toList := by
  intro member
  rcases quotes c member with own | quoted
  · rw [other] at own
    cases own
  · exact absent quoted

theorem quotes_intText (v : Int) : Quotes cs (intText v) := quotes_of_worded (worded_intText v)

theorem Domain.quotes_outsideText (d : Domain) (v : Int) : Quotes cs (d.outsideText v) := by
  simp only [outsideText, quotes_append]
  exact ⟨⟨⟨⟨⟨⟨quotes_of_all (by decide), quotes_intText v⟩, quotes_of_all (by decide)⟩,
    quotes_intText d.lo⟩, quotes_of_all (by decide)⟩, quotes_intText d.hi⟩,
    quotes_of_all (by decide)⟩

theorem Domain.Misspans.quotes {d : Domain} {noValue : String} {kind : RefusalKind}
    (misspans : d.Misspans noValue cs kind message) (own : noValue.toList.all inNotice = true) :
    Quotes cs message := by
  cases misspans with
  | ends =>
    exact quotes_append.mpr ⟨quotes_of_all (by decide), quotes_ofList (List.Subset.refl _)⟩
  | @reversed _ _ a b =>
    simp only [quotes_append]
    exact ⟨⟨⟨⟨quotes_of_all (by decide), quotes_intText a⟩, quotes_of_all (by decide)⟩,
      quotes_intText b⟩, quotes_of_all (by decide)⟩
  | first | last | outside => exact d.quotes_outsideText _
  | unknown => exact quotes_append.mpr ⟨quotes_of_all own, quotes_ofList (List.Subset.refl _)⟩

/-- What is said of a part quotes it, if anything. -/
theorem Domain.Blames.quotes {d : Domain} {kind : RefusalKind}
    (blames : d.Blames cs kind message) : Quotes cs message := by
  cases blames with
  | stride =>
    refine quotes_append.mpr ⟨quotes_of_all (by decide), quotes_ofList ?_⟩
    exact List.Subset.trans (List.subset_cons_self _ _) (List.subset_append_right _ _)
  | span _ _ _ misspans => exact (misspans.quotes (by decide)).mono (List.subset_append_left _ _)
  | plain _ misspans => exact misspans.quotes (by decide)

/-- What is said of a refused field quotes the field, if anything. -/
theorem Reading.quotes_of_refused {d : Domain} {text : String} {r : Reading} {why : Refusal}
    (member : d ∈ Domain.ofFields.toList) (read : ofText d text = .ok r)
    (refused : r.refusal? = some why) : Quotes text.toList why.message := by
  have invalid : ¬ r.isValid = true := by
    rw [← refusal?_eq_none, refused]
    simp
  obtain ⟨_, stopped, rfl⟩ := exists_refused member read invalid
  cases refused
  obtain ⟨before, piece, after, split, _, refused⟩ :=
    mapM_eq_error.mp (expandAll_eq_error.mp stopped)
  obtain ⟨blames, _⟩ :=
    (Part.refuses_expand (Domain.wellformed_of_mem member)).mp ⟨why, refused, rfl, rfl⟩
  have listed : piece ∈ text.toList.splitOn ',' :=
    split ▸ List.mem_append_right _ List.mem_cons_self
  exact blames.quotes.mono (List.Subset.trans (trim_subset piece) (subset_of_mem_splitOn listed))

theorem Misshapen.quotes (why : Misshapen) : Quotes cs why.message := by
  cases why with
  | blank => exact quotes_of_all (by decide)
  | fieldCount count =>
    show Quotes cs ("Expected 5 fields, got " ++ natText count ++ _)
    have number : Quotes cs (natText count) := quotes_of_worded (worded_natText count)
    exact quotes_append.mpr
      ⟨quotes_append.mpr ⟨quotes_of_all (by decide), number⟩, quotes_of_all (by decide)⟩

end Quoting

/-! ## What is quoted of an expression -/

section Expressions

variable {expression : String} {problem : Problem} {fields : Fields Reading} {r : Reading}

/-- The text of a field is a word of the expression. -/
theorem Expression.text_mem_words (read : Expression.read expression = .ok fields)
    (member : r ∈ fields.toList) : r.text.toList ∈ words expression.toList := by
  obtain ⟨texts, split, answered⟩ := read_eq_ok.mp read
  obtain ⟨_, rfl, _⟩ := readFields_each answered
  rw [split_eq_ok_iff_words.mp split, Fields.toList_map, List.map_map]
  exact List.mem_map_of_mem member

theorem Expression.quotes_of_refused {why : Refusal}
    (read : Expression.read expression = .ok fields) (member : r ∈ fields.toList)
    (refused : r.refusal? = some why) :
    Quotes (words expression.toList).flatten why.message := by
  obtain ⟨domain, reads⟩ := (Expression.each_of_read read).2 r member
  refine (Reading.quotes_of_refused domain reads refused).mono fun c inside => ?_
  exact List.mem_flatten.mpr ⟨_, text_mem_words read member, inside⟩

/-- What is said of an expression that is not usable quotes words of it, if anything. -/
theorem Unusable.quotes (unusable : Unusable expression problem) :
    Quotes (words expression.toList).flatten problem.message := by
  cases unusable with
  | misshapen => exact Misshapen.quotes _
  | refused read leftmost =>
    obtain ⟨r, member, refused⟩ := List.exists_of_findSome?_eq_some leftmost
    exact Expression.quotes_of_refused read member refused

end Expressions

end Crontab
