import Crontab.Proofs.Field.Reading

/-!
# What is said of a refused field

A refused field is blamed for the leftmost part that does not follow the grammar: `Domain.Blames`
relates such a part to the kind of the refusal and its words, and `refusal_of_leftmost` says that
nothing after the part makes a difference.
-/

namespace Crontab

open Text

/-! ## Words -/

/-- What is said of a value outside the domain. -/
def Domain.outsideText (d : Domain) (v : Int) : String :=
  s!"Value {intText v} out of range ({intText d.lo}-{intText d.hi})"

@[simp]
theorem Refusal.message_badRange (text : String) :
    (Refusal.badRange text).message = "Invalid range: " ++ text := rfl

@[simp]
theorem Refusal.message_reversed (a b : Int) : (Refusal.reversed a b).message =
    s!"Invalid range: start ({intText a}) > end ({intText b})" := rfl

@[simp]
theorem Refusal.message_outOfRange (d : Domain) (v : Int) :
    (Refusal.outOfRange v d.lo d.hi).message = d.outsideText v := rfl

namespace Domain

/-- What is wrong with the two ends around the first dash of a text, or with a text without a dash.
The latter is introduced by `noValue` where it stands for no value. -/
inductive Misspans (d : Domain) (noValue : String) : List Char → RefusalKind → String → Prop
  | ends {start stop : List Char} : '-' ∉ start →
      (∀ a, ¬ d.Stands start a) ∨ (∀ b, ¬ d.Stands stop b) →
      Misspans d noValue (start ++ '-' :: stop) .token
        ("Invalid range: " ++ String.ofList (start ++ '-' :: stop))
  | reversed {start stop : List Char} {a b : Int} : '-' ∉ start → d.Stands start a →
      d.Stands stop b → b < a →
      Misspans d noValue (start ++ '-' :: stop) .order
        s!"Invalid range: start ({intText a}) > end ({intText b})"
  | first {start stop : List Char} {a b : Int} : '-' ∉ start → d.Stands start a →
      d.Stands stop b → a ≤ b → a ∉ d →
      Misspans d noValue (start ++ '-' :: stop) .range (d.outsideText a)
  | last {start stop : List Char} {a b : Int} : '-' ∉ start → d.Stands start a →
      d.Stands stop b → a ≤ b → a ∈ d → b ∉ d →
      Misspans d noValue (start ++ '-' :: stop) .range (d.outsideText b)
  | unknown {text : List Char} : '-' ∉ text → text ≠ ['*'] → (∀ a, ¬ d.Stands text a) →
      Misspans d noValue text .token (noValue ++ String.ofList text)
  | outside {text : List Char} {a : Int} : '-' ∉ text → d.Stands text a → a ∉ d →
      Misspans d noValue text .range (d.outsideText a)

/-- What is wrong with a part. A step that is cut at its first slash is blamed for its stride before
its span. -/
inductive Blames (d : Domain) : List Char → RefusalKind → String → Prop
  | stride {span stride : List Char} : '/' ∉ span → ¬ (Numeral stride ∧ 0 < value stride) →
      Blames d (span ++ '/' :: stride) .step ("Invalid step value: " ++ String.ofList stride)
  | span {span stride : List Char} {kind : RefusalKind} {message : String} : '/' ∉ span →
      Numeral stride → 0 < value stride → d.Misspans "Invalid range: " span kind message →
      Blames d (span ++ '/' :: stride) kind message
  | plain {text : List Char} {kind : RefusalKind} {message : String} : '/' ∉ text →
      d.Misspans "Invalid value: " text kind message → Blames d text kind message

end Domain

/-! ## Refusing -/

/-- The evaluation ends with a refusal of the kind, in these words. -/
def Refuses {α : Type} (x : Evaluation α) (kind : RefusalKind) (message : String) : Prop :=
  ∃ why, x = .error (.refused why) ∧ why.kind = kind ∧ why.message = message

section Refusing

variable {α β : Type} {x : Evaluation α} {y : Except Fault α} {f : α → Evaluation β}
  {kind : RefusalKind} {message : String} {d : Domain}

theorem refuses_refused {why : Refusal} :
    Refuses (.error (.refused why) : Evaluation α) kind message ↔
      why.kind = kind ∧ why.message = message := by
  simp [Refuses]

theorem refuses_refuse {why : Refusal} (writable : ∀ v ∈ why.numbers, isWritable v = true) :
    Refuses (refuse why : Evaluation α) kind message ↔ why.kind = kind ∧ why.message = message := by
  rw [refuse_eq_refused.mpr ⟨writable, rfl⟩]
  exact refuses_refused

theorem not_refuses_ok (a : α) : ¬ Refuses (.ok a) kind message := by
  simp [Refuses]

theorem refuses_bind : Refuses (x >>= f) kind message ↔
    Refuses x kind message ∨ ∃ a, x = .ok a ∧ Refuses (f a) kind message := by
  simp only [Refuses, bind_eq_error]
  grind

/-- Nothing is refused before the first step, which only reads, has answered. -/
theorem refuses_andThen : Refuses (orFault y >>= f) kind message ↔
    ∃ a, y = .ok a ∧ Refuses (f a) kind message := by
  rw [refuses_bind]
  simp [Refuses, orFault_ne_refused, orFault_eq_ok]

/-- Handing an answer on refuses nothing. -/
theorem refuses_map {f : α → β} : Refuses (f <$> x) kind message ↔ Refuses x kind message := by
  cases x <;> simp [Refuses, Functor.map, Except.map]

/-- A refusal that says no integer is made wherever it should be. -/
theorem refuses_quoting {why : Refusal} (numberless : why.numbers = []) :
    Refuses (refuse why : Evaluation α) kind message ↔ why.kind = kind ∧ why.message = message :=
  refuses_refuse (numberless ▸ List.forall_mem_nil _)

theorem refuses_badRange {text : String} :
    Refuses (refuse (.badRange text) : Evaluation α) kind message ↔
      .token = kind ∧ "Invalid range: " ++ text = message :=
  refuses_quoting rfl

theorem refuses_bounded (wellformed : d.Wellformed) {v : Int} (short : Short v) :
    Refuses (d.bounded v) kind message ↔ v ∉ d ∧ .range = kind ∧ d.outsideText v = message := by
  rw [Domain.bounded]
  split
  · next inside => simp [inside, not_refuses_ok]
  · next outside =>
    rw [refuses_refuse (Domain.writable_outOfRange wellformed short)]
    simp [Refusal.kind, outside]

end Refusing

/-! ## Spans -/

namespace Domain

variable {d : Domain} {noValue : String} {start stop text : List Char} {kind : RefusalKind}
  {message : String}

theorem misspans_dash (absent : '-' ∉ start) :
    d.Misspans noValue (start ++ '-' :: stop) kind message ↔
      ((∀ a, ¬ d.Stands start a) ∨ (∀ b, ¬ d.Stands stop b)) ∧ .token = kind ∧
          "Invalid range: " ++ String.ofList (start ++ '-' :: stop) = message ∨
        ∃ a, d.Stands start a ∧ ∃ b, d.Stands stop b ∧
          (b < a ∧ .order = kind ∧
              s!"Invalid range: start ({intText a}) > end ({intText b})" = message ∨
            a ≤ b ∧ (a ∉ d ∧ .range = kind ∧ d.outsideText a = message ∨
              a ∈ d ∧ b ∉ d ∧ .range = kind ∧ d.outsideText b = message)) := by
  constructor
  · intro misspans
    generalize same : start ++ '-' :: stop = text at misspans
    cases misspans with
    | ends absent' missing =>
      obtain ⟨rfl, rfl⟩ := eq_of_append_mark absent absent' same
      exact .inl ⟨missing, rfl, rfl⟩
    | reversed absent' standsA standsB order =>
      obtain ⟨rfl, rfl⟩ := eq_of_append_mark absent absent' same
      exact .inr ⟨_, standsA, _, standsB, .inl ⟨order, rfl, rfl⟩⟩
    | first absent' standsA standsB order outside =>
      obtain ⟨rfl, rfl⟩ := eq_of_append_mark absent absent' same
      exact .inr ⟨_, standsA, _, standsB, .inr ⟨order, .inl ⟨outside, rfl, rfl⟩⟩⟩
    | last absent' standsA standsB order inside outside =>
      obtain ⟨rfl, rfl⟩ := eq_of_append_mark absent absent' same
      exact .inr ⟨_, standsA, _, standsB, .inr ⟨order, .inr ⟨inside, outside, rfl, rfl⟩⟩⟩
    | unknown noDash => exact absurd (by simp [← same]) noDash
    | outside noDash => exact absurd (by simp [← same]) noDash
  · intro given
    rcases given with ⟨missing, rfl, rfl⟩ | ⟨a, standsA, b, standsB, given⟩
    · exact .ends absent missing
    rcases given with ⟨order, rfl, rfl⟩ | ⟨order, ⟨outside, rfl, rfl⟩ | ⟨inside, outside, rfl, rfl⟩⟩
    · exact .reversed absent standsA standsB order
    · exact .first absent standsA standsB order outside
    · exact .last absent standsA standsB order inside outside

theorem misspans_plain (noDash : '-' ∉ text) (other : text ≠ Part.star) :
    d.Misspans noValue text kind message ↔
      (∀ a, ¬ d.Stands text a) ∧ .token = kind ∧ noValue ++ String.ofList text = message ∨
        ∃ a, d.Stands text a ∧ a ∉ d ∧ .range = kind ∧ d.outsideText a = message := by
  constructor
  · intro misspans
    cases misspans with
    | unknown _ _ missing => exact .inl ⟨missing, rfl, rfl⟩
    | outside _ stands outside => exact .inr ⟨_, stands, outside, rfl, rfl⟩
    | ends => exact absurd (by simp) noDash
    | reversed => exact absurd (by simp) noDash
    | first => exact absurd (by simp) noDash
    | last => exact absurd (by simp) noDash
  · intro given
    rcases given with ⟨missing, rfl, rfl⟩ | ⟨a, stands, outside, rfl, rfl⟩
    · exact .unknown noDash other missing
    · exact .outside noDash stands outside

/-- Nothing is wrong with `*` as a span. -/
theorem not_misspans_star (wellformed : d.Wellformed) :
    ¬ d.Misspans noValue Part.star kind message := by
  intro misspans
  generalize same : Part.star = text at misspans
  cases misspans with
  | unknown _ other => exact other same.symm
  | outside _ stands =>
    subst same
    exact stands.not_mem wellformed mark_star List.mem_cons_self
  | ends | reversed | first | last =>
    have dash : '-' ∈ Part.star := by simp [same]
    exact absurd dash (by decide)

/-- A range is refused for what is wrong with its ends. -/
theorem refuses_interval (wellformed : d.Wellformed) (absent : '-' ∉ start) :
    Refuses (d.interval start stop) kind message ↔
      d.Misspans noValue (start ++ '-' :: stop) kind message ∧
        ¬ OverlongSpan (start ++ '-' :: stop) := by
  rw [overlongSpan_dash absent, interval, refuses_andThen]
  simp only [refuses_andThen]
  -- both ends are read before any of them can be refused
  by_cases long : Overlong (trim start) ∨ Overlong (trim stop)
  · refine iff_of_false ?_ fun given => given.2 long
    rintro ⟨a?, readStart, b?, readStop, _⟩
    exact long.elim (not_overlong_of_resolve wellformed readStart)
      (not_overlong_of_resolve wellformed readStop)
  obtain ⟨a?, readStart⟩ := exists_resolve wellformed fun h => long (.inl h)
  obtain ⟨b?, readStop⟩ := exists_resolve wellformed fun h => long (.inr h)
  rw [misspans_dash absent, and_iff_left long]
  simp only [readStart, readStop, stands_iff_of_resolve wellformed readStart,
    stands_iff_of_resolve wellformed readStop, Except.ok.injEq, exists_eq_left']
  cases a? with
  | none => simp [refuses_badRange]
  | some a =>
    cases b? with
    | none => simp [refuses_badRange]
    | some b =>
      have shortA := short_of_resolve wellformed readStart
      have shortB := short_of_resolve wellformed readStop
      dsimp only
      split
      · next order =>
        rw [refuses_refuse (writable_reversed shortA shortB)]
        simp [Refusal.kind, order, Int.not_le.mpr order]
      · next order =>
        simp [refuses_bind, refuses_map, refuses_bounded wellformed shortA,
          refuses_bounded wellformed shortB, order, Int.not_lt.mp order, bounded_eq_ok_iff]

/-- A text without a dash is refused where it stands for no value of the domain. -/
theorem refuses_resolved {α : Type} {f : Int → α} {why : Refusal} (wellformed : d.Wellformed)
    (noDash : '-' ∉ text) (other : text ≠ Part.star) (numberless : why.numbers = [])
    (token : why.kind = .token) (said : why.message = noValue ++ String.ofList text) :
    Refuses (do
      match ← orFault (d.resolve text) with
      | some a => return f (← d.bounded a)
      | none => refuse why) kind message ↔
      d.Misspans noValue text kind message ∧ ¬ Overlong (trim text) := by
  rw [refuses_andThen]
  by_cases long : Overlong (trim text)
  · refine iff_of_false ?_ fun given => given.2 long
    rintro ⟨a?, read, _⟩
    exact not_overlong_of_resolve wellformed read long
  obtain ⟨a?, read⟩ := exists_resolve wellformed long
  rw [misspans_plain noDash other, and_iff_left long, ← token, ← said]
  simp only [read, stands_iff_of_resolve wellformed read, Except.ok.injEq, exists_eq_left']
  cases a? with
  | none => simp [refuses_quoting numberless]
  | some a =>
    have short := short_of_resolve wellformed read
    simp [refuses_map, refuses_bounded wellformed short, token]

/-- A span is refused for what is wrong with it. -/
theorem refuses_span (wellformed : d.Wellformed) :
    Refuses (d.span text) kind message ↔
      d.Misspans "Invalid range: " text kind message ∧ ¬ OverlongSpan text := by
  rw [span]
  by_cases all : text = Part.star
  · subst all
    rw [if_pos rfl]
    exact iff_of_false (not_refuses_ok _) fun given => not_misspans_star wellformed given.1
  rw [if_neg all]
  split
  · next start stop found =>
    obtain ⟨rfl, absent⟩ := cut_eq_some found
    exact refuses_interval wellformed absent
  · next uncut =>
    have noDash := cut_eq_none.mp uncut
    rw [overlongSpan_plain noDash]
    exact refuses_resolved wellformed noDash all rfl rfl rfl

end Domain

/-! ## Parts -/

section Parts

variable {d : Domain} {span stride text cs : List Char} {part : Part} {kind : RefusalKind}
  {message : String}

theorem Domain.blames_step (absent : '/' ∉ span) :
    d.Blames (span ++ '/' :: stride) kind message ↔
      ¬ (Numeral stride ∧ 0 < value stride) ∧ .step = kind ∧
          "Invalid step value: " ++ String.ofList stride = message ∨
        (Numeral stride ∧ 0 < value stride) ∧ d.Misspans "Invalid range: " span kind message := by
  constructor
  · intro blames
    generalize same : span ++ '/' :: stride = text at blames
    cases blames with
    | stride absent' useless =>
      obtain ⟨rfl, rfl⟩ := eq_of_append_mark absent absent' same
      exact .inl ⟨useless, rfl, rfl⟩
    | span absent' numeral positive misspans =>
      obtain ⟨rfl, rfl⟩ := eq_of_append_mark absent absent' same
      exact .inr ⟨⟨numeral, positive⟩, misspans⟩
    | plain noSlash => exact absurd (by simp [← same]) noSlash
  · intro given
    rcases given with ⟨useless, rfl, rfl⟩ | ⟨⟨numeral, positive⟩, misspans⟩
    · exact .stride absent useless
    · exact .span absent numeral positive misspans

theorem Domain.blames_plain (noSlash : '/' ∉ text) :
    d.Blames text kind message ↔ d.Misspans "Invalid value: " text kind message := by
  constructor
  · intro blames
    cases blames with
    | plain _ misspans => exact misspans
    | stride => exact absurd (by simp) noSlash
    | span => exact absurd (by simp) noSlash
  · exact .plain noSlash

theorem Part.Forms.refuses_expand (wellformed : d.Wellformed) (forms : Forms text part) :
    Refuses (part.expand d) kind message ↔ d.Blames text kind message ∧ ¬ OverlongPart text := by
  cases forms with
  | wildcard =>
    rw [Domain.blames_plain (show '/' ∉ star by decide)]
    exact iff_of_false (not_refuses_ok _) fun given => Domain.not_misspans_star wellformed given.1
  | @step span stride absent =>
    rw [Domain.blames_step absent, overlongPart_step absent, expand, refuses_andThen]
    by_cases long : Overlong stride
    · refine iff_of_false ?_ fun given => given.2 (.inl long)
      rintro ⟨number, read, _⟩
      rw [readNumeral_eq_error.mpr ⟨long, rfl⟩] at read
      cases read
    by_cases usable : Numeral stride ∧ 0 < value stride
    · obtain ⟨n, equal⟩ : ∃ n, value stride = n + 1 := ⟨value stride - 1, by omega⟩
      have read := readNumeral_eq_some.mpr ⟨⟨usable.1, long⟩, equal⟩
      simp [read, refuses_map, Domain.refuses_span wellformed, long, usable]
    · have useless : ∀ number, readNumeral stride = .ok number → ∀ n, number ≠ some (n + 1) := by
        rintro _ read n rfl
        obtain ⟨⟨numeral, _⟩, equal⟩ := readNumeral_eq_some.mp read
        exact usable ⟨numeral, by omega⟩
      cases read : readNumeral stride with
      | error fault => exact absurd (readNumeral_eq_error.mp read).1 long
      | ok number =>
        have short : ¬ (Numeral stride ∧ 0 < value stride ∧ OverlongSpan span) :=
          fun given => usable ⟨given.1, given.2.1⟩
        simp only [usable, long, short, not_false_eq_true, true_and, false_and, or_false, and_true,
          Except.ok.injEq, exists_eq_left']
        split
        · next n => exact absurd rfl (useless _ read n)
        · exact refuses_quoting rfl
  | @range start stop noSlash absent =>
    rw [Domain.blames_plain noSlash, overlongPart_plain noSlash,
      ← Domain.refuses_interval wellformed absent, expand]
    exact refuses_map
  | single other noSlash noDash =>
    rw [Domain.blames_plain noSlash, overlongPart_plain noSlash, overlongSpan_plain noDash]
    exact Domain.refuses_resolved wellformed noDash other rfl rfl rfl

/-- A part is refused for what is to be blamed in it, unless reading it comes upon an overlong
numeral. -/
theorem Part.refuses_expand (wellformed : d.Wellformed) :
    Refuses ((ofText cs).expand d) kind message ↔
      d.Blames (trim cs) kind message ∧ ¬ OverlongPart (trim cs) :=
  (forms_ofText cs).refuses_expand wellformed

end Parts

/-! ## Fields -/

section Fields

variable {d : Domain} {text : String} {r : Reading}

/-- A field is refused by the first of its parts that is, and nothing after that part makes a
difference. -/
theorem expandAll_eq_refused {stem rest : List Char} {before : List (List Char)}
    {piece : List Char} {why : Refusal} (ending : Ending ',' rest)
    (split : stem.splitOn ',' = before ++ [piece])
    (answered : ∀ earlier ∈ before, ∃ values, (Part.ofText earlier).expand d = .ok values)
    (refused : (Part.ofText piece).expand d = .error (.refused why)) :
    expandAll d (stem ++ rest) = .error (.refused why) := by
  obtain ⟨after, pieces⟩ : ∃ after, (stem ++ rest).splitOn ',' = _ := splitOn_append_ending ending
  rw [split, List.append_assoc] at pieces
  rw [← String.toList_ofList (l := stem ++ rest), expandAll_eq_error, String.toList_ofList]
  exact mapM_eq_error.mpr ⟨before, piece, after, pieces, answered, refused⟩

/-- The refusal of a field is decided by its leftmost part that does not follow the grammar: it
says what is to be blamed in that part, and it stays the same whatever stands after the part. -/
theorem Reading.refusal_of_leftmost (member : d ∈ Domain.ofFields.toList)
    (read : ofText d text = .ok r) (invalid : r.isValid = false) :
    ∃ stem rest before piece, text.toList = stem ++ rest ∧ Ending ',' rest ∧
      stem.splitOn ',' = before ++ [piece] ∧
      (∀ earlier ∈ before, ∃ stretch, d.Written (trim earlier) stretch) ∧
      (∀ stretch, ¬ d.Written (trim piece) stretch) ∧
      ∃ why, r.refusal? = some why ∧
        (∀ kind message, d.Blames (trim piece) kind message ↔
          why.kind = kind ∧ why.message = message) ∧
        ∀ rest', Ending ',' rest' → ∃ r', ofText d (String.ofList (stem ++ rest')) = .ok r' ∧
          r'.isValid = false ∧ r'.refusal? = some why := by
  have wellformed := Domain.wellformed_of_mem member
  obtain ⟨why, stopped, rfl⟩ := exists_refused member read (by simp [invalid])
  obtain ⟨before, piece, after, split, answered, refused⟩ :=
    mapM_eq_error.mp (expandAll_eq_error.mp stopped)
  obtain ⟨stem, rest, whole, ending, pieces⟩ := exists_stem split
  have short : ¬ OverlongPart (trim piece) := by
    intro long
    obtain ⟨fault, failed⟩ := (Part.overlongWhen_expand wellformed piece).fails long
    rw [failed] at refused
    cases refused
  refine ⟨stem, rest, before, piece, whole, ending, pieces, ?_, ?_, why, rfl, ?_, ?_⟩
  · intro earlier listed
    obtain ⟨values, answer⟩ := answered earlier listed
    obtain ⟨⟨stretch, written, _⟩, _⟩ := (Part.expand_eq_ok wellformed).mp answer
    exact ⟨stretch, written⟩
  · intro stretch written
    rw [(Part.expand_eq_ok wellformed).mpr ⟨⟨stretch, written, rfl⟩, short⟩] at refused
    cases refused
  · intro kind message
    have blamed : Refuses ((Part.ofText piece).expand d) kind message ↔ _ :=
      Part.refuses_expand wellformed
    rw [refused, and_iff_left short] at blamed
    exact blamed.symm.trans refuses_refused
  · intro rest' ending'
    have stopped' := expandAll_eq_refused ending' pieces answered refused
    rw [← String.toList_ofList (l := stem ++ rest')] at stopped'
    exact ⟨_, ofText_of_refused member stopped', rfl, rfl⟩

theorem Reading.refusal_of_leftmost_stride :
    ∃ stem rest before piece, "5, 70-3/0,x".toList = stem ++ rest ∧ Ending ',' rest ∧
      stem.splitOn ',' = before ++ [piece] ∧
      Domain.minute.Blames (trim piece) .step "Invalid step value: 0" ∧
      ∀ rest', Ending ',' rest' → ∃ r',
        ofText .minute (String.ofList (stem ++ rest')) = .ok r' ∧
          r'.refusal? = some (.badStep "0") := by
  let r : Reading :=
    { domain := .minute, text := "5, 70-3/0,x", verdict := .error (.badStep "0"),
      description := "invalid" }
  have read : ofText .minute "5, 70-3/0,x" = .ok r := by decide +kernel
  obtain ⟨stem, rest, before, piece, whole, ending, pieces, _, _, why, refused, blamed, same⟩ :=
    refusal_of_leftmost (by decide) read rfl
  cases refused
  refine ⟨stem, rest, before, piece, whole, ending, pieces, ?_, fun rest' ending' => ?_⟩
  · exact (blamed _ _).mpr ⟨rfl, rfl⟩
  · obtain ⟨r', read', _, refused'⟩ := same rest' ending'
    exact ⟨r', read', refused'⟩

end Fields

end Crontab
