import Crontab.Proofs.Field.Expansion
import Crontab.Proofs.Text.Decimal
import Crontab.Prose.Fragment

/-!
# What a description tells

The description of a field, word by word: `Tells` relates its words to the values that they speak
of. `Tells.unique` says that the words leave no choice of values, and `tells_ofValues` that values
which are described by themselves are told of.
-/

namespace Crontab

open Text

variable {d : Domain} {v w : Int} {text : String}

/-! ## Words for values -/

/-- The word starts with a digit or a capital letter. -/
def capitalized (word : List Char) : Bool := word.head?.any (·.toNat < 97)

/-- A word that can stand for a value. -/
structure ValueWord (word : List Char) : Prop where
  capitalized : capitalized word = true
  visible : ∀ c ∈ word, isBlank c = false
  noComma : ',' ∉ word

theorem ValueWord.ne_nil {word : List Char} (named : ValueWord word) : word ≠ [] := by
  rintro rfl
  cases named.capitalized

theorem capitalized_append {word : List Char} (start : capitalized word = true)
    (more : List Char) : capitalized (word ++ more) = true := by
  cases word with
  | nil => cases start
  | cons first rest => exact start

theorem capitalized_digits (n : Nat) : capitalized (digits n) = true := by
  obtain ⟨first, rest, form⟩ := List.exists_cons_of_ne_nil (digits_ne_nil n)
  have digit : 48 ≤ first.toNat ∧ first.toNat < 58 :=
    toNat_of_mem_digits (form ▸ List.mem_cons_self)
  rw [form]
  simp [capitalized]
  omega

theorem valueWord_digits (n : Nat) : ValueWord (digits n) where
  capitalized := capitalized_digits n
  visible _ member := not_blank_of_digit (toNat_of_mem_digits member)
  noComma member := absurd (toNat_of_mem_digits member).1 (by decide)

theorem valueWord_name {name : String} (member : name ∈ monthNames ++ weekdayNames) :
    ValueWord name.toList := by
  have spelled : ∀ name ∈ monthNames ++ weekdayNames, capitalized name.toList = true ∧
      (name.toList.all fun c => !isBlank c && c != ',') = true := by decide +kernel
  obtain ⟨start, spelled⟩ := spelled name member
  simp only [List.all_eq_true, Bool.and_eq_true, Bool.not_eq_true', bne_iff_ne] at spelled
  exact ⟨start, fun c member => (spelled c member).1, fun comma => (spelled _ comma).2 rfl⟩

theorem nameAt_eq_ok {names : List String} {index : Int} (low : 0 ≤ index) :
    nameAt names index = .ok text ↔ names[index.toNat]? = some text := by
  obtain ⟨i, rfl⟩ := Int.eq_ofNat_of_zero_le low
  rw [nameAt, Int.toNat_natCast]
  by_cases inside : i < names.length
  · rw [slot?_of_lt inside]
    simp [inside]
  · have outside : slot? names.length (i : Int) = none := by
      simp [slot?, inside]
    rw [outside]
    simp [inside]

namespace Domain

/-- The values of a domain are written by names, in the order of the names, or else in decimal. -/
theorem valueText_eq (member : d ∈ ofFields.toList) :
    (∃ names, (∀ name ∈ names, name ∈ monthNames ++ weekdayNames) ∧ names.Nodup ∧
        ∀ v, d.valueText v = nameAt names (v - d.lo)) ∨
      ∀ v ∈ d, 0 ≤ v ∧ d.valueText v = .ok (natText v.toNat) := by
  have decimal : ∀ d ∈ ofFields.toList, d ≠ .month → d ≠ .weekday → 0 ≤ d.lo →
      ∀ v ∈ d, 0 ≤ v ∧ d.valueText v = .ok (natText v.toNat) := by
    intro d member other other' natural v inside
    have low : 0 ≤ v := Int.le_trans natural inside.1
    have short := (wellformed_of_mem member).short inside
    rw [valueText, if_neg other, if_neg other', ← intText_of_nonneg low]
    exact ⟨low, writeInt_eq_ok.mpr ⟨isWritable_of_short short, rfl⟩⟩
  simp only [ofFields, Fields.toList, List.mem_cons, List.not_mem_nil, or_false] at member
  rcases member with rfl | rfl | rfl | rfl | rfl
  · exact .inr (decimal _ (by decide) (by decide) (by decide) (by decide))
  · exact .inr (decimal _ (by decide) (by decide) (by decide) (by decide))
  · exact .inr (decimal _ (by decide) (by decide) (by decide) (by decide))
  · exact .inl ⟨monthNames, by decide, by decide, fun v => rfl⟩
  · refine .inl ⟨weekdayNames, by decide, by decide, fun v => ?_⟩
    rw [show v - weekday.lo = v from Int.sub_zero v]
    rfl

theorem valueWord_of_valueText (member : d ∈ ofFields.toList) (inside : v ∈ d)
    (written : d.valueText v = .ok text) : ValueWord text.toList := by
  rcases valueText_eq member with ⟨names, spelled, _, name⟩ | decimal
  · have low := inside.1
    rw [name, nameAt_eq_ok (by omega)] at written
    exact valueWord_name (spelled text (List.mem_of_getElem? written))
  · obtain ⟨_, written'⟩ := decimal v inside
    rw [written'] at written
    cases written
    rw [natText, String.toList_ofList]
    exact valueWord_digits v.toNat

/-- Different values of a domain are written differently. -/
theorem valueText_inj (member : d ∈ ofFields.toList) (inside : v ∈ d) (inside' : w ∈ d)
    (written : d.valueText v = .ok text) (written' : d.valueText w = .ok text) : v = w := by
  have low := inside.1
  have low' := inside'.1
  rcases valueText_eq member with ⟨names, _, distinct, name⟩ | decimal
  · rw [name, nameAt_eq_ok (by omega)] at written written'
    obtain ⟨early, _⟩ := List.getElem?_eq_some_iff.mp written
    have := (List.getElem?_inj early distinct).mp (written.trans written'.symm)
    omega
  · obtain ⟨natural, number⟩ := decimal v inside
    obtain ⟨natural', number'⟩ := decimal w inside'
    have same := number.symm.trans (written.trans (written'.symm.trans number'))
    have := digits_inj (String.ofList_inj.mp (Except.ok.inj same))
    omega

/-- The word is how the domain writes the value. -/
structure Calls (d : Domain) (v : Int) (word : List Char) : Prop where
  inside : v ∈ d
  written : d.valueText v = .ok (String.ofList word)

namespace Calls

variable {word : List Char} {values values' : List Int} {words : List (List Char)}

theorem of_valueText (inside : v ∈ d) (written : d.valueText v = .ok text) :
    d.Calls v text.toList := by
  refine ⟨inside, ?_⟩
  rw [String.ofList_toList]
  exact written

theorem valueWord (member : d ∈ ofFields.toList) (calls : d.Calls v word) : ValueWord word := by
  have named := valueWord_of_valueText member calls.inside calls.written
  rwa [String.toList_ofList] at named

theorem unique (member : d ∈ ofFields.toList) (calls : d.Calls v word)
    (calls' : d.Calls w word) : v = w :=
  valueText_inj member calls.inside calls'.inside calls.written calls'.written

theorem valueWords (member : d ∈ ofFields.toList) (calls : List.Forall₂ d.Calls values words) :
    ∀ word ∈ words, ValueWord word := by
  induction calls with
  | nil => simp
  | cons first _ ih => exact List.forall_mem_cons.mpr ⟨first.valueWord member, ih⟩

theorem values_unique (member : d ∈ ofFields.toList) (calls : List.Forall₂ d.Calls values words)
    (calls' : List.Forall₂ d.Calls values' words) : values = values' := by
  induction calls generalizing values' with
  | nil => rw [List.forall₂_nil_right_iff.mp calls']
  | cons first _ ih =>
    obtain ⟨_, _, first', others, rfl⟩ := List.forall₂_cons_right_iff.mp calls'
    rw [first.unique member first', ih others]

theorem of_mapM {texts : List String} (inside : ∀ v ∈ values, v ∈ d)
    (written : values.mapM d.valueText = .ok texts) :
    List.Forall₂ d.Calls values (texts.map String.toList) := by
  have each := mapM_eq_ok.mp written
  clear written
  induction each with
  | nil => exact .nil
  | cons first _ ih =>
    obtain ⟨here, others⟩ := List.forall_mem_cons.mp inside
    exact .cons (of_valueText here first) (ih others)

end Calls

end Domain

/-! ## Lists of words -/

/-- The words of a list, with a comma after each but the last. -/
def listWords : List (List Char) → List (List Char)
  | [] => []
  | [word] => [word]
  | word :: next :: words => (word ++ [',']) :: listWords (next :: words)

section Lists

variable {words : List (List Char)}

theorem listWords_ne_nil (some : words ≠ []) : listWords words ≠ [] := by
  fun_cases listWords words with
  | case1 => exact absurd rfl some
  | case2 => simp
  | case3 => simp

theorem capitalized_of_mem_listWords (named : ∀ word ∈ words, ValueWord word) :
    ∀ word ∈ listWords words, capitalized word = true := by
  fun_induction listWords words with
  | case1 => simp
  | case2 word => exact fun w member => (named w member).capitalized
  | case3 word next words ih =>
    obtain ⟨first, others⟩ := List.forall_mem_cons.mp named
    exact List.forall_mem_cons.mpr ⟨capitalized_append first.capitalized _, ih others⟩

/-- Without its commas, a list of words for values is those words. -/
theorem filter_listWords (named : ∀ word ∈ words, ValueWord word) :
    (listWords words).map (·.filter (· != ',')) = words := by
  have bare : ∀ word : List Char, ValueWord word → word.filter (· != ',') = word := by
    intro word named
    apply List.filter_eq_self.mpr
    exact fun c member => bne_iff_ne.mpr fun equal => named.noComma (equal ▸ member)
  fun_induction listWords words with
  | case1 => rfl
  | case2 word => rw [List.map_singleton, bare word (named word List.mem_cons_self)]
  | case3 word next words ih =>
    obtain ⟨first, others⟩ := List.forall_mem_cons.mp named
    rw [List.map_cons, ih others, List.filter_append, bare word first]
    simp

end Lists

/-! ## Descriptions in words -/

/-- What an `every` is said of: the label of the domain, or its plural. -/
def Domain.unit (d : Domain) (plural : Bool) : List (List Char) :=
  words (lower d.label.toList ++ if plural then ['s'] else [])

theorem Domain.not_capitalized_unit (member : d ∈ ofFields.toList) (plural : Bool) :
    ∀ word ∈ d.unit plural, capitalized word = false := by
  have spelled : ∀ d ∈ ofFields.toList, ∀ plural : Bool,
      ∀ word ∈ d.unit plural, capitalized word = false := by decide +kernel
  exact spelled d member plural

def everyWord : List Char := "every".toList

def throughWord : List Char := "through".toList

/-- The words of a description and the values that they tell of. -/
inductive Tells (d : Domain) : List (List Char) → List Int → Prop
  | every : Tells d (everyWord :: d.unit false) (progression d.lo d.hi 1)
  | everyNth {n : Nat} : Tells d (everyWord :: digits n :: d.unit (1 < n)) (progression d.lo d.hi n)
  | run {first last : Int} {word word' : List Char} : d.Calls first word → d.Calls last word' →
      Tells d [word, throughWord, word'] (progression first last 1)
  | listed {values : List Int} {words : List (List Char)} : words ≠ [] →
      List.Forall₂ d.Calls values words → Tells d (listWords words) values

namespace Tells

variable {words rest : List (List Char)} {values values' : List Int}

/-! The form of the words says which of the four they are. Only a list has capitals throughout. -/

theorem capitalized_of_listed (member : d ∈ Domain.ofFields.toList)
    (calls : List.Forall₂ d.Calls values words) :
    ∀ word ∈ listWords words, capitalized word = true :=
  capitalized_of_mem_listWords (Domain.Calls.valueWords member calls)

theorem of_every (member : d ∈ Domain.ofFields.toList)
    (tells : Tells d (everyWord :: rest) values) :
    rest = d.unit false ∧ values = progression d.lo d.hi 1 ∨
      ∃ n, rest = digits n :: d.unit (1 < n) ∧ values = progression d.lo d.hi n := by
  generalize form : everyWord :: rest = words at tells
  have start : everyWord ∈ words := form ▸ List.mem_cons_self
  cases tells with
  | every => exact .inl ⟨(List.cons.inj form).2, rfl⟩
  | everyNth => exact .inr ⟨_, (List.cons.inj form).2, rfl⟩
  | run calls =>
    have named := (calls.valueWord member).capitalized
    rw [← (List.cons.inj form).1] at named
    cases named
  | listed _ calls => cases capitalized_of_listed member calls everyWord start

theorem of_run (member : d ∈ Domain.ofFields.toList) {word word' : List Char}
    (start : capitalized word = true) (tells : Tells d [word, throughWord, word'] values) :
    ∃ first last, d.Calls first word ∧ d.Calls last word' ∧ values = progression first last 1 := by
  generalize form : [word, throughWord, word'] = words at tells
  have middle : throughWord ∈ words := by simp [← form]
  cases tells with
  | every =>
    rw [(List.cons.inj form).1] at start
    cases start
  | everyNth =>
    rw [(List.cons.inj form).1] at start
    cases start
  | run first last =>
    cases form
    exact ⟨_, _, first, last, rfl⟩
  | listed _ calls => cases capitalized_of_listed member calls throughWord middle

theorem of_listed (member : d ∈ Domain.ofFields.toList) (named : ∀ word ∈ words, ValueWord word)
    (tells : Tells d (listWords words) values) : List.Forall₂ d.Calls values words := by
  have capitals := capitalized_of_mem_listWords named
  generalize form : listWords words = ws at tells capitals
  cases tells with
  | every => cases capitals everyWord List.mem_cons_self
  | everyNth => cases capitals everyWord List.mem_cons_self
  | run => cases capitals throughWord (by simp)
  | listed _ calls =>
    have bare := filter_listWords named
    rw [form, filter_listWords (Domain.Calls.valueWords member calls)] at bare
    rwa [bare] at calls

/-- The words of a description tell of one list of values only. -/
theorem unique (member : d ∈ Domain.ofFields.toList) (tells : Tells d words values)
    (tells' : Tells d words values') : values = values' := by
  have noNumber : ∀ n, digits n ∉ d.unit false := by
    intro n listed
    have lower := Domain.not_capitalized_unit member false (digits n) listed
    rw [capitalized_digits] at lower
    cases lower
  cases tells with
  | every =>
    rcases tells'.of_every member with ⟨_, rfl⟩ | ⟨n, form, _⟩
    · rfl
    · exact absurd (form ▸ List.mem_cons_self) (noNumber n)
  | @everyNth n =>
    rcases tells'.of_every member with ⟨form, _⟩ | ⟨m, form, rfl⟩
    · exact absurd (form ▸ List.mem_cons_self) (noNumber n)
    · rw [digits_inj (List.cons.inj form).1]
  | run first last =>
    obtain ⟨_, _, first', last', rfl⟩ := tells'.of_run member (first.valueWord member).capitalized
    rw [first.unique member first', last.unique member last']
  | listed _ calls =>
    have calls' := tells'.of_listed member (Domain.Calls.valueWords member calls)
    exact Domain.Calls.values_unique member calls calls'

/-- A description starts with `every` or with a word for a value. -/
theorem start (member : d ∈ Domain.ofFields.toList) (tells : Tells d words values) :
    ∃ word rest, words = word :: rest ∧ (word = everyWord ∨ capitalized word = true) := by
  cases tells with
  | every => exact ⟨_, _, rfl, .inl rfl⟩
  | everyNth => exact ⟨_, _, rfl, .inl rfl⟩
  | run first => exact ⟨_, _, rfl, .inr (first.valueWord member).capitalized⟩
  | listed some calls =>
    obtain ⟨word, rest, form⟩ := List.exists_cons_of_ne_nil (listWords_ne_nil some)
    have capitals := capitalized_of_listed member calls
    exact ⟨word, rest, form, .inr (capitals word (form ▸ List.mem_cons_self))⟩

end Tells

/-! ## Rendering -/

theorem words_natText (n : Nat) : words (natText n).toList = [digits n] := by
  rw [natText, String.toList_ofList]
  exact words_of_visible (digits_ne_nil n) (valueWord_digits n).visible

theorem words_every (d : Domain) :
    words ("every " ++ Fragment.render.label d).toList = everyWord :: d.unit false := by
  have parts : "every " ++ Fragment.render.label d =
      "every" ++ " " ++ Fragment.render.label d := rfl
  have every : words "every".toList = [everyWord] := by decide +kernel
  rw [parts, words_space, every, Fragment.render.label, String.toList_ofList, Domain.unit]
  simp

theorem words_everyNth (d : Domain) (n : Nat) :
    words (s!"every {natText n} {Fragment.render.label d}" ++ if 1 < n then "s" else "").toList =
      everyWord :: digits n :: d.unit (1 < n) := by
  let unit := Fragment.render.label d ++ if 1 < n then "s" else ""
  have parts : (s!"every {natText n} {Fragment.render.label d}" ++ if 1 < n then "s" else "") =
      "every" ++ " " ++ (natText n ++ " " ++ unit) := by
    simp only [unit, String.append_assoc]
    rfl
  have every : words "every".toList = [everyWord] := by decide +kernel
  rw [parts, words_space, words_space, every, words_natText, Domain.unit, String.toList_append,
    Fragment.render.label, String.toList_ofList]
  by_cases plural : 1 < n <;> simp [plural]

theorem words_run {text' : String} (named : ValueWord text.toList)
    (named' : ValueWord text'.toList) :
    words (text ++ " through " ++ text').toList = [text.toList, throughWord, text'.toList] := by
  have parts : text ++ " through " ++ text' = text ++ " " ++ ("through" ++ " " ++ text') := by
    simp only [String.append_assoc]
    rfl
  have through : words "through".toList = [throughWord] := by decide +kernel
  rw [parts, words_space, words_space, through, words_of_visible named.ne_nil named.visible,
    words_of_visible named'.ne_nil named'.visible]
  rfl

theorem words_listed {texts : List String} (named : ∀ text ∈ texts, ValueWord text.toList) :
    words (", ".intercalate texts).toList = listWords (texts.map String.toList) := by
  induction texts with
  | nil => decide +kernel
  | cons text texts ih =>
    obtain ⟨first, others⟩ := List.forall_mem_cons.mp named
    cases texts with
    | nil =>
      rw [String.intercalate_singleton, words_of_visible first.ne_nil first.visible]
      rfl
    | cons next texts =>
      have parts : text ++ ", " = text ++ "," ++ " " := by
        rw [String.append_assoc]
        rfl
      have marked : words (text ++ ",").toList = [text.toList ++ [',']] := by
        rw [String.toList_append]
        apply words_of_visible (by simp)
        intro c member
        rcases List.mem_append.mp member with member | member
        · exact first.visible c member
        · rw [List.mem_singleton.mp member]
          rfl
      rw [String.intercalate_cons_cons, parts, words_space, marked, ih others]
      rfl

/-! ## Values by themselves -/

theorem progression_cons {first last : Int} (ordered : first ≤ last) :
    progression first last 1 = first :: progression (first + 1) last 1 := by
  have steps : ((last - first) / (1 : Nat) + 1).toNat =
      ((last - (first + 1)) / (1 : Nat) + 1).toNat + 1 := by omega
  rw [progression, progression, steps, List.range_succ_eq_map, List.map_cons, List.map_map]
  congr 1
  · simp
  · apply List.map_congr_left
    intro k _
    simp
    omega

theorem isConsecutive_cons {values : List Int} :
    isConsecutive (v :: w :: values) = true ↔ w = v + 1 ∧ isConsecutive (w :: values) = true := by
  simp [isConsecutive]

/-- Consecutive values are all those from the first to the last. -/
theorem progression_of_isConsecutive {first : Int} {values : List Int}
    (consecutive : isConsecutive (first :: values) = true) :
    ∃ last, (first :: values).getLast? = some last ∧ first ≤ last ∧
      first :: values = progression first last 1 := by
  induction values generalizing first with
  | nil => exact ⟨first, rfl, Int.le_refl _, (progression_self first).symm⟩
  | cons v values ih =>
    obtain ⟨rfl, consecutive⟩ := isConsecutive_cons.mp consecutive
    obtain ⟨last, final, ordered, equal⟩ := ih consecutive
    refine ⟨last, ?_, by omega, ?_⟩
    · rw [List.getLast?_cons_cons]
      exact final
    · calc first :: (first + 1) :: values
          = first :: progression (first + 1) last 1 := by rw [equal]
        _ = progression first last 1 := (progression_cons (by omega)).symm

theorem tells_listed (member : d ∈ Domain.ofFields.toList) {values : List Int} (some : values ≠ [])
    (inside : ∀ v ∈ values, v ∈ d) (rendered : (Fragment.listed values).render d = .ok text) :
    Tells d (words text.toList) values := by
  obtain ⟨texts, written, equal⟩ := bind_eq_ok.mp rendered
  cases equal
  have calls := Domain.Calls.of_mapM inside written
  have named : ∀ text ∈ texts, ValueWord text.toList := fun text listed =>
    Domain.Calls.valueWords member calls _ (List.mem_map_of_mem listed)
  rw [words_listed named]
  refine .listed (fun empty => some ?_) calls
  rw [empty] at calls
  exact List.forall₂_nil_right_iff.mp calls

/-- The shape that describes values by themselves tells of them. -/
theorem tells_ofValues (member : d ∈ Domain.ofFields.toList) {values : List Int}
    (some : values ≠ []) (inside : ∀ v ∈ values, v ∈ d)
    (rendered : (Fragment.ofValues values).render d = .ok text) :
    Tells d (words text.toList) values := by
  have listed : (Fragment.listed values).render d = .ok text →
      Tells d (words text.toList) values := tells_listed member some inside
  unfold Fragment.ofValues at rendered
  split at rendered
  · exact absurd rfl some
  · next v =>
    apply listed
    have texts : [v].mapM d.valueText = .ok [text] := mapM_eq_ok.mpr (.cons rendered .nil)
    exact bind_eq_ok.mpr ⟨[text], texts, by rw [String.intercalate_singleton]; rfl⟩
  · next v w x rest =>
    dsimp only at rendered
    split at rendered
    · next consecutive =>
      obtain ⟨last, final, _, equal⟩ := progression_of_isConsecutive consecutive
      rw [List.getLast?_eq_some_getLast (by simp), Option.some.injEq] at final
      obtain ⟨text, hfirst, rendered⟩ := bind_eq_ok.mp rendered
      obtain ⟨text', hlast, rendered⟩ := bind_eq_ok.mp rendered
      cases rendered
      rw [final] at hlast
      have first := Domain.Calls.of_valueText (inside v List.mem_cons_self) hfirst
      have last := Domain.Calls.of_valueText (inside last (final ▸ List.getLast_mem _)) hlast
      rw [equal, words_run (first.valueWord member) (last.valueWord member)]
      exact .run first last
    · exact listed rendered
  · exact listed rendered

end Crontab
