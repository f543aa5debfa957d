import Crontab.Prose.Sentence
import Crontab.Proofs.Evaluation
import Crontab.Proofs.Field.Grammar

/-!
# When there is a description

A field with values of its domain is described unless its text is a step with an overlong stride or
one of the values has too many digits: `Clause.describe_eq_error`. Five fields of an expression make
a sentence.
-/

namespace Crontab

open Text

/-! ## Values -/

theorem exists_nameAt {names : List String} {index : Int} (low : 0 ≤ index)
    (high : index < names.length) : ∃ name, nameAt names index = .ok name := by
  obtain ⟨i, rfl⟩ := Int.eq_ofNat_of_zero_le low
  have inside : i < names.length := by omega
  refine ⟨names[i], ?_⟩
  rw [nameAt, slot?_of_lt inside]
  simp [inside]

/-- Writing a value of a domain in prose fails where it has neither a name nor few enough digits. -/
theorem Domain.valueText_eq_error {d : Domain} {v : Int} {fault : Fault} (inside : v ∈ d)
    (failed : d.valueText v = .error fault) : isWritable v = false ∧ fault = .tooLongToWrite := by
  obtain ⟨low, high⟩ := inside
  rw [Domain.valueText] at failed
  split at failed
  · next month =>
    subst month
    have low : 1 ≤ v := low
    have high : v ≤ 12 := high
    obtain ⟨name, named⟩ : ∃ name, nameAt monthNames (v - 1) = .ok name :=
      exists_nameAt (by omega) (show v - 1 < 12 by omega)
    rw [named] at failed
    cases failed
  · split at failed
    · next weekday =>
      subst weekday
      have high : v ≤ 6 := high
      obtain ⟨name, named⟩ : ∃ name, nameAt weekdayNames v = .ok name :=
        exists_nameAt low (show v < 7 by omega)
      rw [named] at failed
      cases failed
    · exact writeInt_eq_error.mp failed

/-! ## Strides -/

theorem everyStride?_eq_error {text : String} {fault : Fault} :
    everyStride? text = .error fault ↔
      ∃ stride, text.toList = '*' :: '/' :: stride ∧ readNumeral stride = .error fault := by
  unfold everyStride?
  split
  · next stride form => simp [form]
  · next other =>
    constructor
    · intro failed
      cases failed
    · intro ⟨stride, form, _⟩
      exact absurd form (other stride)

/-- A step over all values with an overlong stride is the only part of its field. -/
theorem meetsOverlong_of_everyStride {d : Domain} {text : String} {fault : Fault}
    (failed : everyStride? text = .error fault) : d.MeetsOverlong text := by
  obtain ⟨stride, form, failed⟩ := everyStride?_eq_error.mp failed
  obtain ⟨long, _⟩ := readNumeral_eq_error.mp failed
  have part : OverlongPart (['*'] ++ '/' :: stride) := .stride (by decide) long
  apply Domain.meetsOverlong_of_part
  · rw [form]
    simp [long.not_mem (show ','.toNat < 48 by decide)]
  · intro c member
    rw [form] at member
    rcases List.mem_cons.mp member with rfl | member
    · exact mark_star.visible
    rcases List.mem_cons.mp member with rfl | member
    · exact mark_slash.visible
    · exact long.visible member
  · rw [form]
    exact part

/-! ## Fragments -/

/-- Values of a domain are described by themselves unless one of them cannot be written. -/
theorem Fragment.render_ofValues_eq_error {d : Domain} {values : List Int} {fault : Fault}
    (inside : ∀ v ∈ values, v ∈ d) (failed : (ofValues values).render d = .error fault) :
    (∃ v ∈ values, isWritable v = false) ∧ fault = .tooLongToWrite := by
  have each : ∀ v ∈ values, d.valueText v = .error fault →
      (∃ v ∈ values, isWritable v = false) ∧ fault = .tooLongToWrite := fun v member failed =>
    (Domain.valueText_eq_error (inside v member) failed).imp_left fun long => ⟨v, member, long⟩
  have listed : (listed values).render d = .error fault →
      (∃ v ∈ values, isWritable v = false) ∧ fault = .tooLongToWrite := by
    intro failed
    rcases bind_eq_error.mp failed with failed | ⟨_, _, impossible⟩
    · obtain ⟨before, v, after, rfl, _, failed⟩ := mapM_eq_error.mp failed
      exact each v (by simp) failed
    · cases impossible
  unfold ofValues at failed
  split at failed
  · cases failed
  · next v => exact each v List.mem_cons_self failed
  · next v w x rest =>
    dsimp only at failed
    split at failed
    · rcases bind_eq_error.mp failed with first | ⟨_, _, failed⟩
      · exact each v List.mem_cons_self first
      · rcases bind_eq_error.mp failed with last | ⟨_, _, impossible⟩
        · exact each _ (List.getLast_mem _) last
        · cases impossible
    · exact listed failed
  · exact listed failed

namespace Clause

variable {d : Domain} {c : Clause} {fault : Fault}

/-- A field with values of its domain is described unless its stride cannot be read or one of the
values cannot be written. -/
theorem describe_eq_error (inside : ∀ v ∈ c.values, v ∈ d) (failed : c.describe d = .error fault) :
    everyStride? c.text = .error fault ∨
      (∃ v ∈ c.values, isWritable v = false) ∧ fault = .tooLongToWrite := by
  rcases bind_eq_error.mp failed with failed | ⟨fragment, chosen, failed⟩
  · unfold fragment at failed
    split at failed
    · cases failed
    split at failed
    · cases failed
    rcases bind_eq_error.mp failed with failed | ⟨stride?, _, failed⟩
    · exact .inl failed
    · split at failed <;> cases failed
  · unfold Clause.fragment at chosen
    split at chosen
    · cases chosen
      cases failed
    split at chosen
    · cases chosen
      cases failed
    obtain ⟨stride?, _, chosen⟩ := bind_eq_ok.mp chosen
    split at chosen
    · cases chosen
      cases failed
    · cases chosen
      exact .inr (Fragment.render_ofValues_eq_error inside failed)

theorem exists_describe (inside : ∀ v ∈ c.values, v ∈ d)
    (writable : ∀ v ∈ c.values, isWritable v = true)
    (readable : ∀ fault, everyStride? c.text ≠ .error fault) :
    ∃ text, c.describe d = .ok text := by
  cases described : c.describe d with
  | ok text => exact ⟨text, rfl⟩
  | error fault =>
    rcases describe_eq_error inside described with unread | ⟨⟨v, member, long⟩, _⟩
    · exact absurd unread (readable fault)
    · rw [writable v member] at long
      cases long

end Clause

/-! ## Sentences -/

theorem isWritable_shownHour {hour : Int} (inside : hour ∈ Domain.hour) :
    isWritable (shownHour hour) = true := by
  obtain ⟨low, high⟩ : 0 ≤ hour ∧ hour ≤ 23 := inside
  refine isWritable_of_short ?_
  unfold Short shownHour
  split
  · decide
  · split <;> omega

theorem Timing.exists_ofClauses {minute hour : Clause}
    (minuteInside : ∀ v ∈ minute.values, v ∈ Domain.minute)
    (hourInside : ∀ v ∈ hour.values, v ∈ Domain.hour)
    (minuteReadable : ∀ fault, everyStride? minute.text ≠ .error fault)
    (hourReadable : ∀ fault, everyStride? hour.text ≠ .error fault) :
    ∃ timing, Timing.ofClauses minute hour = .ok timing := by
  have writable : ∀ m ∈ minute.values, isWritable m = true := fun m member =>
    isWritable_of_short
      ((Domain.wellformed_of_mem (by decide)).short (minuteInside m member))
  cases minuteStride : everyStride? minute.text with
  | error fault => exact absurd minuteStride (minuteReadable fault)
  | ok minuteFound =>
    cases hourStride : everyStride? hour.text with
    | error fault => exact absurd hourStride (hourReadable fault)
    | ok hourFound =>
      unfold Timing.ofClauses
      rw [minuteStride, hourStride]
      split
      · exact ⟨_, rfl⟩
      split
      · exact ⟨_, rfl⟩
      cases minuteFound with
      | some n => exact ⟨_, rfl⟩
      | none =>
        cases hourFound with
        | some n => exact ⟨_, rfl⟩
        | none =>
          simp only [bind, Except.bind]
          split
          · next m h hm hh =>
            have sayable : sayable [shownHour h, m] = .ok () := sayable_eq_ok.mpr (by
              simp [isWritable_shownHour (hourInside h (by simp [hh])), writable m (by simp [hm])])
            rw [sayable]
            exact ⟨_, rfl⟩
          · next m hm _ =>
            have sayable : sayable [m] = .ok () := sayable_eq_ok.mpr (by
              simp [writable m (by simp [hm])])
            rw [sayable]
            exact ⟨_, rfl⟩
          · exact ⟨_, rfl⟩

/-- The sentence for five valid fields says what there is to say of them. -/
theorem composeSentence_eq_ok {fields : Fields Clause} (valid : ∀ c ∈ fields.toList, c.valid = true)
    {text : String} : composeSentence fields.toList = .ok text ↔
      ∃ s, Sentence.ofClauses fields = .ok s ∧ s.render = text := by
  rw [composeSentence, Fields.ofList?_toList]
  simp only [List.all_eq_true.mpr valid, if_true, bind_eq_ok]
  simp [pure, Except.pure]

/-- Five valid fields make a sentence, unless the stride of one of the first two cannot be read. -/
theorem exists_composeSentence {fields : Fields Clause}
    (valid : ∀ c ∈ fields.toList, c.valid = true)
    (minuteInside : ∀ v ∈ fields.minute.values, v ∈ Domain.minute)
    (hourInside : ∀ v ∈ fields.hour.values, v ∈ Domain.hour)
    (minuteReadable : ∀ fault, everyStride? fields.minute.text ≠ .error fault)
    (hourReadable : ∀ fault, everyStride? fields.hour.text ≠ .error fault) :
    ∃ text, composeSentence fields.toList = .ok text := by
  obtain ⟨timing, answered⟩ :=
    Timing.exists_ofClauses minuteInside hourInside minuteReadable hourReadable
  obtain ⟨s, chosen⟩ : ∃ s, Sentence.ofClauses fields = .ok s :=
    ⟨_, bind_eq_ok.mpr ⟨timing, answered, rfl⟩⟩
  exact ⟨s.render, (composeSentence_eq_ok valid).mpr ⟨s, chosen, rfl⟩⟩

end Crontab
