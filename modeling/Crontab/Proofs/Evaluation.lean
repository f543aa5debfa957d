import Crontab.Field.Expansion
import Crontab.Proofs.Text.Decimal
import Mathlib.Data.List.Forall2

/-!
# Evaluations

When an evaluation of several steps answers and when it fails, step by step: one pair of lemmas for
each way in which steps are put together.
-/

namespace Crontab

variable {ε α β : Type}

theorem bind_eq_ok {x : Except ε α} {f : α → Except ε β} {b : β} :
    (x >>= f) = .ok b ↔ ∃ a, x = .ok a ∧ f a = .ok b := by
  cases x with
  | error e => simp [bind, Except.bind]
  | ok a => simp [bind, Except.bind]

theorem bind_eq_error {x : Except ε α} {f : α → Except ε β} {e : ε} :
    (x >>= f) = .error e ↔ x = .error e ∨ ∃ a, x = .ok a ∧ f a = .error e := by
  cases x with
  | error e' => simp [bind, Except.bind]
  | ok a => simp [bind, Except.bind]

theorem orFault_eq_ok {x : Except Fault α} {a : α} :
    (orFault x : Except (Stop ε) α) = .ok a ↔ x = .ok a := by
  cases x <;> simp [orFault]

theorem orFault_eq_fault {x : Except Fault α} {fault : Fault} :
    (orFault x : Except (Stop ε) α) = .error (.fault fault) ↔ x = .error fault := by
  cases x <;> simp [orFault]

theorem orFault_ne_refused {x : Except Fault α} {why : ε} :
    (orFault x : Except (Stop ε) α) ≠ .error (.refused why) := by
  cases x <;> simp [orFault]

/-! A refusal is made where its message can be put together, and it is a fault elsewhere. -/

theorem refuse_ne_ok {why : Refusal} {a : α} : refuse why ≠ .ok a := by
  rw [refuse]
  cases Text.sayable why.numbers <;> simp [orFault, bind, Except.bind]

theorem refuse_eq_refused {why why' : Refusal} :
    (refuse why : Evaluation α) = .error (.refused why') ↔
      (∀ v ∈ why.numbers, Text.isWritable v = true) ∧ why = why' := by
  rw [← Text.sayable_eq_ok, refuse]
  cases Text.sayable why.numbers <;> simp [orFault, bind, Except.bind]

theorem refuse_eq_fault {why : Refusal} {fault : Fault} :
    (refuse why : Evaluation α) = .error (.fault fault) ↔
      ¬ (∀ v ∈ why.numbers, Text.isWritable v = true) ∧ fault = .tooLongToWrite := by
  rw [← Text.sayable_eq_error, refuse]
  cases Text.sayable why.numbers <;> simp [orFault, bind, Except.bind]

/-- A list of evaluations answers if each of them does. -/
theorem mapM_eq_ok {f : α → Except ε β} {l : List α} {bs : List β} :
    l.mapM f = .ok bs ↔ List.Forall₂ (fun a b => f a = .ok b) l bs := by
  induction l generalizing bs with
  | nil =>
    rw [List.mapM_nil, List.forall₂_nil_left_iff]
    exact ⟨fun h => (Except.ok.inj h).symm, fun h => h ▸ rfl⟩
  | cons a l ih =>
    rw [List.mapM_cons, bind_eq_ok, List.forall₂_cons_left_iff]
    constructor
    · intro given
      obtain ⟨b, head, tail⟩ := given
      obtain ⟨rest, answered, equal⟩ := bind_eq_ok.mp tail
      exact ⟨b, rest, head, ih.mp answered, (Except.ok.inj equal).symm⟩
    · intro given
      obtain ⟨b, rest, head, answered, rfl⟩ := given
      exact ⟨b, head, bind_eq_ok.mpr ⟨rest, ih.mpr answered, rfl⟩⟩

/-- A list of evaluations fails by the first one that fails. -/
theorem mapM_eq_error {f : α → Except ε β} {l : List α} {e : ε} :
    l.mapM f = .error e ↔
      ∃ before a after, l = before ++ a :: after ∧ (∀ x ∈ before, ∃ b, f x = .ok b) ∧
        f a = .error e := by
  induction l with
  | nil => simp [pure, Except.pure]
  | cons x l ih =>
    rw [List.mapM_cons, bind_eq_error]
    constructor
    · intro given
      rcases given with head | ⟨b, head, tail⟩
      · exact ⟨[], x, l, rfl, by simp, head⟩
      · rcases bind_eq_error.mp tail with failed | ⟨rest, _, impossible⟩
        · obtain ⟨before, a, after, rfl, answered, failed⟩ := ih.mp failed
          refine ⟨x :: before, a, after, rfl, ?_, failed⟩
          exact List.forall_mem_cons.mpr ⟨⟨b, head⟩, answered⟩
        · cases impossible
    · intro given
      obtain ⟨before, a, after, split, answered, failed⟩ := given
      cases before with
      | nil =>
        obtain ⟨rfl, rfl⟩ := List.cons.inj split
        exact Or.inl failed
      | cons y before =>
        obtain ⟨rfl, rfl⟩ := List.cons.inj split
        obtain ⟨⟨b, head⟩, answered⟩ := List.forall_mem_cons.mp answered
        refine Or.inr ⟨b, head, bind_eq_error.mpr (Or.inl (ih.mpr ?_))⟩
        exact ⟨before, a, after, rfl, answered, failed⟩

theorem exists_mapM_eq_ok {f : α → Except ε β} {l : List α} :
    (∃ bs, l.mapM f = .ok bs) ↔ ∀ a ∈ l, ∃ b, f a = .ok b := by
  simp only [mapM_eq_ok]
  induction l with
  | nil => simp
  | cons a l ih =>
    rw [List.forall_mem_cons, ← ih]
    simp only [List.forall₂_cons_left_iff]
    constructor
    · intro given
      obtain ⟨_, b, rest, head, tail, rfl⟩ := given
      exact ⟨⟨b, head⟩, rest, tail⟩
    · intro given
      obtain ⟨⟨b, head⟩, rest, tail⟩ := given
      exact ⟨b :: rest, b, rest, head, tail, rfl⟩

/-- What the answers hold together is what some answer holds. -/
theorem mem_flatten_of_mapM {f : α → Except ε (List β)} {l : List α} {bs : List (List β)}
    (answered : l.mapM f = .ok bs) (x : β) :
    x ∈ bs.flatten ↔ ∃ a ∈ l, ∃ b, f a = .ok b ∧ x ∈ b := by
  have each := mapM_eq_ok.mp answered
  clear answered
  induction each with
  | nil => simp
  | @cons a b l bs head _ ih => simp [ih, head]

end Crontab
