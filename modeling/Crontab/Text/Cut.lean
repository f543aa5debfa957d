import Crontab.Text.Blank

/-!
# Cutting a text at a character

`cut` splits a text at the first occurrence of a character, `pieces` at every one. `cut_eq_some`
says that the two parts with the character between them are the text, and that the first part
holds no further occurrence.
-/

namespace Crontab.Text

/-- The text before and the text after the first `mark`; `none` where there is no `mark`. -/
def cut (mark : Char) (cs : List Char) : Option (List Char × List Char) :=
  match cs.dropWhile (· != mark) with
  | [] => none
  | _ :: after => some (cs.takeWhile (· != mark), after)

theorem cut_eq_some {mark : Char} {cs before after : List Char}
    (h : cut mark cs = some (before, after)) :
    cs = before ++ mark :: after ∧ mark ∉ before := by
  unfold cut at h
  split at h
  · simp at h
  · next d rest hd =>
    simp only [Option.some.injEq, Prod.mk.injEq] at h
    obtain ⟨rfl, rfl⟩ := h
    obtain rfl : d = mark := by simpa using head_dropWhile hd
    have hall := List.all_takeWhile (p := (· != d)) (l := cs)
    refine ⟨?_, fun hm => ?_⟩
    · rw [← hd, List.takeWhile_append_dropWhile]
    · rw [List.all_eq_true] at hall
      simpa using hall d hm

theorem length_lt_of_cut {mark : Char} {cs before after : List Char}
    (h : cut mark cs = some (before, after)) : after.length < cs.length := by
  rw [(cut_eq_some h).1]
  simp
  omega

/-- The texts between the occurrences of `mark`; a text without any is its only piece. -/
def pieces (mark : Char) (cs : List Char) : List (List Char) :=
  match h : cut mark cs with
  | none => [cs]
  | some (before, after) =>
    have := length_lt_of_cut h
    before :: pieces mark after
termination_by cs.length

end Crontab.Text
