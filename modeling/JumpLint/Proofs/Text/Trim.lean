import JumpLint.Text.Blank
import Mathlib.Data.List.TakeWhile

/-!
# Trimming

What is trimmed off stands at the ends.  A text between ends of that kind is trimmed like the text
alone, and a text that has nothing of the kind stays as it is.

## What is here

* `Text.exists_trim`: a text is what is trimmed off in front, what is left, and what is trimmed off
  behind.
* `Text.trim_append`, `Text.trim_eq_self`, `Text.exists_trim_cons`: what is left.
-/

set_option autoImplicit false
namespace JumpLint
namespace Text

variable {α : Type} {p : α → Bool}

theorem trim_eq_self {s : List α} (h : ∀ x ∈ s, p x = false) : trim p s = s := by
  have hfront : s.dropWhile p = s := List.dropWhile_eq_self_iff.2 fun hl => by simp [h]
  have hback : s.reverse.dropWhile p = s.reverse :=
    List.dropWhile_eq_self_iff.2 fun hl => by simp [h]
  rw [trim, hfront, hback, List.reverse_reverse]

theorem trim_append {before after : List α} (hbefore : ∀ x ∈ before, p x = true)
    (hafter : ∀ x ∈ after, p x = true) (s : List α) :
    trim p (before ++ s ++ after) = trim p s := by
  have hend : (after.reverse.dropWhile p) = [] :=
    List.dropWhile_eq_nil_iff.2 fun x hx => hafter x (List.mem_reverse.1 hx)
  rw [trim, trim, List.append_assoc, List.dropWhile_append_of_pos hbefore, List.dropWhile_append]
  split
  · rename_i hempty
    have hgone : after.dropWhile p = [] := List.dropWhile_eq_nil_iff.2 hafter
    rw [List.isEmpty_iff.1 hempty, hgone]
  · rw [List.reverse_append,
      List.dropWhile_append_of_pos fun x hx => hafter x (List.mem_reverse.1 hx)]

/-- **What is trimmed off** stands at the ends. -/
theorem exists_trim (p : α → Bool) (s : List α) :
    ∃ before after, s = before ++ trim p s ++ after ∧ (∀ x ∈ before, p x = true) ∧
      ∀ x ∈ after, p x = true := by
  refine ⟨s.takeWhile p, ((s.dropWhile p).reverse.takeWhile p).reverse, ?_,
    fun x hx => List.mem_takeWhile_imp hx,
    fun x hx => List.mem_takeWhile_imp (List.mem_reverse.1 hx)⟩
  rw [trim, List.append_assoc, ← List.reverse_append, List.takeWhile_append_dropWhile,
    List.reverse_reverse, List.takeWhile_append_dropWhile]

/-- What begins with something else still does. -/
theorem exists_trim_cons {x : α} (hx : p x = false) (s : List α) :
    ∃ t, trim p (x :: s) = x :: t := by
  rw [trim, List.dropWhile_cons_of_neg (by simp [hx]), List.reverse_cons, List.dropWhile_append]
  split
  · exact ⟨[], by rw [List.dropWhile_cons_of_neg (by simp [hx])]; rfl⟩
  · exact ⟨_, List.reverse_append⟩

end Text
end JumpLint
