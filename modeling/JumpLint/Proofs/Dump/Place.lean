import JumpLint.Dump
import Mathlib.Data.List.Basic

/-!
# Places in a dump

A child in a dump is found by an address, as an element in a tree is.  Messages write the address
out, one child number after the other; here it is shown that the text leaves no doubt about the
address.

## What is here

* `Dump.Node.at?`, `Dump.at?`: the child that an address leads to; `Dump.rowAt?` is the same for
  children in a row.
* `Dump.wayText_injective`: different addresses are written differently.
-/

set_option autoImplicit false
namespace JumpLint
namespace Dump

/-! ## What addresses lead to -/

namespace Node

/-- The name of the kind of a child. -/
def kind : Node → Text
  | .mk kind _ _ _ _ => kind

/-- The content of a child, if it has some. -/
def content : Node → Option Text
  | .mk _ content _ _ _ => content

/-- The line and column of a child, as far as they are given. -/
def location : Node → Location
  | .mk _ _ line column _ => ⟨line, column⟩

/-- The children of a child. -/
def children : Node → List Node
  | .mk _ _ _ _ children => children

/-- The child that an address leads to from here. -/
def at? (n : Node) : Address → Option Node
  | [] => some n
  | i :: more =>
    match n.children[i]? with
    | some child => child.at? more
    | none => none

theorem at?_nil (n : Node) : n.at? [] = some n := rfl

end Node

/-- The child that an address leads to from children in a row; the empty one leads to none. -/
def rowAt? (row : List Node) : Address → Option Node
  | [] => none
  | i :: more => row[i]?.bind fun child => child.at? more

/-- The child that an address leads to from the root, which is no child itself. -/
def at? (dump : Dump) (a : Address) : Option Node := rowAt? dump.children a

theorem Node.at?_cons (n : Node) (i : Nat) (more : Address) :
    n.at? (i :: more) = rowAt? n.children (i :: more) := by
  rw [at?, rowAt?]
  cases n.children[i]? <;> rfl

/-! ## Ways -/

/-- What stands behind a child number in a way. -/
def restText : Address → List Char
  | [] => []
  | a => '.' :: (wayText a).toList

theorem toList_wayText_cons (i : Nat) (a : Address) :
    (wayText (i :: a)).toList =
      "children[".toList ++ (Nat.toDigits 10 i ++ ']' :: restText a) := by
  cases a with
  | nil =>
    simp [wayText, restText, Nat.toString_eq_repr]
  | cons j more =>
    simp [wayText, restText, String.intercalate_cons_cons, Nat.toString_eq_repr]

theorem eq_of_restText_eq {a b : Address} (h : ∀ ⦃c⦄, wayText a = wayText c → a = c)
    (hrest : restText a = restText b) : a = b := by
  cases a with
  | nil =>
    cases b with
    | nil => rfl
    | cons => exact absurd hrest.symm (List.cons_ne_nil _ _)
  | cons =>
    cases b with
    | nil => exact absurd hrest (List.cons_ne_nil _ _)
    | cons => exact h (String.toList_injective (List.cons.inj hrest).2)

/-- A number ends at the first character that is no digit. -/
theorem takeWhile_isDigit_number (i : Nat) (s : List Char) :
    (Nat.toDigits 10 i ++ ']' :: s).takeWhile Char.isDigit = Nat.toDigits 10 i := by
  have hdigits : ∀ c ∈ Nat.toDigits 10 i, c.isDigit = true :=
    fun c hc => Nat.isDigit_of_mem_toDigits (by decide) (by decide) hc
  rw [List.takeWhile_append_of_pos hdigits, List.takeWhile_cons_of_neg (by decide),
    List.append_nil]

theorem number_append_inj {i j : Nat} {s t : List Char}
    (h : Nat.toDigits 10 i ++ ']' :: s = Nat.toDigits 10 j ++ ']' :: t) : i = j ∧ s = t := by
  have hdigits := congrArg (List.takeWhile Char.isDigit) h
  rw [takeWhile_isDigit_number, takeWhile_isDigit_number] at hdigits
  have hvalue := congrArg (Nat.ofDigitChars 10 · 0) hdigits
  simp only [Nat.ofDigitChars_ten_toDigits] at hvalue
  rw [hdigits] at h
  exact ⟨hvalue, (List.cons.inj (List.append_cancel_left h)).2⟩

/-- **Different addresses are written differently.** -/
theorem wayText_injective : Function.Injective wayText := by
  intro a b h
  induction a generalizing b with
  | nil =>
    cases b with
    | nil => rfl
    | cons j more => simp [wayText] at h
  | cons i more ih =>
    cases b with
    | nil => simp [wayText] at h
    | cons j more' =>
      have hlists := congrArg String.toList h
      rw [toList_wayText_cons, toList_wayText_cons] at hlists
      obtain ⟨hij, hrest⟩ := number_append_inj (List.append_cancel_left hlists)
      rw [hij, eq_of_restText_eq ih hrest]

example : wayText [0, 12] = "children[0].children[12]" := by decide +kernel

end Dump
end JumpLint
