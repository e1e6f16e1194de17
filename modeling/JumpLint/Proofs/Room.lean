import JumpLint.Proofs.Except
import Mathlib.Data.Nat.Find

/-!
# Recursions with room for so many levels

A recursion that comes to the end of its room stops there with an error of its own.  More room may
bring it to another result.  But a result that was reached without that error had room enough, and
more of it makes no difference; so there is an amount of room that a recursion needs, if any amount
is enough.

## What is here

* `WithRoom`: a result with some room and the one with more; `WithRoom.bind` and the lemmas around
  it say that steps in a row are compared step by step.
* `TakesRoom`: a recursion for which some amount of room is enough.
* `NeedsRoom`: how much room a recursion needs; `NeedsRoom.eq_full_iff` says when there is too
  little, and `TakesRoom.exists_needsRoom` that it is some amount.
-/

set_option autoImplicit false
namespace JumpLint

variable {ε α β : Type} {full : ε} {P : ε → Prop} {isEnough : Prop}

/-- A result `x` with some room and the result `y` with more.  The errors of `x` are those that `P`
holds of and, if the room need not be enough, the error `full` that says so; unless `x` is that
error, `y` is the same as `x`. -/
structure WithRoom (full : ε) (P : ε → Prop) (isEnough : Prop) (x y : Except ε α) : Prop where
  failsOnly : FailsOnly (fun e => P e ∨ e = full ∧ ¬isEnough) x
  same : x = .error full ∨ y = x

namespace WithRoom

variable {x y : Except ε α}

/-- What takes no room. -/
theorem of_failsOnly (h : FailsOnly P x) : WithRoom full P isEnough x x :=
  ⟨h.mono fun _ => .inl, .inr rfl⟩

theorem ok (a : α) : WithRoom full P isEnough (.ok a) (.ok a) := of_failsOnly (.ok a)

theorem error {e : ε} (h : P e) :
    WithRoom full P isEnough (.error e : Except ε α) (.error e) :=
  of_failsOnly (.error h)

/-- No room is left. -/
theorem noRoom (h : ¬isEnough) : WithRoom full P isEnough (.error full) y :=
  ⟨.error (.inr ⟨rfl, h⟩), .inl rfl⟩

/-- What was enough for less is so for more. -/
theorem of_imp {other : Prop} (h : WithRoom full P isEnough x y) (himp : other → isEnough) :
    WithRoom full P other x y :=
  ⟨h.failsOnly.mono fun _ => Or.imp_right (And.imp_right (mt himp)), h.same⟩

theorem ite {c : Prop} [Decidable c] {x' y' : Except ε α} (h : WithRoom full P isEnough x y)
    (h' : WithRoom full P isEnough x' y') :
    WithRoom full P isEnough (if c then x else x') (if c then y else y') := by
  split
  · exact h
  · exact h'

/-- Errors with other names. -/
theorem mapError {δ : Type} {other : δ} {Q : δ → Prop} {f : ε → δ}
    (h : WithRoom full P isEnough x y) (hfull : f full = other) (hf : ∀ e, P e → Q (f e)) :
    WithRoom other Q isEnough (x.mapError f) (y.mapError f) := by
  constructor
  case failsOnly =>
    refine .mapError (h.failsOnly.mono ?_)
    rintro e (he | ⟨rfl, hroom⟩)
    · exact .inl (hf e he)
    · exact .inr ⟨hfull, hroom⟩
  case same =>
    refine h.same.imp (fun heq => ?_) (congrArg _)
    rw [heq, ← hfull]
    rfl

/-- Steps in a row are compared step by step. -/
theorem bind {f g : α → Except ε β} (h : WithRoom full P isEnough x y)
    (hfg : ∀ a, WithRoom full P isEnough (f a) (g a)) :
    WithRoom full P isEnough (x >>= f) (y >>= g) := by
  refine ⟨h.failsOnly.bind fun a => (hfg a).failsOnly, ?_⟩
  rcases h.same with rfl | rfl
  · exact .inl rfl
  · cases y with
    | error e => exact .inr rfl
    | ok a => exact (hfg a).same

end WithRoom

/-! ## The room that is needed -/

/-- A recursion needs this much room: with less it ends in the error `full`, and otherwise it comes
to one and the same result, which is not that error. -/
structure NeedsRoom (full : ε) (f : Nat → Except ε α) (need : Nat) : Prop where
  eq_full : ∀ room < need, f room = .error full
  same : ∀ room, need ≤ room → f room = f need
  ne_full : f need ≠ .error full

namespace NeedsRoom

variable {f : Nat → Except ε α} {need room : Nat}

/-- **There is too little room** exactly if there is less than is needed. -/
theorem eq_full_iff (h : NeedsRoom full f need) : f room = .error full ↔ room < need := by
  refine ⟨fun hfull => ?_, h.eq_full room⟩
  by_contra hle
  exact h.ne_full ((h.same room (Nat.le_of_not_lt hle)).symm.trans hfull)

end NeedsRoom

/-- A recursion takes room: some amount is enough, and more makes no difference.  Its errors are
those that `P` holds of, and `full` for want of room. -/
def TakesRoom (full : ε) (P : ε → Prop) (f : Nat → Except ε α) : Prop :=
  ∃ enough, ∀ room more, room ≤ more → WithRoom full P (enough ≤ room) (f room) (f more)

namespace TakesRoom

variable {f : Nat → Except ε α}

theorem failsOnly (h : TakesRoom full P f) (room : Nat) :
    FailsOnly (fun e => P e ∨ e = full) (f room) := by
  obtain ⟨enough, h⟩ := h
  exact (h room room (Nat.le_refl room)).failsOnly.mono fun e => Or.imp_right And.left

theorem mono {Q : ε → Prop} (h : TakesRoom full P f) (hPQ : ∀ e, P e → Q e) :
    TakesRoom full Q f := by
  obtain ⟨enough, h⟩ := h
  refine ⟨enough, fun room more hle => ⟨?_, (h room more hle).same⟩⟩
  exact (h room more hle).failsOnly.mono fun e => Or.imp_left (hPQ e)

theorem mapError {δ : Type} {other : δ} {Q : δ → Prop} {g : ε → δ} (h : TakesRoom full P f)
    (hfull : g full = other) (hg : ∀ e, P e → Q (g e)) :
    TakesRoom other Q fun room => (f room).mapError g := by
  obtain ⟨enough, h⟩ := h
  exact ⟨enough, fun room more hle => (h room more hle).mapError hfull hg⟩

/-- What is done after it without room. -/
theorem bind {g : α → Except ε β} (h : TakesRoom full P f) (hg : ∀ a, FailsOnly P (g a)) :
    TakesRoom full P fun room => f room >>= g := by
  obtain ⟨enough, h⟩ := h
  exact ⟨enough, fun room more hle => (h room more hle).bind fun a => .of_failsOnly (hg a)⟩

/-- **There is an amount that is needed.** -/
theorem exists_needsRoom (h : TakesRoom full P f) (hP : ¬P full) :
    ∃ need, NeedsRoom full f need := by
  classical
  obtain ⟨enough, h⟩ := h
  have henough : ∃ room, f room ≠ .error full := by
    refine ⟨enough, fun hfull => ?_⟩
    rcases (h enough enough (Nat.le_refl _)).failsOnly full hfull with hfault | ⟨-, hroom⟩
    · exact hP hfault
    · exact hroom (Nat.le_refl enough)
  refine ⟨Nat.find henough, ?_⟩
  constructor
  case eq_full => exact fun room hroom => not_not.1 (Nat.find_min henough hroom)
  case same =>
    exact fun room hroom => (h _ room hroom).same.resolve_left (Nat.find_spec henough)
  case ne_full => exact Nat.find_spec henough

end TakesRoom
end JumpLint
