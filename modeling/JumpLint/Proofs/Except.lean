import Mathlib.Data.List.Forall2

/-!
# Results that may be errors

A step that is taken with the result of another one gives a value when both do.

## What is here

* `map_eq_ok_iff`, `bind_eq_ok_iff`: when a result that was changed, or put into another step, is a
  value; `map_eq_error_iff`, `bind_eq_error_iff`: when it is an error.
* `mapError_eq_ok_iff`, `mapError_eq_error_iff`: the same for a result with its errors renamed.
* `mapM_eq_ok_iff`, `exists_of_mem_mapM`: the same for a step that is taken with each item of a
  row; `mapM_eq_error_iff` says when it is an error, and which one; `mapM_mapError` renames it, and
  `mapM_congr` puts another step in its place.
* `FailsOnly`: which errors there can be; `FailsOnly.bind`, `FailsOnly.mapM`: that they are those of
  the steps.
* `Gives`: which errors and which values there can be; `Gives.bind`, `Gives.foldlM`.
-/

set_option autoImplicit false
namespace JumpLint

variable {ε α β : Type} {x : Except ε α} {b : β}

theorem map_eq_ok_iff {f : α → β} : x.map f = .ok b ↔ ∃ a, x = .ok a ∧ f a = b := by
  cases x with
  | error => exact iff_of_false nofun nofun
  | ok a =>
    constructor
    · intro h
      exact ⟨a, rfl, Except.ok.inj h⟩
    · rintro ⟨c, hc, rfl⟩
      cases hc
      rfl

theorem bind_eq_ok_iff {f : α → Except ε β} : x >>= f = .ok b ↔ ∃ a, x = .ok a ∧ f a = .ok b := by
  cases x with
  | error => exact iff_of_false nofun nofun
  | ok a =>
    constructor
    · exact fun h => ⟨a, rfl, h⟩
    · rintro ⟨c, hc, h⟩
      cases hc
      exact h

theorem mapM_eq_ok_iff {f : α → Except ε β} {items : List α} {values : List β} :
    items.mapM f = .ok values ↔ List.Forall₂ (fun x y => f x = .ok y) items values := by
  induction items generalizing values with
  | nil =>
    rw [List.mapM_nil, List.forall₂_nil_left_iff]
    exact ⟨fun h => (Except.ok.inj h).symm, fun h => h ▸ rfl⟩
  | cons x more ih =>
    rw [List.mapM_cons, bind_eq_ok_iff, List.forall₂_cons_left_iff]
    constructor
    · rintro ⟨y, hy, hrest⟩
      obtain ⟨rest, hmore, hvalues⟩ := bind_eq_ok_iff.1 hrest
      exact ⟨y, rest, hy, ih.1 hmore, (Except.ok.inj hvalues).symm⟩
    · rintro ⟨y, rest, hy, hmore, rfl⟩
      exact ⟨y, hy, bind_eq_ok_iff.2 ⟨rest, ih.2 hmore, rfl⟩⟩

/-- Steps that are the same on all items of a row. -/
theorem mapM_congr {f g : α → Except ε β} {items : List α} (h : ∀ a ∈ items, f a = g a) :
    items.mapM f = items.mapM g := by
  induction items with
  | nil => rfl
  | cons a more ih =>
    simp only [List.mapM_cons, h a List.mem_cons_self,
      ih fun b hb => h b (List.mem_cons_of_mem a hb)]

theorem exists_of_mem_mapM {f : α → Except ε β} {items : List α} {values : List β}
    (h : items.mapM f = .ok values) {y : β} (hy : y ∈ values) : ∃ x ∈ items, f x = .ok y := by
  induction mapM_eq_ok_iff.1 h with
  | nil => exact absurd hy List.not_mem_nil
  | @cons x value items values hx hrest ih =>
    rcases List.mem_cons.1 hy with rfl | hy
    · exact ⟨x, List.mem_cons_self, hx⟩
    · obtain ⟨x, hmem, hx⟩ := ih (mapM_eq_ok_iff.2 hrest) hy
      exact ⟨x, List.mem_cons_of_mem _ hmem, hx⟩

theorem map_eq_error_iff {f : α → β} {e : ε} : x.map f = .error e ↔ x = .error e := by
  cases x with
  | error => constructor <;> (rintro ⟨⟩; rfl)
  | ok a => exact iff_of_false nofun nofun

theorem bind_eq_error_iff {f : α → Except ε β} {e : ε} :
    x >>= f = .error e ↔ x = .error e ∨ ∃ a, x = .ok a ∧ f a = .error e := by
  cases x with
  | error =>
    constructor
    · rintro ⟨⟩
      exact .inl rfl
    · rintro (⟨⟨⟩⟩ | ⟨a, ha, -⟩)
      · rfl
      · cases ha
  | ok a =>
    refine ⟨fun h => .inr ⟨a, rfl, h⟩, ?_⟩
    rintro (h | ⟨b, hb, h⟩)
    · cases h
    · cases hb
      exact h

theorem mapError_eq_ok_iff {δ : Type} {f : ε → δ} {a : α} : x.mapError f = .ok a ↔ x = .ok a := by
  cases x with
  | error => exact iff_of_false nofun nofun
  | ok b => constructor <;> (rintro ⟨⟩; rfl)

theorem mapError_eq_error_iff {δ : Type} {f : ε → δ} {e : δ} :
    x.mapError f = .error e ↔ ∃ e', x = .error e' ∧ f e' = e := by
  cases x with
  | ok => exact iff_of_false nofun nofun
  | error e' =>
    constructor
    · rintro ⟨⟩
      exact ⟨e', rfl, rfl⟩
    · rintro ⟨_, ⟨⟩, rfl⟩
      rfl

/-- **The first item with an error** gives the error of the row. -/
theorem mapM_eq_error_iff {f : α → Except ε β} {items : List α} {e : ε} :
    items.mapM f = .error e ↔ ∃ before x after, items = before ++ x :: after ∧
      (∀ y ∈ before, ∃ b, f y = .ok b) ∧ f x = .error e := by
  induction items with
  | nil =>
    refine iff_of_false nofun ?_
    rintro ⟨before, x, after, hnil, -⟩
    exact List.append_ne_nil_of_right_ne_nil before (List.cons_ne_nil x after) hnil.symm
  | cons x more ih =>
    have hrest : ∀ b, (more.mapM f >>= fun bs => pure (b :: bs)) = .error e ↔
        more.mapM f = .error e := fun b => map_eq_error_iff (f := List.cons b)
    simp only [List.mapM_cons, bind_eq_error_iff, hrest]
    constructor
    · rintro (hx | ⟨b, hx, hmore⟩)
      · exact ⟨[], x, more, rfl, nofun, hx⟩
      · obtain ⟨before, y, after, rfl, hbefore, hy⟩ := ih.1 hmore
        exact ⟨x :: before, y, after, rfl, List.forall_mem_cons.2 ⟨⟨b, hx⟩, hbefore⟩, hy⟩
    · rintro ⟨before, y, after, hitems, hbefore, hy⟩
      cases before with
      | nil =>
        obtain ⟨rfl, -⟩ := List.cons.inj hitems
        exact .inl hy
      | cons first rest =>
        obtain ⟨rfl, rfl⟩ := List.cons.inj hitems
        obtain ⟨⟨b, hx⟩, hbefore⟩ := List.forall_mem_cons.1 hbefore
        exact .inr ⟨b, hx, ih.2 ⟨rest, y, after, rfl, hbefore, hy⟩⟩

theorem exists_mapM_eq_error_iff {f : α → Except ε β} {items : List α} :
    (∃ e, items.mapM f = .error e) ↔ ∃ x ∈ items, ∃ e, f x = .error e := by
  induction items with
  | nil => exact iff_of_false nofun nofun
  | cons x more ih =>
    rw [List.mapM_cons, List.exists_mem_cons_iff]
    cases hx : f x with
    | error e => exact iff_of_true ⟨e, rfl⟩ (.inl ⟨e, rfl⟩)
    | ok b =>
      have hrest : (∃ e, (more.mapM f).map (List.cons b) = .error e) ↔
          ∃ e, more.mapM f = .error e := exists_congr fun _ => map_eq_error_iff
      exact hrest.trans (ih.trans (or_iff_right nofun).symm)

/-- Errors that are renamed for each item are renamed for the row. -/
theorem mapM_mapError {δ : Type} (f : α → Except ε β) (g : ε → δ) (items : List α) :
    (items.mapM fun x => (f x).mapError g) = (items.mapM f).mapError g := by
  induction items with
  | nil => rfl
  | cons x more ih =>
    rw [List.mapM_cons, List.mapM_cons, ih]
    cases f x with
    | error e => rfl
    | ok b => cases more.mapM f <;> rfl

/-! ## Errors -/

/-- A result is a value, or an error that `P` holds of. -/
def FailsOnly (P : ε → Prop) (x : Except ε α) : Prop := ∀ e, x = .error e → P e

namespace FailsOnly

variable {P Q : ε → Prop} {x : Except ε α} {e : ε}

theorem ok (a : α) : FailsOnly P (.ok a) := nofun

theorem error (h : P e) : FailsOnly P (.error e : Except ε α) := by
  rintro _ ⟨⟩
  exact h

theorem mono (h : FailsOnly P x) (hPQ : ∀ e, P e → Q e) : FailsOnly Q x :=
  fun e he => hPQ e (h e he)

theorem ite {c : Prop} [Decidable c] {y : Except ε α} (hx : FailsOnly P x) (hy : FailsOnly P y) :
    FailsOnly P (if c then x else y) := by
  split
  · exact hx
  · exact hy

/-- Of two steps one after the other either one may fail. -/
theorem bind {f : α → Except ε β} (hx : FailsOnly P x) (hf : ∀ a, FailsOnly P (f a)) :
    FailsOnly P (x >>= f) := by
  cases x with
  | ok a => exact hf a
  | error e => exact .error (hx e rfl)

theorem map {f : α → β} (hx : FailsOnly P x) : FailsOnly P (x.map f) := by
  cases x with
  | ok a => exact .ok (f a)
  | error e => exact .error (hx e rfl)

theorem mapError {δ : Type} {P : δ → Prop} {f : ε → δ} (hx : FailsOnly (fun e => P (f e)) x) :
    FailsOnly P (x.mapError f) := by
  cases x with
  | ok a => exact .ok a
  | error e => exact .error (hx e rfl)

theorem mapM {f : α → Except ε β} (hf : ∀ a, FailsOnly P (f a)) (items : List α) :
    FailsOnly P (items.mapM f) := by
  induction items with
  | nil => exact .ok []
  | cons a more ih =>
    rw [List.mapM_cons]
    exact .bind (hf a) fun b => .bind ih fun bs => .ok (b :: bs)

end FailsOnly

/-! ## Errors and values -/

/-- A result is an error that `P` holds of, or a value that `Q` holds of. -/
structure Gives (P : ε → Prop) (Q : α → Prop) (x : Except ε α) : Prop where
  failsOnly : FailsOnly P x
  value : ∀ a, x = .ok a → Q a

namespace Gives

variable {P : ε → Prop} {Q : α → Prop} {R : β → Prop}

theorem ok {a : α} (h : Q a) : Gives P Q (.ok a) := by
  refine ⟨.ok a, ?_⟩
  rintro _ ⟨⟩
  exact h

theorem error {e : ε} (h : P e) : Gives P Q (.error e) := ⟨.error h, nofun⟩

theorem mono {P' : ε → Prop} {Q' : α → Prop} (h : Gives P Q x) (hP : ∀ e, P e → P' e)
    (hQ : ∀ a, Q a → Q' a) : Gives P' Q' x :=
  ⟨h.failsOnly.mono hP, fun a ha => hQ a (h.value a ha)⟩

theorem bind {f : α → Except ε β} (hx : Gives P Q x) (hf : ∀ a, Q a → Gives P R (f a)) :
    Gives P R (x >>= f) := by
  cases x with
  | ok a => exact hf a (hx.value a rfl)
  | error e => exact .error (hx.failsOnly e rfl)

theorem failsOnly_bind {f : α → Except ε β} (hx : Gives P Q x) (hf : ∀ a, Q a → FailsOnly P (f a)) :
    FailsOnly P (x >>= f) := by
  cases x with
  | ok a => exact hf a (hx.value a rfl)
  | error e => exact .error (hx.failsOnly e rfl)

theorem map {f : α → β} (hx : Gives P Q x) (hf : ∀ a, Q a → R (f a)) : Gives P R (f <$> x) := by
  cases x with
  | ok a => exact .ok (hf a (hx.value a rfl))
  | error e => exact .error (hx.failsOnly e rfl)

/-- What each step keeps, all of them keep. -/
theorem foldlM {f : β → α → Except ε β} (hf : ∀ b a, R b → Gives P R (f b a)) {b : β} (hb : R b)
    (items : List α) : Gives P R (items.foldlM f b) := by
  induction items generalizing b with
  | nil => exact .ok hb
  | cons a more ih =>
    rw [List.foldlM_cons]
    exact (hf b a hb).bind fun _ => ih

end Gives
end JumpLint
