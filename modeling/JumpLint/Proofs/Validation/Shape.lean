import JumpLint.Proofs.Except
import JumpLint.Validation
import Mathlib.Data.List.Forall2

/-!
# Data of the expected shape

A check of data either gives a value or collects all that is wrong.  Here it is said when checks
that are put together give a value: when each of their parts does.

## What is here

* `Checked.within_eq_ok_iff`, `Checked.ap_eq_ok_iff`, `Checked.each_eq_ok_iff`: checks of a part, of
  two parts and of items in a row.
* `required_eq_ok_iff`, `optional_eq_ok_iff`: fields.
-/

set_option autoImplicit false
namespace JumpLint

/-! ## Parts -/

namespace Checked

variable {α β : Type}

theorem within_eq_ok_iff {step : Step} {x : Checked α} {a : α} :
    within step x = .ok a ↔ x = .ok a := mapError_eq_ok_iff

theorem ap_eq_ok_iff {f : Checked (α → β)} {x : Checked α} {b : β} :
    ap f x = .ok b ↔ ∃ g a, f = .ok g ∧ x = .ok a ∧ g a = b := by
  constructor
  · intro h
    cases f with
    | error => cases x <;> cases h
    | ok g =>
      cases x with
      | error => cases h
      | ok a => exact ⟨g, a, rfl, rfl, Except.ok.inj h⟩
  · rintro ⟨g, a, rfl, rfl, rfl⟩
    rfl

theorem eachFrom_eq_ok_iff {check : α → Checked β} {i : Nat} {items : List α} {values : List β} :
    eachFrom check i items = .ok values ↔
      List.Forall₂ (fun x y => check x = .ok y) items values := by
  induction items generalizing i values with
  | nil =>
    rw [List.forall₂_nil_left_iff]
    exact ⟨fun h => (Except.ok.inj h).symm, fun h => h ▸ rfl⟩
  | cons x more ih =>
    rw [eachFrom, ap_eq_ok_iff, List.forall₂_cons_left_iff]
    constructor
    · rintro ⟨g, rest, hg, hrest, rfl⟩
      obtain ⟨y, hy, rfl⟩ := map_eq_ok_iff.1 hg
      exact ⟨y, rest, within_eq_ok_iff.1 hy, ih.1 hrest, rfl⟩
    · rintro ⟨y, rest, hy, hrest, rfl⟩
      exact ⟨List.cons y, rest, map_eq_ok_iff.2 ⟨y, within_eq_ok_iff.2 hy, rfl⟩, ih.2 hrest, rfl⟩

/-- Items in a row are of the expected shape when each of them is. -/
theorem each_eq_ok_iff {check : α → Checked β} {items : List α} {values : List β} :
    each check items = .ok values ↔ List.Forall₂ (fun x y => check x = .ok y) items values :=
  eachFrom_eq_ok_iff

end Checked

/-! ## Fields -/

section Fields

variable {α : Type} {name : String} {check : Datum → Checked α} {entries : List (Datum × Datum)}
  {a : α}

theorem required_eq_ok_iff :
    required name check entries = .ok a ↔
      ∃ d, Datum.lookup? name entries = some d ∧ check d = .ok a := by
  rw [required, Checked.within_eq_ok_iff]
  cases Datum.lookup? name entries with
  | none => exact iff_of_false nofun nofun
  | some d => simp

theorem optional_eq_ok_iff {default : α} :
    optional name default check entries = .ok a ↔
      (Datum.lookup? name entries = none ∧ default = a) ∨
        ∃ d, Datum.lookup? name entries = some d ∧ check d = .ok a := by
  rw [optional]
  cases Datum.lookup? name entries with
  | none => simp
  | some d => simp [Checked.within_eq_ok_iff]

end Fields

end JumpLint
