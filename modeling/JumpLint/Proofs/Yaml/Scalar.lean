import JumpLint.Proofs.Except
import JumpLint.Yaml.Scalar

/-!
# What can be wrong with a scalar

A text that is to be of a type may be no value of it.  The error then says what the text should have
stood for.  It is never an error of the grammar or of the bytes, so it can be told from these.

## What is here

* `Error.IsOfScalar`: the error of a text that has no value of a type.
* `Error.isAboutText`, `Scalar.FailsAboutText`: errors of this kind, and that the readers of each
  type have no others.
* `Error.IsOfScalar.isAboutText`: the errors of scalars are of this kind.
-/

set_option autoImplicit false
namespace JumpLint
namespace Yaml

open Scalar (coreTag)

/-! ## Kinds of errors -/

/-- The error of a text that has no value of the type with a tag. -/
inductive Error.IsOfScalar : String → Text → Error → Prop where
  | bool {text : Text} {e : Error} (h : Scalar.boolOf text = .error e) :
      IsOfScalar (coreTag "bool") text e
  | int {text : Text} {e : Error} (h : Scalar.intOf text = .error e) :
      IsOfScalar (coreTag "int") text e
  | float {text : Text} {e : Error} (h : Scalar.floatOf text = .error e) :
      IsOfScalar (coreTag "float") text e
  | moment {text : Text} {e : Error} (h : Scalar.momentOf text = .error e) :
      IsOfScalar (coreTag "timestamp") text e

/-- Whether an error is about what a text should stand for. -/
def Error.isAboutText : Error → Bool
  | .malformed | .notUtf8 | .tooDeep | .codePoint _ | .momentOfMapping => false
  | _ => true

/-! ## Readers -/

namespace Scalar

/-- A reader of scalars fails in no other way.  Only bytes are different: what cannot be read as
such is malformed. -/
abbrev FailsAboutText {α : Type} (x : Except Error α) : Prop :=
  FailsOnly (fun e => e.isAboutText = true) x

theorem failsAboutText_boolOf (text : Text) : FailsAboutText (boolOf text) := by
  rw [boolOf]
  dsimp only
  split
  · exact .ok _
  · exact .error rfl

theorem failsAboutText_intPart (base : Nat) (text : Text) : FailsAboutText (intPart base text) :=
  .mapError fun _ _ => rfl

theorem failsAboutText_intOf (text : Text) : FailsAboutText (intOf text) := by
  rw [intOf]
  refine .ite (.error rfl) ?_
  dsimp only
  split
  · exact .ok _
  · exact .bind (failsAboutText_intPart _ _) fun _ => .ok _
  · exact .bind (failsAboutText_intPart _ _) fun _ => .ok _
  · exact .bind (failsAboutText_intPart _ _) fun _ => .ok _
  · exact .error rfl
  · exact .bind (.mapM (failsAboutText_intPart 10) _) fun _ => .ok _

theorem failsAboutText_floatPart (text : Text) : FailsAboutText (floatPart text) := by
  rw [floatPart]
  split
  · exact .ok _
  · exact .error rfl

theorem failsAboutText_sumPlaces (sum : Binary64) (base : Nat) (places : List Binary64) :
    FailsAboutText (sumPlaces sum base places) := by
  induction places generalizing sum base with
  | nil => exact .ok _
  | cons place more ih =>
    rw [sumPlaces]
    split
    · exact ih _ _
    · exact .error rfl

theorem failsAboutText_floatOf (text : Text) : FailsAboutText (floatOf text) := by
  rw [floatOf]
  refine .ite (.error rfl) ?_
  dsimp only
  refine .ite (.ok _) (.ite (.ok _) (.ite ?_ ?_))
  · exact .bind (.mapM failsAboutText_floatPart _) fun places =>
      .bind (failsAboutText_sumPlaces _ _ _) fun _ => .ok _
  · exact .bind (failsAboutText_floatPart _) fun _ => .ok _

theorem failsAboutText_checkDate (w : Written) : FailsAboutText (checkDate w) :=
  .ite (.error rfl) (.ite (.error rfl) (.ite (.error rfl) (.ok _)))

theorem failsAboutText_checkTime (hour minute second : Nat) :
    FailsAboutText (checkTime hour minute second) :=
  .ite (.error rfl) (.ite (.error rfl) (.ite (.error rfl) (.ok _)))

theorem failsAboutText_offsetOf (zone : Option (Bool × Nat × Nat)) :
    FailsAboutText (offsetOf zone) := by
  rw [offsetOf.eq_def]
  split
  · exact .ok _
  · exact .ite (.error rfl) (.ok _)

theorem failsAboutText_momentOf (text : Text) : FailsAboutText (momentOf text) := by
  rw [momentOf]
  split
  · exact .error rfl
  · rename_i w hw
    split
    · exact .bind (failsAboutText_checkDate w) fun _ => .ok _
    · have hzone : FailsAboutText (w.zone.mapM offsetOf) := by
        cases w.zone with
        | none => exact .ok _
        | some zone => exact .bind (failsAboutText_offsetOf zone) fun _ => .ok _
      exact .bind hzone fun _ => .bind (failsAboutText_checkDate w) fun _ =>
        .bind (failsAboutText_checkTime _ _ _) fun _ => .ok _

theorem failsOnly_bytesOf (text : Text) : FailsOnly (· = .malformed) (bytesOf text) := by
  rw [bytesOf]
  split
  · exact .error rfl
  · split
    · exact .ok _
    · exact .error rfl

end Scalar

/-! ## Scalars -/

/-- **The error of a scalar** is about what its text should stand for. -/
theorem Error.IsOfScalar.isAboutText {tag : String} {text : Text} {e : Error}
    (h : e.IsOfScalar tag text) : e.isAboutText = true := by
  cases h with
  | bool h => exact Scalar.failsAboutText_boolOf text e h
  | int h => exact Scalar.failsAboutText_intOf text e h
  | float h => exact Scalar.failsAboutText_floatOf text e h
  | moment h => exact Scalar.failsAboutText_momentOf text e h

/-- Every text is a text. -/
theorem Error.IsOfScalar.tag_ne {tag : String} {text : Text} {e : Error}
    (h : e.IsOfScalar tag text) : tag ≠ coreTag "str" := by
  cases h <;> decide

end Yaml
end JumpLint
