import JumpLint.Severity
import JumpLint.Validation

/-!
# Violations

A violation is one place where a source breaks a policy.  Violations are listed by file, line and
column, and then by policy; what is not known comes first, with the empty name and the number zero.

## What is here

* `Violation` and its `SortKey`; `SortKey.le` is the order, `sortViolations` sorts by it and keeps
  the order of violations with equal keys; `sortedPlaces` tells where each one stood before.
* `Violation.ofDatum`: a violation from data; its severity is a number.
-/

set_option autoImplicit false
namespace JumpLint

/-- One place where a source breaks a policy. -/
structure Violation where
  policy : Text
  description : Text
  explanation : Text
  severity : Severity
  filename : Option Text
  line : Option Int
  column : Option Int
  source : Text
deriving Repr, DecidableEq

/-- What violations are sorted by. -/
structure SortKey where
  filename : Text
  line : Int
  column : Int
  policy : Text
deriving Repr, DecidableEq

/-- The first of two comparisons that tells a difference decides. -/
def SortKey.le (a b : SortKey) : Bool :=
  if a.filename < b.filename then true
  else if b.filename < a.filename then false
  else if a.line < b.line then true
  else if b.line < a.line then false
  else if a.column < b.column then true
  else if b.column < a.column then false
  else !decide (b.policy < a.policy)

/-- The key of a violation. -/
def Violation.sortKey (v : Violation) : SortKey :=
  ⟨v.filename.getD [], v.line.getD 0, v.column.getD 0, v.policy⟩

/-- Violations in the order of their keys. -/
def sortViolations (violations : List Violation) : List Violation :=
  violations.mergeSort fun a b => a.sortKey.le b.sortKey

/-- The places of violations in the order of their keys. -/
def sortedPlaces (violations : List Violation) : List Nat :=
  (violations.zipIdx.mergeSort fun a b => a.1.sortKey.le b.1.sortKey).map (·.2)

/-- A number that is a severity. -/
def Datum.asSeverity (d : Datum) : Checked Severity :=
  match d.asInteger with
  | .ok n =>
    match Severity.ofLevel? n with
    | some s => .ok s
    | none => .fail .notSeverity
  | .error _ => .fail .notSeverity

/-- A violation from its fields; other fields are passed over. -/
def Violation.ofDatum (d : Datum) : Checked Violation := do
  let fields ← d.asRecord "Violation"
  Checked.ap
    (Checked.ap
      (Checked.ap
        (Checked.ap
          (Checked.ap
            (Checked.ap
              (Checked.ap
                ((required "policy" Datum.asText fields).map Violation.mk)
                (required "description" Datum.asText fields))
              (required "explanation" Datum.asText fields))
            (required "severity" Datum.asSeverity fields))
          (optional "filename" none (Datum.nullable Datum.asText) fields))
        (optional "line" none (Datum.nullable Datum.asInteger) fields))
      (optional "column" none (Datum.nullable Datum.asInteger) fields))
    (optional "source" [] Datum.asText fields)

end JumpLint
