import JumpLint.Text.CodePoint

/-!
# Labels and where they are defined

A label table lists the labels of a source in the order in which they first occur, each with the
innermost scope around every one of its definitions.  Scopes are compared, never looked into, so the
table works for whatever names them.

## What is here

* `LabelTable.record`, `LabelTable.ofLabels`: building a table.
* `LabelTable.isEntered`: whether a jump to a label enters a block, that is, whether the label is
  defined and none of its definitions is in a scope around the jump.
-/

set_option autoImplicit false
namespace JumpLint

/-- Labels in order of first occurrence, each with the scopes of its definitions. -/
abbrev LabelTable (Scope : Type) := List (Text × List Scope)

namespace LabelTable

/-- Adds a definition of a label in a scope. -/
def record {Scope : Type} (label : Text) (scope : Scope) : LabelTable Scope → LabelTable Scope
  | [] => [(label, [scope])]
  | (l, scopes) :: rest =>
    if l == label then (l, scopes ++ [scope]) :: rest else (l, scopes) :: record label scope rest

/-- The table of definitions in a row. -/
def ofLabels {Scope : Type} (labels : List (Text × Scope)) : LabelTable Scope :=
  labels.foldl (fun table (label, scope) => table.record label scope) []

/-- Whether a jump from inside `scopes` to `target` enters a block. -/
def isEntered {Scope : Type} [BEq Scope] (table : LabelTable Scope) (target : Option Text)
    (scopes : List Scope) : Bool :=
  match target.bind fun label => table.lookup label with
  | some definitions => !definitions.any scopes.contains
  | none => false

end LabelTable
end JumpLint
