import JumpLint.Policy

/-!
# Counting violations

A run counts files, and violations by severity and by policy.

## What is here

* `Counts`: how often each key occurred, in order of first occurrence.
* `Tally`: the counts of a run; `Tally.add` counts one file.
* `Tally.summary`: the counts as text, severities falling and policies rising.
-/

set_option autoImplicit false
namespace JumpLint

/-- How often each key occurred. -/
abbrev Counts (Key : Type) := List (Key × Nat)

namespace Counts

/-- Counts one occurrence. -/
def add {Key : Type} [BEq Key] (key : Key) : Counts Key → Counts Key
  | [] => [(key, 1)]
  | (k, n) :: rest => if k == key then (k, n + 1) :: rest else (k, n) :: add key rest

/-- All occurrences. -/
def total {Key : Type} : Counts Key → Nat
  | [] => 0
  | (_, n) :: rest => n + total rest

end Counts

/-- The counts of a run. -/
structure Tally where
  files : Nat
  bySeverity : Counts Severity
  byPolicy : Counts Text
deriving Repr, DecidableEq

namespace Tally

/-- Nothing counted yet. -/
def empty : Tally := ⟨0, [], []⟩

/-- The number of violations. -/
def violations (t : Tally) : Nat := t.bySeverity.total

/-- Counts a violation. -/
def addViolation (t : Tally) (v : Violation) : Tally :=
  { t with
    bySeverity := t.bySeverity.add v.severity
    byPolicy := t.byPolicy.add v.policy }

/-- Counts a file with its violations. -/
def add (t : Tally) (violations : List Violation) : Tally :=
  violations.foldl addViolation { t with files := t.files + 1 }

/-- A number with spaces in front, at least five characters wide. -/
def padded (n : Nat) : String :=
  let digits := (toString n).toList
  String.ofList (List.replicate (5 - digits.length) ' ' ++ digits)

/-- A line of the summary. -/
def line (n : Nat) (what : Text) : Text :=
  .ofString ("  " ++ padded n ++ " ") ++ what ++ .ofString "\n"

/-- The lines for severities, the highest first. -/
def severityLines (t : Tally) : List Text :=
  (t.bySeverity.mergeSort fun a b => decide (b.1.level ≤ a.1.level)).map fun (s, n) =>
    line n (.ofString ("severity " ++ toString s.level))

/-- The lines for policies, by name. -/
def policyLines (t : Tally) : List Text :=
  (t.byPolicy.mergeSort fun a b => !decide (b.1 < a.1)).map fun (name, n) => line n name

/-- The counts as text. -/
def summary (t : Tally) : Text :=
  .ofString (toString t.files ++ " files.\n" ++ toString t.violations ++ " violations.\n") ++
    Text.join t.severityLines ++ Text.join t.policyLines

end Tally
end JumpLint
