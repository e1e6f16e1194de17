import JumpLint.Policy
import JumpLint.Proofs.Goto.Findings

/-!
# How a policy judges

A policy of the goto rule judges by the label table that it was last prepared with, and the table
names the scopes of one document only.  Here each of its functions gets the one statement that is
used of it afterwards.

## What is here

* `Policy.preparedFor`: a policy with the label table of a document.
* `Policy.policy_prepare`, `Policy.hasWork_prepare_iff`: what preparing a policy leaves, and when
  there is something to look for.
* `Policy.faults`, `Policy.violates_eq`: an element gives at most one violation, and never a
  failure.
* `Policy.faults_preparedFor_iff`: the judgment on an element of the document that the policy is
  prepared for; `Policy.faults_preparedFor_of_ne_iff`: that on an element of another document.
-/

set_option autoImplicit false
namespace JumpLint
namespace Policy

/-! ## Preparing -/

/-- A policy with the label table of the document with a number. -/
def preparedFor (p : Policy) (number : Nat) (d : Document) : Policy :=
  { p with prepared := some ⟨number, d.labels⟩ }

theorem policy_prepare {p : Policy} (hrule : p.rule = .gotoIntoBlock) (number : Nat)
    (d : Document) : (p.prepare number d).policy = p.preparedFor number d := by
  rw [prepare, preparedFor, hrule]

/-- There is something to look for in a document with a label. -/
theorem hasWork_prepare_iff {p : Policy} (hrule : p.rule = .gotoIntoBlock) {number : Nat}
    {d : Document} : (p.prepare number d).hasWork = true ↔ ∃ label l, d.Defines label l := by
  rw [prepare, hrule]
  simp only [Bool.not_eq_true', ← Bool.not_eq_true, List.isEmpty_iff, Document.labels_eq_nil_iff,
    not_forall, not_not]

/-! ## Judging -/

/-- Whether a policy of the goto rule finds fault with an element of the document with a number. -/
def faults (p : Policy) (number : Nat) (s : Site) : Bool :=
  p.labels.isEntered (gotoTarget? s.element) (p.knownScopes number s)

theorem violates_eq {p : Policy} (hrule : p.rule = .gotoIntoBlock) (number : Nat)
    (filename : Option Text) (s : Site) :
    p.violates number filename s =
      .ok (if p.faults number s then [p.gotoViolation filename s] else []) := by
  rw [violates, hrule, faults]
  exact (apply_ite Except.ok _ _ _).symm

/-- A policy that was never prepared finds no fault. -/
theorem faults_of_prepared_eq_none {p : Policy} (h : p.prepared = none) (number : Nat) (s : Site) :
    p.faults number s = false := by
  rw [faults, labels, h]
  cases gotoTarget? s.element <;> rfl

theorem labels_preparedFor (p : Policy) (number : Nat) (d : Document) :
    (p.preparedFor number d).labels = d.labels := rfl

theorem knownScopes_preparedFor (p : Policy) (number other : Nat) (d : Document) (s : Site) :
    (p.preparedFor number d).knownScopes other s = if number = other then s.scopes else [] := by
  by_cases h : number = other
  · rw [if_pos h]
    exact if_pos (beq_iff_eq.2 h)
  · rw [if_neg h]
    exact if_neg fun heq => h (beq_iff_eq.1 heq)

/-- The violations of a policy do not show what it was prepared for. -/
theorem violates_preparedFor {p : Policy} (hrule : p.rule = .gotoIntoBlock) (number other : Nat)
    (d : Document) (filename : Option Text) (s : Site) :
    (p.preparedFor number d).violates other filename s =
      .ok (if (p.preparedFor number d).faults other s then [p.gotoViolation filename s] else []) :=
  violates_eq (p := p.preparedFor number d) hrule other filename s

/-- Elements of the document of the table are judged by the table alone. -/
theorem faults_preparedFor (p : Policy) (number : Nat) (d : Document) (s : Site) :
    (p.preparedFor number d).faults number s = s.enters d.labels := by
  rw [faults, labels_preparedFor, knownScopes_preparedFor, if_pos rfl, Site.enters]

/-- **The document of the table.**  An element of it is at fault when it is a jump that enters a
block. -/
theorem faults_preparedFor_iff {p : Policy} {number : Nat} {d : Document} {s : Site} {a : Address}
    (hs : d.root.at? a = some s) :
    (p.preparedFor number d).faults number s = true ↔
      ∃ name, s.element.IsGotoTo name ∧ d.EntersBlock (name ++ labelEnd) a := by
  rw [faults_preparedFor, Site.enters, Document.isEntered_labels_iff hs]

/-- **Any other document.**  An element of it is at fault when it is a jump to a label that is
defined in the document of the table. -/
theorem faults_preparedFor_of_ne_iff {p : Policy} {number other : Nat} (hne : number ≠ other)
    {d : Document} {s : Site} :
    (p.preparedFor number d).faults other s = true ↔
      ∃ name, s.element.IsGotoTo name ∧ ∃ l, d.Defines (name ++ labelEnd) l := by
  rw [faults, labels_preparedFor, knownScopes_preparedFor, if_neg hne,
    Document.isEntered_labels_nil_iff]

end Policy
end JumpLint
