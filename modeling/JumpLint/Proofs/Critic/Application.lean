import JumpLint.Critic
import JumpLint.Proofs.Policy.Judgment
import JumpLint.Proofs.Tree.Token

/-!
# Applying a policy to a document

A critic does not ask for the findings of a document.  It prepares a policy, leaves it at that when
there is no label, and otherwise asks the policy about one break statement after the other.  Here
both ways are shown to come to the same.

## What is here

* `Policy.collect_eq_of_limit_none`: without a limit the violations by elements in a row are put
  together in order.
* `Policy.findings_eq_nil_of_not_hasWork`: what is left out when there is no label.
* `Policy.result_apply_eq_map_findings`: a policy without a limit reports the findings.
* `Policy.reports_findings`: the same with the violations in full.
-/

set_option autoImplicit false
namespace JumpLint
namespace Policy

variable {p : Policy}

/-- Without a limit the violations by elements in a row are put together in order. -/
theorem collect_eq_of_limit_none {number : Nat} {filename : Option Text}
    {f : Site → List Violation} (hlimit : p.limit = none)
    (hviolates : ∀ s, p.violates number filename s = .ok (f s)) (sites : List Site)
    (found : List Violation) :
    p.collect number filename found sites = .ok (found ++ sites.flatMap f, false) := by
  induction sites generalizing found with
  | nil => rw [collect, List.flatMap_nil, List.append_nil]
  | cons s rest ih =>
    rw [collect, hviolates s, hlimit]
    exact (ih (found ++ f s)).trans (by rw [List.flatMap_cons, List.append_assoc])

/-- Nothing is lost where nothing is looked for: without a label no jump enters a block. -/
theorem findings_eq_nil_of_not_hasWork (hrule : p.rule = .gotoIntoBlock) {number : Nat}
    {d : Document} (h : (p.prepare number d).hasWork = false) : d.findings = [] := by
  rw [List.eq_nil_iff_forall_not_mem]
  intro s hs
  obtain ⟨name, -, ⟨l, hdefined⟩, -⟩ := (Document.mem_findings_iff.1 hs).2.enters
  have hwork : (p.prepare number d).hasWork = true := (hasWork_prepare_iff hrule).2 ⟨_, l, hdefined⟩
  rw [h] at hwork
  exact absurd hwork Bool.false_ne_true

/-- Asking about the break statements one by one picks out the findings. -/
theorem flatMap_faults_eq_map_findings (p : Policy) (number : Nat) (d : Document)
    (f : Site → Violation) :
    (d.sites.filter (·.element.isBreak)).flatMap
        (fun s => if (p.preparedFor number d).faults number s then [f s] else []) =
      d.findings.map f := by
  rw [Document.findings]
  induction d.sites with
  | nil => rfl
  | cons s rest ih =>
    rw [List.filter_cons, List.filter_cons]
    cases hbreak : s.element.isBreak with
    | false => exact ih
    | true =>
      rw [if_pos rfl, List.flatMap_cons, ih, faults_preparedFor, Bool.true_and]
      cases s.enters d.labels <;> rfl

/-! ## Applying -/

theorem rule_prepare (p : Policy) (number : Nat) (d : Document) :
    (p.prepare number d).policy.rule = p.rule := by
  rw [prepare]
  split <;> rfl

/-- An application leaves the policy prepared for the document. -/
theorem policy_apply (p : Policy) (number : Nat) (d : Document) :
    (p.apply number d).policy = (p.prepare number d).policy := by
  simp only [apply]
  split
  · rfl
  · split <;> rfl

/-- What comes of an application: nothing when there is nothing to look for, and else the violations
by the elements that the rule looks at. -/
theorem result_apply (p : Policy) (number : Nat) (d : Document) :
    (p.apply number d).result =
      if (p.prepare number d).hasWork then
        ((p.prepare number d).policy.collect number d.filename []
          (d.sites.filter fun s => p.rule.appliesTo s.element)).map Prod.fst
      else .ok [] := by
  simp only [apply, rule_prepare]
  cases (p.prepare number d).hasWork with
  | false => rfl
  | true =>
    rw [if_pos rfl]
    cases (p.prepare number d).policy.collect number d.filename []
      (d.sites.filter fun s => p.rule.appliesTo s.element) <;> rfl

/-- **The two ways agree.**  A policy without a limit reports the findings, in order, whatever it
was prepared for before. -/
theorem result_apply_eq_map_findings (hrule : p.rule = .gotoIntoBlock) (hlimit : p.limit = none)
    (number : Nat) (d : Document) :
    (p.apply number d).result = .ok (d.findings.map (p.gotoViolation d.filename)) := by
  rw [result_apply]
  cases hwork : (p.prepare number d).hasWork with
  | false =>
    rw [findings_eq_nil_of_not_hasWork hrule hwork]
    rfl
  | true =>
    have hlimit' : (p.preparedFor number d).limit = none := hlimit
    have hviolates := violates_preparedFor hrule number number d d.filename
    rw [if_pos rfl, policy_prepare hrule, collect_eq_of_limit_none hlimit' hviolates, hrule]
    exact congrArg Except.ok (flatMap_faults_eq_map_findings p number d _)

/-- **The report of a policy without a limit.**  There is a violation for each finding, in their
order, with the name of the file, the place of the first token of the statement as far as it is
known, the severity of the policy, and the text of the statement; and when preparing finds nothing
to look for there are no findings. -/
theorem reports_findings (hrule : p.rule = .gotoIntoBlock) (hlimit : p.limit = none) (number : Nat)
    (d : Document) :
    (p.apply number d).result = .ok (d.findings.map
      (p.violation (.ofString gotoDescription) (.ofString gotoExplanation) d.filename)) ∧
      (∀ s, p.violation (.ofString gotoDescription) (.ofString gotoExplanation) d.filename s =
        { policy := .ofString "ControlStructures::ProhibitGotoIntoBlock"
          description := .ofString gotoDescription
          explanation := .ofString gotoExplanation
          severity := p.ownSeverity.getD .high
          filename := d.filename
          line := (s.element.locations.head?.getD .unknown).line
          column := (s.element.locations.head?.getD .unknown).column
          source := s.element.text }) ∧
      ((p.prepare number d).hasWork = false → d.findings = []) := by
  refine ⟨result_apply_eq_map_findings hrule hlimit number d, fun s => ?_,
    findings_eq_nil_of_not_hasWork hrule⟩
  rw [violation, name, severity, hrule, Site.location_eq]
  rfl

/-- A policy that was prepared for another document before. -/
def stale : Policy where
  rule := .gotoIntoBlock
  ownSeverity := some .low
  ownThemes := none
  limit := none
  prepared := some ⟨7, [(.ofString "FOO:", [[]])]⟩

theorem reports_findings_stale :
    stale.rule = .gotoIntoBlock ∧ stale.limit = none ∧
      (stale.apply 0 .enteringJump).result = .ok (Document.enteringJump.findings.map
        (stale.violation (.ofString gotoDescription) (.ofString gotoExplanation)
          (some (.ofString "lib/Foo.pm")))) ∧
      Document.enteringJump.findings.map (fun s => s.element.text.toString) = ["goto FOO;"] :=
  ⟨rfl, rfl, (reports_findings (p := stale) rfl rfl 0 .enteringJump).1, by decide +kernel⟩

end Policy
end JumpLint
