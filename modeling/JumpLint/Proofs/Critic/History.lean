import JumpLint.Proofs.Critic.Application
import Mathlib.Logic.Function.Basic

/-!
# Critics with a past

Policies remember the label table of the last document that they were prepared for, and a run that
fails or stops early leaves some of them prepared and others not.  What a critic reports does not
depend on it: every policy is prepared anew before it judges, and only its settings last.

## What is here

* `Policy.unprepared`, `Critic.fresh`: a policy and a critic with their settings alone.
* `Policy.result_apply_congr`, `Policy.unprepared_policy_apply`: an application looks at the
  settings alone, and keeps them.
* `Critic.result_critique_congr`, `Critic.fresh_critique`: the same for all policies of a critic,
  whether they fail or not.
* `Critic.after`, `Critic.results`: a critic that looks at one document after the other.
* `Shelf`: a critic in whose list a policy may stand more than once.
* `Critic.results_forget_history`: every result is that of a fresh critic.
-/

set_option autoImplicit false
namespace JumpLint

/-! ## One policy -/

namespace Policy

/-- A policy with its settings alone. -/
def unprepared (p : Policy) : Policy := { p with prepared := none }

theorem rule_unprepared (p : Policy) : p.unprepared.rule = p.rule := rfl

theorem limit_unprepared (p : Policy) : p.unprepared.limit = p.limit := rfl

theorem gotoViolation_unprepared (p : Policy) (filename : Option Text) (s : Site) :
    p.unprepared.gotoViolation filename s = p.gotoViolation filename s := rfl

theorem rule_congr {p q : Policy} (h : p.unprepared = q.unprepared) : p.rule = q.rule := by
  rw [← rule_unprepared, h, rule_unprepared]

theorem limit_congr {p q : Policy} (h : p.unprepared = q.unprepared) : p.limit = q.limit := by
  rw [← limit_unprepared, h, limit_unprepared]

theorem unprepared_prepare (p : Policy) (number : Nat) (d : Document) :
    (p.prepare number d).policy.unprepared = p.unprepared := by
  rw [prepare]
  split <;> rfl

/-- An application keeps the settings. -/
theorem unprepared_policy_apply (p : Policy) (number : Nat) (d : Document) :
    (p.apply number d).policy.unprepared = p.unprepared := by
  rw [policy_apply, unprepared_prepare]

theorem collect_congr {p q : Policy} {m n : Nat} {filename : Option Text}
    (hlimit : p.limit = q.limit)
    (hviolates : ∀ s, p.violates m filename s = q.violates n filename s) (sites : List Site)
    (found : List Violation) :
    p.collect m filename found sites = q.collect n filename found sites := by
  induction sites generalizing found with
  | nil => rfl
  | cons s rest ih => simp only [collect, hviolates, hlimit, ih]

/-- What a policy finds when it is prepared shows its settings and the document, and neither its
past nor the number of the document. -/
theorem violates_prepare_congr {p q : Policy} (h : p.unprepared = q.unprepared) (m n : Nat)
    (d : Document) (s : Site) :
    (p.prepare m d).policy.violates m d.filename s =
      (q.prepare n d).policy.violates n d.filename s := by
  have hrule : p.rule = q.rule := rule_congr h
  cases hgoto : q.rule with
  | unspecified =>
    rw [violates, violates, rule_prepare, rule_prepare, hrule, hgoto]
  | gotoIntoBlock =>
    have hviolation : p.gotoViolation d.filename s = q.gotoViolation d.filename s := by
      rw [← gotoViolation_unprepared, h, gotoViolation_unprepared]
    rw [policy_prepare (hrule.trans hgoto), policy_prepare hgoto,
      violates_preparedFor (hrule.trans hgoto), violates_preparedFor hgoto, faults_preparedFor,
      faults_preparedFor, hviolation]

theorem hasWork_prepare_congr {p q : Policy} (h : p.rule = q.rule) (m n : Nat) (d : Document) :
    (p.prepare m d).hasWork = (q.prepare n d).hasWork := by
  rw [prepare, prepare, h]
  cases q.rule <;> rfl

/-- **An application looks at the settings alone.** -/
theorem result_apply_congr {p q : Policy} (h : p.unprepared = q.unprepared) (m n : Nat)
    (d : Document) : (p.apply m d).result = (q.apply n d).result := by
  have hlimit : (p.prepare m d).policy.limit = (q.prepare n d).policy.limit :=
    limit_congr (by rw [unprepared_prepare, unprepared_prepare, h])
  rw [result_apply, result_apply, hasWork_prepare_congr (rule_congr h) m n, rule_congr h,
    collect_congr hlimit (violates_prepare_congr h m n d)]

end Policy

/-! ## All policies of a critic -/

namespace Critic

/-- A critic with the settings of its policies alone. -/
def fresh (c : Critic) : Critic := ⟨c.policies.map Policy.unprepared⟩

theorem result_applyAll_congr {ps qs : List Policy}
    (h : ps.map Policy.unprepared = qs.map Policy.unprepared) (m n : Nat) (d : Document) :
    (applyAll m d ps).result = (applyAll n d qs).result := by
  induction ps generalizing qs with
  | nil => rw [List.map_eq_nil_iff.1 h.symm]; rfl
  | cons p rest ih =>
    cases qs with
    | nil => exact absurd h (List.cons_ne_nil _ _)
    | cons q more =>
      obtain ⟨hp, hrest⟩ := List.cons.inj h
      simp only [applyAll, Policy.result_apply_congr hp m n d]
      split
      · rfl
      · exact congrArg (Except.map _) (ih hrest)

theorem unprepared_critic_applyAll (number : Nat) (d : Document) (ps : List Policy) :
    (applyAll number d ps).critic.policies.map Policy.unprepared = ps.map Policy.unprepared := by
  induction ps with
  | nil => rfl
  | cons p rest ih =>
    rw [applyAll]
    split
    · rw [List.map_cons, List.map_cons, Policy.unprepared_policy_apply]
    · rw [List.map_cons, List.map_cons, Policy.unprepared_policy_apply, ih]

/-- **What a critic reports depends on its settings and the document alone.** -/
theorem result_critique_congr {c e : Critic} (h : c.fresh = e.fresh) (m n : Nat) (d : Document) :
    (c.critique m d).result = (e.critique n d).result := by
  rw [critique, critique]
  exact congrArg (Except.map _) (result_applyAll_congr (congrArg policies h) m n d)

/-- **Looking at a document keeps the settings**, even when a policy fails. -/
theorem fresh_critique (c : Critic) (number : Nat) (d : Document) :
    (c.critique number d).critic.fresh = c.fresh := by
  rw [fresh, fresh, critique, unprepared_critic_applyAll]

theorem fresh_fresh (c : Critic) : c.fresh.fresh = c.fresh := by
  rw [fresh, fresh, List.map_map]
  rfl

/-! ## One document after the other -/

/-- The critic as it is when it has looked at documents in a row. -/
def after (c : Critic) : List (Nat × Document) → Critic
  | [] => c
  | (number, d) :: rest => (c.critique number d).critic.after rest

/-- What a critic reports on documents in a row.  A failure ends the report on one document, and the
critic goes on to the next as the failure left it. -/
def results (c : Critic) : List (Nat × Document) → List (Except Unspecified (List Violation))
  | [] => []
  | (number, d) :: rest =>
    (c.critique number d).result :: (c.critique number d).critic.results rest

theorem fresh_after (c : Critic) (calls : List (Nat × Document)) :
    (c.after calls).fresh = c.fresh := by
  induction calls generalizing c with
  | nil => rfl
  | cons call rest ih => rw [after, ih, fresh_critique]

theorem results_eq_map {c e : Critic} (h : c.fresh = e.fresh) (n : Nat)
    (calls : List (Nat × Document)) :
    c.results calls = calls.map fun call => (e.critique n call.2).result := by
  induction calls generalizing c with
  | nil => rfl
  | cons call rest ih =>
    rw [results, List.map_cons, result_critique_congr h call.1 n,
      ih ((fresh_critique _ _ _).trans h)]

/-- All documents in one go: the violations of each by themselves, or the first failure. -/
theorem critiqueAll_eq_mapM {c e : Critic} (h : c.fresh = e.fresh) (first n : Nat)
    (docs : List Document) :
    c.critiqueAll first docs = (docs.mapM fun d => (e.critique n d).result).map List.flatten := by
  induction docs generalizing c first with
  | nil => rfl
  | cons d rest ih =>
    rw [critiqueAll, List.mapM_cons, ih ((fresh_critique _ _ _).trans h),
      result_critique_congr h first n]
    cases (e.critique n d).result with
    | error => rfl
    | ok found =>
      cases rest.mapM fun d => (e.critique n d).result with
      | error => rfl
      | ok more => rfl

end Critic

/-! ## Policies in more than one place -/

/-- Policies by number, and the numbers of those that are applied, in order.  A policy may come more
than once; it is then found as its last application has left it. -/
structure Shelf where
  policies : Nat → Policy
  order : List Nat

namespace Shelf

/-- Applies policies in a row until one fails; gives the report and the policies as they are now. -/
def applyAll (number : Nat) (d : Document) (policies : Nat → Policy) :
    List Nat → Except Unspecified (List Violation) × (Nat → Policy)
  | [] => (.ok [], policies)
  | i :: rest =>
    let application := (policies i).apply number d
    let policies := Function.update policies i application.policy
    match application.result with
    | .error e => (.error e, policies)
    | .ok found =>
      let others := applyAll number d policies rest
      (others.1.map (found ++ ·), others.2)

/-- What is reported on documents in a row. -/
def results (s : Shelf) : List (Nat × Document) → List (Except Unspecified (List Violation))
  | [] => []
  | (number, d) :: rest =>
    let report := applyAll number d s.policies s.order
    report.1.map sortViolations :: results ⟨report.2, s.order⟩ rest

/-- The critic with a policy of its own in each place. -/
def critic (s : Shelf) : Critic := ⟨s.order.map s.policies⟩

theorem unprepared_update (policies : Nat → Policy) (number : Nat) (d : Document) (i j : Nat) :
    (Function.update policies i ((policies i).apply number d).policy j).unprepared =
      (policies j).unprepared := by
  by_cases h : j = i
  · subst h
    rw [Function.update_self, Policy.unprepared_policy_apply]
  · rw [Function.update_of_ne h]

theorem unprepared_applyAll (number : Nat) (d : Document) (policies : Nat → Policy)
    (order : List Nat) (j : Nat) :
    ((applyAll number d policies order).2 j).unprepared = (policies j).unprepared := by
  induction order generalizing policies with
  | nil => rfl
  | cons i rest ih =>
    simp only [applyAll]
    split
    · exact unprepared_update policies number d i j
    · exact (ih _).trans (unprepared_update policies number d i j)

/-- A policy that comes again reports what another one with its settings would. -/
theorem applyAll_eq {policies : Nat → Policy} {order : List Nat} {ps : List Policy}
    (h : order.map (fun i => (policies i).unprepared) = ps.map Policy.unprepared) (m n : Nat)
    (d : Document) : (applyAll m d policies order).1 = (Critic.applyAll n d ps).result := by
  induction order generalizing policies ps with
  | nil => rw [List.map_eq_nil_iff.1 h.symm]; rfl
  | cons i rest ih =>
    cases ps with
    | nil => exact absurd h (List.cons_ne_nil _ _)
    | cons p more =>
      obtain ⟨hp, hrest⟩ := List.cons.inj h
      simp only [applyAll, Critic.applyAll, Policy.result_apply_congr hp m n d]
      cases (p.apply n d).result with
      | error e => rfl
      | ok found =>
        -- the policy that was just applied may stand further down, with a new table
        refine congrArg (Except.map _) (ih (.trans ?_ hrest))
        exact List.map_congr_left fun j _ => unprepared_update policies m d i j

theorem map_unprepared_of_fresh {s : Shelf} {e : Critic} (h : s.critic.fresh = e.fresh) :
    s.order.map (fun i => (s.policies i).unprepared) = e.policies.map Policy.unprepared := by
  have hpolicies := congrArg Critic.policies h
  rw [Critic.fresh, critic, List.map_map] at hpolicies
  exact hpolicies

/-- **Sharing does not matter**: the reports are those of a fresh critic with a policy of its own in
each place. -/
theorem results_eq_map {s : Shelf} {e : Critic} (h : s.critic.fresh = e.fresh) (n : Nat)
    (calls : List (Nat × Document)) :
    s.results calls = calls.map fun call => (e.critique n call.2).result := by
  induction calls generalizing s with
  | nil => rfl
  | cons call rest ih =>
    obtain ⟨number, d⟩ := call
    have hreport := applyAll_eq (map_unprepared_of_fresh h) number n d
    have hkeeps : (critic ⟨(applyAll number d s.policies s.order).2, s.order⟩).fresh = e.fresh := by
      rw [← h, Critic.fresh, Critic.fresh, critic, critic, List.map_map, List.map_map]
      exact congrArg Critic.mk
        (List.map_congr_left fun j _ => unprepared_applyAll number d s.policies s.order j)
    rw [results, List.map_cons, ih hkeeps, hreport, Critic.critique]

end Shelf

/-- **No state leaks from one document to the next.**  Whatever a critic has looked at before, and
whether that failed or not, its report on a document is the one of a fresh critic with the same
settings; even if the same policy stands in several places.  So documents in one go are reported one
by one up to the first failure, and the same document twice gives the same report. -/
theorem Critic.results_forget_history (c : Critic) (calls : List (Nat × Document)) (number : Nat) :
    (c.results calls = calls.map fun call => (c.fresh.critique number call.2).result) ∧
      (∀ s : Shelf, s.results calls =
        calls.map fun call => (s.critic.fresh.critique number call.2).result) ∧
      (∀ first docs, (c.after calls).critiqueAll first docs =
        (docs.mapM fun d => (c.fresh.critique number d).result).map List.flatten) ∧
      ∀ m n d, (((c.after calls).critique m d).critic.critique n d).result =
        ((c.after calls).critique m d).result := by
  have hafter : (c.after calls).fresh = c.fresh.fresh :=
    (c.fresh_after calls).trans c.fresh_fresh.symm
  refine ⟨results_eq_map c.fresh_fresh.symm number calls, fun s => ?_, fun first docs => ?_, ?_⟩
  · exact Shelf.results_eq_map s.critic.fresh_fresh.symm number calls
  · exact critiqueAll_eq_mapM hafter first number docs
  · intro m n d
    exact result_critique_congr (fresh_critique _ m d) n m d

end JumpLint
