import JumpLint.Proofs.Critic.History
import JumpLint.Proofs.Violation.Order

/-!
# The listing of a critic

What a critic reports on a document is put together from what its policies report, one policy after
the other, and then sorted.  Policies of the goto rule never fail, whatever their limits are, so
there always is a report, and it does not matter in which order the policies stand.

## What is here

* `Policy.reported`: what a policy reports on a document; `Policy.result_apply_eq_reported` says
  that a policy of the goto rule does not fail.
* `Critic.result_critique_eq`: the report of a critic is the sorted concatenation of the reports of
  its policies.
* `Critic.critique_sorts_stably`: what that means for the listing.
-/

set_option autoImplicit false
namespace JumpLint

/-! ## One policy -/

namespace Policy

variable {p : Policy}

/-- Looking at elements one by one does not fail when none of them fails. -/
theorem exists_collect_eq_ok {number : Nat} {filename : Option Text} {f : Site → List Violation}
    (hviolates : ∀ s, p.violates number filename s = .ok (f s)) (sites : List Site)
    (found : List Violation) :
    ∃ answer, p.collect number filename found sites = .ok answer := by
  induction sites generalizing found with
  | nil => exact ⟨(found, false), rfl⟩
  | cons s rest ih =>
    rw [collect, hviolates]
    cases p.limit with
    | none => exact ih _
    | some limit =>
      simp only
      split
      · exact ⟨_, rfl⟩
      · exact ih _

/-- What a policy reports on a document; nothing if it fails. -/
def reported (p : Policy) (number : Nat) (d : Document) : List Violation :=
  (p.apply number d).result.toOption.getD []

/-- **A policy of the goto rule does not fail**, whatever its limit is. -/
theorem result_apply_eq_reported (hrule : p.rule = .gotoIntoBlock) (number : Nat) (d : Document) :
    (p.apply number d).result = .ok (p.reported number d) := by
  have hok : ∃ found, (p.apply number d).result = .ok found := by
    rw [result_apply]
    cases (p.prepare number d).hasWork with
    | false => exact ⟨[], rfl⟩
    | true =>
      rw [if_pos rfl, policy_prepare hrule]
      obtain ⟨answer, hanswer⟩ := exists_collect_eq_ok
        (violates_preparedFor hrule number number d d.filename)
        (d.sites.filter fun s => p.rule.appliesTo s.element) []
      exact ⟨answer.1, by rw [hanswer]; rfl⟩
  obtain ⟨found, hfound⟩ := hok
  rw [reported, hfound]
  rfl

end Policy

/-! ## All policies of a critic -/

namespace Critic

theorem result_applyAll_eq {ps : List Policy} (hgoto : ∀ p ∈ ps, p.rule = .gotoIntoBlock)
    (number : Nat) (d : Document) :
    (applyAll number d ps).result = .ok (ps.flatMap fun p => p.reported number d) := by
  induction ps with
  | nil => rfl
  | cons p rest ih =>
    have hrest := ih fun q hq => hgoto q (List.mem_cons_of_mem p hq)
    simp only [applyAll, Policy.result_apply_eq_reported (hgoto p List.mem_cons_self), hrest]
    rfl

/-- **The report of a critic** is the concatenation of the reports of its policies, sorted. -/
theorem result_critique_eq {c : Critic} (hgoto : ∀ p ∈ c.policies, p.rule = .gotoIntoBlock)
    (number : Nat) (d : Document) :
    (c.critique number d).result =
      .ok (sortViolations (c.policies.flatMap fun p => p.reported number d)) := by
  rw [critique]
  exact congrArg (Except.map sortViolations) (result_applyAll_eq hgoto number d)

/-- **A stable sort of everything found.**  No policy of the goto rule fails, and the report of a
critic with such policies holds what they report, each violation as often as it is reported, in the
order of the ranks, and where violations tie in the order of the policies.  So policies in another
order, or one policy that stands in several places, report the same violations, with the same ranks
one after the other. -/
theorem critique_sorts_stably {c : Critic} (hgoto : ∀ p ∈ c.policies, p.rule = .gotoIntoBlock)
    (number : Nat) (d : Document) :
    (∀ p ∈ c.policies, (p.apply number d).result = .ok (p.reported number d)) ∧
      ∃ report, (c.critique number d).result = .ok report ∧
        report.Perm (c.policies.flatMap fun p => p.reported number d) ∧
        report.Pairwise (fun v w => v.rank ≤ w.rank) ∧
        (∀ r, report.filter (fun v => v.rank = r) =
          (c.policies.flatMap fun p => p.reported number d).filter fun v => v.rank = r) ∧
        (∀ ps : List Policy, ps.Perm c.policies →
          ∃ other, ((Critic.mk ps).critique number d).result = .ok other ∧
            other.Perm report ∧ other.map Violation.rank = report.map Violation.rank) ∧
        ∀ s : Shelf, s.critic = c →
          (Shelf.applyAll number d s.policies s.order).1.map sortViolations = .ok report := by
  refine ⟨fun p hp => Policy.result_apply_eq_reported (hgoto p hp) number d, _,
    result_critique_eq hgoto number d, perm_sortViolations _, pairwise_sortViolations _,
    filter_sortViolations _, fun ps hps => ?_, fun s hs => ?_⟩
  · have hfound := hps.flatMap_right fun p => p.reported number d
    refine ⟨_, result_critique_eq (fun p hp => hgoto p (hps.mem_iff.1 hp)) number d, ?_,
      map_rank_sortViolations_congr hfound⟩
    exact (perm_sortViolations _).trans (hfound.trans (perm_sortViolations _).symm)
  · subst hs
    rw [Shelf.applyAll_eq (Shelf.map_unprepared_of_fresh rfl) number number d,
      result_applyAll_eq hgoto]
    rfl

/-- Two policies that report the same place with different severities. -/
def twins : Critic where
  policies := [
    { Policy.ofRule .gotoIntoBlock with ownSeverity := some .low },
    { Policy.ofRule .gotoIntoBlock with limit := some 1 }]

theorem critique_sorts_stably_twins :
    (∀ p ∈ twins.policies, p.rule = .gotoIntoBlock) ∧
      (twins.policies.flatMap fun p => p.reported 0 .enteringJump).map Violation.severity =
        [.low, .high] ∧
      ∃ report, (twins.critique 0 .enteringJump).result = .ok report ∧
        report.Perm (twins.policies.flatMap fun p => p.reported 0 .enteringJump) ∧
        report.Pairwise (fun v w => v.rank ≤ w.rank) ∧
        ∀ r, report.filter (fun v => v.rank = r) =
          (twins.policies.flatMap fun p => p.reported 0 .enteringJump).filter fun v =>
            v.rank = r := by
  have hgoto : ∀ p ∈ twins.policies, p.rule = .gotoIntoBlock := by decide
  obtain ⟨-, report, hreport, hperm, hsorted, hstable, -⟩ :=
    critique_sorts_stably hgoto 0 .enteringJump
  exact ⟨hgoto, by decide +kernel, report, hreport, hperm, hsorted, hstable⟩

end Critic
end JumpLint
