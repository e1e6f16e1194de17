import JumpLint.Proofs.Critic.Limit
import JumpLint.Proofs.Profile.Selection
import JumpLint.Proofs.Profile.Validity
import Mathlib.Data.List.Flatten

/-!
# What a profile lets through

A profile leaves out policies that are not bad enough or do not carry its themes, and limits the
others.  Severities and themes are those that a policy has when its section has been applied, and
the limit of one policy does not look at what another one finds.  So nothing that is too mild gets
into a report, and a profile that asks for more reports the same, with some violations left out.

## What is here

* `Policy.reported_sublist`, `Policy.length_reported_le`: what a policy reports is some of its
  violations by the findings, and no more than its limit.
* `Profile.sectionOf_eq_of_mem`, `Profile.length_filter_flatMap_reported_le`: each section is that
  of one policy, so the violations with its name are within its limit.
* `Profile.AsksMore`: a profile that differs from another one in a higher severity or more themes;
  `Profile.AsksMore.selectFrom`: it selects some of the same policies.
* `Profile.report_filtered`: what a profile says of the reports of its critic.
-/

set_option autoImplicit false
namespace JumpLint

/-! ## One policy -/

namespace Policy

variable {p : Policy}

theorem reported_of_result {number : Nat} {d : Document} {found : List Violation}
    (h : (p.apply number d).result = .ok found) : p.reported number d = found := by
  rw [reported, h]
  rfl

/-- With or without a limit, the violations are by findings, in order. -/
theorem reported_sublist (hrule : p.rule = .gotoIntoBlock) (number : Nat) (d : Document) :
    (p.reported number d).Sublist (d.findings.map (p.gotoViolation d.filename)) := by
  cases hlimit : p.limit with
  | none =>
    rw [reported_of_result (result_apply_eq_map_findings hrule hlimit number d)]
  | some k =>
    rw [reported_of_result (result_apply_of_limit hrule hlimit number d)]
    exact List.take_sublist _ _

theorem mem_reported (hrule : p.rule = .gotoIntoBlock) {number : Nat} {d : Document} {v : Violation}
    (h : v ∈ p.reported number d) : v.policy = .ofString p.name ∧ v.severity = p.severity := by
  obtain ⟨s, -, rfl⟩ := List.mem_map.1 ((reported_sublist hrule number d).subset h)
  exact ⟨rfl, rfl⟩

/-- All violations of a policy have its name. -/
theorem filter_reported (hrule : p.rule = .gotoIntoBlock) (number : Nat) (d : Document)
    (name : Text) :
    (p.reported number d).filter (·.policy = name) =
      if Text.ofString p.name = name then p.reported number d else [] := by
  split
  · rename_i hname
    rw [List.filter_eq_self]
    intro v hv
    rw [(mem_reported hrule hv).1, decide_eq_true_iff]
    exact hname
  · rename_i hname
    rw [List.filter_eq_nil_iff]
    intro v hv
    rw [(mem_reported hrule hv).1, decide_eq_true_iff]
    exact hname

theorem length_reported_le (hrule : p.rule = .gotoIntoBlock) {k : Int} (hlimit : p.limit = some k)
    (hk : 0 ≤ k) (number : Nat) (d : Document) : ((p.reported number d).length : Int) ≤ k := by
  rw [reported_of_result (result_apply_of_limit hrule hlimit number d), List.length_take]
  omega

/-- What is reported does not show the number of the document. -/
theorem reported_congr (p : Policy) (m n : Nat) (d : Document) :
    p.reported m d = p.reported n d := by
  rw [reported, reported, result_apply_congr rfl m n]

end Policy

/-! ## Sections and their policies -/

namespace Registry

/-- No two rules have the same name. -/
theorem pairwise_name_rules :
    rules.Pairwise fun r r' => Text.ofString r.name ≠ Text.ofString r'.name := by
  decide

end Registry

namespace Profile

variable {profile : Profile}

/-- A policy whose name has a section has that section. -/
theorem sectionOf_eq_of_mem (hvalid : profile.IsValid) {entry : Text × Section}
    (hentry : entry ∈ profile.sections) {rule : Rule} (hname : .ofString rule.name = entry.1) :
    profile.sectionOf rule = entry.2 := by
  rw [sectionOf, hname, lookup_eq_some_of_mem hvalid.distinct hentry]
  rfl

/-- **The limit of a section** holds for all violations with its name. -/
theorem length_filter_flatMap_reported_le (hvalid : profile.IsValid) {ps : List Policy}
    (hps : profile.select = .ok ps) (hgoto : ∀ p ∈ ps, p.rule = .gotoIntoBlock)
    {entry : Text × Section} (hentry : entry ∈ profile.sections) {k : Int}
    (hlimit : entry.2.limit = some k) (number : Nat) (d : Document) :
    (((ps.flatMap fun p => p.reported number d).filter (·.policy = entry.1)).length : Int) ≤ k := by
  have hk : 1 ≤ k := hvalid.limits entry hentry k hlimit
  have hrules := Registry.pairwise_name_rules.sublist (map_rule_sublist hps)
  rw [List.pairwise_map] at hrules
  have hnames : ps.Pairwise fun p q => Text.ofString p.name ≠ Text.ofString q.name := hrules
  have hselected : ∀ p ∈ ps, Text.ofString p.name = entry.1 → p.limit = some k := by
    intro p hp hname
    obtain ⟨-, rule, -, hconfigure⟩ := of_mem_selectFrom hps hp
    have hrule : p.rule = rule := Policy.rule_configure hconfigure
    rw [Policy.limit_configure hconfigure, sectionOf_eq_of_mem hvalid hentry (hrule ▸ hname),
      hlimit]
  clear hps hrules
  induction ps with
  | nil =>
    rw [List.flatMap_nil, List.filter_nil, List.length_nil]
    omega
  | cons p rest ih =>
    obtain ⟨hother, hrest⟩ := List.pairwise_cons.1 hnames
    have hrule : p.rule = .gotoIntoBlock := hgoto p List.mem_cons_self
    have hgoto' : ∀ q ∈ rest, q.rule = .gotoIntoBlock :=
      fun q hq => hgoto q (List.mem_cons_of_mem _ hq)
    rw [List.flatMap_cons, List.filter_append, List.length_append, Policy.filter_reported hrule]
    split
    · rename_i hname
      -- no other policy has this name
      have hnone :
          (rest.flatMap fun p => p.reported number d).filter (·.policy = entry.1) = [] := by
        rw [List.filter_flatMap, List.flatMap_eq_nil_iff]
        intro q hq
        rw [Policy.filter_reported (hgoto' q hq), ← hname, if_neg (hother q hq).symm]
      rw [hnone, List.length_nil, Nat.add_zero]
      have hlimited : p.limit = some k := hselected p List.mem_cons_self hname
      exact Policy.length_reported_le hrule hlimited (by omega) number d
    · rw [List.length_nil, Nat.zero_add]
      exact ih hgoto' hrest fun q hq => hselected q (List.mem_cons_of_mem _ hq)

/-! ## Asking for more -/

/-- A profile that differs from another one in nothing but the severity, which is as high at least,
and the themes, which are those of the other one and maybe more. -/
structure AsksMore (stricter profile : Profile) : Prop where
  sections : stricter.sections = profile.sections
  severity : profile.severity.level ≤ stricter.severity.level
  themes : ∀ theme ∈ profile.themes, theme ∈ stricter.themes

variable {stricter : Profile}

/-- What the stricter profile wants, the other one wants. -/
theorem AsksMore.wants (h : AsksMore stricter profile) {p : Policy}
    (hwants : stricter.wants p = true) : profile.wants p = true := by
  rw [Profile.wants, Bool.and_eq_true, decide_eq_true_iff, List.all_eq_true] at hwants ⊢
  exact ⟨h.severity.trans hwants.1, fun theme htheme => hwants.2 theme (h.themes theme htheme)⟩

/-- **A stricter profile selects some of the same policies**, with the same settings. -/
theorem AsksMore.selectFrom (h : AsksMore stricter profile) {rules : List Rule} {ps : List Policy}
    (hps : profile.selectFrom rules = .ok ps) :
    ∃ qs, stricter.selectFrom rules = .ok qs ∧ qs.Sublist ps := by
  rw [selectFrom_eq] at hps
  obtain ⟨all, hall, rfl⟩ := map_eq_ok_iff.1 hps
  refine ⟨all.filter stricter.wants, ?_, List.monotone_filter_right all fun p => h.wants⟩
  rw [selectFrom_eq, configured_congr h.sections, hall]
  rfl

/-! ## The reports -/

/-- **What a profile says of the reports of its critic.**  Every document gets a report.  No
violation in it is milder than the profile asks for, and no section lets through more violations of
its policy than its limit.  A profile that asks for more than this one has a critic too, and that
one reports the same, with some violations left out. -/
theorem report_filtered (hvalid : profile.IsValid) {c : Critic} (hc : profile.critic = .ok c)
    (number : Nat) (d : Document) :
    ∃ report, (c.critique number d).result = .ok report ∧
      (∀ v ∈ report, profile.severity.level ≤ v.severity.level) ∧
      (∀ entry ∈ profile.sections, ∀ k, entry.2.limit = some k →
        ((report.filter fun v => v.policy = entry.1).length : Int) ≤ k) ∧
      ∀ stricter : Profile, stricter.AsksMore profile →
        ∃ e, stricter.critic = .ok e ∧ ∀ m, ∃ fewer,
          (e.critique m d).result = .ok fewer ∧ fewer.Sublist report := by
  have hgoto := rule_of_mem_critic hc
  obtain ⟨ps, hps, rfl⟩ := map_eq_ok_iff.1 hc
  refine ⟨_, Critic.result_critique_eq hgoto number d, fun v hv => ?_, fun entry hentry k hk => ?_,
    fun stricter hstricter => ?_⟩
  · obtain ⟨p, hp, hv⟩ := List.mem_flatMap.1 ((perm_sortViolations _).subset hv)
    obtain ⟨hwants, -⟩ := of_mem_selectFrom hps hp
    rw [(Policy.mem_reported (hgoto p hp) hv).2]
    exact of_decide_eq_true (Bool.and_eq_true_iff.1 hwants).1
  · rw [((perm_sortViolations _).filter _).length_eq]
    exact length_filter_flatMap_reported_le hvalid hps hgoto hentry hk number d
  · obtain ⟨qs, hqs, hsub⟩ := hstricter.selectFrom hps
    refine ⟨⟨qs⟩, map_eq_ok_iff.2 ⟨qs, hqs, rfl⟩, fun m =>
      ⟨_, Critic.result_critique_eq (fun q hq => hgoto q (hsub.subset hq)) m d, ?_⟩⟩
    simp only [Policy.reported_congr _ m number]
    exact sortViolations_sublist (hsub.flatMap _)

/-- A profile that asks for one violation of medium severity. -/
def harsh : Profile where
  severity := .medium
  themes := [.ofString "bugs"]
  sections := [(.ofString "ControlStructures::ProhibitGotoIntoBlock",
    { Section.default with severity := some .medium, limit := some 1 })]

/-- The critic of this profile. -/
def harshCritic : Critic where
  policies := [{ Policy.ofRule .gotoIntoBlock with ownSeverity := some .medium, limit := some 1 }]

/-- The same profile asking for high severity, which is more than its section gives the policy. -/
def stern : Profile := { harsh with severity := .high }

/-- What the first of the two profiles is read from. -/
def harshData : Datum :=
  .mapping [
    (.text (.ofString "severity"), .text (.ofString "harsh")),
    (.text (.ofString "theme"), .text (.ofString "bugs")),
    (.text (.ofString "policies"), .mapping [
      (.text (.ofString "ControlStructures::ProhibitGotoIntoBlock"), .mapping [
        (.text (.ofString "severity"), .int 3),
        (.text (.ofString "maximum_violations_per_document"), .int 1)])])]

/-- A document with two jumps into blocks. -/
def twoJumps : Document :=
  { Document.enteringJump with
    children := Document.enteringJump.children ++ Document.enteringJump.children }

theorem report_filtered_harsh :
    harsh.IsValid ∧ harsh.critic = .ok harshCritic ∧ stern.AsksMore harsh ∧
      twoJumps.findings.length = 2 ∧
      ∃ report, (harshCritic.critique 0 twoJumps).result = .ok report ∧
        report.map Violation.severity = [.medium] ∧
        ∃ e, stern.critic = .ok e ∧
          ∃ fewer, (e.critique 1 twoJumps).result = .ok fewer ∧ fewer.Sublist report := by
  have hvalid : harsh.IsValid := isValid_of_ofDatum (d := harshData) (by decide +kernel)
  have hmore : stern.AsksMore harsh := ⟨rfl, by decide, fun _ => id⟩
  have hseverities : (harshCritic.critique 0 twoJumps).result.map (List.map Violation.severity) =
      .ok [.medium] := by decide +kernel
  obtain ⟨report, hreport, -, -, hstricter⟩ :=
    report_filtered (c := harshCritic) hvalid rfl 0 twoJumps
  obtain ⟨e, he, hfewer⟩ := hstricter stern hmore
  rw [hreport] at hseverities
  exact ⟨hvalid, rfl, hmore, by decide +kernel, report, hreport, Except.ok.inj hseverities, e, he,
    hfewer 1⟩

end Profile
end JumpLint
