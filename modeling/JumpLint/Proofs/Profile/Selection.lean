import JumpLint.Profile
import JumpLint.Proofs.Except

/-!
# The policies of a profile

A profile configures the policies of registered rules and keeps some of them.  Here it is said what
all of them have in common, and that keeping comes after configuring.

## What is here

* `Policy.adjusted`: a policy with the options of a section; `Policy.configure_eq_ok_iff` and
  `Policy.configure_eq_error_iff` say when configuring a policy comes to this, and when it fails.
* `Profile.configured`, `Profile.selectFrom_eq`: selecting policies is configuring them, and then
  leaving out some.
* `Profile.map_rule_sublist`: the selected policies are those of some of the given rules, in order.
* `Profile.rule_of_mem_critic`: every policy of the critic of a profile is one of the goto rule.
-/

set_option autoImplicit false
namespace JumpLint

/-! ## One policy -/

theorem isNamed_iff {names : List String} {t : Text} :
    isNamed names t = true ↔ t ∈ names.map Text.ofString := by
  rw [isNamed, List.any_eq_true, List.mem_map]
  exact exists_congr fun name => and_congr_right fun _ => beq_iff_eq.trans eq_comm

namespace Policy

/-- The themes of a policy by a section, without those that it adds. -/
def baseThemes (p : Policy) (options : Section) : List Text :=
  (options.setThemes.map sortNames).getD p.themes

/-- A policy with the options of a section, whatever its parameters are. -/
def adjusted (p : Policy) (options : Section) : Policy where
  rule := p.rule
  ownSeverity := options.severity.or p.ownSeverity
  ownThemes :=
    if options.addThemes.isEmpty then (options.setThemes.map sortNames).or p.ownThemes
    else some (sortNames (p.baseThemes options ++ options.addThemes))
  limit := options.limit
  prepared := p.prepared

variable {p q : Policy} {options : Section}

theorem configure_eq (p : Policy) (options : Section) :
    p.configure options =
      match options.parameterNames.find? fun name => !isNamed p.rule.parameters name with
      | some name => .error ⟨p.name, name⟩
      | none => .ok (p.adjusted options) := by
  rw [configure, adjusted, baseThemes]
  cases options.parameterNames.find? fun name => !isNamed p.rule.parameters name with
  | some name => rfl
  | none => cases options.severity <;> cases options.setThemes <;> cases options.addThemes <;> rfl

/-- **A policy that knows all parameters** gets the options of the section. -/
theorem configure_eq_ok_iff :
    p.configure options = .ok q ↔
      (∀ name ∈ options.parameterNames, name ∈ p.rule.parameters.map Text.ofString) ∧
        p.adjusted options = q := by
  have hknown : (options.parameterNames.find? fun name => !isNamed p.rule.parameters name) = none ↔
      ∀ name ∈ options.parameterNames, name ∈ p.rule.parameters.map Text.ofString := by
    simp only [List.find?_eq_none, Bool.not_eq_true', Bool.not_eq_false, isNamed_iff]
  rw [configure_eq, ← hknown]
  split
  · rename_i hfind
    simp [hfind]
  · rename_i hfind
    simp [hfind]

/-- **The first parameter that a policy does not know** is the error. -/
theorem configure_eq_error_iff {e : UnknownParameter} :
    p.configure options = .error e ↔
      e.policy = p.name ∧ ∃ before after, options.parameterNames = before ++ e.parameter :: after ∧
        (∀ name ∈ before, name ∈ p.rule.parameters.map Text.ofString) ∧
        e.parameter ∉ p.rule.parameters.map Text.ofString := by
  have hfirst : (options.parameterNames.find? fun name => !isNamed p.rule.parameters name) =
      some e.parameter ↔ ∃ before after, options.parameterNames = before ++ e.parameter :: after ∧
        (∀ name ∈ before, name ∈ p.rule.parameters.map Text.ofString) ∧
        e.parameter ∉ p.rule.parameters.map Text.ofString := by
    simp only [List.find?_eq_some_iff_append, Bool.not_not, Bool.not_eq_true', ← Bool.not_eq_true,
      isNamed_iff]
    constructor
    · rintro ⟨hunknown, before, after, hnames, hbefore⟩
      exact ⟨before, after, hnames, hbefore, hunknown⟩
    · rintro ⟨before, after, hnames, hbefore, hunknown⟩
      exact ⟨hunknown, before, after, hnames, hbefore⟩
  rw [configure_eq, ← hfirst]
  obtain ⟨policy, parameter⟩ := e
  split
  · rename_i name hfind
    simp [hfind, eq_comm]
  · rename_i hfind
    simp [hfind]

theorem severity_adjusted (p : Policy) (options : Section) :
    (p.adjusted options).severity = options.severity.getD p.severity := by
  rw [severity, adjusted]
  cases options.severity <;> rfl

theorem themes_adjusted (p : Policy) (options : Section) :
    (p.adjusted options).themes =
      if options.addThemes.isEmpty then p.baseThemes options
      else sortNames (p.baseThemes options ++ options.addThemes) := by
  rw [themes, adjusted, baseThemes]
  cases options.setThemes <;> cases options.addThemes <;> rfl

theorem rule_configure (h : p.configure options = .ok q) : q.rule = p.rule := by
  obtain ⟨-, rfl⟩ := configure_eq_ok_iff.1 h
  rfl

theorem limit_configure (h : p.configure options = .ok q) : q.limit = options.limit := by
  obtain ⟨-, rfl⟩ := configure_eq_ok_iff.1 h
  rfl

end Policy

/-! ## Policies in a row -/

namespace Profile

variable {profile : Profile}

/-- The policies of rules in a row that a profile enables, configured, whether it wants them or
not. -/
def configured (profile : Profile) (rules : List Rule) : Except UnknownParameter (List Policy) :=
  (rules.filter fun rule => (profile.sectionOf rule).enabled).mapM fun rule =>
    (Policy.ofRule rule).configure (profile.sectionOf rule)

/-- **Selecting** is configuring, which may fail, and then leaving out what is not wanted. -/
theorem selectFrom_eq (profile : Profile) (rules : List Rule) :
    profile.selectFrom rules = (profile.configured rules).map (List.filter profile.wants) := by
  induction rules with
  | nil => rfl
  | cons rule rest ih =>
    rw [selectFrom, configured, List.filter_cons]
    cases henabled : (profile.sectionOf rule).enabled with
    | false =>
      simp only [Bool.not_false, if_true, ih, configured]
      rfl
    | true =>
      simp only [Bool.not_true, ih, configured, if_true, List.mapM_cons]
      cases (Policy.ofRule rule).configure (profile.sectionOf rule) with
      | error e => rfl
      | ok p =>
        cases (rest.filter fun rule => (profile.sectionOf rule).enabled).mapM fun rule =>
          (Policy.ofRule rule).configure (profile.sectionOf rule) with
        | error e => rfl
        | ok more => exact congrArg Except.ok List.filter_cons.symm

/-- Configuring looks at the sections alone. -/
theorem configured_congr {other : Profile} (h : profile.sections = other.sections)
    (rules : List Rule) : profile.configured rules = other.configured rules := by
  have hsection : profile.sectionOf = other.sectionOf := by
    funext rule
    rw [sectionOf, sectionOf, h]
  rw [configured, configured, hsection]

/-- A selected policy is one that was configured and is wanted. -/
theorem of_mem_selectFrom {rules : List Rule} {ps : List Policy}
    (h : profile.selectFrom rules = .ok ps) {p : Policy} (hp : p ∈ ps) :
    profile.wants p = true ∧
      ∃ rule ∈ rules, (Policy.ofRule rule).configure (profile.sectionOf rule) = .ok p := by
  rw [selectFrom_eq] at h
  obtain ⟨all, hall, rfl⟩ := map_eq_ok_iff.1 h
  obtain ⟨hp, hwants⟩ := List.mem_filter.1 hp
  obtain ⟨rule, hrule, hconfigure⟩ := exists_of_mem_mapM hall hp
  exact ⟨hwants, rule, List.mem_of_mem_filter hrule, hconfigure⟩

/-- The selected policies are those of some of the rules, in their order. -/
theorem map_rule_sublist {rules : List Rule} {ps : List Policy}
    (h : profile.selectFrom rules = .ok ps) : (ps.map Policy.rule).Sublist rules := by
  rw [selectFrom_eq] at h
  obtain ⟨all, hall, rfl⟩ := map_eq_ok_iff.1 h
  have hrules : List.Forall₂ (fun rule p => rule = Policy.rule p)
      (rules.filter fun rule => (profile.sectionOf rule).enabled) all :=
    (mapM_eq_ok_iff.1 hall).imp fun rule p hp => (Policy.rule_configure hp).symm
  rw [← List.forall₂_map_right_iff, List.forall₂_eq_eq_eq] at hrules
  exact (List.filter_sublist.map _).trans (hrules ▸ List.filter_sublist)

/-- **All policies are of the goto rule**, which is the only registered one. -/
theorem rule_of_mem_critic {c : Critic} (h : profile.critic = .ok c) :
    ∀ p ∈ c.policies, p.rule = .gotoIntoBlock := by
  obtain ⟨ps, hps, rfl⟩ := map_eq_ok_iff.1 h
  exact fun p hp => List.mem_singleton.1 ((map_rule_sublist hps).subset (List.mem_map_of_mem hp))

end Profile
end JumpLint
