import JumpLint.Proofs.Profile.Filtering

/-!
# Which policies a profile chooses

A profile sets up the policies that it enables before it looks at their severities and themes.  So a
parameter that a policy does not know is an error even if the policy would have been left out
afterwards; and in the section of a policy that is not enabled it does not matter.  The policies
that are left are those that are bad enough and carry all themes, with the settings of their
sections.

## What is here

* `mem_sortNames`, `pairwise_sortNames`: names in rising order are the same names, each once.
* `Policy.mem_themes_adjusted`, `Policy.pairwise_themes_adjusted`: the themes of a policy by a
  section.
* `Section.Suits`: a section that does not stop its policy from being set up;
  `Profile.selectFrom_eq_ok_iff` and `Profile.selectFrom_eq_error_iff` say what comes of rules whose
  sections suit them, and of the first one whose section does not;
  `Profile.exists_selectFrom_eq_error_iff` says when there is one.
* `Profile.Chooses`, `Profile.IsChoice`: which policies are left, and what they are like;
  `Profile.select_chooses` puts all this together.
-/

set_option autoImplicit false
namespace JumpLint

/-! ## Names in order -/

theorem mem_insertName {name other : Text} {names : List Text} :
    other ∈ insertName name names ↔ other = name ∨ other ∈ names := by
  induction names with
  | nil => rw [insertName, List.mem_singleton, or_iff_left List.not_mem_nil]
  | cons n rest ih =>
    rw [insertName]
    split
    · exact List.mem_cons
    · split
      · rename_i hname
        rw [← beq_iff_eq.1 hname, List.mem_cons, ← or_assoc, or_self]
      · rw [List.mem_cons, ih, List.mem_cons]
        exact or_left_comm

theorem mem_sortNames {name : Text} {names : List Text} :
    name ∈ sortNames names ↔ name ∈ names := by
  induction names with
  | nil => exact Iff.rfl
  | cons n rest ih =>
    rw [sortNames, List.foldr_cons, mem_insertName, List.mem_cons]
    exact or_congr_right ih

theorem pairwise_insertName (name : Text) {names : List Text} (h : names.Pairwise (· < ·)) :
    (insertName name names).Pairwise (· < ·) := by
  induction names with
  | nil => exact List.pairwise_singleton _ _
  | cons n rest ih =>
    obtain ⟨hn, hrest⟩ := List.pairwise_cons.1 h
    rw [insertName]
    split
    · rename_i hlt
      refine List.pairwise_cons.2 ⟨fun other hother => ?_, h⟩
      rcases List.mem_cons.1 hother with rfl | hother
      · exact hlt
      · exact hlt.trans (hn other hother)
    · rename_i hle
      split
      · exact h
      · rename_i hne
        have hlt : n < name := lt_of_le_of_ne (not_lt.1 hle) fun heq => hne (beq_iff_eq.2 heq)
        refine List.pairwise_cons.2 ⟨fun other hother => ?_, ih hrest⟩
        rcases mem_insertName.1 hother with rfl | hother
        · exact hlt
        · exact hn other hother

/-- Names in order rise, so that each is there once. -/
theorem pairwise_sortNames (names : List Text) : (sortNames names).Pairwise (· < ·) := by
  induction names with
  | nil => exact List.Pairwise.nil
  | cons n rest ih => exact pairwise_insertName n ih

namespace Policy

/-- The themes of a policy that is set up: those that its section sets, or else its own, and those
that the section adds. -/
theorem mem_themes_adjusted {p : Policy} {options : Section} {theme : Text} :
    theme ∈ (p.adjusted options).themes ↔
      theme ∈ options.setThemes.getD p.themes ∨ theme ∈ options.addThemes := by
  have hbase : theme ∈ p.baseThemes options ↔ theme ∈ options.setThemes.getD p.themes := by
    rw [baseThemes]
    cases options.setThemes with
    | none => exact Iff.rfl
    | some themes => exact mem_sortNames
  rw [themes_adjusted, ← hbase]
  split
  · rename_i hnone
    rw [List.isEmpty_iff.1 hnone]
    exact (or_iff_left List.not_mem_nil).symm
  · rw [mem_sortNames, List.mem_append]

theorem pairwise_themes_adjusted {p : Policy} (hp : p.themes.Pairwise (· < ·))
    (options : Section) : (p.adjusted options).themes.Pairwise (· < ·) := by
  rw [themes_adjusted, baseThemes]
  split
  · cases options.setThemes with
    | none => exact hp
    | some themes => exact pairwise_sortNames themes
  · exact pairwise_sortNames _

theorem mem_themes_ofRule {rule : Rule} {theme : Text} :
    theme ∈ (ofRule rule).themes ↔ theme ∈ rule.themes.map Text.ofString := mem_sortNames

end Policy

/-! ## Setting up policies -/

namespace Section

/-- A section does not stop a policy of a rule from being set up: the policy knows all parameters,
or is not enabled. -/
def Suits (options : Section) (rule : Rule) : Prop :=
  options.enabled = true → ∀ name ∈ options.parameterNames, name ∈ rule.parameters.map Text.ofString

instance (options : Section) (rule : Rule) : Decidable (options.Suits rule) :=
  inferInstanceAs (Decidable (options.enabled = true → ∀ name ∈ options.parameterNames, _))

/-- A policy of a rule carries a theme by its section: the section sets or adds it, or it is one of
those that the policy has unless they are set. -/
def Carries (options : Section) (rule : Rule) (theme : Text) : Prop :=
  theme ∈ options.setThemes.getD (rule.themes.map Text.ofString) ∨ theme ∈ options.addThemes

end Section

namespace Profile

variable {profile : Profile} {rules : List Rule}

/-- A policy of a rule as a profile sets it up. -/
def setUp (profile : Profile) (rule : Rule) : Policy :=
  (Policy.ofRule rule).adjusted (profile.sectionOf rule)

/-- The policies of rules that a profile enables and wants, as it sets them up. -/
def chosen (profile : Profile) (rules : List Rule) : List Policy :=
  ((rules.filter fun rule => (profile.sectionOf rule).enabled).map profile.setUp).filter
    profile.wants

/-- **What a profile selects**, if all sections suit: the policies that it enables and wants. -/
theorem selectFrom_eq_ok_iff {ps : List Policy} :
    profile.selectFrom rules = .ok ps ↔
      (∀ rule ∈ rules, (profile.sectionOf rule).Suits rule) ∧ profile.chosen rules = ps := by
  have hsuits : (∀ rule ∈ rules.filter fun rule => (profile.sectionOf rule).enabled,
      ∀ name ∈ (profile.sectionOf rule).parameterNames, name ∈ rule.parameters.map Text.ofString) ↔
        ∀ rule ∈ rules, (profile.sectionOf rule).Suits rule := by
    simp only [List.mem_filter, and_imp, Section.Suits]
  have hconfigured : ∀ all, profile.configured rules = .ok all ↔
      (∀ rule ∈ rules, (profile.sectionOf rule).Suits rule) ∧
        (rules.filter fun rule => (profile.sectionOf rule).enabled).map profile.setUp = all := by
    intro all
    rw [configured, mapM_eq_ok_iff, ← hsuits, ← List.forall₂_eq_eq_eq, List.forall₂_map_left_iff,
      ← List.forall₂_and_left]
    exact iff_of_eq (congrArg (fun R => List.Forall₂ R _ all)
      (funext₂ fun rule p => propext Policy.configure_eq_ok_iff))
  rw [selectFrom_eq, map_eq_ok_iff]
  constructor
  · rintro ⟨all, hall, rfl⟩
    obtain ⟨hsuit, rfl⟩ := (hconfigured all).1 hall
    exact ⟨hsuit, rfl⟩
  · rintro ⟨hsuit, rfl⟩
    exact ⟨_, (hconfigured _).2 ⟨hsuit, rfl⟩, rfl⟩

/-- **The first rule whose section does not suit** is the one of the error. -/
theorem selectFrom_eq_error_iff {e : UnknownParameter} :
    profile.selectFrom rules = .error e ↔ ∃ before rule after, rules = before ++ rule :: after ∧
      (∀ earlier ∈ before, (profile.sectionOf earlier).Suits earlier) ∧
      (profile.sectionOf rule).enabled = true ∧
      (Policy.ofRule rule).configure (profile.sectionOf rule) = .error e := by
  rw [selectFrom_eq, map_eq_error_iff, configured, mapM_eq_error_iff]
  constructor
  · rintro ⟨front, rule, back, hrules, hfront, hrule⟩
    obtain ⟨first, rest, rfl, rfl, hrest⟩ := List.filter_eq_append_iff.1 hrules
    obtain ⟨skipped, after, rfl, hskipped, henabled, rfl⟩ := List.filter_eq_cons_iff.1 hrest
    refine ⟨first ++ skipped, rule, after, (List.append_assoc _ _ _).symm, ?_, henabled, hrule⟩
    intro earlier hearlier henabled'
    rcases List.mem_append.1 hearlier with hearlier | hearlier
    · obtain ⟨p, hp⟩ := hfront earlier (List.mem_filter.2 ⟨hearlier, henabled'⟩)
      exact (Policy.configure_eq_ok_iff.1 hp).1
    · exact absurd henabled' (hskipped earlier hearlier)
  · rintro ⟨before, rule, after, rfl, hbefore, henabled, hrule⟩
    refine ⟨before.filter fun rule => (profile.sectionOf rule).enabled, rule,
      after.filter fun rule => (profile.sectionOf rule).enabled, ?_, fun earlier hearlier => ?_,
      hrule⟩
    · rw [List.filter_append, List.filter_cons, if_pos henabled]
    · obtain ⟨hearlier, henabled'⟩ := List.mem_filter.1 hearlier
      exact ⟨_, Policy.configure_eq_ok_iff.2 ⟨hbefore earlier hearlier henabled', rfl⟩⟩

/-- **Selecting fails** exactly if a rule is enabled and its policy does not know a parameter. -/
theorem exists_selectFrom_eq_error_iff :
    (∃ e, profile.selectFrom rules = .error e) ↔
      ∃ rule ∈ rules, (profile.sectionOf rule).enabled = true ∧
        ∃ name ∈ (profile.sectionOf rule).parameterNames,
          name ∉ rule.parameters.map Text.ofString := by
  constructor
  · rintro ⟨e, he⟩
    obtain ⟨before, rule, after, rfl, -, henabled, hrule⟩ := selectFrom_eq_error_iff.1 he
    obtain ⟨-, known, more, hnames, -, hunknown⟩ := Policy.configure_eq_error_iff.1 hrule
    refine ⟨rule, List.mem_append_cons_self, henabled, e.parameter, ?_, hunknown⟩
    rw [hnames]
    exact List.mem_append_cons_self
  · rintro ⟨rule, hrule, henabled, name, hname, hunknown⟩
    cases hselect : profile.selectFrom rules with
    | error e => exact ⟨e, rfl⟩
    | ok ps =>
      have hsuit := (selectFrom_eq_ok_iff.1 hselect).1 rule hrule
      exact absurd (hsuit henabled name hname) hunknown

/-! ## The choice -/

/-- A policy without a section has the default one. -/
theorem sectionOf_eq_default {rule : Rule}
    (h : ∀ entry ∈ profile.sections, entry.1 ≠ .ofString rule.name) :
    profile.sectionOf rule = .default := by
  have hnone : profile.sections.lookup (.ofString rule.name) = none := by
    rw [lookup_eq_none_iff_not_mem, List.mem_map]
    rintro ⟨entry, hentry, hname⟩
    exact h entry hentry hname
  rw [sectionOf, hnone]
  rfl

/-- A profile chooses a policy: it enables it, and with the settings of its section the policy is
bad enough and carries all themes that the profile asks for. -/
structure Chooses (profile : Profile) (rule : Rule) : Prop where
  enabled : (profile.sectionOf rule).enabled = true
  severity : profile.severity.level ≤ ((profile.sectionOf rule).severity.getD rule.severity).level
  themes : ∀ theme ∈ profile.themes, (profile.sectionOf rule).Carries rule theme

/-- The policies that a profile chooses, in the order of the registry, each of them once and set up
by its section.  None has looked at a document yet. -/
structure IsChoice (profile : Profile) (ps : List Policy) : Prop where
  ordered : (ps.map Policy.rule).Sublist Registry.rules
  once : (ps.map Policy.rule).Nodup
  mem_iff : ∀ rule, rule ∈ ps.map Policy.rule ↔ rule ∈ Registry.rules ∧ profile.Chooses rule
  severity : ∀ p ∈ ps, p.severity = (profile.sectionOf p.rule).severity.getD p.rule.severity
  themes : ∀ p ∈ ps, ∀ theme, theme ∈ p.themes ↔ (profile.sectionOf p.rule).Carries p.rule theme
  themesOnce : ∀ p ∈ ps, p.themes.Pairwise (· < ·)
  limit : ∀ p ∈ ps, p.limit = (profile.sectionOf p.rule).limit
  fresh : ∀ p ∈ ps, p.prepared = none

theorem severity_setUp (profile : Profile) (rule : Rule) :
    (profile.setUp rule).severity = (profile.sectionOf rule).severity.getD rule.severity :=
  Policy.severity_adjusted _ _

theorem mem_themes_setUp {rule : Rule} {theme : Text} :
    theme ∈ (profile.setUp rule).themes ↔ (profile.sectionOf rule).Carries rule theme := by
  rw [setUp, Policy.mem_themes_adjusted, Section.Carries]
  cases (profile.sectionOf rule).setThemes with
  | none => exact or_congr_left Policy.mem_themes_ofRule
  | some themes => exact Iff.rfl

theorem pairwise_themes_setUp (profile : Profile) (rule : Rule) :
    (profile.setUp rule).themes.Pairwise (· < ·) :=
  Policy.pairwise_themes_adjusted (p := .ofRule rule) (pairwise_sortNames _) _

theorem chooses_iff {rule : Rule} :
    profile.Chooses rule ↔
      (profile.sectionOf rule).enabled = true ∧ profile.wants (profile.setUp rule) = true := by
  rw [wants, Bool.and_eq_true, decide_eq_true_iff, List.all_eq_true, severity_setUp]
  simp only [List.contains_iff_mem, mem_themes_setUp]
  exact ⟨fun h => ⟨h.enabled, h.severity, h.themes⟩, fun h => ⟨h.1, h.2.1, h.2.2⟩⟩

theorem map_rule_chosen (profile : Profile) (rules : List Rule) :
    (profile.chosen rules).map Policy.rule =
      (rules.filter fun rule => (profile.sectionOf rule).enabled).filter
        (profile.wants ∘ profile.setUp) := by
  rw [chosen, List.filter_map, List.map_map]
  exact List.map_id _

theorem eq_setUp_of_mem_chosen {p : Policy} (h : p ∈ profile.chosen rules) :
    p = profile.setUp p.rule := by
  obtain ⟨rule, -, rfl⟩ := List.mem_map.1 (List.mem_of_mem_filter h)
  rfl

theorem isChoice_chosen (profile : Profile) : profile.IsChoice (profile.chosen Registry.rules) := by
  have hsub : ((profile.chosen Registry.rules).map Policy.rule).Sublist Registry.rules := by
    rw [map_rule_chosen]
    exact List.filter_sublist.trans List.filter_sublist
  have hset : ∀ p ∈ profile.chosen Registry.rules, profile.setUp p.rule = p :=
    fun p hp => (eq_setUp_of_mem_chosen hp).symm
  constructor
  case ordered => exact hsub
  case once =>
    have hnodup : Registry.rules.Nodup := Registry.pairwise_name_rules.imp fun hne heq =>
      hne (congrArg (fun rule => Text.ofString rule.name) heq)
    exact hnodup.sublist hsub
  case mem_iff =>
    intro rule
    rw [map_rule_chosen, List.mem_filter, List.mem_filter, chooses_iff, and_assoc]
    exact Iff.rfl
  case severity => exact fun p hp => hset p hp ▸ severity_setUp profile p.rule
  case themes => exact fun p hp theme => hset p hp ▸ mem_themes_setUp
  case themesOnce => exact fun p hp => hset p hp ▸ pairwise_themes_setUp profile p.rule
  case limit => exact fun p hp => hset p hp ▸ rfl
  case fresh => exact fun p hp => hset p hp ▸ rfl

/-- **What a profile chooses.**  A policy has the section with its name, or else the default one;
the parameters of a section are its entries that are no options, in their order.
Choosing fails exactly if a registered policy that is enabled does not know a parameter of its
section, be it wanted or not: the error is about the first such policy and the first such parameter.
Otherwise the policies are those that the profile chooses. -/
theorem select_chooses (hvalid : profile.IsValid) :
    (∀ rule : Rule,
      (∀ entry ∈ profile.sections, entry.1 = .ofString rule.name →
        profile.sectionOf rule = entry.2) ∧
      ((∀ entry ∈ profile.sections, entry.1 ≠ .ofString rule.name) →
        profile.sectionOf rule = .default)) ∧
    (∀ fields options, Section.ofDatum (.mapping fields) = .ok options →
      options.parameters = fields.filterMap Section.extra?) ∧
    ((∃ e, profile.select = .error e) ↔
      ∃ rule ∈ Registry.rules, (profile.sectionOf rule).enabled = true ∧
        ∃ name ∈ (profile.sectionOf rule).parameterNames, name ∉ rule.parameters.map Text.ofString) ∧
    (∀ e, profile.select = .error e →
      ∃ before rule after, Registry.rules = before ++ rule :: after ∧
        (∀ earlier ∈ before, (profile.sectionOf earlier).Suits earlier) ∧
        (profile.sectionOf rule).enabled = true ∧
        ∃ known more, (profile.sectionOf rule).parameterNames = known ++ e.parameter :: more ∧
          (∀ name ∈ known, name ∈ rule.parameters.map Text.ofString) ∧
          e.parameter ∉ rule.parameters.map Text.ofString ∧
          e.message = rule.name ++ " does not support parameter " ++ Text.quoted e.parameter) ∧
    ((∀ rule ∈ Registry.rules, (profile.sectionOf rule).Suits rule) →
      ∃ ps, profile.select = .ok ps ∧ profile.IsChoice ps) := by
  refine ⟨fun rule => ⟨fun entry hentry hname => sectionOf_eq_of_mem hvalid hentry hname.symm,
    sectionOf_eq_default⟩, fun fields options hread => ?_, exists_selectFrom_eq_error_iff,
    fun e he => ?_, fun hsuit => ?_⟩
  · obtain ⟨_, hfields, hoptions⟩ := Section.isReadFrom_of_ofDatum hread
    cases hfields
    exact Section.eq_filterMap_of_extras hoptions.parameters
  · obtain ⟨before, rule, after, hrules, hbefore, henabled, hrule⟩ :=
      selectFrom_eq_error_iff.1 he
    obtain ⟨hpolicy, known, more, hnames, hknown, hunknown⟩ :=
      Policy.configure_eq_error_iff.1 hrule
    refine ⟨before, rule, after, hrules, hbefore, henabled, known, more, hnames, hknown, hunknown,
      ?_⟩
    rw [UnknownParameter.message, hpolicy]
    rfl
  · exact ⟨_, selectFrom_eq_ok_iff.2 ⟨hsuit, rfl⟩, isChoice_chosen profile⟩

/-- A profile that asks for a theme that the goto rule has by its section only. -/
def focused : Profile where
  severity := .low
  themes := [.ofString "core"]
  sections := [(.ofString "ControlStructures::ProhibitGotoIntoBlock",
    ⟨true, some .low, some [], [.ofString "core", .ofString "core"], some 3, []⟩)]

/-- What it is read from. -/
def focusedData : Datum :=
  .mapping [
    (.text (.ofString "severity"), .int 2),
    (.text (.ofString "theme"), .text (.ofString "core")),
    (.text (.ofString "policies"), .mapping [
      (.text (.ofString "ControlStructures::ProhibitGotoIntoBlock"), .mapping [
        (.text (.ofString "severity"), .text (.ofString "cruel")),
        (.text (.ofString "set_themes"), .list []),
        (.text (.ofString "add_themes"),
          .list [.text (.ofString "core"), .text (.ofString "core")]),
        (.text (.ofString "maximum_violations_per_document"), .int 3)])])]

/-- A profile with parameters that the goto rule does not know, in a section that makes the policy
too mild for the profile. -/
def careless : Profile where
  severity := .highest
  themes := []
  sections := [(.ofString "ControlStructures::ProhibitGotoIntoBlock",
    ⟨true, some .low, none, [], none, [(.ofString "depth", .int 1), (.ofString "colour", .null)]⟩)]

/-- What it is read from. -/
def carelessData : Datum :=
  .mapping [
    (.text (.ofString "severity"), .text (.ofString "gentle")),
    (.text (.ofString "policies"), .mapping [
      (.text (.ofString "ControlStructures::ProhibitGotoIntoBlock"), .mapping [
        (.text (.ofString "depth"), .int 1),
        (.text (.ofString "severity"), .int 2),
        (.text (.ofString "colour"), .null)])])]

theorem select_chooses_focused :
    focused.IsValid ∧ careless.IsValid ∧
      (∃ ps, focused.select = .ok ps ∧ focused.IsChoice ps ∧
        ps.map Policy.themes = [[.ofString "core"]]) ∧
      ∃ e, careless.select = .error e ∧ e.parameter = .ofString "depth" ∧
        ¬careless.Chooses .gotoIntoBlock := by
  have hfocused : focused.IsValid := isValid_of_ofDatum (d := focusedData) (by decide +kernel)
  have hcareless : careless.IsValid := isValid_of_ofDatum (d := carelessData) (by decide +kernel)
  have hthemes : focused.select.map (List.map Policy.themes) = .ok [[.ofString "core"]] := by
    decide +kernel
  have herror : careless.select = .error ⟨Rule.gotoIntoBlock.name, .ofString "depth"⟩ := rfl
  obtain ⟨-, -, -, -, hchoice⟩ := select_chooses hfocused
  obtain ⟨ps, hps, hchosen⟩ := hchoice (by decide)
  obtain ⟨-, -, hfails, -⟩ := select_chooses hcareless
  obtain ⟨e, he⟩ := hfails.2 ⟨.gotoIntoBlock, by decide, by decide, .ofString "colour", by decide,
    by decide⟩
  refine ⟨hfocused, hcareless, ⟨ps, hps, hchosen, ?_⟩, e, he, ?_, fun hchooses => ?_⟩
  · rw [hps] at hthemes
    exact Except.ok.inj hthemes
  · exact congrArg UnknownParameter.parameter (Except.error.inj (he.symm.trans herror))
  · exact absurd hchooses.severity (by decide)

end Profile
end JumpLint
