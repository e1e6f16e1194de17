import JumpLint.Proofs.Profile.Choice

/-!
# Configuring a policy in place

A section is applied to a policy that is there already and may have been set up before.  Seen in
place this is a row of adjustments, one after the other, and an adjustment that cannot be made stops
the row where it stands.  Nothing is left half done all the same, because all that can fail comes
before all that changes the policy.

## What is here

* `Policy.Adjustment`, `Policy.make`, `Policy.makeAll`: single adjustments of a policy, and a row of
  them.
* `Section.adjustments`: the row for a section; `Policy.makeAll_adjustments` says that it comes to
  what `Policy.configure` gives, or to nothing at all.
* `sortNames_congr`: the order of names is that of their set.
* `Policy.adjusted_adjusted`: the options of a section are not changed by applying them again.
* `Policy.IsSetBy`: what a policy is like by a section, compared to what it was;
  `Policy.configure_all_or_nothing` puts all this together.
-/

set_option autoImplicit false
namespace JumpLint

/-! ## Adjustments in a row -/

/-- One adjustment of a policy: a parameter is asked for, or something is set. -/
inductive Policy.Adjustment where
  | know (parameter : Text)
  | severity (severity : Severity)
  | themes (themes : List Text)
  | moreThemes (themes : List Text)
  | limit (limit : Option Int)

/-- What a section sets, in order.  The limit is always set, be there one or not. -/
def Section.changes (options : Section) : List Policy.Adjustment :=
  (options.severity.map .severity).toList ++ ((options.setThemes.map .themes).toList ++
    ((if options.addThemes.isEmpty then [] else [.moreThemes options.addThemes]) ++
      [.limit options.limit]))

/-- The adjustments of a section: its parameters first, then what it sets. -/
def Section.adjustments (options : Section) : List Policy.Adjustment :=
  options.parameterNames.map .know ++ options.changes

namespace Policy

/-- Makes one adjustment. -/
def make (p : Policy) : Adjustment → Except UnknownParameter Policy
  | .know name => if isNamed p.rule.parameters name then .ok p else .error ⟨p.name, name⟩
  | .severity s => .ok (p.setSeverity s)
  | .themes themes => .ok (p.setThemes themes)
  | .moreThemes themes => .ok (p.addThemes themes)
  | .limit limit => .ok { p with limit := limit }

/-- Makes adjustments in a row, up to one that cannot be made: the policy as it is left, and why the
row ended there. -/
def makeAll (p : Policy) : List Adjustment → Policy × Option UnknownParameter
  | [] => (p, none)
  | a :: rest =>
    match p.make a with
    | .error e => (p, some e)
    | .ok q => q.makeAll rest

variable {p q : Policy} {options : Section}

/-- As long as parameters are asked for, the policy stays as it is. -/
theorem makeAll_know (p : Policy) (names : List Text) (rest : List Adjustment) :
    p.makeAll (names.map .know ++ rest) =
      match names.find? fun name => !isNamed p.rule.parameters name with
      | some name => (p, some ⟨p.name, name⟩)
      | none => p.makeAll rest := by
  induction names with
  | nil => rfl
  | cons name more ih =>
    rw [List.map_cons, List.cons_append, makeAll, make, List.find?_cons]
    cases isNamed p.rule.parameters name with
    | true => exact ih
    | false => rfl

/-- What a section sets can be set in every policy. -/
theorem makeAll_changes (p : Policy) (options : Section) :
    p.makeAll options.changes = (p.adjusted options, none) := by
  rw [Section.changes, adjusted, baseThemes]
  cases options.severity <;> cases options.setThemes <;> cases options.addThemes <;> rfl

/-- **In place.**  The adjustments of a section leave what configuring gives, or the policy as it
was. -/
theorem makeAll_adjustments (p : Policy) (options : Section) :
    p.makeAll options.adjustments =
      match p.configure options with
      | .error e => (p, some e)
      | .ok q => (q, none) := by
  rw [Section.adjustments, makeAll_know, makeAll_changes, configure_eq]
  cases options.parameterNames.find? fun name => !isNamed p.rule.parameters name <;> rfl

end Policy

/-! ## Applying options again -/

/-- **Names in order are those of a set**: it does not matter how often and where they stood. -/
theorem sortNames_congr {names others : List Text} (h : ∀ name, name ∈ names ↔ name ∈ others) :
    sortNames names = sortNames others := by
  have hnodup : ∀ names, (sortNames names).Nodup :=
    fun names => (pairwise_sortNames names).imp ne_of_lt
  have hperm : (sortNames names).Perm (sortNames others) := by
    refine (List.perm_ext_iff_of_nodup (hnodup names) (hnodup others)).2 fun name => ?_
    rw [mem_sortNames, mem_sortNames, h]
  exact hperm.eq_of_pairwise (fun _ _ _ _ hab hba => absurd hba (lt_asymm hab))
    (pairwise_sortNames names) (pairwise_sortNames others)

namespace Policy

variable {p q : Policy} {options : Section}

/-- Themes that a section adds are there already when it is applied again. -/
theorem sortNames_baseThemes_adjusted (p : Policy) (options : Section)
    (hadd : options.addThemes ≠ []) :
    sortNames ((p.adjusted options).baseThemes options ++ options.addThemes) =
      sortNames (p.baseThemes options ++ options.addThemes) := by
  have hnone : ¬options.addThemes.isEmpty = true := by simpa using hadd
  -- themes that are set replace what was there; otherwise the added ones are among what was there
  cases hset : options.setThemes with
  | some themes => simp only [baseThemes, hset, Option.map_some, Option.getD_some]
  | none =>
    refine sortNames_congr fun name => ?_
    rw [baseThemes, hset, Option.map_none, Option.getD_none, themes_adjusted, if_neg hnone,
      List.mem_append, mem_sortNames, List.mem_append, or_assoc, or_self]

/-- **Options are not changed by applying them again.** -/
theorem adjusted_adjusted (p : Policy) (options : Section) :
    (p.adjusted options).adjusted options = p.adjusted options := by
  have hseverity : options.severity.or (options.severity.or p.ownSeverity) =
      options.severity.or p.ownSeverity := by cases options.severity <;> rfl
  have hthemes : ((p.adjusted options).adjusted options).ownThemes =
      (p.adjusted options).ownThemes := by
    by_cases hadd : options.addThemes = []
    · simp only [adjusted, hadd, List.isEmpty_nil, if_true]
      cases options.setThemes <;> rfl
    · have hnone : ¬options.addThemes.isEmpty = true := by simpa using hadd
      have hagain := sortNames_baseThemes_adjusted p options hadd
      rw [adjusted, if_neg hnone, hagain, adjusted, if_neg hnone]
  have hfields : (p.adjusted options).adjusted options =
      ⟨p.rule, options.severity.or (options.severity.or p.ownSeverity),
        ((p.adjusted options).adjusted options).ownThemes, options.limit, p.prepared⟩ := rfl
  rw [hfields, hseverity, hthemes]
  rfl

/-- A policy `q` is what a policy `p` is by a section: settings that the section mentions are those
of the section, and others are kept, except that the limit is always the one of the section. -/
structure IsSetBy (q p : Policy) (options : Section) : Prop where
  severity : ∀ s, options.severity = some s → q.severity = s
  severity_kept : options.severity = none → q.severity = p.severity
  themes : ∀ theme, theme ∈ q.themes ↔
    theme ∈ options.setThemes.getD p.themes ∨ theme ∈ options.addThemes
  themes_kept : options.setThemes = none → options.addThemes = [] → q.themes = p.themes
  limit : q.limit = options.limit
  rule : q.rule = p.rule
  prepared : q.prepared = p.prepared

theorem isSetBy_adjusted (p : Policy) (options : Section) :
    (p.adjusted options).IsSetBy p options := by
  constructor
  case severity =>
    intro s hs
    rw [severity_adjusted, hs, Option.getD_some]
  case severity_kept =>
    intro hnone
    rw [severity_adjusted, hnone, Option.getD_none]
  case themes => exact fun theme => mem_themes_adjusted
  case themes_kept =>
    intro hset hadd
    rw [themes_adjusted, hadd, List.isEmpty_nil, if_pos rfl, baseThemes, hset]
    rfl
  case limit => rfl
  case rule => rfl
  case prepared => rfl

/-- **All or nothing.**  A policy can be configured exactly if it knows all parameters of the
section.  If it cannot, the adjustments of the section leave it as it was, whatever else the section
asks for.  If it can, they leave the policy that is given: it has the settings that the section
mentions, keeps those that it does not mention, and has the limit of the section in any case; and to
configure it again with the same section changes nothing. -/
theorem configure_all_or_nothing (p : Policy) (options : Section) :
    ((∃ q, p.configure options = .ok q) ↔
      ∀ name ∈ options.parameterNames, name ∈ p.rule.parameters.map Text.ofString) ∧
    (∀ e, p.configure options = .error e → p.makeAll options.adjustments = (p, some e)) ∧
    ∀ q, p.configure options = .ok q →
      p.makeAll options.adjustments = (q, none) ∧ q.IsSetBy p options ∧
        q.configure options = .ok q ∧ q.makeAll options.adjustments = (q, none) := by
  refine ⟨?_, fun e he => ?_, fun q hq => ?_⟩
  · simp only [configure_eq_ok_iff, exists_and_left, exists_eq', and_true]
  · rw [makeAll_adjustments, he]
  · obtain ⟨hknown, rfl⟩ := configure_eq_ok_iff.1 hq
    have hagain : (p.adjusted options).configure options = .ok (p.adjusted options) :=
      configure_eq_ok_iff.2 ⟨hknown, adjusted_adjusted p options⟩
    refine ⟨?_, isSetBy_adjusted p options, hagain, ?_⟩
    · rw [makeAll_adjustments, hq]
    · rw [makeAll_adjustments, hagain]

/-- A policy that has been set up before. -/
def tuned : Policy where
  rule := .gotoIntoBlock
  ownSeverity := some .low
  ownThemes := some [.ofString "core"]
  limit := some 3
  prepared := none

/-- A section that adds a theme and mentions nothing else. -/
def addingSection : Section := { Section.default with addThemes := [.ofString "bugs"] }

/-- The same section with a severity and a parameter that no policy knows. -/
def strangeSection : Section :=
  { addingSection with severity := some .highest, parameters := [(.ofString "depth", .int 3)] }

theorem configure_all_or_nothing_tuned :
    tuned.makeAll strangeSection.adjustments =
        (tuned, some ⟨Rule.gotoIntoBlock.name, .ofString "depth"⟩) ∧
      ∃ q, tuned.configure addingSection = .ok q ∧ q.configure addingSection = .ok q ∧
        q.severity = .low ∧ q.themes = [.ofString "bugs", .ofString "core"] ∧ q.limit = none := by
  obtain ⟨-, hnothing, -⟩ := configure_all_or_nothing tuned strangeSection
  obtain ⟨-, -, hall⟩ := configure_all_or_nothing tuned addingSection
  obtain ⟨-, hset, hagain, -⟩ := hall (tuned.adjusted addingSection) rfl
  refine ⟨hnothing _ rfl, _, rfl, hagain, hset.severity_kept rfl, ?_, hset.limit⟩
  decide +kernel

end Policy
end JumpLint
