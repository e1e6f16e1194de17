import JumpLint.Critic

/-!
# Profiles

A profile selects policies and sets them up: a least severity, themes that a policy must carry, and
a section of options for each policy that is named.  Profiles allow a few shorthands: the name of a
severity for its number, the words of a text for a list of themes, and nothing for a section without
options.

## What is here

* `Section`, `Profile`: the options of a policy, and the whole profile.
* `Section.ofDatum`, `Profile.ofDatum`: reading them from data, all issues reported.
* `Profile.desugar`: data with the shorthands written out.
* `Policy.configure`: applying a section to a policy.  A parameter that the policy does not know is
  an error, and then nothing is applied.
* `Profile.select`: the registered policies that a profile enables, configured, in the order of the
  registry.
-/

set_option autoImplicit false
namespace JumpLint

/-- The options of one policy.  `parameters` are the entries that are no options. -/
structure Section where
  enabled : Bool
  severity : Option Severity
  setThemes : Option (List Text)
  addThemes : List Text
  limit : Option Int
  parameters : List (Text × Datum)
deriving Repr, DecidableEq

/-- The options of a policy without a section. -/
def Section.default : Section := ⟨true, none, none, [], none, []⟩

/-- The names of the parameters. -/
def Section.parameterNames (options : Section) : List Text := options.parameters.map Prod.fst

/-- A selection of policies with their options. -/
structure Profile where
  severity : Severity
  themes : List Text
  sections : List (Text × Section)
deriving Repr, DecidableEq

/-- The profile that selects everything. -/
def Profile.default : Profile := ⟨.lowest, [], []⟩

/-! ## Reading -/

namespace Datum

/-- A severity in a setting: a word or number, or another value that equals a number from 1 to 5. -/
def asSetSeverity : Datum → Checked Severity
  | .text t =>
    match Severity.parse t with
    | .ok severity => .ok severity
    | .error e => .fail (.rejected e.message)
  | .int n =>
    match Severity.ofInt n with
    | .ok severity => .ok severity
    | .error e => .fail (.rejected e.message)
  | d => d.asSeverity

/-- At least one. -/
def asLimit (d : Datum) : Checked Int :=
  match d.asInteger with
  | .ok n => if n < 1 then .fail .belowOne else .ok n
  | .error e => .error e

/-- A list of themes, or a text of which each word is one. -/
def asThemes : Datum → Checked (List Text)
  | .text t => .ok (Text.words t)
  | d => d.asList Datum.asText

end Datum

/-- Whether a text is one of several names. -/
def isNamed (names : List String) (t : Text) : Bool := names.any fun name => t == .ofString name

/-- Whether a key is a text with half of a surrogate pair in it.  No name can be compared with such
a key, so a record that has one is refused as a whole. -/
def Datum.isBrokenKey : Datum → Bool
  | .text t => !t.isWhole
  | _ => false

/-- Checks the keys of a record that have no place among its fields. -/
def Checked.withKeys {α : Type} (entries : List (Datum × Datum)) (record : Checked α) : Checked α :=
  if entries.any fun (key, _) => key.isBrokenKey then .fail .brokenText else record

/-- The options that a section knows. -/
def Section.options : List String :=
  ["enabled", "severity", "set_themes", "add_themes", "maximum_violations_per_document"]

/-- The entries that are no options, with their values as they are; a key that is no text is an
issue. -/
def Section.extras : List (Datum × Datum) → Checked (List (Text × Datum))
  | [] => .ok []
  | (key, value) :: rest =>
    match key with
    | .text name =>
      if isNamed Section.options name then extras rest else (extras rest).map ((name, value) :: ·)
    | key => Checked.ap ((Checked.within key.keyStep (.fail .keyNotText)).map fun () => id)
        (extras rest)

/-- A section from its entries. -/
def Section.ofDatum (d : Datum) : Checked Section := do
  let fields ← d.asRecord "PolicyConfig"
  let options := Checked.ap
    (Checked.ap
      (Checked.ap
        (Checked.ap
          (Checked.ap
            ((optional "enabled" true Datum.asBool fields).map Section.mk)
            (optional "severity" none (Datum.nullable Datum.asSetSeverity) fields))
          (optional "set_themes" none (Datum.nullable (Datum.asList Datum.asText)) fields))
        (optional "add_themes" [] (Datum.asList Datum.asText) fields))
      (optional "maximum_violations_per_document" none (Datum.nullable Datum.asLimit) fields))
    (Section.extras fields)
  Checked.withKeys fields options

/-- The entries of a mapping of sections: for each the issues of its key, then of its section. -/
def Profile.sectionsOf : List (Datum × Datum) → Checked (List (Text × Section))
  | [] => .ok []
  | (key, value) :: rest =>
    let name : Checked Text :=
      match key with
      | .text t => .ok t
      | key => Checked.within key.keyStep (Checked.within (.field "[key]") key.asText)
    let value := match value with
      | .null => .mapping []
      | d => d
    let options := Checked.within key.keyStep (Section.ofDatum value)
    Checked.ap ((Checked.ap (name.map Prod.mk) options).map List.cons) (sectionsOf rest)

/-- Gives a name its section: in its place if the name is known, else at the end. -/
def Profile.putSection (name : Text) (options : Section) :
    List (Text × Section) → List (Text × Section)
  | [] => [(name, options)]
  | (n, o) :: rest =>
    if n == name then (n, options) :: rest else (n, o) :: putSection name options rest

/-- Sections by name.  Of two keys that give the same name the last one counts, and names that no
policy has are looked for when all sections are in order. -/
def Profile.asSections : Datum → Checked (List (Text × Section))
  | .mapping entries =>
    match Profile.sectionsOf entries with
    | .error issues => .error issues
    | .ok sections =>
      let sections := sections.foldl (fun named (n, o) => Profile.putSection n o named) []
      match sections.find? fun (name, _) => !Registry.isKnown name with
      | some (name, _) =>
        match name.chars? with
        | some chars => .fail (.rejected ("unknown policy: " ++ String.ofList chars))
        | none => .fail .unwritable
      | none => .ok sections
  | _ => .fail .notMapping

/-- The entries that a profile knows. -/
def Profile.entries : List String := ["severity", "theme", "policies"]

/-- Nothing but the entries that a profile knows. -/
def Profile.noExtras : List (Datum × Datum) → Checked Unit
  | [] => .ok ()
  | (key, _) :: rest =>
    let first : Checked Unit :=
      match key with
      | .text name =>
        if isNamed Profile.entries name then .ok ()
        else Checked.within key.keyStep (.fail .unexpected)
      | key => Checked.within key.keyStep (.fail .keyNotText)
    Checked.ap (first.map fun () => id) (noExtras rest)

/-- Whether a reason that cannot be written is among issues. -/
def hasUnwritable (issues : List Issue) : Bool := issues.any (·.cause == .unwritable)

/-- A profile from its entries.  A reason that cannot be written hides all other issues. -/
def Profile.ofDatum (d : Datum) : Checked Profile := do
  let fields ← d.asRecord "Profile"
  let profile := Checked.ap
    (Checked.ap
      ((optional "severity" .lowest Datum.asSetSeverity fields).map Profile.mk)
      (optional "theme" [] Datum.asThemes fields))
    (optional "policies" [] Profile.asSections fields)
  let whole := Checked.ap (profile.map fun p () => p) (Profile.noExtras fields)
  match whole with
  | .ok p => Checked.withKeys fields (.ok p)
  | .error issues =>
    if hasUnwritable issues then .error (issues.filter (·.cause == .unwritable))
    else Checked.withKeys fields (.error issues)

/-! ## Shorthands -/

/-- A severity that is given by its name, by its number. -/
def Datum.desugarSeverity : Datum → Datum
  | .text t =>
    match Severity.parse t with
    | .ok severity => .int severity.level
    | .error _ => .text t
  | d => d

/-- Changes the value of a named entry. -/
def Datum.mapEntry (name : String) (f : Datum → Datum) (entries : List (Datum × Datum)) :
    List (Datum × Datum) :=
  entries.map fun (k, v) =>
    match k with
    | .text t => if t == .ofString name then (k, f v) else (k, v)
    | k => (k, v)

/-- A section with its shorthands written out. -/
def Section.desugar : Datum → Datum
  | .null => .mapping []
  | .mapping entries => .mapping (Datum.mapEntry "severity" Datum.desugarSeverity entries)
  | d => d

/-- A profile with its shorthands written out. -/
def Profile.desugar : Datum → Datum
  | .mapping entries =>
    let themes : Datum → Datum
      | .text t => .list ((Text.words t).map .text)
      | d => d
    let sections : Datum → Datum
      | .mapping sections => .mapping (sections.map fun (k, v) => (k, Section.desugar v))
      | d => d
    .mapping
      (Datum.mapEntry "severity" Datum.desugarSeverity
        (Datum.mapEntry "theme" themes (Datum.mapEntry "policies" sections entries)))
  | d => d

/-! ## Selecting policies -/

/-- A parameter that a policy does not know. -/
structure UnknownParameter where
  policy : String
  parameter : Text
deriving Repr, DecidableEq

/-- The text of the error. -/
def UnknownParameter.message (e : UnknownParameter) : String :=
  e.policy ++ " does not support parameter " ++ Text.quoted e.parameter

/-- Applies a section to a policy.  What the section does not mention stays as it is, except for the
limit. -/
def Policy.configure (p : Policy) (options : Section) : Except UnknownParameter Policy :=
  match options.parameterNames.find? fun name => !isNamed p.rule.parameters name with
  | some name => .error ⟨p.name, name⟩
  | none =>
    let p := match options.severity with
      | some s => p.setSeverity s
      | none => p
    let p := match options.setThemes with
      | some themes => p.setThemes themes
      | none => p
    let p := if options.addThemes.isEmpty then p else p.addThemes options.addThemes
    .ok { p with limit := options.limit }

namespace Profile

/-- The section of a policy. -/
def sectionOf (profile : Profile) (rule : Rule) : Section :=
  (profile.sections.lookup (.ofString rule.name)).getD .default

/-- Whether a configured policy is bad enough to matter and carries all themes. -/
def wants (profile : Profile) (p : Policy) : Bool :=
  profile.severity.level ≤ p.severity.level && profile.themes.all p.themes.contains

/-- Configures the policies of rules in a row, and keeps those that the profile wants. -/
def selectFrom (profile : Profile) : List Rule → Except UnknownParameter (List Policy)
  | [] => .ok []
  | rule :: rest =>
    let options := profile.sectionOf rule
    if !options.enabled then profile.selectFrom rest
    else do
      let p ← (Policy.ofRule rule).configure options
      let more ← profile.selectFrom rest
      .ok (if profile.wants p then p :: more else more)

/-- The registered policies that a profile selects. -/
def select (profile : Profile) : Except UnknownParameter (List Policy) :=
  profile.selectFrom Registry.rules

/-- The critic with the policies that a profile selects. -/
def critic (profile : Profile) : Except UnknownParameter Critic :=
  profile.select.map Critic.mk

end Profile
end JumpLint
