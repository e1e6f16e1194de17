import JumpLint.Goto.Rule
import JumpLint.Violation

/-!
# Policies

A policy looks for violations of one rule.  Its severity, its themes and the number of violations
that it reports for a document can be set.  Before a document is looked at the policy is prepared
for it: the goto rule then keeps the label table of that document, and judges every element by it
until it is prepared again.

Documents are told apart by numbers: a label table names scopes of the document that it was made
from, and an element of another document is in none of them, however alike the two may be.

## What is here

* `Rule`: the rules, with what is fixed for each: name, severity, themes, parameters, and which
  elements it looks at.  `unspecified` is the bare form of a policy, which has no rule.
* `Record`: a line of the debugging log.
* `Prepared`: the label table and the number of its document.
* `Policy`: a rule with its settings and its preparation; `prepare`, `violates`, `violation`.
* `Registry`: the policies that can be configured, by name.
-/

set_option autoImplicit false
namespace JumpLint

/-- What a policy looks for. -/
inductive Rule where
  | unspecified
  | gotoIntoBlock
deriving Repr, DecidableEq

namespace Rule

/-- The name of a policy with this rule. -/
def name : Rule → String
  | .unspecified => ""
  | .gotoIntoBlock => "ControlStructures::ProhibitGotoIntoBlock"

/-- The severity unless it is set. -/
def severity : Rule → Severity
  | .unspecified => .lowest
  | .gotoIntoBlock => .high

/-- The themes unless they are set. -/
def themes : Rule → List String
  | .unspecified => []
  | .gotoIntoBlock => ["bugs", "trw"]

/-- The parameters that a policy with this rule knows. -/
def parameters : Rule → List String
  | .unspecified => []
  | .gotoIntoBlock => []

/-- Whether a rule looks at an element. -/
def appliesTo (rule : Rule) (e : Element) : Bool :=
  match rule with
  | .unspecified => true
  | .gotoIntoBlock => e.isBreak

/-- The name of the elements that a rule looks at. -/
def subject : Rule → String
  | .unspecified => "Element"
  | .gotoIntoBlock => NodeKind.breakStatement.name

end Rule

/-- What a violation of the goto rule is. -/
def gotoDescription : String := "Do not enter a block via a goto"

/-- Why it matters. -/
def gotoExplanation : String :=
  "Entering a block via a goto is unsupported, and will become a fatal error in Perl v5.44."

/-! ## The log -/

/-- A line of the debugging log: who wrote it, and what. -/
structure Record where
  source : String
  message : Text
deriving Repr, DecidableEq

/-- A line as it is shown. -/
def Record.shown (r : Record) : Text := .ofString ("DEBUG " ++ r.source ++ ": ") ++ r.message

/-- The name under which the goto rule writes to the log. -/
def gotoLogger : String := "gotocritic.policies.prohibit_goto_into_block"

/-- The name under which the critic writes to the log. -/
def criticLogger : String := "gotocritic.critic"

/-! ## Policies -/

/-- A label table, and the document whose scopes it names. -/
structure Prepared where
  document : Nat
  labels : LabelTable Address
deriving Repr

/-- A rule with its settings. -/
structure Policy where
  rule : Rule
  ownSeverity : Option Severity
  ownThemes : Option (List Text)
  limit : Option Int
  prepared : Option Prepared
deriving Repr

/-- A method of the bare policy that has no meaning. -/
inductive Unspecified where
  | unspecified
deriving Repr, DecidableEq

/-- Adds a name to names in rising order, once. -/
def insertName (name : Text) : List Text → List Text
  | [] => [name]
  | n :: rest =>
    if name < n then name :: n :: rest
    else if n == name then n :: rest
    else n :: insertName name rest

/-- Names in rising order, each once. -/
def sortNames (names : List Text) : List Text := names.foldr insertName []

namespace Policy

/-- A policy as it is before anything is set. -/
def ofRule (rule : Rule) : Policy := ⟨rule, none, none, none, none⟩

/-- The name of a policy. -/
def name (p : Policy) : String := p.rule.name

/-- The severity of a policy. -/
def severity (p : Policy) : Severity := p.ownSeverity.getD p.rule.severity

/-- The themes of a policy, in rising order. -/
def themes (p : Policy) : List Text :=
  p.ownThemes.getD (sortNames (p.rule.themes.map .ofString))

/-- Sets the severity. -/
def setSeverity (p : Policy) (s : Severity) : Policy := { p with ownSeverity := some s }

/-- Sets the themes. -/
def setThemes (p : Policy) (themes : List Text) : Policy :=
  { p with ownThemes := some (sortNames themes) }

/-- Adds themes to those that there are. -/
def addThemes (p : Policy) (themes : List Text) : Policy :=
  { p with ownThemes := some (sortNames (p.themes ++ themes)) }

/-- The labels that a policy judges by; none before it is prepared. -/
def labels (p : Policy) : LabelTable Address := (p.prepared.map (·.labels)).getD []

/-- The scopes around an element, as far as the label table can name them: those of another document
it cannot. -/
def knownScopes (p : Policy) (document : Nat) (s : Site) : List Address :=
  match p.prepared with
  | some prepared => if prepared.document == document then s.scopes else []
  | none => []

/-- A document that a policy has been prepared for. -/
structure Preparation where
  policy : Policy
  hasWork : Bool
  log : List Record

/-- Prepares a policy for a document, and tells whether there is anything to look for. -/
def prepare (p : Policy) (number : Nat) (d : Document) : Preparation :=
  match p.rule with
  | .unspecified => ⟨p, true, []⟩
  | .gotoIntoBlock =>
    let labels := d.labels
    let counted := p.name ++ ": " ++ toString labels.length ++ " distinct labels in "
    let message := .ofString counted ++ d.shownName
    ⟨{ p with prepared := some ⟨number, labels⟩ }, !labels.isEmpty, [⟨gotoLogger, message⟩]⟩

/-- A violation of a policy by an element of the document with the name `filename`. -/
def violation (p : Policy) (description explanation : Text) (filename : Option Text)
    (s : Site) : Violation :=
  { policy := .ofString p.name
    description := description
    explanation := explanation
    severity := p.severity
    filename := filename
    line := s.location.line
    column := s.location.column
    source := s.element.text }

/-- The violation of the goto rule by a jump. -/
def gotoViolation (p : Policy) (filename : Option Text) (s : Site) : Violation :=
  p.violation (.ofString gotoDescription) (.ofString gotoExplanation) filename s

/-- The violations of a policy by an element of a document, of which number and name are given. -/
def violates (p : Policy) (number : Nat) (filename : Option Text) (s : Site) :
    Except Unspecified (List Violation) :=
  match p.rule with
  | .unspecified => .error .unspecified
  | .gotoIntoBlock =>
    if p.labels.isEntered (gotoTarget? s.element) (p.knownScopes number s) then
      .ok [p.gotoViolation filename s]
    else .ok []

end Policy

/-! ## The registry -/

namespace Registry

/-- The rules that can be configured. -/
def rules : List Rule := [.gotoIntoBlock]

/-- The rule of a registered policy. -/
def find? (name : Text) : Option Rule := rules.find? fun rule => name == .ofString rule.name

/-- Whether a name is registered. -/
def isKnown (name : Text) : Bool := (find? name).isSome

/-- The text for a name that is not registered. -/
def unknownText (name : Text) : String := "unknown policy: " ++ Text.quoted name

/-- A policy of each kind. -/
def policies : List Policy := rules.map .ofRule

end Registry
end JumpLint
