import JumpLint.Datum
import JumpLint.Number.Integer
import JumpLint.Text.Lower

/-!
# Severities

A policy has a severity from 1 to 5, and settings name the least severity of interest by its number
or by how harsh the criticism then is: `brutal` asks for everything, `gentle` for the worst only.

## What is here

* `Severity`, with `level`, `ofLevel?` and the names of the levels.
* `SeverityError` and its `message`.
* `Severity.parse`: a setting's text.  Blanks around it and capitals do not matter.
* `Severity.ofDatum`: the same for a value of any type; numbers equal to a level are accepted.
* `Severity.ofValue`: only these numbers.
-/

set_option autoImplicit false
namespace JumpLint

/-- How bad it is to break a policy. -/
inductive Severity where
  | lowest
  | low
  | medium
  | high
  | highest
deriving Repr, DecidableEq

/-- Why a setting names no severity. -/
inductive SeverityError where
  | unknown (text : Text)
  | number (error : Number.IntegerError)
  | outOfRange (shown : String)
  | notLevel (shown : String)
deriving Repr, DecidableEq

/-- The text of an error. -/
def SeverityError.message : SeverityError → String
  | .unknown text => "invalid severity: " ++ Text.quoted text
  | .number error => error.message
  | .outOfRange shown => "severity must be between 1 and 5, got " ++ shown
  | .notLevel shown => shown ++ " is not a valid Severity"

namespace Severity

/-- The number of a severity, from 1 to 5. -/
def level : Severity → Nat
  | .lowest => 1
  | .low => 2
  | .medium => 3
  | .high => 4
  | .highest => 5

/-- The name of a severity. -/
def name : Severity → String
  | .lowest => "LOWEST"
  | .low => "LOW"
  | .medium => "MEDIUM"
  | .high => "HIGH"
  | .highest => "HIGHEST"

/-- All severities, rising. -/
def all : List Severity := [.lowest, .low, .medium, .high, .highest]

/-- The severity with a number. -/
def ofLevel? (n : Int) : Option Severity := all.find? fun s => (s.level : Int) == n

theorem ofLevel?_level (s : Severity) : ofLevel? s.level = some s := by
  cases s <;> rfl

/-- The word for a severity in settings. -/
def word : Severity → String
  | .lowest => "brutal"
  | .low => "cruel"
  | .medium => "harsh"
  | .high => "stern"
  | .highest => "gentle"

/-- The severity that a word in small letters stands for. -/
def ofWord? (word : Text) : Option Severity := all.find? fun s => word == .ofString s.word

theorem ofWord?_word (s : Severity) : ofWord? (.ofString s.word) = some s := by
  cases s <;> decide +kernel

/-- The severity with a number. -/
def ofInt (n : Int) : Except SeverityError Severity :=
  match ofLevel? n with
  | some s => .ok s
  | none =>
    match Number.shown n with
    | .ok shown => .error (.outOfRange shown)
    | .error e => .error (.number e)

/-- The severity that the text of a setting names. -/
def parse (text : Text) : Except SeverityError Severity :=
  let name := Text.lower (Text.trimBlanks text)
  match ofWord? name with
  | some s => .ok s
  | none =>
    if !Text.isNumeral name then .error (.unknown text)
    else
      match Number.ofNumeral 10 name with
      | .ok n => ofInt n
      | .error e => .error (.number e)

/-- The severity whose number a value equals. -/
def ofValue? (d : Datum) : Option Severity := d.asInt?.bind ofLevel?

/-- The severity whose number a value equals; words are no numbers. -/
def ofValue (d : Datum) : Except SeverityError Severity :=
  match ofValue? d with
  | some s => .ok s
  | none => .error (.notLevel d.shown)

/-- The severity that a value names. -/
def ofDatum (d : Datum) : Except SeverityError Severity :=
  match d with
  | .text t => parse t
  | .int n => ofInt n
  | d =>
    match ofValue? d with
    | some s => .ok s
    | none => .error (.outOfRange d.shown)

end Severity
end JumpLint
