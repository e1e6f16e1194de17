import JumpLint.Datum
import JumpLint.Number.Integer

/-!
# Giving data a shape

Data of no fixed shape is checked against the shape that is expected, field by field.  All that is
wrong is reported, each issue with the way to it; values that are almost of the right type, such as
a number written as text, are taken as if they were.

## What is here

* `Step`, `Cause`, `Issue`: one thing that is wrong, with its place.  `Cause.code` is its name for
  programs, `Cause.message` its sentence.
* `Checked`: a value, or everything that is wrong; `Checked.ap` collects the issues of two parts.
* `Datum.asText`, `asInteger`, `asBool`, `asList`, `nullable`: checks of single values.
* `required`, `optional`: checks of named entries.
-/

set_option autoImplicit false
namespace JumpLint

/-- One step of the way to a value: into a field, or to an item. -/
inductive Step where
  | field (name : String)
  | item (index : Int)
deriving Repr, DecidableEq

/-- What is wrong with a value.  `rejected` gives a reason; one that would have to name a text with
half of a surrogate pair cannot be written, and is `unwritable`. -/
inductive Cause where
  | missing
  | notText
  | brokenText
  | notInteger
  | unreadableInteger
  | longInteger
  | fractional
  | notFinite
  | belowOne
  | notBool
  | unreadableBool
  | notList
  | notMapping
  | notRecord (name : String)
  | notSeverity
  | rejected (reason : String)
  | unwritable
  | unexpected
  | keyNotText
  | tooDeep
deriving Repr, DecidableEq

/-- The name of a cause for programs. -/
def Cause.code : Cause → String
  | .missing => "missing"
  | .notText => "string_type"
  | .brokenText => "string_unicode"
  | .notInteger => "int_type"
  | .unreadableInteger => "int_parsing"
  | .longInteger => "int_parsing_size"
  | .fractional => "int_from_float"
  | .notFinite => "finite_number"
  | .belowOne => "greater_than_equal"
  | .notBool => "bool_type"
  | .unreadableBool => "bool_parsing"
  | .notList => "list_type"
  | .notMapping => "dict_type"
  | .notRecord _ => "model_type"
  | .notSeverity => "enum"
  | .rejected _ | .unwritable => "value_error"
  | .unexpected => "extra_forbidden"
  | .keyNotText => "invalid_key"
  | .tooDeep => "recursion_depth_exceeded"

/-- The sentence for a cause. -/
def Cause.message : Cause → String
  | .missing => "Field required"
  | .notText => "Input should be a valid string"
  | .brokenText => "Input should be a valid string, unable to parse raw data as a unicode string"
  | .notInteger => "Input should be a valid integer"
  | .unreadableInteger =>
    "Input should be a valid integer, unable to parse string as an integer"
  | .longInteger => "Unable to parse input string as an integer, exceeded maximum size"
  | .fractional => "Input should be a valid integer, got a number with a fractional part"
  | .notFinite => "Input should be a finite number"
  | .belowOne => "Input should be greater than or equal to 1"
  | .notBool => "Input should be a valid boolean"
  | .unreadableBool => "Input should be a valid boolean, unable to interpret input"
  | .notList => "Input should be a valid list"
  | .notMapping => "Input should be a valid dictionary"
  | .notRecord name => "Input should be a valid dictionary or instance of " ++ name
  | .notSeverity => "Input should be 1, 2, 3, 4 or 5"
  | .rejected reason => "Value error, " ++ reason
  | .unwritable => "Value error, <unicode>"
  | .unexpected => "Extra inputs are not permitted"
  | .keyNotText => "Keys should be strings"
  | .tooDeep => "Recursion error - maximum validation depth exceeded"

/-- Something that is wrong, and the way to it. -/
structure Issue where
  path : List Step
  cause : Cause
deriving Repr, DecidableEq

/-- A value of the expected shape, or everything that is wrong. -/
abbrev Checked (α : Type) := Except (List Issue) α

namespace Checked

/-- One thing that is wrong with the value itself. -/
def fail {α : Type} (cause : Cause) : Checked α := .error [⟨[], cause⟩]

/-- The issues of a value that was reached by a step. -/
def within {α : Type} (step : Step) (x : Checked α) : Checked α :=
  x.mapError (·.map fun issue => { issue with path := step :: issue.path })

/-- Joins two parts; if both are wrong, the issues of the first come first. -/
def ap {α β : Type} (f : Checked (α → β)) (x : Checked α) : Checked β :=
  match f, x with
  | .ok f, .ok x => .ok (f x)
  | .ok _, .error issues => .error issues
  | .error issues, .ok _ => .error issues
  | .error issues, .error more => .error (issues ++ more)

/-- Joins a row of parts. -/
def all {α : Type} : List (Checked α) → Checked (List α)
  | [] => .ok []
  | x :: more => ap (x.map List.cons) (all more)

/-- Checks the items of a list, the first of which has number `i`. -/
def eachFrom {α β : Type} (check : α → Checked β) (i : Nat) (items : List α) : Checked (List β) :=
  match items with
  | [] => .ok []
  | x :: more =>
    ap ((within (.item i) (check x)).map List.cons) (eachFrom check (i + 1) more)

/-- Checks the items of a list. -/
def each {α β : Type} (check : α → Checked β) (items : List α) : Checked (List β) :=
  eachFrom check 0 items

end Checked

/-! ## Single values -/

namespace Datum

/-- The text of bytes that are UTF-8. -/
def textOfBytes? (octets : List UInt8) : Option Text :=
  (String.fromUTF8? ⟨octets.toArray⟩).map Text.ofString

/-- A text; bytes are one if they are UTF-8. -/
def asText : Datum → Checked Text
  | .text t => .ok t
  | .bytes octets =>
    match textOfBytes? octets with
    | some t => .ok t
    | none => .fail .brokenText
  | _ => .fail .notText

/-- The integer that a text stands for. -/
def integerOfText (t : Text) : Checked Int :=
  match t.chars? with
  | none => .fail .brokenText
  | some chars =>
    match Number.ofField chars with
    | .ok n => .ok n
    | .error .unreadable => .fail .unreadableInteger
    | .error .tooLong => .fail .longInteger

/-- Whether an integer fits into 64 bits with a sign. -/
def isWord (n : Int) : Bool := -(Nat.pow 2 63 : Int) ≤ n && n < (Nat.pow 2 63 : Int)

/-- The integer that a floating-point value stands for; its size must be less than `2 ^ 63`. -/
def integerOfFloat (x : Binary64) : Checked Int :=
  match x.toInt? with
  | some n => if n.natAbs < Nat.pow 2 63 then .ok n else .fail .longInteger
  | none => .fail (if x.isFinite then .fractional else .notFinite)

/-- An integer; numbers without a fraction, truth values and texts of integers are taken as one. -/
def asInteger : Datum → Checked Int
  | .int n => .ok n
  | .bool b => .ok (if b then 1 else 0)
  | .float x => integerOfFloat x
  | .text t => integerOfText t
  | .bytes octets =>
    match textOfBytes? octets with
    | some t => integerOfText t
    | none => .fail .unreadableInteger
  | _ => .fail .notInteger

/-- The words for truth values in fields, capitals or not. -/
def truthWords : List (String × Bool) :=
  [("0", false), ("off", false), ("f", false), ("false", false), ("n", false), ("no", false),
    ("1", true), ("on", true), ("t", true), ("true", true), ("y", true), ("yes", true)]

/-- The truth value that a text stands for. -/
def boolOfText (t : Text) : Checked Bool :=
  match t.chars? with
  | none => .fail .brokenText
  | some chars =>
    match truthWords.lookup (String.ofList (chars.map Char.toLower)) with
    | some b => .ok b
    | none => .fail .unreadableBool

/-- Zero is false and one is true. -/
def boolOfInt (n : Int) : Checked Bool :=
  if n == 0 then .ok false else if n == 1 then .ok true else .fail .unreadableBool

/-- A truth value; zero and one and the words for truth values are taken as one.  An integer that
does not fit into 64 bits is not looked at. -/
def asBool : Datum → Checked Bool
  | .bool b => .ok b
  | .text t => boolOfText t
  | .bytes octets =>
    match textOfBytes? octets with
    | some t => boolOfText t
    | none => .fail .unreadableBool
  | .int n => if isWord n then boolOfInt n else .fail .notBool
  | .float x =>
    match integerOfFloat x with
    | .ok n => boolOfInt n
    | .error _ => .fail .notBool
  | _ => .fail .notBool

/-- A list with items of a given shape. -/
def asList {α : Type} (check : Datum → Checked α) : Datum → Checked (List α)
  | .list items => Checked.each check items
  | .set items => Checked.each check items
  | .pair a b => Checked.each check [a, b]
  | _ => .fail .notList

/-- Null, or a value of a given shape. -/
def nullable {α : Type} (check : Datum → Checked α) : Datum → Checked (Option α)
  | .null => .ok none
  | d => (check d).map some

/-- A mapping, as the fields of a record. -/
def asRecord (name : String) : Datum → Checked (List (Datum × Datum))
  | .mapping entries => .ok entries
  | _ => .fail (.notRecord name)

/-- A text as a step of a way, where each half of a surrogate pair takes three signs. -/
def shownKey (t : Text) : String :=
  String.ofList (t.flatMap fun
    | .char c => [c]
    | .half _ => List.replicate 3 Text.replacement)

/-- A key as a step of a way: an integer of 64 bits by its value, other keys as they are shown. -/
def keyStep : Datum → Step
  | .text t => .field (shownKey t)
  | .bool b => .item (if b then 1 else 0)
  | .int n => if isWord n then .item n else .field (Datum.int n).shown
  | d => .field d.shown

end Datum

/-! ## Fields -/

/-- A field that must be there. -/
def required {α : Type} (name : String) (check : Datum → Checked α)
    (entries : List (Datum × Datum)) : Checked α :=
  Checked.within (.field name)
    (match Datum.lookup? name entries with
    | some d => check d
    | none => .fail .missing)

/-- A field that has a value of its own when it is not there. -/
def optional {α : Type} (name : String) (default : α) (check : Datum → Checked α)
    (entries : List (Datum × Datum)) : Checked α :=
  match Datum.lookup? name entries with
  | some d => Checked.within (.field name) (check d)
  | none => .ok default

end JumpLint
