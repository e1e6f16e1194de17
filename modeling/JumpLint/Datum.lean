import JumpLint.Moment
import JumpLint.Number.Binary64
import JumpLint.Number.Integer
import JumpLint.Number.Shortest
import JumpLint.Text.Quoted

/-!
# Data of no fixed shape

What a reader of JSON or YAML hands over before anybody has looked at its shape: scalars, lists and
mappings that keep the order of their entries.

## What is here

* `Datum`: the values; `Datum.isEqual` decides whether two are one and the same.
* `Datum.sameKey`: when two keys of a mapping are one key.  Numbers and truth values with the same
  value are, so `1`, `1.0` and `true` are; what is not a number is not even the same as itself.
* `Datum.insert`, `Datum.lookup?`: the last value given for a key counts, at the place of the first.
* `Datum.shown`: a key that is no text, as an error names it.
-/

set_option autoImplicit false
namespace JumpLint

/-- A value read from structured text. -/
inductive Datum where
  | null
  | bool (value : Bool)
  | int (value : Int)
  | float (value : Binary64)
  | text (value : Text)
  | bytes (octets : List UInt8)
  | moment (value : Moment)
  | list (items : List Datum)
  | set (items : List Datum)
  | pair (first second : Datum)
  | mapping (entries : List (Datum × Datum))
deriving Inhabited, Repr

namespace Datum

/-! ## Equality -/

mutual

/-- Whether two values are one and the same. -/
def isEqual : Datum → Datum → Bool
  | .null, .null => true
  | .bool a, .bool b => a == b
  | .int a, .int b => a == b
  | .float a, .float b => a == b
  | .text a, .text b => a == b
  | .bytes a, .bytes b => a == b
  | .moment a, .moment b => a == b
  | .list a, .list b | .set a, .set b => areEqual a b
  | .pair a b, .pair c d => isEqual a c && isEqual b d
  | .mapping a, .mapping b => areEqualEntries a b
  | _, _ => false

/-- Whether two rows of values are one and the same. -/
def areEqual : List Datum → List Datum → Bool
  | [], [] => true
  | a :: rest, b :: others => isEqual a b && areEqual rest others
  | _, _ => false

/-- Whether two rows of entries are one and the same. -/
def areEqualEntries : List (Datum × Datum) → List (Datum × Datum) → Bool
  | [], [] => true
  | (a, b) :: rest, (c, d) :: others => isEqual a c && isEqual b d && areEqualEntries rest others
  | _, _ => false

end

mutual

theorem isEqual_iff (a b : Datum) : isEqual a b = true ↔ a = b := by
  cases a with
  | list items => cases b <;> simp [isEqual, areEqual_iff items]
  | set items => cases b <;> simp [isEqual, areEqual_iff items]
  | pair first second => cases b <;> simp [isEqual, isEqual_iff first, isEqual_iff second]
  | mapping entries => cases b <;> simp [isEqual, areEqualEntries_iff entries]
  | _ => cases b <;> simp [isEqual]

theorem areEqual_iff (a b : List Datum) : areEqual a b = true ↔ a = b := by
  cases a with
  | nil => cases b <;> simp [areEqual]
  | cons first rest => cases b <;> simp [areEqual, isEqual_iff first, areEqual_iff rest]

theorem areEqualEntries_iff (a b : List (Datum × Datum)) : areEqualEntries a b = true ↔ a = b := by
  match a, b with
  | [], [] | [], _ :: _ | _ :: _, [] => simp [areEqualEntries]
  | (key, value) :: rest, (key', value') :: others =>
    simp [areEqualEntries, isEqual_iff key, isEqual_iff value, areEqualEntries_iff rest]

end

instance : DecidableEq Datum := fun a b => decidable_of_iff _ (isEqual_iff a b)

/-! ## Keys -/

/-- The whole number that a number or truth value equals. -/
def asInt? : Datum → Option Int
  | .bool b => some (if b then 1 else 0)
  | .int n => some n
  | .float x => x.toInt?
  | _ => none

/-- Whether two scalars are the same key of a mapping. -/
def sameKey (a b : Datum) : Bool :=
  match a.asInt?, b.asInt? with
  | some m, some n => m == n
  | _, _ =>
    match a, b with
    | .null, .null => true
    | .float x, .float y => x == y && x != .nan
    | .text s, .text t => s == t
    | .bytes s, .bytes t => s == t
    | .moment s, .moment t => s.isSame t
    | _, _ => false

/-- Gives a key its value: in its place if the key is known, else at the end. -/
def insert (key value : Datum) : List (Datum × Datum) → List (Datum × Datum)
  | [] => [(key, value)]
  | (k, v) :: rest => if sameKey k key then (k, value) :: rest else (k, v) :: insert key value rest

/-- The entries of a mapping written as `entries`, with repeated keys resolved. -/
def ofEntries (entries : List (Datum × Datum)) : Datum :=
  .mapping (entries.foldl (fun m (k, v) => insert k v m) [])

/-- The value of a named entry. -/
def lookup? (name : String) : List (Datum × Datum) → Option Datum
  | [] => none
  | (.text k, v) :: rest => if k == .ofString name then some v else lookup? name rest
  | _ :: rest => lookup? name rest

/-- A byte in a quoted row of bytes. -/
def shownByte (mark : Char) (b : UInt8) : List Char :=
  let c := Char.ofNat b.toNat
  if c == mark || c == '\\' then ['\\', c]
  else if c == '\n' then ['\\', 'n']
  else if c == '\r' then ['\\', 'r']
  else if c == '\t' then ['\\', 't']
  else if 0x20 ≤ b && b < 0x7F then [c]
  else ['\\', 'x'] ++ Text.hexDigits 2 b.toNat

/-- A scalar as an error names it. -/
def shown : Datum → String
  | .null => "None"
  | .bool b => if b then "True" else "False"
  | .int n => (Number.shown n).toOption.getD "<unprintable int object>"
  | .float x => Shortest.text x
  | .text s => Text.quoted s
  | .bytes bs =>
    let mark := Text.quoteMark (bs.map fun b => .char (Char.ofNat b.toNat))
    String.ofList ('b' :: mark :: bs.flatMap (shownByte mark) ++ [mark])
  | .moment m => m.shown
  | _ => ""

end Datum
end JumpLint
