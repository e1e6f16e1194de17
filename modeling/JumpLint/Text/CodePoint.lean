/-!
# Texts

A text is a row of code points.  Nearly every code point is a character; but the escapes of
structured data can also name one half of a surrogate pair, and such a half is then part of the text
like anything else.  Two halves side by side stay two code points.

## What is here

* `CodePoint`: a character or a half; `value` is its number and `ofValue` the code point with a
  number, and `ofValue_value` says that a code point is known by its number.
* `Text`, with `ofChars`, `ofString` and, back again, `chars?`.
* `Text.toString`: a text as it is shown, where two halves of a pair become its character.
-/

set_option autoImplicit false
namespace JumpLint

/-- A character, or one half of a surrogate pair: the halves are the numbers from U+D800 on. -/
inductive CodePoint where
  | char (c : Char)
  | half (index : Fin 0x800)
deriving Repr, DecidableEq

namespace CodePoint

/-- The number of a code point. -/
def value : CodePoint → Nat
  | .char c => c.toNat
  | .half index => 0xD800 + index

/-- The code point with a number. -/
def ofValue (n : Nat) : CodePoint :=
  if h : 0xD800 ≤ n ∧ n ≤ 0xDFFF then .half ⟨n - 0xD800, by omega⟩ else .char (Char.ofNat n)

/-- A code point is known by its number. -/
theorem ofValue_value (p : CodePoint) : ofValue p.value = p := by
  cases p with
  | char c =>
    have h : ¬(0xD800 ≤ c.toNat ∧ c.toNat ≤ 0xDFFF) := by
      rcases c.valid with h | h
      · intro hc
        have : c.toNat < 0xD800 := h
        omega
      · intro hc
        have : 0xDFFF < c.toNat := h.1
        omega
    rw [value, ofValue, dif_neg h, Char.ofNat_toNat]
  | half index =>
    have h : 0xD800 ≤ 0xD800 + index.val ∧ 0xD800 + index.val ≤ 0xDFFF := by omega
    refine (dif_pos h).trans (congrArg CodePoint.half (Fin.ext ?_))
    show 0xD800 + index.val - 0xD800 = index.val
    omega

instance : LT CodePoint := ⟨fun a b => a.value < b.value⟩

instance : DecidableLT CodePoint := fun a b => inferInstanceAs (Decidable (a.value < b.value))

/-- The character that a code point is. -/
def char? : CodePoint → Option Char
  | .char c => some c
  | .half _ => none

/-- Whether a code point is a character of a class. -/
def isIn (p : Char → Bool) : CodePoint → Bool
  | .char c => p c
  | .half _ => false

/-- Whether a code point is this character. -/
def is (c : Char) (p : CodePoint) : Bool := p == .char c

/-- Whether a number is that of a half that comes first in a pair. -/
def isLead (n : Nat) : Bool := 0xD800 ≤ n && n ≤ 0xDBFF

/-- Whether a number is that of a half that comes second in a pair. -/
def isTrail (n : Nat) : Bool := 0xDC00 ≤ n && n ≤ 0xDFFF

/-- The character of a pair. -/
def joined (lead trail : Nat) : Char :=
  Char.ofNat (0x10000 + (lead - 0xD800) * 0x400 + (trail - 0xDC00))

end CodePoint

/-- A row of code points. -/
abbrev Text := List CodePoint

namespace Text

/-- The text of characters in a row. -/
def ofChars (s : List Char) : Text := s.map .char

/-- The text of a string. -/
def ofString (s : String) : Text := ofChars s.toList

/-- The characters of a text in which no half stands. -/
def chars? (t : Text) : Option (List Char) := t.mapM CodePoint.char?

/-- Whether no half stands in a text. -/
def isWhole (t : Text) : Bool := t.all (CodePoint.isIn fun _ => true)

/-- What a half is shown as when the other half is missing. -/
def replacement : Char := '\uFFFD'

/-- The characters that a text is shown by, given a half in front of it that may be the first of a
pair. -/
def shownFrom : Option (Fin 0x800) → Text → List Char
  | none, [] => []
  | some _, [] => [replacement]
  | none, .char c :: rest => c :: shownFrom none rest
  | some _, .char c :: rest => replacement :: c :: shownFrom none rest
  | none, .half b :: rest => shownFrom (some b) rest
  | some a, .half b :: rest =>
    let lead := (CodePoint.half a).value
    let trail := (CodePoint.half b).value
    if CodePoint.isLead lead && CodePoint.isTrail trail then
      CodePoint.joined lead trail :: shownFrom none rest
    else replacement :: shownFrom (some b) rest

/-- A text as it is shown.  The halves of a pair become its character, and other halves the
replacement character. -/
def toString (t : Text) : String := String.ofList (shownFrom none t)

/-- The texts in a row as one. -/
def join (texts : List Text) : Text := texts.flatten

theorem char?_char (c : Char) : (CodePoint.char c).char? = some c := rfl

/-- A text of characters has these characters. -/
theorem chars?_ofChars (s : List Char) : chars? (ofChars s) = some s := by
  induction s with
  | nil => rfl
  | cons c rest ih =>
    simp only [chars?, ofChars, List.map_cons, List.mapM_cons] at ih ⊢
    simp [char?_char, ih]

end Text
end JumpLint
