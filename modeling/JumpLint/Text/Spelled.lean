import JumpLint.Text.CodePoint

/-!
# Text that is spelled out

Quoted forms name characters by their code: JSON by code units of sixteen bits, of which two may
make up one character, YAML by code points.  Either can name one half of a surrogate pair.

## What is here

* `Spelled`: the text so far.
* `push`, `pushAll`, `pushCode`: adding to it.
* `toText`: the text.
-/

set_option autoImplicit false
namespace JumpLint
namespace Text

/-- The code points of a text so far, last one first. -/
structure Spelled where
  reversed : Text
deriving Repr, DecidableEq

namespace Spelled

/-- Nothing yet. -/
def empty : Spelled := ⟨[]⟩

/-- Adds a character. -/
def push (s : Spelled) (c : Char) : Spelled := ⟨.char c :: s.reversed⟩

/-- Adds characters. -/
def pushAll (s : Spelled) (cs : List Char) : Spelled := ⟨(ofChars cs).reverse ++ s.reversed⟩

/-- Adds the code point with a number. -/
def pushCode (s : Spelled) (code : Nat) : Spelled := ⟨.ofValue code :: s.reversed⟩

/-- The text that has been spelled out. -/
def toText (s : Spelled) : Text := s.reversed.reverse

/-- What is added comes last. -/
theorem toText_push (s : Spelled) (c : Char) : (s.push c).toText = s.toText ++ [.char c] := by
  simp [push, toText]

theorem toText_pushAll (s : Spelled) (cs : List Char) :
    (s.pushAll cs).toText = s.toText ++ ofChars cs := by
  simp [pushAll, toText]

end Spelled
end Text
end JumpLint
