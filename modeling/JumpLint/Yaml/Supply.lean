import JumpLint.Text.Pieces
import JumpLint.Yaml.Cursor

/-!
# What the lexer is given

A file comes to the lexer piece by piece, and a fault in a piece is met only when the lexer looks
into that piece.  An error that is found before has come first.

## What is here

* `Supply`: the text that is free of faults, and the fault behind it if there is one.
* `Supply.ofText`: a text that is looked through at once.
* `Supply.ofFile`: a file that is read in pieces.
-/

set_option autoImplicit false
namespace JumpLint
namespace Yaml

/-- The text in front of the first piece at fault, and what the fault is. -/
structure Supply where
  text : List Char
  fault? : Option Error

/-- Where the piece begins that holds the character with a number.  The first piece is two requests
long. -/
def pieceStart (n : Nat) : Nat :=
  if n < 2 * Text.requestLength then 0 else n / Text.requestLength * Text.requestLength

namespace Supply

/-- A text that is looked through at once. -/
def ofText (s : List Char) : Supply := if s.all isAllowed then ⟨s, none⟩ else ⟨[], some .malformed⟩

/-- A file that is read in pieces.  The bytes of a piece must be text before its characters can be
looked at. -/
def ofFile (bytes : ByteArray) : Supply :=
  let (chars, isAll) := Text.readPieces bytes
  if !isAll && pieceStart chars.length == 0 then ⟨[], some .notUtf8⟩
  else
    match chars.findIdx? fun c => !isAllowed c with
    | some n => ⟨chars.take (pieceStart n), some .malformed⟩
    | none => ⟨chars, if isAll then none else some .notUtf8⟩

end Supply
end Yaml
end JumpLint
