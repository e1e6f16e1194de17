import JumpLint.Text.CodePoint
import JumpLint.Text.Printable

/-!
# Quoted text in messages

A message shows a text between apostrophes, or between double quotes when it holds an apostrophe
and no double quote.  The quote in use and the backslash get a backslash in front; line feed, return
and tab have letters; other characters without a shape of their own, and halves of surrogate pairs,
are named by their number, in the shortest of three forms of fixed width.

## What is here

* `hexDigits width n`: a number in lower-case hexadecimal digits.
* `quoteMark`, `escaped`: the two decisions above, for a text and for one code point.
* `quoted t`: the text as a message shows it.
-/

set_option autoImplicit false
namespace JumpLint
namespace Text

/-- The last `width` hexadecimal digits of a number, in lower case. -/
def hexDigits : Nat → Nat → List Char
  | 0, _ => []
  | width + 1, n => hexDigits width (n / 16) ++ [Nat.digitChar (n % 16)]

/-- Apostrophes, unless they occur and double quotes do not. -/
def quoteMark (t : Text) : Char :=
  if t.contains (.char '\x27') && !t.contains (.char '"') then '"' else '\x27'

/-- A code point by its number. -/
def numbered (n : Nat) : List Char :=
  if n < 0x100 then ['\\', 'x'] ++ hexDigits 2 n
  else if n < 0x10000 then ['\\', 'u'] ++ hexDigits 4 n
  else ['\\', 'U'] ++ hexDigits 8 n

/-- How one code point is written between the quotes `mark`. -/
def escaped (mark : Char) (p : CodePoint) : List Char :=
  match p with
  | .half _ => numbered p.value
  | .char c =>
    if c == mark || c == '\\' then ['\\', c]
    else if c == '\n' then ['\\', 'n']
    else if c == '\r' then ['\\', 'r']
    else if c == '\t' then ['\\', 't']
    else if isPrintable c then [c]
    else numbered c.toNat

/-- The text between quotes. -/
def quotedChars (t : Text) : List Char :=
  let mark := quoteMark t
  mark :: t.flatMap (escaped mark) ++ [mark]

/-- The text between quotes, as messages show it. -/
def quoted (t : Text) : String := String.ofList (quotedChars t)

end Text
end JumpLint
