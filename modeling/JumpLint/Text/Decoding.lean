/-!
# Text from bytes

Files hold UTF-8.  A line may end in a line feed, a return or both; readers see line feeds only.

## What is here

* `unifyLineEnds`: the three line ends become one.
* `decode?`: the text of a file's bytes, or nothing when they are not UTF-8.
-/

set_option autoImplicit false
namespace JumpLint
namespace Text

/-- Turns each return, with the line feed behind it if there is one, into a line feed. -/
def unifyLineEnds : List Char → List Char
  | [] => []
  | '\r' :: '\n' :: rest => '\n' :: unifyLineEnds rest
  | '\r' :: rest => '\n' :: unifyLineEnds rest
  | c :: rest => c :: unifyLineEnds rest

/-- The text in a file. -/
def decode? (bytes : ByteArray) : Option String :=
  (String.fromUTF8? bytes).map fun s => String.ofList (unifyLineEnds s.toList)

end Text
end JumpLint
