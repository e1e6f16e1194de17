import JumpLint.Text.CodePoint

/-!
# Paths of files

A path is a row of names.  Empty names and `.` say nothing and vanish, `..` stays.  One slash in
front makes a path absolute; two of them, but not more, are kept as two.  Names are texts, and a
half of a surrogate pair in them may stand for a byte that is part of no character.

## What is here

* `Path`, `Path.ofText`, `Path.text`: a path, from text and as text.
* `Path.suffix`: the last point of the last name and what follows, unless the point is first or
  last.
* `Path.isEncodable`, `Path.hasZero`: whether a path can be handed to an operating system.
-/

set_option autoImplicit false
namespace JumpLint

namespace CodePoint

/-- Whether a half stands for a byte: these are the halves from U+DC80 to U+DCFF. -/
def isByte (p : CodePoint) : Bool := 0xDC80 ≤ p.value && p.value ≤ 0xDCFF

/-- The number of bytes that a code point takes in the name of a file. -/
def byteCount : CodePoint → Nat
  | .char c => c.utf8Size
  | .half _ => 1

end CodePoint

/-- The number of bytes that a text takes in the name of a file. -/
def Text.byteCount (t : Text) : Nat := t.foldl (fun n p => n + p.byteCount) 0

/-- A row of names behind a root, which is empty for a relative path. -/
structure Path where
  root : Text
  names : List Text
deriving Repr, DecidableEq

namespace Path

/-- What stands between names. -/
def slash : CodePoint := .char '/'

/-- The parts of a text between slashes. -/
def splitSlashes : Text → List Text
  | [] => [[]]
  | p :: rest =>
    if p == slash then [] :: splitSlashes rest
    else
      match splitSlashes rest with
      | [] => [[p]]
      | part :: more => (p :: part) :: more

/-- The root of a text, by the number of slashes in front. -/
def rootOf (t : Text) : Text :=
  match (t.takeWhile (· == slash)).length with
  | 0 => []
  | 2 => [slash, slash]
  | _ => [slash]

/-- The path that a text names. -/
def ofText (t : Text) : Path :=
  ⟨rootOf t, (splitSlashes t).filter fun name => name != [] && name != .ofString "."⟩

/-- The path that a string names. -/
def ofString (s : String) : Path := ofText (.ofString s)

/-- A path as text. -/
def text (p : Path) : Text :=
  if p.root.isEmpty && p.names.isEmpty then .ofString "."
  else p.root ++ [slash].intercalate p.names

/-- The suffix of a name. -/
def suffixOf (name : Text) : Text :=
  let tail := (name.reverse.takeWhile (· != .char '.')).reverse
  if tail.length + 1 < name.length && !tail.isEmpty then .char '.' :: tail else []

/-- The suffix of a path. -/
def suffix (p : Path) : Text :=
  match p.names.getLast? with
  | some name => suffixOf name
  | none => []

/-- Whether a path is one in bytes: every half in it stands for a byte. -/
def isEncodable (p : Path) : Bool := p.text.all fun c => c.char?.isSome || c.isByte

/-- Whether there is a zero character in a path, which no path of a file has. -/
def hasZero (p : Path) : Bool := p.text.contains (.char '\x00')

end Path
end JumpLint
