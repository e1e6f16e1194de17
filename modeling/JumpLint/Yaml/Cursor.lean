import JumpLint.Yaml.Error

/-!
# A place in a YAML text

The lexer looks at a text through a cursor that knows its offset, line and column.  A byte order
mark takes no column; a return and a line feed together end one line.

## What is here

* `isBreak`, `isBreakOrEnd`, `isBlankOrEnd`: the classes of characters that the grammar tells apart.
  Behind the end of the text the cursor sees `endMark`, which no text holds.
* `Cursor`: `peek`, `advance`, `skip`, `takeWhile`, `lineBreak`; `left` counts the characters that
  are left.
* `Cursor.isAtMark`: whether a document mark, `---` or `...`, stands at the cursor.
* `Cursor.lookAhead`, `Cursor.lookForMark`: looking further than the next character, which is kept
  in mind; `Cursor.sight` is how far all looks went.
* `Failure`: an error with the number of characters that had been looked at when it was found;
  `Cursor.fail`, and `Cursor.malformed`, `Cursor.malformedAt` for failures of the grammar.
-/

set_option autoImplicit false
namespace JumpLint
namespace Yaml

/-- What the cursor sees behind the end of the text. -/
def endMark : Char := '\x00'

/-- Characters that end a line. -/
def isBreak (c : Char) : Bool :=
  c == '\n' || c == '\r' || c == '\x85' || c == '\u2028' || c == '\u2029'

/-- The end of a line or of the text. -/
def isBreakOrEnd (c : Char) : Bool := c == endMark || isBreak c

/-- A space, or the end of a line or of the text. -/
def isSpaceOrEnd (c : Char) : Bool := c == ' ' || isBreakOrEnd c

/-- A space or tab, or the end of a line or of the text. -/
def isBlankOrEnd (c : Char) : Bool := c == '\t' || isSpaceOrEnd c

/-- The characters that a YAML text may hold. -/
def isAllowed (c : Char) : Bool :=
  let n := c.toNat
  n == 0x09 || n == 0x0A || n == 0x0D || (0x20 ≤ n && n ≤ 0x7E) || n == 0x85 ||
    (0xA0 ≤ n && n ≤ 0xD7FF) || (0xE000 ≤ n && n ≤ 0xFFFD) || 0x10000 ≤ n

/-- The text that is left, where it begins in a text of `length` characters, and up to where the
text has been looked at further ahead. -/
structure Cursor where
  rest : List Char
  length : Nat
  seen : Nat
  offset : Nat
  line : Nat
  column : Nat

namespace Cursor

/-- The cursor in front of a text. -/
def ofText (s : List Char) : Cursor := ⟨s, s.length, 0, 0, 0, 0⟩

/-- The number of characters that are left. -/
def left (c : Cursor) : Nat := c.length - c.offset

/-- The character `k` places ahead. -/
def peek (c : Cursor) (k : Nat) : Char := c.rest.getD k endMark

/-- The character at the cursor. -/
def current (c : Cursor) : Char := c.peek 0

/-- Moves over one character. -/
def advance (c : Cursor) : Cursor :=
  match c.rest with
  | [] => c
  | ch :: rest =>
    if isBreak ch && !(ch == '\r' && rest.head? == some '\n') then
      ⟨rest, c.length, c.seen, c.offset + 1, c.line + 1, 0⟩
    else if ch == '\uFEFF' then ⟨rest, c.length, c.seen, c.offset + 1, c.line, c.column⟩
    else ⟨rest, c.length, c.seen, c.offset + 1, c.line, c.column + 1⟩

/-- Moves over `n` characters. -/
def skip (c : Cursor) : Nat → Cursor
  | 0 => c
  | n + 1 => c.advance.skip n

/-- The characters of a class at the cursor, and the cursor behind them. -/
def takeWhile (c : Cursor) (p : Char → Bool) : List Char × Cursor :=
  let taken := c.rest.takeWhile p
  (taken, c.skip taken.length)

/-- Moves over the characters of a class. -/
def skipWhile (c : Cursor) (p : Char → Bool) : Cursor := (c.takeWhile p).2

/-- Moves over spaces, but not beyond a column. -/
def skipIndent (column : Nat) : Nat → Cursor → Cursor
  | 0, c => c
  | fuel + 1, c =>
    if c.column < column && c.current == ' ' then skipIndent column fuel c.advance else c

/-- The line break at the cursor as it is kept in a scalar, nothing if there is none. -/
def lineBreak (c : Cursor) : List Char × Cursor :=
  if c.current == '\r' && c.peek 1 == '\n' then (['\n'], c.skip 2)
  else if c.current == '\r' || c.current == '\n' || c.current == '\x85' then (['\n'], c.skip 1)
  else if c.current == '\u2028' || c.current == '\u2029' then ([c.current], c.skip 1)
  else ([], c)

/-- Looks at the next `n` characters. -/
def lookAhead (c : Cursor) (n : Nat) : Cursor := { c with seen := max c.seen (c.offset + n) }

/-- Whether three times the character `mark` stands here. -/
def isAtRun (c : Cursor) (mark : Char) : Bool :=
  c.current == mark && c.peek 1 == mark && c.peek 2 == mark

/-- Whether three times the character `mark` stands here as a word. -/
def isAtMark (c : Cursor) (mark : Char) : Bool := c.isAtRun mark && isBlankOrEnd (c.peek 3)

/-- Whether a document mark stands here. -/
def isAtAnyMark (c : Cursor) : Bool := c.isAtMark '-' || c.isAtMark '.'

/-- Looks for a document mark: at what stands behind it only if it is there. -/
def lookForMark (c : Cursor) : Cursor :=
  c.lookAhead (if c.isAtRun '-' || c.isAtRun '.' then 4 else 3)

end Cursor

/-! ## Failures -/

/-- An error, and how much of the text had been looked at when it was found. -/
structure Failure where
  error : Error
  seen : Nat
deriving Repr, DecidableEq

namespace Cursor

/-- The number of characters that must be there for the cursor to be where it is. -/
def sight (c : Cursor) : Nat := max c.seen (c.offset + 1)

/-- A failure that shows in the next `n` characters. -/
def fail {α : Type} (c : Cursor) (error : Error) (n : Nat) : Except Failure α :=
  .error ⟨error, max c.seen (c.offset + n)⟩

/-- A failure of the grammar that shows in the character `k` places ahead. -/
def malformedAt {α : Type} (c : Cursor) (k : Nat) : Except Failure α := c.fail .malformed (k + 1)

/-- A failure of the grammar that shows in the character at the cursor. -/
def malformed {α : Type} (c : Cursor) : Except Failure α := c.malformedAt 0

end Cursor
end Yaml
end JumpLint
