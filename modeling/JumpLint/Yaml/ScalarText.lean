import JumpLint.Text.Hex
import JumpLint.Text.Spelled
import JumpLint.Yaml.Cursor

/-!
# The texts of scalars

A scalar is written plain, between quotes, or as an indented block.  In all three forms a single
line break may stand for a space: it is *folded*, and only the breaks after it are kept.

## What is here

* `quoted`: a scalar between quotes.  Double quotes know escapes; between apostrophes two of them
  stand for one.
* `block`: a literal (`|`) or folded (`>`) block, with its indentation and the treatment of its last
  line breaks given in the header or found out.
* `plain`: a scalar without quotes, which may go on over lines that are indented far enough.

Loops that move the cursor take as fuel the number of characters that are left.
-/

set_option autoImplicit false
namespace JumpLint
namespace Yaml
namespace ScalarText

open Text (Spelled hexNumber?)

/-! ## Between quotes -/

/-- What a character stands for after a backslash. -/
def escape? : Char → Option Char
  | '0' => some '\x00'
  | 'a' => some '\x07'
  | 'b' => some '\x08'
  | 't' => some '\t'
  | '\t' => some '\t'
  | 'n' => some '\n'
  | 'v' => some '\x0B'
  | 'f' => some '\x0C'
  | 'r' => some '\r'
  | 'e' => some '\x1B'
  | ' ' => some ' '
  | '"' => some '"'
  | '\\' => some '\\'
  | '/' => some '/'
  | 'N' => some '\x85'
  | '_' => some '\xA0'
  | 'L' => some '\u2028'
  | 'P' => some '\u2029'
  | _ => none

/-- How many hexadecimal digits follow the letter of an escape by number. -/
def codeWidth? : Char → Option Nat
  | 'x' => some 2
  | 'u' => some 4
  | 'U' => some 8
  | _ => none

/-- The line breaks from here on, and the blanks in front of the next text.  A document mark may not
stand at the beginning of one of these lines. -/
def quotedBreaks : Nat → List Char → Cursor → Except Failure (List Char × Cursor)
  | 0, breaks, c => .ok (breaks, c)
  | fuel + 1, breaks, c =>
    let c := c.lookForMark
    if c.isAtAnyMark then c.malformed
    else
      let c := c.skipWhile fun ch => ch == ' ' || ch == '\t'
      if isBreak c.current then
        let (b, c) := c.lineBreak
        quotedBreaks fuel (breaks ++ b) c
      else .ok (breaks, c)

/-- A line break that is folded, with the breaks that follow it. -/
def folded (first more : List Char) : List Char :=
  if first != ['\n'] then first ++ more
  else if more.isEmpty then [' ']
  else more

/-- The escape behind a backslash at the cursor. -/
def quotedEscape (spelled : Spelled) (c : Cursor) : Except Failure (Spelled × Cursor) :=
  match escape? c.current, codeWidth? c.current with
  | some ch, _ => .ok (spelled.push ch, c.skip 1)
  | none, some width =>
    let c := c.skip 1
    let digits := (c.rest.take width).takeWhile fun ch => (Text.hexValue? ch).isSome
    match hexNumber? digits with
    | some code =>
      if digits.length < width then c.malformedAt digits.length
      else if 0x10FFFF < code then c.fail (.codePoint code) width
      else .ok (spelled.pushCode code, c.skip width)
    | none => c.malformed
  | none, none =>
    if isBreak c.current then do
      let (_, c) := c.lineBreak
      let (breaks, c) ← quotedBreaks (c.left + 1) [] c
      .ok (spelled.pushAll breaks, c)
    else c.malformed

/-- The text up to the closing quote, and the cursor behind it. -/
def quotedFrom (double : Bool) : Nat → Spelled → Cursor → Except Failure (Spelled × Cursor)
  | 0, _, c => c.malformed
  | fuel + 1, spelled, c =>
    let ch := c.current
    if ch == '\x27' && !double then
      if c.peek 1 == '\x27' then quotedFrom double fuel (spelled.push ch) (c.skip 2)
      else .ok (spelled, c.skip 1)
    else if ch == '"' && double then .ok (spelled, c.skip 1)
    else if ch == '\\' && double then do
      let (spelled, c) ← quotedEscape spelled (c.skip 1)
      quotedFrom double fuel spelled c
    else if isBlankOrEnd ch then
      let (blanks, c) := c.takeWhile fun ch => ch == ' ' || ch == '\t'
      if c.current == endMark then c.malformed
      else if isBreak c.current then do
        let (first, c) := c.lineBreak
        let (more, c) ← quotedBreaks (c.left + 1) [] c
        quotedFrom double fuel (spelled.pushAll (folded first more)) c
      else quotedFrom double fuel (spelled.pushAll blanks) c
    else quotedFrom double fuel (spelled.push ch) (c.skip 1)

/-- A scalar between quotes; the cursor stands in front of the opening one. -/
def quoted (double : Bool) (c : Cursor) : Except Failure (Spelled × Cursor) :=
  quotedFrom double (c.left + 1) .empty (c.skip 1)

/-! ## Blocks -/

/-- What becomes of the line breaks at the end of a block. -/
inductive Chomping where
  | strip
  | clip
  | keep
deriving Repr, DecidableEq

/-- The chomping that a sign asks for. -/
def chomping? : Char → Option Chomping
  | '+' => some .keep
  | '-' => some .strip
  | _ => none

/-- The indentation that a digit at the cursor asks for; zero is no indentation. -/
def increment? (c : Cursor) : Except Failure (Option Nat) :=
  let ch := c.current
  if ch == '0' then c.malformed
  else if '1' ≤ ch ∧ ch ≤ '9' then .ok (some (ch.toNat - '0'.toNat))
  else .ok none

/-- The sign and the digit behind the block's indicator, in either order. -/
def blockHeader (c : Cursor) : Except Failure (Chomping × Option Nat × Cursor) := do
  let (chomping, increment, c) ← match chomping? c.current with
    | some chomping => do
      let c := c.skip 1
      match ← increment? c with
      | some n => pure (chomping, some n, c.skip 1)
      | none => pure (chomping, none, c)
    | none => do
      match ← increment? c with
      | some n =>
        let c := c.skip 1
        match chomping? c.current with
        | some chomping => pure (chomping, some n, c.skip 1)
        | none => pure (Chomping.clip, some n, c)
      | none => pure (Chomping.clip, none, c)
  if isSpaceOrEnd c.current then .ok (chomping, increment, c) else c.malformed

/-- The rest of a line that may hold nothing but a comment. -/
def ignoredLine (c : Cursor) : Except Failure Cursor :=
  let c := c.skipWhile (· == ' ')
  let c := if c.current == '#' then c.skipWhile fun ch => !isBreak ch else c
  if isBreakOrEnd c.current then .ok c.lineBreak.2 else c.malformed

/-- The empty lines in front of a block, and the widest indentation among them and the first line
with text. -/
def blockLead : Nat → List Char → Nat → Cursor → List Char × Nat × Cursor
  | 0, breaks, width, c => (breaks, width, c)
  | fuel + 1, breaks, width, c =>
    if c.current == ' ' then
      let c := c.skip 1
      blockLead fuel breaks (max width c.column) c
    else if isBreak c.current then
      let (b, c) := c.lineBreak
      blockLead fuel (breaks ++ b) width c
    else (breaks, width, c)

/-- The empty lines from here on, and the indentation of the next line. -/
def blockBreaks (indent : Nat) : Nat → List Char → Cursor → List Char × Cursor
  | 0, breaks, c => (breaks, c)
  | fuel + 1, breaks, c =>
    let c := c.skipIndent indent c.left
    if isBreak c.current then
      let (b, c) := c.lineBreak
      blockBreaks indent fuel (breaks ++ b) c
    else (breaks, c)

/-- The lines of a block.  `breaks` are the empty lines in front of the line at the cursor.  A break
between two lines with text is folded if neither begins with a blank. -/
def blockLines (folds : Bool) (chomping : Chomping) (indent : Nat) :
    Nat → List Char → Spelled → Cursor → Spelled × Cursor
  | 0, _, text, c => (text, c)
  | fuel + 1, breaks, text, c =>
    let text := text.pushAll breaks
    let flush := !(c.current == ' ' || c.current == '\t')
    let (line, c) := c.takeWhile fun ch => !isBreak ch
    let text := text.pushAll line
    let (last, c) := c.lineBreak
    let (breaks, c) := blockBreaks indent (c.left + 1) [] c
    if c.column == indent && c.current != endMark then
      let isFolded := folds && last == ['\n'] && flush && !(c.current == ' ' || c.current == '\t')
      let text :=
        if isFolded then (if breaks.isEmpty then text.push ' ' else text)
        else text.pushAll last
      blockLines folds chomping indent fuel breaks text c
    else
      match chomping with
      | .strip => (text, c)
      | .clip => (text.pushAll last, c)
      | .keep => ((text.pushAll last).pushAll breaks, c)

/-- A block scalar; the cursor stands in front of its indicator, and `parent` is the column that
the block must be indented beyond. -/
def block (folds : Bool) (parent : Int) (c : Cursor) : Except Failure (Spelled × Cursor) := do
  let (chomping, increment, c) ← blockHeader (c.skip 1)
  let c ← ignoredLine c
  let least := (max (parent + 1) 1).toNat
  let fuel := c.left + 1
  let (indent, breaks, c) :=
    match increment with
    | some n =>
      let indent := least + n - 1
      let (breaks, c) := blockBreaks indent fuel [] c
      (indent, breaks, c)
    | none =>
      let (breaks, width, c) := blockLead fuel [] 0 c
      (max least width, breaks, c)
  if c.column == indent && c.current != endMark then
    .ok (blockLines folds chomping indent fuel breaks .empty c)
  else
    match chomping with
    | .keep => .ok (Spelled.empty.pushAll breaks, c)
    | _ => .ok (.empty, c)

/-! ## Plain -/

/-- Characters with a meaning of their own inside brackets. -/
def isFlowIndicator (c : Char) : Bool :=
  c == ',' || c == '[' || c == ']' || c == '{' || c == '}'

/-- The length of the plain text in front, up to a blank, the end of a key or, inside brackets, an
indicator. -/
def plainLength (inFlow : Bool) : List Char → Nat
  | [] => 0
  | ch :: rest =>
    let next := rest.headD endMark
    let endsKey := ch == ':' && (isBlankOrEnd next || (inFlow && isFlowIndicator next))
    if isBlankOrEnd ch || endsKey || (inFlow && (ch == '?' || isFlowIndicator ch)) then 0
    else plainLength inFlow rest + 1

/-- Line breaks and spaces inside a plain scalar; nothing when a document mark ends it. -/
def plainBreaks : Nat → List Char → Cursor → Option (List Char) × Cursor
  | 0, breaks, c => (some breaks, c)
  | fuel + 1, breaks, c =>
    if c.current == ' ' then plainBreaks fuel breaks (c.skip 1)
    else if isBreak c.current then
      let (b, c) := c.lineBreak
      let c := c.lookForMark
      if c.isAtAnyMark then (none, c) else plainBreaks fuel (breaks ++ b) c
    else (some breaks, c)

/-- What separates two pieces of a plain scalar, empty when the scalar ends here; and whether a line
ended. -/
def plainGap (c : Cursor) : List Char × Bool × Cursor :=
  let (spaces, c) := c.takeWhile (· == ' ')
  if isBreak c.current then
    let (first, c) := c.lineBreak
    let c := c.lookForMark
    if c.isAtAnyMark then ([], true, c)
    else
      match plainBreaks (c.left + 1) [] c with
      | (none, c) => ([], true, c)
      | (some more, c) => (folded first more, true, c)
  else (spaces, false, c)

/-- The pieces of a plain scalar from here on; `gap` separates them from the text before.  The
answer tells whether a line ended behind the last piece. -/
def plainFrom (inFlow : Bool) (indent : Int) :
    Nat → Spelled → List Char → Bool → Cursor → Spelled × Bool × Cursor
  | 0, text, _, lineEnded, c => (text, lineEnded, c)
  | fuel + 1, text, gap, lineEnded, c =>
    let length := if c.current == '#' then 0 else plainLength inFlow c.rest
    let piece := c.rest.take length
    let c := c.skip length
    let c := if c.current == ':' then c.lookAhead 2 else c
    if length == 0 then (text, lineEnded, c)
    else
      let text := (text.pushAll gap).pushAll piece
      let (gap, lineEnded, c) := plainGap c
      if gap.isEmpty || c.current == '#' || (!inFlow && (c.column : Int) < indent) then
        (text, lineEnded, c)
      else plainFrom inFlow indent fuel text gap lineEnded c

/-- A plain scalar at the cursor; outside brackets its further lines are indented beyond the column
`parent`. -/
def plain (inFlow : Bool) (parent : Int) (c : Cursor) : Spelled × Bool × Cursor :=
  plainFrom inFlow (parent + 1) (c.left + 1) .empty [] false c

end ScalarText
end Yaml
end JumpLint
