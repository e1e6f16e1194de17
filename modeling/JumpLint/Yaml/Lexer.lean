import JumpLint.Yaml.ScalarText
import JumpLint.Yaml.Supply
import JumpLint.Yaml.Token

/-!
# From YAML text to tokens

The lexer keeps a stack of the columns at which block collections began, the depth of brackets, and
for each depth the place where a key may have begun that no question mark announced.  When the colon
behind such a place is found, the `key` token is put in there afterwards.

## What is here

* `Place`: where a key may have begun.  A key must end on its line, within `maxKeyLength`
  characters; a `required` one that does not is an error.
* `Lexer`: the state; `Lexer.step` reads the next token or closes the text.
* `Lexer.settled`: how many tokens no key can be put in front of any more.
* `Scan`: the tokens of a text, and the error behind the last of them if there is one.
* `scan`: the tokens of a text.
-/

set_option autoImplicit false
namespace JumpLint
namespace Yaml

/-- Where a key may have begun: before which token, and at which place of the text. -/
structure Place where
  token : Nat
  required : Bool
  offset : Nat
  line : Nat
  column : Nat

/-- A key has at most this many characters. -/
def maxKeyLength : Nat := 1024

/-- The state between two tokens.  `indent` is the column of the innermost block collection, -1
outside of all.  The `count` tokens so far are held last one first. -/
structure Lexer where
  cursor : Cursor
  depth : Nat
  indent : Int
  indents : List Int
  keyAllowed : Bool
  places : List (Nat × Place)
  tokens : List Token
  count : Nat

namespace Lexer

/-- The state in front of a text; a byte order mark is passed over. -/
def ofText (s : List Char) : Lexer :=
  let c := Cursor.ofText s
  { cursor := if c.current == '\uFEFF' then c.skip 1 else c
    depth := 0, indent := -1, indents := [], keyAllowed := true, places := []
    tokens := [], count := 0 }

/-- Whether the state is inside brackets. -/
def inFlow (l : Lexer) : Bool := l.depth != 0

/-- Adds a token. -/
def emit (l : Lexer) (t : Token) : Lexer :=
  { l with tokens := t :: l.tokens, count := l.count + 1 }

/-- Adds a token and moves over its `n` characters. -/
def emitOver (l : Lexer) (t : Token) (n : Nat) : Lexer :=
  { l.emit t with cursor := l.cursor.skip n }

/-- Puts a token in as token number `position`. -/
def insert (l : Lexer) (position : Nat) (t : Token) : Lexer :=
  { l with tokens := l.tokens.insertIdx (l.count - position) t, count := l.count + 1 }

/-- The tokens in front of token number `position`. -/
def before (l : Lexer) (position : Nat) : List Token :=
  (l.tokens.drop (l.count - position)).reverse

/-! ## Places of keys -/

/-- The place where a key may have begun at this depth. -/
def place? (l : Lexer) : Option Place := (l.places.find? (·.1 == l.depth)).map (·.2)

/-- Forgets the place at this depth; a required one may not be forgotten. -/
def dropPlace (l : Lexer) : Except Failure Lexer :=
  match l.place? with
  | some place =>
    if place.required then l.cursor.malformed
    else .ok { l with places := l.places.filter (·.1 != l.depth) }
  | none => .ok l

/-- Whether the key that began at a place can no longer end. -/
def isStale (c : Cursor) (p : Place) : Bool :=
  p.line != c.line || p.offset + maxKeyLength < c.offset

/-- Forgets the places whose keys can no longer end. -/
def dropStale (l : Lexer) : Except Failure Lexer :=
  if l.places.any fun (_, p) => isStale l.cursor p && p.required then
    l.cursor.malformed
  else .ok { l with places := l.places.filter fun (_, p) => !isStale l.cursor p }

/-- Keeps the cursor as a place where a key may begin.  A key is required where a block mapping
goes on. -/
def markPlace (l : Lexer) : Except Failure Lexer := do
  if l.keyAllowed then
    let required := !l.inFlow && l.indent == l.cursor.column
    let l ← l.dropPlace
    let c := l.cursor
    let place : Place := ⟨l.count, required, c.offset, c.line, c.column⟩
    .ok { l with places := (l.depth, place) :: l.places }
  else .ok l

/-! ## Indentation -/

/-- Ends the block collections beyond a column: the columns that are left, and how many ended. -/
def unwound (column indent : Int) (ended : Nat) : List Int → Int × List Int × Nat
  | [] => (indent, [], ended)
  | outer :: more =>
    if column < indent then unwound column outer (ended + 1) more
    else (indent, outer :: more, ended)

/-- Ends the block collections that are indented beyond a column. -/
def unwind (l : Lexer) (column : Int) : Lexer :=
  if l.inFlow then l
  else
    let (indent, indents, ended) := unwound column l.indent 0 l.indents
    { l with
      indent := indent, indents := indents
      tokens := List.replicate ended .blockEnd ++ l.tokens, count := l.count + ended }

/-- Begins a block collection at a column, with the token `start` as token number `position`,
unless one has begun there already. -/
def beginBlock (l : Lexer) (column : Nat) (start : Token) (position : Nat) : Lexer :=
  if l.indent < (column : Int) then
    { l.insert position start with indent := column, indents := l.indent :: l.indents }
  else l

/-! ## Directives, names and tags -/

/-- ASCII letters, digits, `-` and `_`. -/
def isNameChar (c : Char) : Bool := c.isAlphanum || c == '-' || c == '_'

/-- The characters of a tag; `%` begins one that is given by its code. -/
def isTagChar (c : Char) : Bool :=
  c.isAlphanum ||
    ['-', ';', '/', '?', ':', '@', '&', '=', '+', '$', ',', '_', '.', '!', '~', '*', '\x27', '(',
      ')', '[', ']', '%'].contains c

/-- The bytes that are given by code from here on. -/
def escapedBytes : Nat → Cursor → Except Failure (List UInt8 × Cursor)
  | 0, c => .ok ([], c)
  | fuel + 1, c =>
    if c.current == '%' then
      match Text.hexValue? (c.peek 1), Text.hexValue? (c.peek 2) with
      | some a, some b => do
        let (more, c) ← escapedBytes fuel (c.skip 3)
        .ok (UInt8.ofNat (a * 16 + b) :: more, c)
      | some _, none => c.malformedAt 2
      | none, _ => c.malformedAt 1
    else .ok ([], c)

/-- The text of a tag from here on. -/
def tagFrom : Nat → List Char → Cursor → Except Failure (List Char × Cursor)
  | 0, text, c => .ok (text, c)
  | fuel + 1, text, c =>
    if c.current == '%' then do
      let (bytes, c) ← escapedBytes (c.left + 1) c
      match String.fromUTF8? ⟨bytes.toArray⟩ with
      | some s => tagFrom fuel (text ++ s.toList) c
      | none => c.malformed
    else if isTagChar c.current then
      let (chars, c) := c.takeWhile fun ch => isTagChar ch && ch != '%'
      tagFrom fuel (text ++ chars) c
    else .ok (text, c)

/-- The text of a tag, which is not empty. -/
def tagText (c : Cursor) : Except Failure (String × Cursor) := do
  let start := c.offset
  let (text, c) ← tagFrom (c.left + 1) [] c
  if c.offset == start then c.malformed else .ok (String.ofList text, c)

/-- The handle of a tag: `!`, `!!` or a name between two of them. -/
def tagHandle (c : Cursor) : Except Failure (String × Cursor) :=
  if c.current != '!' then c.malformed
  else if c.peek 1 == ' ' then .ok ("!", c.skip 1)
  else
    let name := (c.skip 1).rest.takeWhile isNameChar
    let c := c.skip (name.length + 1)
    if c.current == '!' then .ok (String.ofList ('!' :: name ++ ['!']), c.skip 1)
    else c.malformed

/-- The digits of a version number. -/
def versionNumber (c : Cursor) : Except Failure (Nat × Cursor) :=
  let (digits, c) := c.takeWhile Char.isDigit
  if digits.isEmpty then c.malformed
  else if Number.maxDigits < digits.length then c.fail (.integer (.tooLong digits.length)) 1
  else .ok (Number.positional 10 (digits.filterMap Number.asciiDigit?), c)

/-- A directive; the cursor stands in front of its `%`. -/
def directive (c : Cursor) : Except Failure (Token × Cursor) := do
  let (name, c) := (c.skip 1).takeWhile isNameChar
  if name.isEmpty || !isSpaceOrEnd c.current then c.malformed
  else
    let (token, c) ←
      if name == ['Y', 'A', 'M', 'L'] then do
        let (major, c) ← versionNumber (c.skipWhile (· == ' '))
        if c.current != '.' then c.malformed
        else
          let (_, c) ← versionNumber (c.skip 1)
          if isSpaceOrEnd c.current then pure (Token.version major, c) else c.malformed
      else if name == ['T', 'A', 'G'] then do
        let (handle, c) ← tagHandle (c.skipWhile (· == ' '))
        if c.current != ' ' then c.malformed
        else
          let (expansion, c) ← tagText (c.skipWhile (· == ' '))
          if isSpaceOrEnd c.current then pure (Token.tagHandle handle expansion, c)
          else c.malformed
      else pure (Token.otherDirective, c.skipWhile fun ch => !isBreak ch)
    let c ← ScalarText.ignoredLine c
    .ok (token, c)

/-- The name of an anchor or alias; the cursor stands in front of its indicator. -/
def anchorName (c : Cursor) : Except Failure (String × Cursor) :=
  let (name, c) := (c.skip 1).takeWhile isNameChar
  let ch := c.current
  let ends := isBlankOrEnd ch || ['?', ':', ',', ']', '}', '%', '@', '\x60'].contains ch
  if name.isEmpty || !ends then c.malformed else .ok (String.ofList name, c)

/-- The word that a tag is part of, up to its second exclamation mark if it has one. -/
def tagWord (c : Cursor) : List Char :=
  (c.skip 1).rest.takeWhile fun ch => !isSpaceOrEnd ch && ch != '!'

/-- Whether the tag here has a second exclamation mark, and so a handle. -/
def hasHandle (c : Cursor) : Bool := c.peek ((tagWord c).length + 1) == '!'

/-- A tag; the cursor stands in front of its exclamation mark. -/
def tag (c : Cursor) : Except Failure (Token × Cursor) := do
  let (token, c) ←
    if c.peek 1 == '<' then do
      let (suffix, c) ← tagText (c.skip 2)
      if c.current != '>' then c.malformed else pure (Token.tag none suffix, c.skip 1)
    else if isBlankOrEnd (c.peek 1) then pure (Token.tag none "!", c.skip 1)
    else
      let c := c.lookAhead ((tagWord c).length + 2)
      if hasHandle c then do
        let (handle, c) ← tagHandle c
        let (suffix, c) ← tagText c
        pure (Token.tag (some handle) suffix, c)
      else do
        let (suffix, c) ← tagText (c.skip 1)
        pure (Token.tag (some "!") suffix, c)
  if isSpaceOrEnd c.current then .ok (token, c) else c.malformed

/-! ## Tokens -/

/-- Moves over spaces, comments and line ends.  Behind a line end a key may begin, outside
brackets. -/
def toNextToken : Nat → Lexer → Lexer
  | 0, l => l
  | fuel + 1, l =>
    let c := l.cursor.skipWhile (· == ' ')
    let c := if c.current == '#' then c.skipWhile fun ch => !isBreak ch else c
    if isBreak c.current then
      toNextToken fuel { l with cursor := c.lineBreak.2, keyAllowed := l.keyAllowed || !l.inFlow }
    else { l with cursor := c }

/-- Closes the text. -/
def closeText (l : Lexer) : Except Failure Lexer := do
  let l ← (l.unwind (-1)).dropPlace
  .ok ({ l with keyAllowed := false, places := [] }.emit .streamEnd)

/-- A directive. -/
def addDirective (l : Lexer) : Except Failure Lexer := do
  let l ← (l.unwind (-1)).dropPlace
  let (token, c) ← directive l.cursor
  .ok ({ l with keyAllowed := false, cursor := c }.emit token)

/-- A document mark. -/
def addMark (l : Lexer) (token : Token) : Except Failure Lexer := do
  let l ← (l.unwind (-1)).dropPlace
  .ok ({ l with keyAllowed := false }.emitOver token 3)

/-- An opening bracket. -/
def openFlow (l : Lexer) (token : Token) : Except Failure Lexer := do
  let l ← l.markPlace
  .ok ({ l with depth := l.depth + 1, keyAllowed := true }.emitOver token 1)

/-- A closing bracket. -/
def closeFlow (l : Lexer) (token : Token) : Except Failure Lexer := do
  let l ← l.dropPlace
  .ok ({ l with depth := l.depth - 1, keyAllowed := false }.emitOver token 1)

/-- A comma between brackets. -/
def addFlowEntry (l : Lexer) : Except Failure Lexer := do
  let l ← { l with keyAllowed := true }.dropPlace
  .ok (l.emitOver .flowEntry 1)

/-- A dash in front of a block item. -/
def addBlockEntry (l : Lexer) : Except Failure Lexer := do
  let l ←
    if l.inFlow then pure l
    else if !l.keyAllowed then l.cursor.malformed
    else pure (l.beginBlock l.cursor.column .blockSequenceStart l.count)
  let l ← { l with keyAllowed := true }.dropPlace
  .ok (l.emitOver .blockEntry 1)

/-- A question mark in front of a key. -/
def addKey (l : Lexer) : Except Failure Lexer := do
  let l ←
    if l.inFlow then pure l
    else if !l.keyAllowed then l.cursor.malformed
    else pure (l.beginBlock l.cursor.column .blockMappingStart l.count)
  let l ← { l with keyAllowed := !l.inFlow }.dropPlace
  .ok (l.emitOver .key 1)

/-- A colon in front of a value: behind a key that began at a marked place, or on its own. -/
def addValue (l : Lexer) : Except Failure Lexer := do
  match l.place? with
  | some place =>
    let l := { l.insert place.token .key with places := l.places.filter (·.1 != l.depth) }
    let l := if l.inFlow then l else l.beginBlock place.column .blockMappingStart place.token
    .ok ({ l with keyAllowed := false }.emitOver .value 1)
  | none =>
    if !l.inFlow && !l.keyAllowed then l.cursor.malformed
    else
      let l :=
        if l.inFlow then l else l.beginBlock l.cursor.column .blockMappingStart l.count
      let l ← { l with keyAllowed := !l.inFlow }.dropPlace
      .ok (l.emitOver .value 1)

/-- An anchor, alias or tag, at which a key may begin. -/
def addProperty (l : Lexer) (read : Cursor → Except Failure (Token × Cursor)) :
    Except Failure Lexer := do
  let l ← l.markPlace
  let (token, c) ← read l.cursor
  .ok ({ l with keyAllowed := false, cursor := c }.emit token)

/-- A block scalar. -/
def addBlock (l : Lexer) (folds : Bool) : Except Failure Lexer := do
  let l ← { l with keyAllowed := true }.dropPlace
  let (text, c) ← ScalarText.block folds l.indent l.cursor
  .ok ({ l with cursor := c }.emit (.scalar text.toText false))

/-- A scalar between quotes. -/
def addQuoted (l : Lexer) (double : Bool) : Except Failure Lexer := do
  let l ← l.markPlace
  let (text, c) ← ScalarText.quoted double l.cursor
  .ok ({ l with keyAllowed := false, cursor := c }.emit (.scalar text.toText false))

/-- A plain scalar; behind one that went on to the end of a line a key may begin. -/
def addPlain (l : Lexer) : Except Failure Lexer := do
  let l ← l.markPlace
  let (text, lineEnded, c) := ScalarText.plain l.inFlow l.indent l.cursor
  .ok ({ l with keyAllowed := lineEnded, cursor := c }.emit (.scalar text.toText true))

/-- Characters that no plain scalar begins with, unless another rule lets them. -/
def isIndicator (c : Char) : Bool :=
  ['-', '?', ':', ',', '[', ']', '{', '}', '#', '&', '*', '!', '|', '>', '\x27', '"', '%', '@',
    '\x60'].contains c

/-- Whether a plain scalar begins at the cursor. -/
def beginsPlain (l : Lexer) : Bool :=
  let ch := l.cursor.current
  !(isBlankOrEnd ch || isIndicator ch) ||
    (!isBlankOrEnd (l.cursor.peek 1) && (ch == '-' || (!l.inFlow && (ch == '?' || ch == ':'))))

/-- Whether the indicator at the cursor stands alone, as those of block collections must. -/
def standsAlone (l : Lexer) : Bool := isBlankOrEnd (l.cursor.peek 1)

/-- How far it is looked ahead to tell which token begins with a character. -/
def lookAtStart (l : Lexer) (ch : Char) : Cursor :=
  let c := l.cursor
  if c.column == 0 && (ch == '-' || ch == '.') then c.lookForMark
  else if ch == '-' || (!l.inFlow && (ch == '?' || ch == ':')) then c.lookAhead 2
  else c

/-- The next token.  The order of the cases decides between the readings of one character. -/
def step (l : Lexer) : Except Failure Lexer := do
  let l ← l.dropStale
  let l ← (toNextToken (l.cursor.left + 1) l).dropStale
  let l := l.unwind l.cursor.column
  let ch := l.cursor.current
  let atStart := l.cursor.column == 0
  let l := { l with cursor := l.lookAtStart ch }
  if ch == endMark then l.closeText
  else if ch == '%' && atStart then l.addDirective
  else if atStart && l.cursor.isAtMark '-' then l.addMark .documentStart
  else if atStart && l.cursor.isAtMark '.' then l.addMark .documentEnd
  else if ch == '[' then l.openFlow .flowSequenceStart
  else if ch == '{' then l.openFlow .flowMappingStart
  else if ch == ']' then l.closeFlow .flowSequenceEnd
  else if ch == '}' then l.closeFlow .flowMappingEnd
  else if ch == ',' then l.addFlowEntry
  else if ch == '-' && l.standsAlone then l.addBlockEntry
  else if ch == '?' && (l.inFlow || l.standsAlone) then l.addKey
  else if ch == ':' && (l.inFlow || l.standsAlone) then l.addValue
  else if ch == '*' then
    l.addProperty fun c => do
      let (name, c) ← anchorName c
      .ok (.alias name, c)
  else if ch == '&' then
    l.addProperty fun c => do
      let (name, c) ← anchorName c
      .ok (.anchor name, c)
  else if ch == '!' then l.addProperty tag
  else if ch == '|' && !l.inFlow then l.addBlock false
  else if ch == '>' && !l.inFlow then l.addBlock true
  else if ch == '\x27' then l.addQuoted false
  else if ch == '"' then l.addQuoted true
  else if l.beginsPlain then l.addPlain
  else l.cursor.malformedAt 1

end Lexer

/-- The tokens of a text, and the error behind the last of them if there is one. -/
structure Scan where
  tokens : List Token
  error? : Option Error

/-- The number of tokens in front of the first place where a key may still turn out to have begun.
Nobody sees the tokens behind it before that is decided. -/
def Lexer.settled (l : Lexer) : Nat :=
  (l.places.filter fun (_, p) => !isStale l.cursor p).foldl (fun n (_, p) => min n p.token) l.count

/-- Reads tokens until the text is closed.  Each step but the last moves the cursor.  If `fault?`
lies behind the text, a step that looks there meets it, and what else the step did is lost. -/
def scanFrom (fault? : Option Error) : Nat → Lexer → Scan
  | 0, l => ⟨l.before l.count, some .malformed⟩
  | fuel + 1, l =>
    match l.step, fault? with
    | .error e, none => ⟨l.before l.settled, some e.error⟩
    | .error e, some fault =>
      ⟨l.before l.settled, some (if l.cursor.length < e.seen then fault else e.error)⟩
    | .ok next, some fault =>
      if next.cursor.length < next.cursor.sight then ⟨l.before l.settled, some fault⟩
      else scanFrom fault? fuel next
    | .ok next, none =>
      if next.tokens.head? == some .streamEnd then ⟨next.before next.count, none⟩
      else scanFrom fault? fuel next

/-- The tokens of a text. -/
def scan (supply : Supply) : Scan :=
  let l := Lexer.ofText supply.text
  scanFrom supply.fault? (l.cursor.length + 2) l

end Yaml
end JumpLint
