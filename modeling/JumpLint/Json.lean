import JumpLint.Datum
import JumpLint.Number.Integer
import JumpLint.Text.Hex
import JumpLint.Text.Spelled

/-!
# Reading JSON

One value, with white space around it, is the whole text.  Beyond the standard the reader takes
`NaN`, `Infinity` and `-Infinity`.  Of a name that is given twice in an object the last value
counts.  Lists and objects are read by a recursion that has room for so many levels and no more.

## What is here

* `Json.Fault`, `Json.Error`: what is wrong with a text, and at which line, column and offset.
* `readText`, `readNumber`, `readValue`: the readers.  Each takes the offset it starts at and gives
  back the offset it stops at, so that an error can name its place.
* `inside`: the room that is left inside brackets.
* `Json.read`: the value of a whole text.
-/

set_option autoImplicit false
namespace JumpLint
namespace Json

open Text (Spelled hexNumber?)

/-- What can be wrong with the text at one place. -/
inductive Fault where
  | noValue
  | noName
  | noColon
  | noComma
  | trailing
  | openText
  | controlCharacter
  | unknownEscape
  | shortEscape
  | byteOrderMark
deriving Repr, DecidableEq

/-- The sentence for a fault. -/
def Fault.message : Fault → String
  | .noValue => "Expecting value"
  | .noName => "Expecting property name enclosed in double quotes"
  | .noColon => "Expecting ':' delimiter"
  | .noComma => "Expecting ',' delimiter"
  | .trailing => "Extra data"
  | .openText => "Unterminated string starting at"
  | .controlCharacter => "Invalid control character at"
  | .unknownEscape => "Invalid \\escape"
  | .shortEscape => "Invalid \\uXXXX escape"
  | .byteOrderMark => "Unexpected UTF-8 BOM (decode using utf-8-sig)"

/-- A fault at an offset, a whole number that is too long, or brackets in brackets for which there
is no room. -/
inductive Failure where
  | fault (fault : Fault) (offset : Nat)
  | number (error : Number.IntegerError)
  | tooDeep
deriving Repr, DecidableEq

/-- A fault with its place in the text, a whole number that is too long, or brackets in brackets for
which there is no room. -/
inductive Error where
  | malformed (fault : Fault) (line column offset : Nat)
  | number (error : Number.IntegerError)
  | tooDeep
deriving Repr, DecidableEq

/-- The text of an error.  Lines and columns count from one, offsets from zero. -/
def Error.message : Error → String
  | .malformed fault line column offset =>
    fault.message ++ ": line " ++ toString line ++ " column " ++ toString column ++ " (char " ++
      toString offset ++ ")"
  | .number error => error.message
  | .tooDeep => "maximum recursion depth exceeded"

/-- A value, the offset behind it and the text that is left. -/
structure Read (α : Type) where
  value : α
  offset : Nat
  rest : List Char

/-! ## White space -/

/-- The four characters that may stand between the parts of a text. -/
def isGap (c : Char) : Bool := c == ' ' || c == '\t' || c == '\n' || c == '\r'

/-- Skips white space. -/
def skipGap (offset : Nat) (s : List Char) : Nat × List Char :=
  (offset + (s.takeWhile isGap).length, s.dropWhile isGap)

/-! ## Texts -/

/-- The character that a letter stands for after a backslash. -/
def escape? : Char → Option Char
  | '"' => some '"'
  | '\\' => some '\\'
  | '/' => some '/'
  | 'b' => some '\x08'
  | 'f' => some '\x0C'
  | 'n' => some '\n'
  | 'r' => some '\r'
  | 't' => some '\t'
  | _ => none

/-- Reads the rest of a text that was opened at offset `start`, up to its closing quote. -/
def readText (start : Nat) (spelled : Spelled) (offset : Nat) :
    List Char → Except Failure (Read Text)
  | [] => .error (.fault .openText start)
  | '"' :: rest => .ok ⟨spelled.toText, offset + 1, rest⟩
  | '\\' :: 'u' :: a :: b :: c :: d :: '\\' :: 'u' :: e :: f :: g :: h :: rest =>
    match hexNumber? [a, b, c, d] with
    | none => .error (.fault .shortEscape (offset + 1))
    | some lead =>
      if CodePoint.isLead lead && !rest.isEmpty then
        match hexNumber? [e, f, g, h] with
        | none => .error (.fault .shortEscape (offset + 7))
        | some trail =>
          if CodePoint.isTrail trail then
            readText start (spelled.push (CodePoint.joined lead trail)) (offset + 12) rest
          else
            readText start (spelled.pushCode lead) (offset + 6)
              ('\\' :: 'u' :: e :: f :: g :: h :: rest)
      else
        readText start (spelled.pushCode lead) (offset + 6)
          ('\\' :: 'u' :: e :: f :: g :: h :: rest)
  | '\\' :: 'u' :: a :: b :: c :: d :: rest =>
    match hexNumber? [a, b, c, d] with
    | none => .error (.fault .shortEscape (offset + 1))
    | some unit =>
      if rest.isEmpty then .error (.fault .shortEscape (offset + 1))
      else readText start (spelled.pushCode unit) (offset + 6) rest
  | '\\' :: 'u' :: _ => .error (.fault .shortEscape (offset + 1))
  | ['\\'] => .error (.fault .openText start)
  | '\\' :: c :: rest =>
    match escape? c with
    | none => .error (.fault .unknownEscape offset)
    | some c => readText start (spelled.push c) (offset + 2) rest
  | c :: rest =>
    if c.toNat < 0x20 then .error (.fault .controlCharacter offset)
    else readText start (spelled.push c) (offset + 1) rest
termination_by structural s => s

/-! ## Numbers -/

/-- Whether a character is an ASCII digit. -/
def isDigit (c : Char) : Bool := '0' ≤ c && c ≤ '9'

/-- The whole part of a number: a zero, or digits that begin with another one. -/
def wholeDigits : List Char → List Char
  | '0' :: _ => ['0']
  | s => s.takeWhile isDigit

/-- The digits after a point, if there is a point with digits after it. -/
def fractionDigits : List Char → List Char
  | '.' :: rest => rest.takeWhile isDigit
  | _ => []

/-- The length of an exponent and its value, if there is one. -/
def exponent? : List Char → Option (Nat × Int)
  | e :: rest =>
    if e == 'e' || e == 'E' then
      let (sign, body) := Number.splitSign rest
      let ds := body.takeWhile isDigit
      if ds.isEmpty then none
      else
        some (1 + (rest.length - body.length) + ds.length,
          sign * (Number.positional 10 (ds.filterMap Number.asciiDigit?) : Nat))
    else none
  | [] => none

/-- Reads a number; what does not begin like one is no value at all. -/
def readNumber (offset : Nat) (s : List Char) : Except Failure (Read Datum) :=
  let body := match s with
    | '-' :: rest => rest
    | s => s
  let negative := body.length < s.length
  let whole := wholeDigits body
  if whole.isEmpty then .error (.fault .noValue offset)
  else
    let afterWhole := body.drop whole.length
    let fraction := fractionDigits afterWhole
    let afterFraction :=
      if fraction.isEmpty then afterWhole else afterWhole.drop (1 + fraction.length)
    let values := fun (ds : List Char) => ds.filterMap Number.asciiDigit?
    match exponent? afterFraction with
    | some (length, exponent) =>
      let rest := afterFraction.drop length
      let digits := Number.positional 10 (values (whole ++ fraction))
      .ok ⟨.float (.ofDecimal negative digits (exponent - fraction.length)),
        offset + (s.length - rest.length), rest⟩
    | none =>
      let stop := offset + (s.length - afterFraction.length)
      if fraction.isEmpty then
        if Number.maxDigits < whole.length then .error (.number (.tooLong whole.length))
        else
          let n : Int := (Number.positional 10 (values whole) : Nat)
          .ok ⟨.int (if negative then -n else n), stop, afterFraction⟩
      else
        let digits := Number.positional 10 (values (whole ++ fraction))
        .ok ⟨.float (.ofDecimal negative digits (-(fraction.length : Int))), stop, afterFraction⟩

/-! ## Values -/

/-- The words that are values, and what they stand for. -/
def constants : List (List Char × Datum) :=
  [(['n', 'u', 'l', 'l'], .null), (['t', 'r', 'u', 'e'], .bool true),
    (['f', 'a', 'l', 's', 'e'], .bool false), (['N', 'a', 'N'], .float .nan),
    (['I', 'n', 'f', 'i', 'n', 'i', 't', 'y'], .float (.infinity false)),
    (['-', 'I', 'n', 'f', 'i', 'n', 'i', 't', 'y'], .float (.infinity true))]

/-- A value that is a word or a number. -/
def readAtom (offset : Nat) (s : List Char) : Except Failure (Read Datum) :=
  match constants.find? fun (word, _) => word.isPrefixOf s with
  | some (word, value) => .ok ⟨value, offset + word.length, s.drop word.length⟩
  | none => readNumber offset s

/-- The room that is left inside brackets. -/
def inside : Nat → Except Failure Nat
  | 0 => .error .tooDeep
  | room + 1 => .ok room

mutual

/-- Reads a value at a place where white space has been skipped.  The fuel bounds the number of
values, items and entries that are entered, the room how many brackets are open at a time. -/
def readValue : Nat → Nat → Nat → List Char → Except Failure (Read Datum)
  | 0, _, offset, _ => .error (.fault .noValue offset)
  | fuel + 1, room, offset, s =>
    match s with
    | '"' :: rest => do
      let text ← readText offset .empty (offset + 1) rest
      .ok ⟨.text text.value, text.offset, text.rest⟩
    | '[' :: rest => do
      let room ← inside room
      let (offset, rest) := skipGap (offset + 1) rest
      match rest with
      | ']' :: rest => .ok ⟨.list [], offset + 1, rest⟩
      | rest =>
        let items ← readItems fuel room offset rest
        .ok ⟨.list items.value, items.offset, items.rest⟩
    | '{' :: rest => do
      let room ← inside room
      let (offset, rest) := skipGap (offset + 1) rest
      match rest with
      | '}' :: rest => .ok ⟨.mapping [], offset + 1, rest⟩
      | rest =>
        let entries ← readEntries fuel room offset rest
        .ok ⟨.ofEntries entries.value, entries.offset, entries.rest⟩
    | s => readAtom offset s

/-- Reads the items of a list up to its end; at least one is expected. -/
def readItems : Nat → Nat → Nat → List Char → Except Failure (Read (List Datum))
  | 0, _, offset, _ => .error (.fault .noValue offset)
  | fuel + 1, room, offset, s => do
    let item ← readValue fuel room offset s
    let (offset, rest) := skipGap item.offset item.rest
    match rest with
    | ']' :: rest => .ok ⟨[item.value], offset + 1, rest⟩
    | ',' :: rest =>
      let (offset, rest) := skipGap (offset + 1) rest
      let more ← readItems fuel room offset rest
      .ok ⟨item.value :: more.value, more.offset, more.rest⟩
    | _ => .error (.fault .noComma offset)

/-- Reads the entries of an object up to its end; at least one is expected. -/
def readEntries : Nat → Nat → Nat → List Char → Except Failure (Read (List (Datum × Datum)))
  | 0, _, offset, _ => .error (.fault .noValue offset)
  | fuel + 1, room, offset, s =>
    match s with
    | '"' :: rest => do
      let name ← readText offset .empty (offset + 1) rest
      let (offset, rest) := skipGap name.offset name.rest
      match rest with
      | ':' :: rest =>
        let (offset, rest) := skipGap (offset + 1) rest
        let value ← readValue fuel room offset rest
        let (offset, rest) := skipGap value.offset value.rest
        match rest with
        | '}' :: rest => .ok ⟨[(.text name.value, value.value)], offset + 1, rest⟩
        | ',' :: rest =>
          let (offset, rest) := skipGap (offset + 1) rest
          let more ← readEntries fuel room offset rest
          .ok ⟨(.text name.value, value.value) :: more.value, more.offset, more.rest⟩
        | _ => .error (.fault .noComma offset)
      | _ => .error (.fault .noColon offset)
    | _ => .error (.fault .noName offset)

end

/-- Reads a text that holds one value and nothing else. -/
def readWhole (room : Nat) (s : List Char) : Except Failure Datum :=
  match s with
  | '\uFEFF' :: _ => .error (.fault .byteOrderMark 0)
  | s => do
    let (offset, rest) := skipGap 0 s
    let value ← readValue (2 * s.length + 2) room offset rest
    let (offset, rest) := skipGap value.offset value.rest
    if rest.isEmpty then .ok value.value else .error (.fault .trailing offset)

/-- The line of an offset, and its column in that line, counted from one. -/
def place (s : List Char) (offset : Nat) : Nat × Nat :=
  let before := s.take offset
  (before.count '\n' + 1, (before.reverse.takeWhile (· != '\n')).length + 1)

/-- A failure with its place in the text. -/
def Failure.placed (s : List Char) : Failure → Error
  | .fault kind offset =>
    let (line, column) := place s offset
    .malformed kind line column offset
  | .number error => .number error
  | .tooDeep => .tooDeep

/-- The value of a text, read with room for so many open brackets. -/
def read (room : Nat) (text : String) : Except Error Datum :=
  (readWhole room text.toList).mapError (Failure.placed text.toList)

end Json
end JumpLint
