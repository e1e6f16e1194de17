import JumpLint.Text.Decoding

/-!
# Text that arrives in pieces

A long file is not read at once.  Whoever reads it asks for 4096 characters at a time, and when too
few are ready the next chunk of bytes is decoded, so that bytes which are no text come to light only
when their chunk is needed.  A chunk has 8192 bytes, or more if the one before shows that its
characters take many bytes each.

## What is here

* `openCount`: how many bytes at the end of a chunk begin a character that the next chunk completes.
* `Inflow`, with `takeChunk?` and `fill`: what is ready, and what is still to come.
* `readPieces`: all that can be read before the first chunk at fault.
-/

set_option autoImplicit false
namespace JumpLint
namespace Text

/-! ## Characters across chunks -/

/-- Whether a byte continues a character. -/
def isContinuation (b : UInt8) : Bool := 0x80 ≤ b && b ≤ 0xBF

/-- Whether a byte may follow the first byte of a character. -/
def mayFollow (first b : UInt8) : Bool :=
  if first == 0xE0 then 0xA0 ≤ b && b ≤ 0xBF
  else if first == 0xED then 0x80 ≤ b && b ≤ 0x9F
  else if first == 0xF0 then 0x90 ≤ b && b ≤ 0xBF
  else if first == 0xF4 then 0x80 ≤ b && b ≤ 0x8F
  else isContinuation b

/-- Whether bytes, given in reverse, are the beginning of a character and not a whole one. -/
def isOpen : List UInt8 → Bool
  | [a] => 0xC2 ≤ a && a ≤ 0xF4
  | [b, a] => 0xE0 ≤ a && a ≤ 0xF4 && mayFollow a b
  | [c, b, a] => 0xF0 ≤ a && a ≤ 0xF4 && mayFollow a b && isContinuation c
  | _ => false

/-- The number of bytes at the end that begin a character. -/
def openCount (bytes : List UInt8) : Nat :=
  let last := bytes.reverse.take 3
  (([3, 2, 1] : List Nat).find? fun n => n ≤ last.length && isOpen (last.take n)).getD 0

/-! ## Reading -/

/-- The number of characters that are asked for at a time. -/
def requestLength : Nat := 4096

/-- The least number of bytes in a chunk. -/
def chunkLength : Nat := 8192

/-- A file that is being read: the bytes that have not been taken, those of a character that has
begun, whether a return is held back until it is known what follows, the characters that are ready,
and how many bytes and characters the last chunk had. -/
structure Inflow where
  bytes : List UInt8
  opened : List UInt8
  holdsReturn : Bool
  ready : List Char
  lastBytes : Nat
  lastChars : Nat

namespace Inflow

/-- A file that has not been read. -/
def ofBytes (bytes : List UInt8) : Inflow := ⟨bytes, [], false, [], 0, 0⟩

/-- The number of bytes to take when some characters are missing. -/
def chunkFor (f : Inflow) (missing : Nat) : Nat :=
  let guess := if f.lastChars == 0 then missing else missing * f.lastBytes / f.lastChars
  max chunkLength guess

/-- Takes the next chunk, unless it is at fault. -/
def takeChunk? (f : Inflow) (missing : Nat) : Option Inflow := do
  let chunk := f.bytes.take (f.chunkFor missing)
  let isLast := chunk.isEmpty
  let input := f.opened ++ chunk
  let whole := if isLast then input.length else input.length - openCount input
  let decoded ← String.fromUTF8? ⟨(input.take whole).toArray⟩
  let chars := decoded.toList
  let chars := if f.holdsReturn && (isLast || !chars.isEmpty) then '\r' :: chars else chars
  let held := (f.holdsReturn && chars.isEmpty) || (chars.getLast? == some '\r' && !isLast)
  let chars := unifyLineEnds (if held then chars.dropLast else chars)
  some
    { bytes := f.bytes.drop chunk.length
      opened := input.drop whole
      holdsReturn := held
      ready := f.ready ++ chars
      lastBytes := chunk.length
      lastChars := chars.length }

/-- Takes chunks until as many characters are ready as are asked for, or the file has ended. -/
def fill : Nat → Inflow → Option Inflow
  | 0, f => some f
  | fuel + 1, f =>
    if requestLength ≤ f.ready.length then some f
    else
      let isEnded := f.bytes.isEmpty
      match f.takeChunk? (requestLength - f.ready.length) with
      | none => none
      | some next => if isEnded then some next else fill fuel next

/-- The characters from here on that can be read, and whether these are all. -/
def readFrom : Nat → Inflow → List Char × Bool
  | 0, f => (f.ready, true)
  | fuel + 1, f =>
    match f.fill (f.bytes.length + 1) with
    | none => ([], false)
    | some f =>
      let (now, later) := (f.ready.take requestLength, f.ready.drop requestLength)
      if now.isEmpty then ([], true)
      else
        let (more, isAll) := readFrom fuel { f with ready := later }
        (now ++ more, isAll)

end Inflow

/-- The characters of a file up to the first request that meets a chunk at fault, and whether these
are all. -/
def readPieces (bytes : ByteArray) : List Char × Bool :=
  let octets := bytes.toList
  Inflow.readFrom (octets.length + 1) (.ofBytes octets)

end Text
end JumpLint
