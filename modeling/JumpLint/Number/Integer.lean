import JumpLint.Text.Blank
import JumpLint.Text.Digit
import JumpLint.Text.Quoted

/-!
# Integers written as text

Two readers of integers stand here.  `ofNumeral` reads settings: white space around the number, a
sign, digits of any script in a base from 2 to 36, single underscores between digits and, for the
bases 2, 8 and 16, the usual mark of the base in front.  `ofField` reads the fields of structured
data: white space around the number, a sign, ASCII digits with single underscores between them, and
a fraction as long as it is zero.  Zeros in front of a field's number do not count, with whatever
underscores stand among them.

## What is here

* `digitValue?`, `positional`, `separatedDigits`: digits, their value, underscores between them.
* `maxDigits`: the longest decimal number that is read at all.
* `IntegerError` and its `message`: why a text is refused.
* `ofNumeral`, `ofField`: the two readers.
* `shown`: a number in decimal digits.
-/

set_option autoImplicit false
namespace JumpLint
namespace Number

open Text

/-- Why a text is not an integer: it is not written as one, or has too many digits; and why a
number is not written: it has too many digits. -/
inductive IntegerError where
  | unreadable (base : Nat) (text : Text)
  | tooLong (digits : Nat)
  | unprintable
deriving Repr, DecidableEq

/-- Numbers of more digits than this are refused, in bases that are no power of two. -/
def maxDigits : Nat := 4300

/-- The text of an error; of an unreadable text at most 200 characters of its quoted form show. -/
def IntegerError.message : IntegerError → String
  | .unreadable base text =>
    "invalid literal for int() with base " ++ toString base ++ ": " ++
      String.ofList ((quotedChars text).take 200)
  | .tooLong digits =>
    "Exceeds the limit (" ++ toString maxDigits ++ " digits) for integer string conversion: " ++
      "value has " ++ toString digits ++
      " digits; use sys.set_int_max_str_digits() to increase the limit"
  | .unprintable =>
    "Exceeds the limit (" ++ toString maxDigits ++ " digits) for integer string conversion; " ++
      "use sys.set_int_max_str_digits() to increase the limit"

/-- A number in decimal digits, unless it has too many. -/
def shown (n : Int) : Except IntegerError String :=
  if n.natAbs < Nat.pow 10 maxDigits then .ok (toString n) else .error .unprintable

/-! ## Digits -/

/-- The value of a digit below `base`: a decimal digit of any script, or an ASCII letter. -/
def digitValue? (base : Nat) (c : Char) : Option Nat :=
  let value :=
    if 'a' ≤ c ∧ c ≤ 'z' then some (c.toNat - 'a'.toNat + 10)
    else if 'A' ≤ c ∧ c ≤ 'Z' then some (c.toNat - 'A'.toNat + 10)
    else decimalValue? c
  value.filter (· < base)

/-- The number that a row of digit values stands for, the first one counting most. -/
def positional (base : Nat) (digits : List Nat) : Nat :=
  digits.foldl (fun n d => n * base + d) 0

/-- Digits with at most one underscore between two of them, and none at the ends: the digits. -/
def separatedDigits : List Char → Option (List Char)
  | [] => none
  | [c] => if c == '_' then none else some [c]
  | c :: '_' :: rest => if c == '_' then none else (separatedDigits rest).map (c :: ·)
  | c :: rest => if c == '_' then none else (separatedDigits rest).map (c :: ·)

/-- The sign in front of a number, and what follows. -/
def splitSign : List Char → Int × List Char
  | '-' :: rest => (-1, rest)
  | '+' :: rest => (1, rest)
  | s => (1, s)

/-! ## Settings -/

/-- The mark of a base in front of its digits, with the underscore that may follow it. -/
def dropBaseMark (base : Nat) : List Char → List Char
  | '0' :: mark :: rest =>
    if (base == 2 && (mark == 'b' || mark == 'B')) || (base == 8 && (mark == 'o' || mark == 'O')) ||
        (base == 16 && (mark == 'x' || mark == 'X')) then
      match rest with
      | '_' :: rest => rest
      | rest => rest
    else '0' :: mark :: rest
  | s => s

/-- Whether the number of digits is limited in this base. -/
def isLimited (base : Nat) : Bool := !([2, 4, 8, 16, 32].contains base)

/-- The characters of a text up to the first half of a pair, which is in no number, and whether
there is one. -/
def leadingChars (t : Text) : List Char × Bool :=
  (t.takeWhile (CodePoint.isIn fun _ => true) |>.filterMap CodePoint.char?, !t.isWhole)

/-- Reads a number with the digits of any script.  The digits in front decide: too many of them
are refused as such, whatever follows them. -/
def ofNumeral (base : Nat) (text : Text) : Except IntegerError Int :=
  let (chars, isBroken) := leadingChars (trimSpace text)
  let (sign, body) := splitSign chars
  let body := dropBaseMark base body
  let isPart := fun c => c == '_' || (digitValue? base c).isSome
  match separatedDigits (body.takeWhile isPart) with
  | none => .error (.unreadable base text)
  | some digits =>
    if isLimited base && maxDigits < digits.length then .error (.tooLong digits.length)
    else if (body.dropWhile isPart).isEmpty && !isBroken then
      .ok (sign * (positional base (digits.filterMap (digitValue? base)) : Nat))
    else .error (.unreadable base text)

/-! ## Fields -/

/-- Why the text of a field is not an integer. -/
inductive FieldError where
  | unreadable
  | tooLong
deriving Repr, DecidableEq

/-- The value of an ASCII digit. -/
def asciiDigit? (c : Char) : Option Nat :=
  if '0' ≤ c ∧ c ≤ '9' then some (c.toNat - '0'.toNat) else none

/-- Whether a character is a digit that a number can begin with. -/
def isLeading (c : Char) : Bool := '1' ≤ c && c ≤ '9'

/-- The length of the number that a text begins with, if zero is not its first digit. -/
def leadingLength (s : List Char) : Nat :=
  let body := match s with
    | '-' :: rest => rest
    | s => s
  if (body.head?.map isLeading).getD false then
    (body.takeWhile fun c => (asciiDigit? c).isSome).length
  else 0

/-- A field's number from its first digit that counts on.  A zero in front of a point counts, and
behind zeros a minus sign may stand. -/
def withoutZeros (s : List Char) : Option (List Char) :=
  match s with
  | '0' :: rest =>
    let isPassed := fun c => c == '0' || c == '_'
    let last := (s.takeWhile isPassed).getLast?
    match rest.dropWhile isPassed with
    | [] => last.map ([·])
    | '.' :: fraction => last.map (· :: '.' :: fraction)
    | c :: more => if isLeading c || c == '-' then some (c :: more) else none
  | c :: rest => if isLeading c then some (c :: rest) else none
  | [] => none

/-- A field's number without a point and the zeros behind it. -/
def withoutFraction (s : List Char) : Option (List Char) :=
  match s.dropWhile (· != '.') with
  | [] => some s
  | _ :: fraction =>
    if !fraction.isEmpty && fraction.all (· == '0') then some (s.takeWhile (· != '.')) else none

/-- The value of digits in a row: zero alone, or digits that do not begin with zero, at most as many
as a number may have. -/
def wholeNumber? (digits : List Char) : Option Nat := do
  let values ← digits.mapM asciiDigit?
  match values with
  | [] => none
  | first :: more =>
    if (first == 0 && !more.isEmpty) || maxDigits < values.length then none
    else some (positional 10 values)

/-- Reads the text of an integer field; `1.00` is one, `1.` and `1e3` are not numbers.  A number
that stands in front without a plus sign or a space and is too long is refused as such. -/
def ofField (s : List Char) : Except FieldError Int :=
  if maxDigits < leadingLength s then .error .tooLong
  else
    let (sign, body) := splitSign (trim isWhiteSpace s)
    let value : Option Int := do
      let body ← withoutFraction (← withoutZeros body)
      match ← separatedDigits body with
      | '-' :: digits => if sign < 0 then none else return -(← wholeNumber? digits : Nat)
      | digits => return sign * (← wholeNumber? digits : Nat)
    match value with
    | some n => .ok n
    | none => .error .unreadable

end Number
end JumpLint
