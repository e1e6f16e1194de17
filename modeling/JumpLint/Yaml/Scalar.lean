import JumpLint.Datum
import JumpLint.Number.Integer
import JumpLint.Text.Hex
import JumpLint.Text.Lower
import JumpLint.Yaml.Error

/-!
# Scalars with a type

A plain scalar has the type that its form asks for by the rules of YAML 1.1: truth values, null,
whole numbers in four bases and in base sixty, numbers with a point, dates and times.  A tag asks
for a type whatever the form; then the text may fail to be of it.

## What is here

* `coreTag`: the full name of a standard tag.
* `tagOfForm`: the tag that the form of a plain scalar asks for.
* `intOf`, `floatOf`, `boolOf`, `momentOf`, `bytesOf`: the values of texts of each type.
-/

set_option autoImplicit false
namespace JumpLint
namespace Yaml
namespace Scalar

/-- The full name of a tag of the standard's own. -/
def coreTag (name : String) : String := "tag:yaml.org,2002:" ++ name

/-! ## Forms -/

/-- The words that stand for truth values. -/
def truthWords : List (String × Bool) :=
  [("yes", true), ("no", false), ("true", true), ("false", false), ("on", true), ("off", false)]

/-- A word in small letters, in capitals, or with a capital in front. -/
def isCased (word s : List Char) : Bool :=
  s == word || s == word.map Char.toUpper ||
    s == (word.take 1).map Char.toUpper ++ word.drop 1

/-- The forms of truth values. -/
def isTruthForm (s : List Char) : Bool := truthWords.any fun (w, _) => isCased w.toList s

/-- The forms of null: nothing, a tilde or the word. -/
def isNullForm (s : List Char) : Bool :=
  s.isEmpty || s == ['~'] || isCased ['n', 'u', 'l', 'l'] s

/-- Without a sign in front. -/
def unsigned (s : List Char) : List Char := (Number.splitSign s).2

/-- A digit or an underscore. -/
def isDigitPart (c : Char) : Bool := c.isDigit || c == '_'

/-- Digits and underscores that begin with a digit. -/
def isDigitRun : List Char → Bool
  | c :: rest => c.isDigit && rest.all isDigitPart
  | [] => false

/-- Splits at each occurrence of a mark. -/
def splitAt {α : Type} [BEq α] (mark : α) : List α → List (List α)
  | [] => [[]]
  | c :: rest =>
    if c == mark then [] :: splitAt mark rest
    else
      match splitAt mark rest with
      | [] => [[c]]
      | part :: more => (c :: part) :: more

/-- A place of a number in base sixty behind its first: one digit, or two that are below sixty. -/
def isSixtieth : List Char → Bool
  | [d] => d.isDigit
  | [t, d] => '0' ≤ t && t ≤ '5' && d.isDigit
  | _ => false

/-- The forms of whole numbers. -/
def isIntForm (s : List Char) : Bool :=
  match unsigned s with
  | ['0'] => true
  | '0' :: 'b' :: ds => !ds.isEmpty && ds.all fun c => c == '0' || c == '1' || c == '_'
  | '0' :: 'x' :: ds => !ds.isEmpty && ds.all fun c => (Text.hexValue? c).isSome || c == '_'
  | '0' :: ds => ds.all fun c => ('0' ≤ c && c ≤ '7') || c == '_'
  | body =>
    match splitAt ':' body with
    | [] => false
    | first :: places => isDigitRun first && places.all isSixtieth

/-- An exponent with its sign, or nothing. -/
def isExponentForm : List Char → Bool
  | [] => true
  | e :: sign :: ds =>
    (e == 'e' || e == 'E') && (sign == '+' || sign == '-') && !ds.isEmpty && ds.all Char.isDigit
  | _ => false

/-- What may stand behind the point: digits and underscores, then an exponent. -/
def isFractionForm (s : List Char) : Bool := isExponentForm (s.dropWhile isDigitPart)

/-- The forms of numbers with a point. -/
def isFloatForm (s : List Char) : Bool :=
  let body := unsigned s
  match body with
  | '.' :: rest =>
    isCased ['i', 'n', 'f'] rest ||
      (body == s &&
        (rest == ['n', 'a', 'n'] || rest == ['N', 'a', 'N'] || rest == ['N', 'A', 'N'] ||
          ((rest.headD ' ').isDigit && isFractionForm rest)))
  | _ =>
    match splitAt '.' body with
    | [whole, fraction] =>
      match splitAt ':' whole with
      | [run] => isDigitRun run && isFractionForm fraction
      | run :: places => isDigitRun run && places.all isSixtieth && fraction.all isDigitPart
      | [] => false
    | _ => false

/-- The numbers of a date, and of the time and the offset behind it, as they are written. -/
structure Written where
  year : Nat
  month : Nat
  day : Nat
  time : Option (Nat × Nat × Nat × List Char)
  zone : Option (Option (Bool × Nat × Nat))

/-- The number that ASCII digits stand for. -/
def numberOf (ds : List Char) : Nat := Number.positional 10 (ds.filterMap Number.asciiDigit?)

/-- At most `most` digits in front, at least `least`, and the rest. -/
def takeDigits (least most : Nat) (s : List Char) : Option (Nat × List Char) :=
  let ds := (s.take most).takeWhile Char.isDigit
  if ds.length < least then none else some (numberOf ds, s.drop ds.length)

/-- A character that must stand in front. -/
def expect (c : Char) : List Char → Option (List Char)
  | d :: rest => if d == c then some rest else none
  | [] => none

/-- A blank between the parts of a time. -/
def isGap (c : Char) : Bool := c == ' ' || c == '\t'

/-- The offset at the end of a time: none, `Z`, or a sign with hours and perhaps minutes. -/
def zoneOf (s : List Char) : Option (Option (Option (Bool × Nat × Nat))) :=
  if s.isEmpty then some none
  else
    match s.dropWhile isGap with
    | ['Z'] => some (some none)
    | sign :: rest =>
      if sign == '+' || sign == '-' then do
        let (hours, rest) ← takeDigits 1 2 rest
        if rest.isEmpty then some (some (some (sign == '-', hours, 0)))
        else
          let (minutes, rest) ← takeDigits 2 2 (← expect ':' rest)
          if rest.isEmpty then some (some (some (sign == '-', hours, minutes))) else none
      else none
    | [] => none

/-- The time behind a date, after its separator. -/
def timeOf (s : List Char) :
    Option ((Nat × Nat × Nat × List Char) × Option (Option (Bool × Nat × Nat))) := do
  let (hour, rest) ← takeDigits 1 2 s
  let (minute, rest) ← takeDigits 2 2 (← expect ':' rest)
  let (second, rest) ← takeDigits 2 2 (← expect ':' rest)
  match rest with
  | '.' :: rest =>
    let zone ← zoneOf (rest.dropWhile Char.isDigit)
    some ((hour, minute, second, rest.takeWhile Char.isDigit), zone)
  | rest =>
    let zone ← zoneOf rest
    some ((hour, minute, second, []), zone)

/-- The separator between date and time: a letter T, or blanks. -/
def timeStart? : List Char → Option (List Char)
  | c :: rest =>
    if c == 'T' || c == 't' then some rest
    else if isGap c then some (rest.dropWhile isGap)
    else none
  | [] => none

/-- The numbers of a date or of a date with a time. -/
def written? (s : List Char) : Option Written := do
  let (year, rest) ← takeDigits 4 4 s
  let (month, rest) ← takeDigits 1 2 (← expect '-' rest)
  let (day, rest) ← takeDigits 1 2 (← expect '-' rest)
  if rest.isEmpty then some ⟨year, month, day, none, none⟩
  else
    let (time, zone) ← timeOf (← timeStart? rest)
    some ⟨year, month, day, some time, zone⟩

/-- The forms of dates and times; a date alone has two digits for month and day. -/
def isMomentForm (s : List Char) : Bool :=
  match written? s with
  | none => false
  | some m => m.time.isSome || s.length == 10

/-- Without one line feed at the end, which a form does not see. -/
def withoutLineEnd (s : List Char) : List Char :=
  match s.reverse with
  | '\n' :: rest => rest.reverse
  | _ => s

/-- The tag that the form of characters asks for. -/
def tagOfChars (s : List Char) : String :=
  let form := withoutLineEnd s
  if s.isEmpty then coreTag "null"
  else if form.isEmpty then coreTag "str"
  else if isTruthForm form then coreTag "bool"
  else if isFloatForm form then coreTag "float"
  else if isIntForm form then coreTag "int"
  else if form == ['<', '<'] then coreTag "merge"
  else if isNullForm form then coreTag "null"
  else if isMomentForm form then coreTag "timestamp"
  else if form == ['='] then coreTag "value"
  else coreTag "str"

/-- The tag that the form of a scalar asks for. -/
def tagOfForm (t : Text) : String := (t.chars?.map tagOfChars).getD (coreTag "str")

/-! ## Values -/

/-- Without underscores. -/
def bare (t : Text) : Text := t.filter fun p => !p.is '_'

/-- The sign in front of a text, and what follows. -/
def splitSign : Text → Int × Text
  | .char '-' :: rest => (-1, rest)
  | .char '+' :: rest => (1, rest)
  | t => (1, t)

/-- A whole number that is part of a text. -/
def intPart (base : Nat) (t : Text) : Except Error Int :=
  (Number.ofNumeral base t).mapError .integer

/-- The whole number that a text stands for. -/
def intOf (t : Text) : Except Error Int := do
  let t := bare t
  if t.isEmpty then .error .noDigits
  else
    let (sign, body) := splitSign t
    match body with
    | [.char '0'] => .ok 0
    | .char '0' :: .char 'b' :: ds => return sign * (← intPart 2 ds)
    | .char '0' :: .char 'x' :: ds => return sign * (← intPart 16 ds)
    | .char '0' :: _ => return sign * (← intPart 8 body)
    | [] => .error .noDigits
    | _ =>
      let places ← (splitAt (.char ':') body).mapM (intPart 10)
      return sign * places.foldl (fun n d => n * 60 + d) 0

/-- Digits of any script as the number they stand for, or nothing if another character is there. -/
def decimals? (s : List Char) : Option (List Nat) := s.mapM Text.decimalValue?

/-- A number with or without a point and an exponent. -/
def decimal? (s : List Char) : Option Binary64 := do
  let (sign, body) := Number.splitSign s
  let isMark := fun c => c == 'e' || c == 'E'
  let mantissa := body.takeWhile fun c => !isMark c
  let whole := mantissa.takeWhile (· != '.')
  let fraction := (mantissa.dropWhile (· != '.')).drop 1
  let wholeDigits ← decimals? whole
  let fractionDigits ← decimals? fraction
  if whole.isEmpty && fraction.isEmpty then none
  else
    let exponent ←
      match body.dropWhile fun c => !isMark c with
      | [] => some (0 : Int)
      | _ :: e =>
        let (expSign, ds) := Number.splitSign e
        if ds.isEmpty then none
        else (decimals? ds).map fun ds => expSign * (Number.positional 10 ds : Nat)
    some (.ofDecimal (sign < 0) (Number.positional 10 (wholeDigits ++ fractionDigits))
      (exponent - fraction.length))

/-- A number, an infinity or `nan`. -/
def real? (s : List Char) : Option Binary64 :=
  let (sign, word) := Number.splitSign s
  let word := String.ofList (word.map Char.toLower)
  if word == "inf" || word == "infinity" then some (.infinity (sign < 0))
  else if word == "nan" then some .nan
  else decimal? s

/-- A number, an infinity or `nan`, with white space around it. -/
def floatPart (t : Text) : Except Error Binary64 :=
  match (Text.trimSpace t).chars?.bind real? with
  | some x => .ok x
  | none => .error (.float t)

/-- Adds the places of a number in base sixty, the last place first. -/
def sumPlaces (sum : Binary64) (base : Nat) : List Binary64 → Except Error Binary64
  | [] => .ok sum
  | place :: more =>
    match place.scale? base with
    | some x => sumPlaces (sum.add x) (base * 60) more
    | none => .error .tooLarge

/-- The word for the one value that is no number. -/
def nanWord : Text := .ofString ".nan"

/-- Whether a text stands for the one value that is no number, and is not computed. -/
def isNanWord (t : Text) : Bool := (splitSign (Text.lower (bare t))).2 == nanWord

/-- The number that a text stands for; in base sixty the last place may have a fraction. -/
def floatOf (t : Text) : Except Error Binary64 := do
  let t := Text.lower (bare t)
  if t.isEmpty then .error .noDigits
  else
    let (sign, body) := splitSign t
    let signed := fun (x : Binary64) => if sign < 0 then x.neg else x
    if body == .ofString ".inf" then .ok (signed (.infinity false))
    else if body == nanWord then .ok .nan
    else if body.contains (.char ':') then
      let places ← (splitAt (.char ':') body).mapM floatPart
      return signed (← sumPlaces (.finite false 0 Binary64.minExponent) 1 places.reverse)
    else return signed (← floatPart body)

/-- The truth value that a word stands for. -/
def boolOf (t : Text) : Except Error Bool :=
  let word := Text.lower t
  match truthWords.find? fun (w, _) => word == .ofString w with
  | some (_, b) => .ok b
  | none => .error (.truthValue word)

/-! ## Dates and times -/

/-- Checks a date. -/
def checkDate (w : Written) : Except Error Unit :=
  if w.year == 0 then .error (.year w.year)
  else if w.month == 0 || 12 < w.month then .error .month
  else if w.day == 0 || daysIn w.year w.month < w.day then .error .day
  else .ok ()

/-- Checks a time. -/
def checkTime (hour minute second : Nat) : Except Error Unit :=
  if 23 < hour then .error .hour
  else if 59 < minute then .error .minute
  else if 59 < second then .error .second
  else .ok ()

/-- The minutes of an offset from universal time, which is shorter than a day. -/
def offsetOf (zone : Option (Bool × Nat × Nat)) : Except Error Int :=
  match zone with
  | none => .ok 0
  | some (negative, hours, minutes) =>
    let span : Int := hours * 60 + minutes
    let span := if negative then -span else span
    if 1440 ≤ span.natAbs then .error (.offset span) else .ok span

/-- The date or time that a text stands for; it must be one of the calendar and the clock. -/
def momentOf (t : Text) : Except Error Moment := do
  match t.chars?.bind fun s => written? (withoutLineEnd s) with
  | none => .error .noMoment
  | some w =>
    match w.time with
    | none =>
      checkDate w
      .ok ⟨w.year, w.month, w.day, none, none⟩
    | some (hour, minute, second, fraction) =>
      let offset ← w.zone.mapM offsetOf
      checkDate w
      checkTime hour minute second
      let micro := numberOf ((fraction ++ List.replicate 6 '0').take 6)
      .ok ⟨w.year, w.month, w.day, some ⟨hour, minute, second, micro⟩, offset⟩

/-! ## Bytes -/

/-- The six bits of a character of base 64. -/
def sixBits? (c : Char) : Option Nat :=
  if 'A' ≤ c ∧ c ≤ 'Z' then some (c.toNat - 'A'.toNat)
  else if 'a' ≤ c ∧ c ≤ 'z' then some (c.toNat - 'a'.toNat + 26)
  else if '0' ≤ c ∧ c ≤ '9' then some (c.toNat - '0'.toNat + 52)
  else if c == '+' then some 62
  else if c == '/' then some 63
  else none

/-- Base 64 from the middle of a group on: `filled` characters of the group are read, `left` are
their bits that are not yet a byte, `pads` counts the equals signs since.  Other characters are
passed over. -/
def bytesFrom (filled left pads : Nat) : List Char → Option (List UInt8)
  | [] => if filled == 0 then some [] else none
  | c :: rest =>
    if c == '=' then
      if 2 ≤ filled then
        if 4 ≤ filled + pads + 1 then some [] else bytesFrom filled left (pads + 1) rest
      else bytesFrom filled left pads rest
    else
      match sixBits? c with
      | none => bytesFrom filled left pads rest
      | some bits =>
        match filled with
        | 0 => bytesFrom 1 bits 0 rest
        | 1 => (bytesFrom 2 (bits % 16) 0 rest).map (UInt8.ofNat (left * 4 + bits / 16) :: ·)
        | 2 => (bytesFrom 3 (bits % 4) 0 rest).map (UInt8.ofNat (left * 16 + bits / 4) :: ·)
        | _ => (bytesFrom 0 0 0 rest).map (UInt8.ofNat (left * 64 + bits) :: ·)

/-- The bytes that a text in base 64 stands for. -/
def bytesOf (t : Text) : Except Error (List UInt8) :=
  match t.chars?.filter fun s => s.all fun c => c.toNat < 0x80 with
  | none => .error .malformed
  | some s =>
    match bytesFrom 0 0 0 s with
    | some bytes => .ok bytes
    | none => .error .malformed

end Scalar
end Yaml
end JumpLint
