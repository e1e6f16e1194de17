import JumpLint.Moment
import JumpLint.Number.Integer

/-!
# What can be wrong with a YAML text

A text is *malformed* when it is not one document of the grammar, or cannot be taken as data: an
alias without an anchor, a tag nobody knows, a list as a key.  Apart from these stand scalars that
promise a value by their form or tag and do not keep the promise, such as the thirteenth month,
files whose bytes are no text, and collections in collections for which there is no room.

## What is here

* `Yaml.Error` and `Error.message`.
-/

set_option autoImplicit false
namespace JumpLint
namespace Yaml

/-- Why a YAML text gives no data. -/
inductive Error where
  | malformed
  | notUtf8
  | tooDeep
  | codePoint (code : Nat)
  | integer (error : Number.IntegerError)
  | float (text : Text)
  | tooLarge
  | noDigits
  | truthValue (text : Text)
  | noMoment
  | momentOfMapping
  | year (year : Nat)
  | month
  | day
  | hour
  | minute
  | second
  | offset (minutes : Int)
deriving Repr, DecidableEq

/-- The text of an error. -/
def Error.message : Error → Text
  | .malformed => .ofString "<yaml>"
  | .notUtf8 => .ofString "<unicode>"
  | .tooDeep => .ofString "maximum recursion depth exceeded"
  | .codePoint code =>
    .ofString
      (if code < Nat.pow 2 31 then "chr() arg not in range(0x110000)"
      else "Python int too large to convert to C int")
  | .integer error => .ofString error.message
  | .float text => .ofString ("could not convert string to float: " ++ Text.quoted text)
  | .tooLarge => .ofString "int too large to convert to float"
  | .noDigits => .ofString "string index out of range"
  | .truthValue text => text
  | .noMoment => .ofString "'NoneType' object has no attribute 'groupdict'"
  | .momentOfMapping => .ofString "expected string or bytes-like object, got 'list'"
  | .year y => .ofString ("year " ++ toString y ++ " is out of range")
  | .month => .ofString "month must be in 1..12"
  | .day => .ofString "day is out of range for month"
  | .hour => .ofString "hour must be in 0..23"
  | .minute => .ofString "minute must be in 0..59"
  | .second => .ofString "second must be in 0..59"
  | .offset minutes =>
    .ofString
      ("offset must be a timedelta strictly between -timedelta(hours=24) and " ++
        "timedelta(hours=24), not " ++ Moment.spanText minutes ++ ".")

end Yaml
end JumpLint
