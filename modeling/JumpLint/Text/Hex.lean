/-!
# Hexadecimal digits

## What is here

* `hexValue?`: the value of a digit, small or capital.
* `hexNumber?`: the number that digits stand for.
-/

set_option autoImplicit false
namespace JumpLint
namespace Text

/-- The value of a hexadecimal digit. -/
def hexValue? (c : Char) : Option Nat :=
  if '0' ≤ c ∧ c ≤ '9' then some (c.toNat - '0'.toNat)
  else if 'a' ≤ c ∧ c ≤ 'f' then some (c.toNat - 'a'.toNat + 10)
  else if 'A' ≤ c ∧ c ≤ 'F' then some (c.toNat - 'A'.toNat + 10)
  else none

/-- The number that hexadecimal digits stand for. -/
def hexNumber? (digits : List Char) : Option Nat :=
  (digits.mapM hexValue?).map (·.foldl (fun n d => n * 16 + d) 0)

end Text
end JumpLint
