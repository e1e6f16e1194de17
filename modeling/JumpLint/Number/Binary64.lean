/-!
# Binary floating point, exactly

A number of the 64-bit binary format is kept as what it is: a sign, a whole number below `2 ^ 53`
and a power of two.  Everything is computed with whole numbers and rounded once, to the nearest
number of the format and to the even one of two that are equally near.

## What is here

* `Binary64`: infinities, the one `nan`, and finite values `± mantissa * 2 ^ exponent`.
* `ofRatio`, `ofDecimal`: rounding of a fraction and of a decimal number.
* `toInt?`: the whole number that a value is, if it is one.
* `add`, `mul`, `scale?`: a sum, a product, and a product with a whole number.
-/

set_option autoImplicit false
namespace JumpLint

/-- A value of the 64-bit binary floating-point format. -/
inductive Binary64 where
  | nan
  | infinity (negative : Bool)
  | finite (negative : Bool) (mantissa : Nat) (exponent : Int)
deriving Repr, DecidableEq

namespace Binary64

/-- The least exponent of the format. -/
def minExponent : Int := -1074

/-- The greatest exponent of the format. -/
def maxExponent : Int := 971

/-- The exact quotient `n / (d * 2 ^ e)` as a fraction. -/
def unscaled (n d : Nat) (e : Int) : Nat × Nat :=
  if e < 0 then (n * Nat.pow 2 (-e).toNat, d) else (n, d * Nat.pow 2 e.toNat)

/-- The whole number nearest to `n / d`, the even one of two. -/
def roundHalfEven (n d : Nat) : Nat :=
  let q := n / d
  let r := n % d
  if 2 * r < d then q
  else if d < 2 * r then q + 1
  else if q % 2 == 0 then q else q + 1

/-- The exponent at which `n / d` has 53 binary digits before the point, or the least one. -/
def exponentFor (n d : Nat) : Int :=
  let guess := max ((Nat.log2 n : Int) - (Nat.log2 d : Int) - 53) minExponent
  let (p, q) := unscaled n d guess
  if Nat.pow 2 53 ≤ p / q then guess + 1 else guess

/-- The value nearest to `± n / d`, for `d` not zero. -/
def ofRatio (negative : Bool) (n d : Nat) : Binary64 :=
  if n == 0 then .finite negative 0 minExponent
  else
    let e := exponentFor n d
    let (p, q) := unscaled n d e
    let m := roundHalfEven p q
    let (m, e) := if m == Nat.pow 2 53 then (Nat.pow 2 52, e + 1) else (m, e)
    if maxExponent < e then .infinity negative else .finite negative m e

/-- The value nearest to `± digits * 10 ^ exponent`; numbers far outside the format are told by
their size alone. -/
def ofDecimal (negative : Bool) (digits : Nat) (exponent : Int) : Binary64 :=
  if digits == 0 then .finite negative 0 minExponent
  else
    let size := (Nat.log2 digits : Int) * 30103 / 100000 + exponent
    if 320 < size then .infinity negative
    else if size < -340 then .finite negative 0 minExponent
    else if exponent < 0 then ofRatio negative digits (Nat.pow 10 (-exponent).toNat)
    else ofRatio negative (digits * Nat.pow 10 exponent.toNat) 1

/-- The whole number that a value is. -/
def toInt? : Binary64 → Option Int
  | .finite negative m e =>
    let signed := fun (n : Nat) => if negative then -(n : Int) else (n : Int)
    if 0 ≤ e then some (signed (m * Nat.pow 2 e.toNat))
    else
      let unit := Nat.pow 2 (-e).toNat
      if m % unit == 0 then some (signed (m / unit)) else none
  | _ => none

/-- Infinities and `nan` are the values that are not finite. -/
def isFinite : Binary64 → Bool
  | .finite .. => true
  | _ => false

/-- Changes the sign. -/
def neg : Binary64 → Binary64
  | .nan => .nan
  | .infinity s => .infinity !s
  | .finite s m e => .finite (!s) m e

/-- The exact value of a finite number as `numerator / 2 ^ k`. -/
def numerator (k : Nat) (negative : Bool) (m : Nat) (e : Int) : Int :=
  let n : Int := (m * Nat.pow 2 (e + k).toNat : Nat)
  if negative then -n else n

/-- The sum, rounded. -/
def add : Binary64 → Binary64 → Binary64
  | .nan, _ | _, .nan => .nan
  | .infinity s, .infinity t => if s == t then .infinity s else .nan
  | .infinity s, _ | _, .infinity s => .infinity s
  | .finite s m e, .finite t l f =>
    let k := minExponent.natAbs
    let sum := numerator k s m e + numerator k t l f
    if sum == 0 then .finite (s && t) 0 minExponent
    else ofRatio (decide (sum < 0)) sum.natAbs (Nat.pow 2 k)

/-- The product of two values, rounded. -/
def mul : Binary64 → Binary64 → Binary64
  | .nan, _ | _, .nan => .nan
  | .infinity s, .infinity t => .infinity (s != t)
  | .infinity s, .finite t m _ | .finite s m _, .infinity t =>
    if m == 0 then .nan else .infinity (s != t)
  | .finite s m e, .finite t l f =>
    let k := 2 * minExponent.natAbs
    ofRatio (s != t) (m * l * Nat.pow 2 (e + f + k).toNat) (Nat.pow 2 k)

/-- The value nearest to a whole number, unless that lies beyond the format. -/
def ofNat? (n : Nat) : Option Binary64 :=
  match ofRatio false n 1 with
  | .finite s m e => some (.finite s m e)
  | _ => none

/-- The product with a whole number that is itself rounded first, unless that lies beyond the
format. -/
def scale? (x : Binary64) (n : Nat) : Option Binary64 := (ofNat? n).map x.mul

end Binary64
end JumpLint
