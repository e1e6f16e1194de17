import JumpLint.Number.Binary64

/-!
# The shortest decimal text of a floating-point value

A finite value is written with the fewest digits from which it is read back, and of those with the
digits nearest to it.

## What is here

* `Shortest.digits`: those digits and the power of ten of the first one.  The value's two neighbours
  on each decimal grid, from one digit upward, are compared in whole numbers with the ends of the
  interval that rounds to the value; the ends count when the mantissa is even.
* `Shortest.text`: the digits with a point where the power of ten lies from -5 to 15, with an
  exponent of at least two digits outside.
-/

set_option autoImplicit false
namespace JumpLint
namespace Shortest

/-- The values that round to `m * 2 ^ e`, in units of `2 ^ (e - 2)`: lowest, the value, highest. -/
def interval (m : Nat) (e : Int) : Nat × Nat × Nat :=
  let below := if m == Nat.pow 2 52 && Binary64.minExponent < e then 1 else 2
  (4 * m - below, 4 * m, 4 * m + 2)

/-- `n * 2 ^ e * 10 ^ (-t)` as a fraction. -/
def ratio (n : Nat) (e t : Int) : Nat × Nat :=
  (n * Nat.pow 2 e.toNat * Nat.pow 10 (-t).toNat, Nat.pow 2 (-e).toNat * Nat.pow 10 t.toNat)

/-- The multiples of `10 ^ t` next to the value that lie in its interval, the nearer one; of two
equally near, the even one. -/
def onGrid? (m : Nat) (e t : Int) : Option Nat :=
  let (low, value, high) := interval m e
  let unit := e - 2
  let (lowNum, den) := ratio low unit t
  let (valueNum, _) := ratio value unit t
  let (highNum, _) := ratio high unit t
  let inside := fun (k : Nat) =>
    if m % 2 == 0 then lowNum ≤ k * den && k * den ≤ highNum
    else lowNum < k * den && k * den < highNum
  let floor := valueNum / den
  let rest := valueNum % den
  let nearest :=
    if 2 * rest < den then floor
    else if den < 2 * rest then floor + 1
    else if floor % 2 == 0 then floor else floor + 1
  let other := if nearest == floor then floor + 1 else floor
  if inside nearest then some nearest
  else if inside other then some other
  else none

/-- The power of ten just above `m * 2 ^ e`, searched from a guess that is never too high. -/
def magnitudeFrom (m : Nat) (e : Int) : Nat → Int → Int
  | 0, t => t
  | fuel + 1, t =>
    let (num, den) := ratio m e t
    if num < den then t else magnitudeFrom m e fuel (t + 1)

/-- The least `t` with `m * 2 ^ e < 10 ^ t`. -/
def magnitude (m : Nat) (e : Int) : Int :=
  magnitudeFrom m e 400 (((Nat.log2 m : Int) + e) * 30102 / 100000 - 1)

/-- Tries the grids of `width`, `width + 1`, … digits below `10 ^ top`. -/
def digitsFrom (m : Nat) (e top : Int) : Nat → Int → Nat × Int
  | 0, width => (0, top - width)
  | fuel + 1, width =>
    match onGrid? m e (top - width) with
    | some k => (k, top - width)
    | none => digitsFrom m e top fuel (width + 1)

/-- The fewest decimal digits that read back as `m * 2 ^ e`, and their power of ten.  Seventeen
digits are always enough. -/
def digits (m : Nat) (e : Int) : Nat × Int :=
  digitsFrom m e (magnitude m e) 17 1

/-! ## Text -/

/-- Removes zeros at the end of the digits. -/
def dropZeros (s : List Char) : List Char := (s.reverse.dropWhile (· == '0')).reverse

/-- The exponent after the letter `e`: a sign and at least two digits. -/
def exponentText (n : Int) : List Char :=
  let ds := (toString n.natAbs).toList
  (if n < 0 then '-' else '+') :: (if ds.length < 2 then '0' :: ds else ds)

/-- The digits `ds` with the point after the first `point` of them. -/
def layout (ds : List Char) (point : Int) : List Char :=
  if point ≤ -4 ∨ 16 < point then
    match ds with
    | [] => []
    | [d] => d :: 'e' :: exponentText (point - 1)
    | d :: more => d :: '.' :: more ++ 'e' :: exponentText (point - 1)
  else if point ≤ 0 then
    '0' :: '.' :: List.replicate (-point).toNat '0' ++ ds
  else
    let whole := ds.take point.toNat
    let fraction := ds.drop point.toNat
    whole ++ List.replicate (point.toNat - whole.length) '0' ++
      '.' :: (if fraction.isEmpty then ['0'] else fraction)

/-- The text of a value: `inf`, `-inf`, `nan`, or the shortest digits that read back. -/
def text : Binary64 → String
  | .nan => "nan"
  | .infinity negative => if negative then "-inf" else "inf"
  | .finite negative m e =>
    let body :=
      if m == 0 then ['0', '.', '0']
      else
        let (k, t) := digits m e
        let ds := (toString k).toList
        layout (dropZeros ds) (t + ds.length)
    String.ofList (if negative then '-' :: body else body)

end Shortest
end JumpLint
