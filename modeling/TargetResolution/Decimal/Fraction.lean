import TargetResolution.Decimal.Shortest

/-!
Numbers as fractions. Whole and floating-point numbers are compared with each other as exact
fractions in lowest terms. The floating-point number nearest to a fraction is found in whole
numbers: the quotient is taken on the grid of the numbers around the fraction and rounded there; a
tie goes to the even neighbour.
-/

namespace TargetResolution.Decimal

/-! ### Exact values -/

/-- A number as a fraction in lowest terms, an infinite one, or none at all. -/
inductive Exact where
  | notANumber
  | infinite (negative : Bool)
  | finite (numerator : Int) (denominator : Nat)
  deriving DecidableEq, Repr

/-- A whole number. -/
def Exact.ofInt (n : Int) : Exact := .finite n 1

/-- A floating-point number. -/
def Exact.ofFloat (x : Float) : Exact :=
  match Magnitude.ofFloat x with
  | .notANumber => .notANumber
  | .infinite negative => .infinite negative
  | .finite negative significand exponent =>
    let numerator := significand * twoTo exponent.toNat
    let denominator := twoTo (-exponent).toNat
    let common := Nat.gcd numerator denominator
    let size : Int := (numerator / common : Nat)
    .finite (if negative then -size else size) (denominator / common)

/-- Whether one number is less than another. No number is neither less nor greater. -/
def Exact.lt : Exact → Exact → Bool
  | .notANumber, _ => false
  | _, .notANumber => false
  | .infinite a, .infinite b => a && !b
  | .infinite a, .finite _ _ => a
  | .finite _ _, .infinite b => !b
  | .finite n d, .finite m e => decide (n * e < m * d)

/-! ### Nearest numbers -/

/-- The nearest whole number to a fraction, of two the even one. -/
def roundHalfEven (numerator denominator : Nat) : Nat :=
  let quotient := numerator / denominator
  let twice := 2 * (numerator % denominator)
  if twice < denominator then quotient
  else if denominator < twice then quotient + 1
  else quotient + quotient % 2

/-- The greatest power of two that is not above a positive fraction. -/
def binaryOrder (numerator denominator : Nat) : Int :=
  let k : Int := (Nat.log2 numerator : Int) - (Nat.log2 denominator : Int)
  if denominator * twoTo k.toNat ≤ numerator * twoTo (-k).toNat then k else k - 1

/-- The bits of infinity. -/
def infinityBits : Nat := 0x7FF0000000000000

/-- The bits of the number nearest to a positive fraction. The grid has 53 binary digits, and none
is finer than that of the least number; the implicit leading digit adds one to the exponent. -/
def nearestBits (numerator denominator : Nat) : Nat :=
  let grid := max (binaryOrder numerator denominator - 52) (-1074)
  let count := roundHalfEven (numerator * twoTo (-grid).toNat) (denominator * twoTo grid.toNat)
  min infinityBits ((grid + 1074).toNat * twoTo 52 + count)

/-- The number nearest to a fraction that is not negative. Beyond the range it is infinite. -/
def nearest (numerator denominator : Nat) : Float :=
  if numerator = 0 then 0.0 else Float.ofBits (nearestBits numerator denominator).toUInt64

/-- The number `value · 10 ^ exponent`, rounded to nearest; beyond the range it is infinite or
zero. -/
def toFloat (value : Nat) (exponent : Int) : Float :=
  let size : Int := (Nat.toDigits 10 value).length + exponent
  if value = 0 then 0.0
  else if size > 400 then Float.ofBits infinityBits.toUInt64
  else if size < -400 then 0.0
  else nearest (value * tenTo exponent.toNat) (tenTo (-exponent).toNat)

end TargetResolution.Decimal
