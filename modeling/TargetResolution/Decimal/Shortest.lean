/-!
The shortest decimal of a binary floating-point number: the fewest digits that read back as the
number, and among those the nearest. The search is exact: a finite number is `significand · 2 ^
exponent`, the reals that round to it form an interval, and a decimal grid is tested at the two
neighbours of the number.
-/

namespace TargetResolution.Decimal

/-- What the bits of a floating-point number stand for. -/
inductive Magnitude where
  | notANumber
  | infinite (negative : Bool)
  | finite (negative : Bool) (significand : Nat) (exponent : Int)
  deriving DecidableEq, Repr

/-- A power of two. -/
def twoTo (n : Nat) : Nat := Nat.pow 2 n

/-- A power of ten. -/
def tenTo (n : Nat) : Nat := Nat.pow 10 n

/-- The meaning of a floating-point number, read off its bits. -/
def Magnitude.ofFloat (x : Float) : Magnitude :=
  let bits : Nat := x.toBits.toNat
  let negative := decide (twoTo 63 ≤ bits)
  let biased : Nat := bits / twoTo 52 % twoTo 11
  let fraction : Nat := bits % twoTo 52
  if biased = 2047 then if fraction = 0 then .infinite negative else .notANumber
  else if biased = 0 then .finite negative fraction (-1074)
  else .finite negative (twoTo 52 + fraction) ((biased : Int) - 1075)

/-- A decimal: its digits as a number, and the power of ten that they are counts of. -/
structure Digits where
  value : Nat
  exponent : Int
  deriving DecidableEq, Repr

/-- Four times the significand and the ends of the interval that rounds to it, on one scale. -/
structure Interval where
  low : Nat
  middle : Nat
  high : Nat
  /-- Whether the ends belong to the interval. -/
  closed : Bool

/-- The interval of a significand and its exponent. Below a power of two the spacing is halved. -/
def Interval.of (significand : Nat) (exponent : Int) : Interval where
  low := 4 * significand - if significand = twoTo 52 ∧ exponent > -1074 then 1 else 2
  middle := 4 * significand
  high := 4 * significand + 2
  closed := significand % 2 == 0

/-- The factors that bring counts of `2 ^ binary` and counts of `10 ^ decimal` to whole numbers. -/
def scales (binary decimal : Int) : Nat × Nat :=
  (twoTo binary.toNat * tenTo (-decimal).toNat, tenTo decimal.toNat * twoTo (-binary).toNat)

/-- Whether a grid point reads back: it lies in the interval. -/
def Interval.holds (i : Interval) (scale : Nat × Nat) (point : Nat) : Bool :=
  if i.closed then decide (i.low * scale.1 ≤ point * scale.2 ∧ point * scale.2 ≤ i.high * scale.1)
  else decide (i.low * scale.1 < point * scale.2 ∧ point * scale.2 < i.high * scale.1)

/-- The grid point next to the number that reads back, if one of its two neighbours does. Of two at
one distance the even one is taken. -/
def Interval.nearest? (i : Interval) (binary decimal : Int) : Option Nat :=
  let scale := scales binary decimal
  let below := i.middle * scale.1 / scale.2
  match i.holds scale below, i.holds scale (below + 1) with
  | true, true =>
    let down := i.middle * scale.1 - below * scale.2
    let up := (below + 1) * scale.2 - i.middle * scale.1
    if down < up then some below
    else if up < down then some (below + 1)
    else if below % 2 = 0 then some below else some (below + 1)
  | true, false => some below
  | false, true => some (below + 1)
  | false, false => none

/-- The number of digits before the decimal point of `significand · 2 ^ exponent`; zero or less when
the first digit that counts stands behind the point. -/
def wholeDigits (significand : Nat) (exponent : Int) : Int :=
  let numerator := significand * twoTo exponent.toNat
  let denominator := twoTo (-exponent).toNat
  if denominator ≤ numerator then (Nat.toDigits 10 (numerator / denominator)).length
  else
    let places := (Nat.toDigits 10 (denominator / numerator)).length
    if denominator ≤ numerator * tenTo (places - 1) then 2 - (places : Int) else 1 - (places : Int)

/-- The decimal without zeros at its end. -/
def Digits.trimmed : Nat → Digits → Digits
  | 0, d => d
  | n + 1, d =>
    if d.value % 10 = 0 ∧ d.value ≠ 0 then trimmed n ⟨d.value / 10, d.exponent + 1⟩ else d

/-- The shortest decimal that reads back as a positive number. Seventeen digits always do. -/
def shortest (significand : Nat) (exponent : Int) : Digits :=
  if significand = 0 then ⟨0, 0⟩
  else
    let interval := Interval.of significand exponent
    let whole := wholeDigits significand exponent
    let grids := (List.range 18).map fun n => whole - (n + 1 : Nat)
    let found := grids.findSome? fun e =>
      (interval.nearest? (exponent - 2) e).map fun value => (⟨value, e⟩ : Digits)
    ((found.getD ⟨significand, 0⟩).trimmed 20)

end TargetResolution.Decimal
