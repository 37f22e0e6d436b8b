import TargetResolution.Decimal.Shortest

/-!
Written forms of floating-point numbers. The digits are the shortest ones; a `Layout` says when they
are written with an exponent and how the values that are no numbers are spelled.
-/

namespace TargetResolution.Decimal

/-- The decisions of a written form. -/
structure Layout where
  /-- The least decimal exponent that is written positionally. -/
  positionalFrom : Int
  /-- The first decimal exponent above that is not. -/
  positionalBelow : Int
  /-- Whether a single digit before an exponent is followed by a point and a zero. -/
  pointBeforeExponent : Bool
  infinity : String
  negativeInfinity : String
  notANumber : String

/-- The form of numbers in texts: positional from 10^-4 to below 10^16. -/
def Layout.plain : Layout where
  positionalFrom := -4
  positionalBelow := 16
  pointBeforeExponent := false
  infinity := "inf"
  negativeInfinity := "-inf"
  notANumber := "nan"

/-- The digits of an exponent, at least two, after its sign. -/
def exponentText (e : Int) : String :=
  let digits := toString e.natAbs
  (if e < 0 then "-" else "+") ++ (if digits.length < 2 then "0" ++ digits else digits)

/-- The digits of a decimal in a layout. -/
def Layout.digits (layout : Layout) (d : Digits) : String :=
  let digits := Nat.toDigits 10 d.value
  let leading : Int := d.exponent + digits.length - 1
  if layout.positionalFrom ≤ leading ∧ leading < layout.positionalBelow then
    if leading < 0 then
      String.ofList ('0' :: '.' :: List.replicate (-leading - 1).toNat '0' ++ digits)
    else
      let padded := digits ++ List.replicate d.exponent.toNat '0'
      let whole := padded.take (leading + 1).toNat
      let rest := padded.drop (leading + 1).toNat
      String.ofList (whole ++ '.' :: if rest.isEmpty then ['0'] else rest)
  else
    let fraction := digits.drop 1
    let point :=
      if fraction.isEmpty then if layout.pointBeforeExponent then ['.', '0'] else []
      else '.' :: fraction
    String.ofList (digits.take 1 ++ point) ++ "e" ++ exponentText leading

/-- The written form of a number. The sign of a zero is kept. -/
def Layout.text (layout : Layout) (x : Float) : String :=
  match Magnitude.ofFloat x with
  | .notANumber => layout.notANumber
  | .infinite false => layout.infinity
  | .infinite true => layout.negativeInfinity
  | .finite negative significand exponent =>
    (if negative then "-" else "") ++ layout.digits (shortest significand exponent)

end TargetResolution.Decimal
