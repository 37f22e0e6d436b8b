import TargetResolution.Decimal.Fraction
import TargetResolution.Text.CharClass
import TargetResolution.Text.Digits

/-!
Reading decimal numbers: whole numbers in a base, and floating-point numbers rounded to the nearest.
-/

namespace TargetResolution.Decimal

open Text

/-- The value of a letter or decimal digit in bases up to 36. -/
def baseDigit? (base : Nat) (c : Char) : Option Nat :=
  let value? :=
    match digitValue? c with
    | some v => some v
    | none =>
      if 'a' ≤ c ∧ c ≤ 'z' then some (c.toNat - 87)
      else if 'A' ≤ c ∧ c ≤ 'Z' then some (c.toNat - 55)
      else none
  value?.filter (· < base)

/-- A sign and what follows it. -/
def splitSign : List Char → Bool × List Char
  | '-' :: cs => (true, cs)
  | '+' :: cs => (false, cs)
  | cs => (false, cs)

/-- The number that digits in a base write. -/
def baseValue (base : Nat) (digits : List Char) : Nat :=
  digits.foldl (fun n c => base * n + (baseDigit? base c).getD 0) 0

/-- A sign put on a number. -/
def signed (negative : Bool) (n : Nat) : Int := if negative then -(n : Int) else n

/-- Why a text is no whole number. -/
inductive WholeFault where
  | shape
  | tooManyDigits (digits : Nat)
  deriving DecidableEq, Repr

/-- The text behind the mark of a base, `0x`, `0o` or `0b`, if the mark of this base is there. -/
def behindMark (base : Nat) : List Char → List Char
  | '0' :: m :: rest =>
    if (base = 16 ∧ (m = 'x' ∨ m = 'X')) ∨ (base = 8 ∧ (m = 'o' ∨ m = 'O'))
      ∨ (base = 2 ∧ (m = 'b' ∨ m = 'B')) then rest
    else '0' :: m :: rest
  | cs => cs

/-- A whole number in a base, after an optional sign and between blanks. Only in base ten is the
number of digits limited; the limit is looked at before anything behind the digits. -/
def whole (base : Nat) (text : List Char) : Except WholeFault Int :=
  let (negative, cs) := splitSign (text.dropWhile isNumberBlank)
  let body := behindMark base cs
  let digits := body.takeWhile fun c => (baseDigit? base c).isSome
  if base = 10 ∧ digitLimit < digits.length then .error (.tooManyDigits digits.length)
  else if digits.isEmpty || !(body.drop digits.length).all isNumberBlank then .error .shape
  else .ok (signed negative (baseValue base digits))

/-- The digits, and what follows them. -/
def spanDigits (cs : List Char) : List Char × List Char :=
  cs.span isDecimalDigit

/-- The exponent after a mantissa: a mark, an optional sign and digits, or nothing. -/
def exponent? : List Char → Option Int
  | [] => some 0
  | c :: cs =>
    if c = 'e' ∨ c = 'E' then
      let (negative, digits) := splitSign cs
      if digits.isEmpty then none
      else if digits.all isDecimalDigit then some (signed negative (decimalValue digits))
      else none
    else none

/-- An unsigned floating-point number. -/
def unsigned? (cs : List Char) : Option Float :=
  let small := cs.map Char.toLower
  if small = "inf".toList ∨ small = "infinity".toList then some (1.0 / 0.0)
  else if small = "nan".toList then some (0.0 / 0.0)
  else
    let (whole, rest) := spanDigits cs
    let (fraction, rest) :=
      match rest with
      | '.' :: more => spanDigits more
      | _ => ([], rest)
    if whole.isEmpty && fraction.isEmpty then none
    else
      (exponent? rest).map fun exponent =>
        toFloat (decimalValue (whole ++ fraction)) (exponent - fraction.length)

/-- A floating-point number between blanks, with an optional sign. -/
def float? (text : List Char) : Option Float :=
  let (negative, cs) := splitSign (trim isNumberBlank text)
  (unsigned? cs).map fun x => if negative then -x else x

end TargetResolution.Decimal
