/-!
Digits. Those of the decimal system come from all scripts: the digits of a script stand in ten
consecutive code points, from its zero on, so a list of zeros describes them all. Hexadecimal digits
write code points at a fixed least width, and in base 64 four letters stand for three octets.
-/

namespace TargetResolution.Text

/-! ### Decimal digits -/

/-- The code points of the zeros of all scripts. -/
def digitZeros : List Nat :=
  [
    0x30, 0x660, 0x6F0, 0x7C0, 0x966, 0x9E6, 0xA66, 0xAE6, 0xB66, 0xBE6, 0xC66, 0xCE6, 0xD66,
    0xDE6, 0xE50, 0xED0, 0xF20, 0x1040, 0x1090, 0x17E0, 0x1810, 0x1946, 0x19D0, 0x1A80, 0x1A90,
    0x1B50, 0x1BB0, 0x1C40, 0x1C50, 0xA620, 0xA8D0, 0xA900, 0xA9D0, 0xA9F0, 0xAA50, 0xABF0, 0xFF10,
    0x104A0, 0x10D30, 0x11066, 0x110F0, 0x11136, 0x111D0, 0x112F0, 0x11450, 0x114D0, 0x11650,
    0x116C0, 0x11730, 0x118E0, 0x11950, 0x11C50, 0x11D50, 0x11DA0, 0x16A60, 0x16AC0, 0x16B50,
    0x1D7CE, 0x1D7D8, 0x1D7E2, 0x1D7EC, 0x1D7F6, 0x1E140, 0x1E2F0, 0x1E950, 0x1FBF0]

/-- The value of a decimal digit of any script. -/
def digitValue? (c : Char) : Option Nat :=
  (digitZeros.find? fun z => decide (z ≤ c.toNat) && decide (c.toNat < z + 10)).map
    fun z => c.toNat - z

/-- Whether a character is a decimal digit of some script. -/
def isDecimalDigit (c : Char) : Bool := (digitValue? c).isSome

/-- The number that a run of decimal digits writes. Characters that are no digits count as zero. -/
def decimalValue (cs : List Char) : Nat :=
  cs.foldl (fun n c => 10 * n + (digitValue? c).getD 0) 0

/-- The most digits that a decimal number may have. -/
def digitLimit : Nat := 4300

/-- The wording for a number with too many digits. -/
def tooManyDigitsMessage (digits : Nat) : String :=
  s!"Exceeds the limit ({digitLimit} digits) for integer string conversion: value has {digits}"
    ++ " digits; use sys.set_int_max_str_digits() to increase the limit"

/-- The wording for a whole number that has too many digits to be written. -/
def integerTooLongMessage : String :=
  s!"Exceeds the limit ({digitLimit} digits) for integer string conversion;"
    ++ " use sys.set_int_max_str_digits() to increase the limit"

/-- A digit stands for a number below ten. -/
theorem digitValue?_lt {c : Char} {n : Nat} (h : digitValue? c = some n) : n < 10 := by
  obtain ⟨z, hz, rfl⟩ := Option.map_eq_some_iff.1 h
  have := List.find?_some hz
  simp only [Bool.and_eq_true, decide_eq_true_eq] at this
  omega

/-! ### Hexadecimal digits -/

/-- The hexadecimal digits of a number, padded with zeros on the left. -/
def hexadecimal (width : Nat) (n : Nat) : List Char :=
  let digits := Nat.toDigits 16 n
  List.replicate (width - digits.length) '0' ++ digits

/-- The same with capital letters. -/
def hexadecimalUpper (width : Nat) (n : Nat) : List Char :=
  (hexadecimal width n).map Char.toUpper

/-- The value of a hexadecimal digit. -/
def hexValue? (c : Char) : Option Nat :=
  if '0' ≤ c ∧ c ≤ '9' then some (c.toNat - 48)
  else if 'a' ≤ c ∧ c ≤ 'f' then some (c.toNat - 87)
  else if 'A' ≤ c ∧ c ≤ 'F' then some (c.toNat - 55)
  else none

/-- The number that a run of hexadecimal digits writes. -/
def hexNumber? (cs : List Char) : Option Nat :=
  cs.foldlM (fun n c => (hexValue? c).map (16 * n + ·)) 0

/-! ### Base 64 -/

/-- The value of a base-64 letter. -/
def base64Value? (c : Char) : Option Nat :=
  if 'A' ≤ c ∧ c ≤ 'Z' then some (c.toNat - 65)
  else if 'a' ≤ c ∧ c ≤ 'z' then some (c.toNat - 71)
  else if c.isDigit then some (c.toNat + 4)
  else if c = '+' then some 62
  else if c = '/' then some 63
  else none

/-- The octets of letters in groups of four. The last group is closed by padding; anything behind a
closed group and all other characters are passed over. -/
def base64Octets : List Char → List Nat → Nat → Option (List Nat)
  | [], group, _ => if group.isEmpty then some [] else none
  | c :: cs, group, pads =>
    if c = '=' then
      if 2 ≤ group.length then
        if 4 ≤ group.length + pads + 1 then
          match group with
          | [a, b] => some [(4 * a + b / 16) % 256]
          | [a, b, d] => some [(4 * a + b / 16) % 256, (16 * b + d / 4) % 256]
          | _ => some []
        else base64Octets cs group (pads + 1)
      else base64Octets cs group pads
    else
      match base64Value? c with
      | none => base64Octets cs group pads
      | some v =>
        match group with
        | [a, b, d] =>
          (base64Octets cs [] 0).map
            ([(4 * a + b / 16) % 256, (16 * b + d / 4) % 256, (64 * d + v) % 256] ++ ·)
        | _ => base64Octets cs (group ++ [v]) 0

end TargetResolution.Text
