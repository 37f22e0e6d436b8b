import TargetResolution.Decimal.Layout
import TargetResolution.Text.Digits
import TargetResolution.Text.Quoted
import TargetResolution.Value.Basic

/-!
The text of plain data. A text stands for itself at the outside and is quoted inside lists and
mappings.
-/

namespace TargetResolution.Value

open Text

/-- One octet between quotes. -/
def octetText (quote : Char) (n : Nat) : List Char :=
  let c := Char.ofNat n
  if c = quote ∨ c = backslash then [backslash, c]
  else if c = '\n' then [backslash, 'n']
  else if c = '\r' then [backslash, 'r']
  else if c = '\t' then [backslash, 't']
  else if 0x20 ≤ n ∧ n < 0x7F then [c]
  else backslash :: 'x' :: hexadecimal 2 n

/-- Octets in quotes, after their mark. -/
def octetsText (bytes : List Nat) : String :=
  let q := quoteFor (bytes.map Char.ofNat)
  String.ofList ('b' :: q :: bytes.flatMap (octetText q) ++ [q])

/-- The name of a truth value. -/
def boolText (b : Bool) : String := if b then "True" else "False"

mutual

/-- The text of a value inside another one. -/
def quotedText : Value → String
  | .null => "None"
  | .bool b => boolText b
  | .int n => toString n
  | .float x => Decimal.Layout.plain.text x
  | .str s => quoted s
  | .list items => "[" ++ ", ".intercalate (quotedTexts items) ++ "]"
  | .map entries => "\x7b" ++ ", ".intercalate (entryTexts entries) ++ "\x7d"
  | .date d => d.quotedText
  | .moment t => t.quotedText
  | .octets bytes => octetsText bytes
  | .set [] => "set()"
  | .set (m :: ms) => "\x7b" ++ ", ".intercalate (quotedTexts (m :: ms)) ++ "\x7d"
  | .pairs entries => "[" ++ ", ".intercalate (pairTexts entries) ++ "]"
  | .listAgain => "[...]"
  | .mapAgain => "\x7b...\x7d"

/-- The texts of the items of a list. -/
def quotedTexts : List Value → List String
  | [] => []
  | v :: vs => quotedText v :: quotedTexts vs

/-- The texts of the entries of a mapping. -/
def entryTexts : List (Value × Value) → List String
  | [] => []
  | (k, v) :: rest => (quotedText k ++ ": " ++ quotedText v) :: entryTexts rest

/-- The texts of pairs. -/
def pairTexts : List (Value × Value) → List String
  | [] => []
  | (k, v) :: rest => ("(" ++ quotedText k ++ ", " ++ quotedText v ++ ")") :: pairTexts rest

end

/-- Whether a whole number has more digits than are ever written. -/
def isLong (n : Int) : Bool := decide (Decimal.tenTo digitLimit ≤ n.natAbs)

mutual

/-- Whether a whole number in a value has more digits than are ever written. -/
def hasLongInteger : Value → Bool
  | .int n => isLong n
  | .list items => anyLongInteger items
  | .set members => anyLongInteger members
  | .map entries => anyLongEntry entries
  | .pairs entries => anyLongEntry entries
  | _ => false

/-- The same for some values. -/
def anyLongInteger : List Value → Bool
  | [] => false
  | v :: vs => hasLongInteger v || anyLongInteger vs

/-- The same for entries. -/
def anyLongEntry : List (Value × Value) → Bool
  | [] => false
  | (k, v) :: rest => hasLongInteger k || hasLongInteger v || anyLongEntry rest

end

/-- The text of a value. -/
def text : Value → String
  | .str s => s
  | .date d => d.text
  | .moment t => t.text
  | v => quotedText v

end TargetResolution.Value
