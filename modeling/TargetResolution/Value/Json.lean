import TargetResolution.Decimal.Layout
import TargetResolution.Text.Quoted
import TargetResolution.Value.Text

/-!
Plain data as JSON in ASCII, two spaces to a level, an item or entry to a line.
-/

namespace TargetResolution.Value

open Text

/-- The form of numbers in JSON. -/
def jsonNumbers : Decimal.Layout :=
  { Decimal.Layout.plain with
    infinity := "Infinity"
    negativeInfinity := "-Infinity"
    notANumber := "NaN" }

/-- An escape of one sixteen-bit unit. -/
def jsonUnit (n : Nat) : List Char := backslash :: 'u' :: hexadecimal 4 n

/-- One character of a text. Beyond the first plane it is written as two units. -/
def jsonChar (c : Char) : List Char :=
  if c = doubleQuote ∨ c = backslash then [backslash, c]
  else if c = '\n' then [backslash, 'n']
  else if c = '\r' then [backslash, 'r']
  else if c = '\t' then [backslash, 't']
  else if c.toNat = 0x0C then [backslash, 'f']
  else if c.toNat = 0x08 then [backslash, 'b']
  else if 0x20 ≤ c.toNat ∧ c.toNat < 0x7F then [c]
  else if c.toNat < 0x10000 then jsonUnit c.toNat
  else
    let n := c.toNat - 0x10000
    jsonUnit (0xD800 + n / 0x400) ++ jsonUnit (0xDC00 + n % 0x400)

/-- A text in JSON. -/
def jsonText (s : String) : String :=
  String.ofList (doubleQuote :: s.toList.flatMap jsonChar ++ [doubleQuote])

/-- The key of an entry. Scalars that are no texts become texts. -/
def jsonKey : Value → String
  | .null => "null"
  | .bool b => if b then "true" else "false"
  | .float x => jsonNumbers.text x
  | v => v.text

/-- A line break and the spaces of a level. -/
def jsonBreak (level : Nat) : String := String.ofList ('\n' :: List.replicate (2 * level) ' ')

/-- Parts on lines of their own between brackets. -/
def jsonBlock (opening closing : String) (level : Nat) (parts : List String) : String :=
  if parts.isEmpty then opening ++ closing
  else
    opening ++ jsonBreak (level + 1) ++ ("," ++ jsonBreak (level + 1)).intercalate parts
      ++ jsonBreak level ++ closing

mutual

/-- A value at a level. -/
def jsonAt (level : Nat) : Value → String
  | .null => "null"
  | .bool b => if b then "true" else "false"
  | .int n => toString n
  | .float x => jsonNumbers.text x
  | .list items => jsonBlock "[" "]" level (jsonItems (level + 1) items)
  | .set members => jsonBlock "[" "]" level (jsonItems (level + 1) members)
  | .map entries => jsonBlock "\x7b" "\x7d" level (jsonEntries (level + 1) entries)
  | .pairs entries => jsonBlock "[" "]" level (jsonPairs (level + 1) entries)
  | v => jsonText v.text

/-- The items of a list. -/
def jsonItems (level : Nat) : List Value → List String
  | [] => []
  | v :: vs => jsonAt level v :: jsonItems level vs

/-- The entries of a mapping. -/
def jsonEntries (level : Nat) : List (Value × Value) → List String
  | [] => []
  | (k, v) :: rest => (jsonText (jsonKey k) ++ ": " ++ jsonAt level v) :: jsonEntries level rest

/-- Pairs, as lists of two items. -/
def jsonPairs (level : Nat) : List (Value × Value) → List String
  | [] => []
  | (k, v) :: rest =>
    jsonBlock "[" "]" level [jsonAt (level + 1) k, jsonAt (level + 1) v] :: jsonPairs level rest

end

/-- Plain data as JSON. -/
def json (v : Value) : String := jsonAt 0 v

end TargetResolution.Value
