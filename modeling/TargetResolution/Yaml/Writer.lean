import TargetResolution.Decimal.Layout
import TargetResolution.Text.Digits
import TargetResolution.Yaml.Cursor
import TargetResolution.Yaml.Scalar

/-!
Plain data as YAML in block style. Texts are plain where they read back as texts; otherwise they
stand in single quotes, or in double quotes when they hold characters that need an escape. Long
texts are folded at spaces beyond the right margin.
-/

namespace TargetResolution.Yaml

open Text

/-- The last column that is not beyond the margin. -/
def margin : Nat := 80

/-- The columns that one level is indented by. -/
def indentStep : Nat := 2

/-! ### The styles of texts -/

/-- What decides the style of a text. -/
structure Analysis where
  empty : Bool
  multiline : Bool
  allowsPlain : Bool
  allowsSingleQuoted : Bool
  deriving DecidableEq, Repr

/-- Whether a character is a line break as texts count them. -/
def breaksText (c : Char) : Bool :=
  c == '\n' || c.toNat == 0x85 || c.toNat == 0x2028 || c.toNat == 0x2029

/-- Whether a character needs an escape. -/
def needsEscape (c : Char) : Bool := !(c == '\n' || (0x20 ≤ c.toNat && c.toNat ≤ 0x7E))

/-- Whether a text cannot be plain because of an indicator at its start. -/
def startsWithIndicator : List Char → Bool
  | [] => false
  | c :: rest =>
    let followed := rest.head?.all isGap
    "#,[]\x7b\x7d&*!|>'%@\x60".toList.contains c || c == doubleQuote
      || ((c == '?' || c == ':' || c == '-') && followed)

/-- Whether a text holds a colon before a gap, or a hash behind one, after its first character. -/
def holdsIndicator : Char → List Char → Bool
  | _, [] => false
  | before, c :: rest =>
    (c == ':' && rest.head?.all isGap) || (c == '#' && isGap before) || holdsIndicator c rest

/-- Whether a character of the first kind stands directly before one of the second. -/
def holdsPair (p q : Char → Bool) : List Char → Bool
  | a :: b :: rest => (p a && q b) || holdsPair p q (b :: rest)
  | _ => false

/-- The analysis of a text. -/
def Analysis.of (cs : List Char) : Analysis :=
  match cs with
  | [] => ⟨true, false, true, true⟩
  | c :: rest =>
    let space := fun (x : Char) => x == ' '
    let edge := fun (x : Char) => space x || breaksText x
    let special := cs.any needsEscape || holdsPair space breaksText cs
    let multiline := cs.any breaksText
    let breakThenSpace := holdsPair breaksText space cs
    let marked := "---".toList.isPrefixOf cs || "...".toList.isPrefixOf cs
    let indicators := marked || startsWithIndicator cs || holdsIndicator c rest
    { empty := false
      multiline
      allowsPlain := !(edge c || cs.getLast?.any edge || breakThenSpace || special || multiline
        || indicators)
      allowsSingleQuoted := !(breakThenSpace || special) }

/-- The styles of scalars. -/
inductive Style where
  | plain
  | singleQuoted
  | doubleQuoted
  deriving DecidableEq, Repr

/-- The style of a scalar. Plain is only what reads back as it was; keys on one line are not folded,
so a key with line breaks is in double quotes. -/
def Style.of (a : Analysis) (readsBack simpleKey : Bool) : Style :=
  if readsBack && !(simpleKey && (a.empty || a.multiline)) && a.allowsPlain then .plain
  else if a.allowsSingleQuoted && !(simpleKey && a.multiline) then .singleQuoted
  else .doubleQuoted

/-! ### Writing -/

/-- The text so far, and the state at its end. -/
structure Pen where
  text : String := ""
  column : Nat := 0
  /-- Whether the next mark needs no space before it. -/
  spaced : Bool := true
  /-- Whether only indentation and block marks stand on the line. -/
  indented : Bool := true
  deriving Repr

namespace Pen

/-- The pen after some characters of a line. -/
def put (p : Pen) (cs : List Char) : Pen :=
  { p with text := p.text ++ String.ofList cs, column := p.column + cs.length }

/-- The pen after a mark, with a space before it where one is needed. -/
def mark (p : Pen) (cs : List Char) (needsSpace spaced keepsIndented : Bool) : Pen :=
  let p := p.put (if p.spaced || !needsSpace then cs else ' ' :: cs)
  { p with spaced, indented := p.indented && keepsIndented }

/-- The pen on a new line. -/
def newLine (p : Pen) (br : Char := '\n') : Pen where
  text := p.text.push br
  column := 0
  spaced := true
  indented := true

/-- The pen at an indentation, on a new line unless it is at the place already. -/
def indentTo (p : Pen) (indent : Nat) : Pen :=
  let p := if !p.indented || p.column > indent || (p.column == indent && !p.spaced) then p.newLine
    else p
  if p.column < indent then
    { p.put (List.replicate (indent - p.column) ' ') with spaced := true }
  else p

/-- A run of spaces inside a text. A single space beyond the margin becomes a new line, unless the
text starts or ends with it. -/
def spaces (p : Pen) (run : List Char) (split atStart atEnd : Bool) (indent : Nat) : Pen :=
  if run.length = 1 ∧ p.column > margin ∧ split ∧ !atStart ∧ !atEnd then p.indentTo indent
  else p.put run

/-- The runs of characters that agree on a key. -/
def runsBy (key : Char → Nat) (cs : List Char) : List (List Char) :=
  cs.splitBy fun a b => key a == key b

/-- Folds over runs with whether a run is the first and whether it is the last. -/
def overRuns (f : Pen → List Char → Bool → Bool → Pen) : Bool → List (List Char) → Pen → Pen
  | _, [], p => p
  | first, run :: rest, p => overRuns f false rest (f p run first rest.isEmpty)

/-- A text in plain style. -/
def plainText (p : Pen) (cs : List Char) (split : Bool) (indent : Nat) : Pen :=
  if cs.isEmpty then p
  else
    let p := if p.spaced then p else p.put [' ']
    let p := { p with spaced := false, indented := false }
    overRuns
      (fun p run first last =>
        if run.head? == some ' ' then
          let p := p.spaces run split first last indent
          { p with spaced := false, indented := false }
        else p.put run)
      true (runsBy (fun c => if c == ' ' then 1 else 0) cs) p

/-- The line breaks of a text in quotes. A break of the text is an empty line, so the first line
feed is written twice. -/
def breaks (p : Pen) (run : List Char) (indent : Nat) : Pen :=
  let p := if run.head? == some '\n' then p.newLine else p
  (run.foldl (fun p br => p.newLine br) p).indentTo indent

/-- A text in single quotes. Single quotes in it are written twice. -/
def singleQuoted (p : Pen) (cs : List Char) (split : Bool) (indent : Nat) : Pen :=
  let p := p.mark [singleQuote] true false false
  let kind := fun c => if c == ' ' then 1 else if breaksText c then 2 else 0
  let p := overRuns
    (fun p run first last =>
      match run with
      | [] => p
      | c :: _ =>
        if c == ' ' then p.spaces run split first last indent
        else if breaksText c then p.breaks run indent
        else p.put (run.flatMap fun c => if c == singleQuote then [c, c] else [c]))
    true (runsBy kind cs) p
  p.mark [singleQuote] false false false

/-- The letter behind a backslash for a character that has one. -/
def escapeLetter? (c : Char) : Option Char :=
  [(0x00, '0'), (0x07, 'a'), (0x08, 'b'), (0x09, 't'), (0x0A, 'n'), (0x0B, 'v'), (0x0C, 'f'),
    (0x0D, 'r'), (0x1B, 'e'), (0x22, doubleQuote), (0x5C, backslash), (0x85, 'N'), (0xA0, '_'),
    (0x2028, 'L'), (0x2029, 'P')].lookup c.toNat

/-- The escape of a character. -/
def escapeOf (c : Char) : List Char :=
  match escapeLetter? c with
  | some letter => [backslash, letter]
  | none =>
    if c.toNat ≤ 0xFF then backslash :: 'x' :: hexadecimalUpper 2 c.toNat
    else if c.toNat ≤ 0xFFFF then backslash :: 'u' :: hexadecimalUpper 4 c.toNat
    else backslash :: 'U' :: hexadecimalUpper 8 c.toNat

/-- Whether a character is written as it is between double quotes. -/
def isDirect (c : Char) : Bool :=
  0x20 ≤ c.toNat && c.toNat ≤ 0x7E && c != doubleQuote && c != backslash

/-- The pen on a new line inside double quotes: a backslash joins the lines, and another one keeps a
space at the start of the next line. -/
def joinedLine (p : Pen) (nextIsSpace : Bool) (indent : Nat) : Pen :=
  let p := (p.put [backslash]).indentTo indent
  let p := { p with spaced := false, indented := false }
  if nextIsSpace then p.put [backslash] else p

/-- The characters of a text between double quotes: the ones not yet written, the place of the next
one, and the length of the text. Lines are broken before spaces and next to escapes. An escape may
end one column beyond the margin. -/
def doubleQuotedFrom (split : Bool) (indent length : Nat) :
    List Char → Nat → List Char → Pen → Pen
  | pending, _, [], p => p.put pending.reverse
  | pending, place, c :: rest, p =>
    let direct := isDirect c
    let (pending, p) :=
      if direct then (pending, p) else ([], (p.put pending.reverse).put (escapeOf c))
    let breakable := 0 < place ∧ place + 1 < length ∧ (c = ' ' ∨ pending.isEmpty)
    let last := if direct then margin else margin + 1
    if split ∧ breakable ∧ last < p.column + pending.length then
      let p := (p.put pending.reverse)
      let next := if direct then c else rest.headD endMark
      let p := p.joinedLine (next == ' ') indent
      doubleQuotedFrom split indent length (if direct then [c] else []) (place + 1) rest p
    else
      doubleQuotedFrom split indent length (if direct then c :: pending else []) (place + 1) rest p

/-- A text in double quotes. -/
def doubleQuotedText (p : Pen) (cs : List Char) (split : Bool) (indent : Nat) : Pen :=
  let p := p.mark [doubleQuote] true false false
  let p := doubleQuotedFrom split indent cs.length [] 0 cs p
  p.mark [doubleQuote] false false false

/-- A scalar in a style. -/
def scalar (p : Pen) (style : Style) (cs : List Char) (split : Bool) (indent : Nat) : Pen :=
  match style with
  | .plain => p.plainText cs split indent
  | .singleQuoted => p.singleQuoted cs split indent
  | .doubleQuoted => p.doubleQuotedText cs split indent

end Pen

/-! ### Values -/

/-- The form of numbers. -/
def numbers : Decimal.Layout :=
  { Decimal.Layout.plain with
    pointBeforeExponent := true, infinity := ".inf", negativeInfinity := "-.inf"
    notANumber := ".nan" }

/-- A scalar as it is written, with the length of its short tag, or nothing for a collection. -/
def scalarText? : Value → Option (List Char × Tag × Nat)
  | .null => some ("null".toList, .null, 6)
  | .bool b => some ((if b then "true" else "false").toList, .bool, 6)
  | .int n => some ((toString n).toList, .int, 5)
  | .float x => some ((numbers.text x).toList, .float, 7)
  | .str s => some (s.toList, .str, 5)
  | .date d => some (d.text.toList, .timestamp, 11)
  | .moment t => some (t.text.toList, .timestamp, 11)
  | _ => none

/-- Whether a value can be a key on one line before its colon: a short scalar without line breaks.
-/
def isSimpleKey (v : Value) : Bool :=
  match scalarText? v with
  | none => false
  | some (cs, _, tagLength) =>
    let a := Analysis.of cs
    decide (tagLength + cs.length < 128) && !a.empty && !a.multiline

/-- A scalar, as a key on one line or as a value. -/
def writeScalar (p : Pen) (cs : List Char) (tag : Tag) (simpleKey : Bool) (indent : Nat) : Pen :=
  let style := Style.of (Analysis.of cs) (plainTag cs == tag) simpleKey
  p.scalar style cs (!simpleKey) indent

/-- The indentation of what stands inside. There is none around the document. -/
def deeper : Option Nat → Nat
  | none => 0
  | some indent => indent + indentStep

mutual

/-- A value at an indentation. The flag says that it is the value of an entry, where a sequence
directly behind the colon is not indented. -/
def writeValue (indent : Option Nat) (inEntry : Bool) (v : Value) (p : Pen) : Pen :=
  match v with
  | .list [] => p.mark "[]".toList true false false
  | .set [] => p.mark "\x7b\x7d".toList true false false
  | .pairs [] => p.mark "[]".toList true false false
  | .map [] => p.mark "\x7b\x7d".toList true false false
  | .list items =>
    writeItems (if inEntry && !p.indented then indent.getD 0 else deeper indent) items p
  | .set members =>
    writeItems (if inEntry && !p.indented then indent.getD 0 else deeper indent) members p
  | .map entries => writeEntries (deeper indent) entries p
  | .pairs entries => writeEntries (deeper indent) entries p
  | .null => writeScalar p "null".toList .null false ((indent.map (· + indentStep)).getD indentStep)
  | v =>
    match scalarText? v with
    | some (cs, tag, _) =>
      writeScalar p cs tag false ((indent.map (· + indentStep)).getD indentStep)
    | none => p.mark (v.kindName.toList) true false false

/-- The items of a sequence. -/
def writeItems (indent : Nat) : List Value → Pen → Pen
  | [], p => p
  | v :: rest, p =>
    let p := (p.indentTo indent).mark ['-'] true false true
    writeItems indent rest (writeValue (some indent) false v p)

/-- The entries of a mapping. -/
def writeEntries (indent : Nat) : List (Value × Value) → Pen → Pen
  | [], p => p
  | (k, v) :: rest, p =>
    let p := p.indentTo indent
    let p :=
      match isSimpleKey k, scalarText? k with
      | true, some (cs, tag, _) =>
        (writeScalar p cs tag true (indent + indentStep)).mark [':'] false false false
      | _, _ =>
        let p := writeValue (some indent) true k (p.mark ['?'] true false true)
        (p.indentTo indent).mark [':'] true false true
    writeEntries indent rest (writeValue (some indent) true v p)

end

/-- Plain data as YAML, without blanks at its end. A plain scalar by itself is closed by a mark for
the end of the document. -/
def write (v : Value) : String :=
  let p := writeValue none false v {}
  let p :=
    match scalarText? v with
    | some (cs, tag, _) =>
      if Style.of (Analysis.of cs) (plainTag cs == tag) false = Style.plain then
        (p.indentTo 0).mark "...".toList true false false
      else p
    | none => p
  stripEnd (p.indentTo 0).text

end TargetResolution.Yaml
