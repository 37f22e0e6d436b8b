import TargetResolution.Diagnostic.Subject
import TargetResolution.Text.Digits

/-!
Message templates. A template is text with fields in braces; a doubled brace stands for one brace.
A field names a value, may select a character or another part of it, may ask for its quoted form and
may give a layout (fill, alignment, width, greatest length), which can hold fields itself.
-/

namespace TargetResolution.Template

open Text

/-- How a template can be wrong in itself. -/
inductive Flaw where
  | loneOpening
  | loneClosing
  | unclosed
  | openingInName
  | unclosedLayout
  | conversionCut
  | afterConversion
  | unknownConversion (c : Char)
  | emptySelector
  | afterBracket
  | tooManyDigits
  | tooDeep
  | sign
  | space
  | negativeZero
  | alternate
  | numericAlignment
  | noPrecision
  | unknownType (c : Char)
  | separator (mark type : Char)
  | bothSeparators
  | layout (text : String)
  deriving DecidableEq, Repr

/-- A character as messages show it: itself, or its code point unless it lies between blanks and a
limit. -/
def shownBelow (limit : Nat) (c : Char) : String :=
  if 32 < c.toNat ∧ c.toNat < limit then String.singleton c
  else "\\x" ++ String.ofList (Nat.toDigits 16 c.toNat)

/-- A conversion as messages show it. -/
def shownConversion (c : Char) : String := shownBelow 0x7F c

/-- A type of a layout as messages show it. -/
def shownType (c : Char) : String := shownBelow 0x80 c

/-- The wording of a flaw. -/
def Flaw.message : Flaw → String
  | .loneOpening => "Single '\x7b' encountered in format string"
  | .loneClosing => "Single '\x7d' encountered in format string"
  | .unclosed => "expected '\x7d' before end of string"
  | .openingInName => "unexpected '\x7b' in field name"
  | .unclosedLayout => "unmatched '\x7b' in format spec"
  | .conversionCut => "end of string while looking for conversion specifier"
  | .afterConversion => "expected ':' after conversion specifier"
  | .unknownConversion c => "Unknown conversion specifier " ++ shownConversion c
  | .emptySelector => "Empty attribute in format string"
  | .afterBracket => "Only '.' or '[' may follow ']' in format field specifier"
  | .tooManyDigits => "Too many decimal digits in format string"
  | .tooDeep => "Max string recursion exceeded"
  | .sign => "Sign not allowed in string format specifier"
  | .space => "Space not allowed in string format specifier"
  | .negativeZero => "Negative zero coercion (z) not allowed in string format specifier"
  | .alternate => "Alternate form (#) not allowed in string format specifier"
  | .numericAlignment => "'=' alignment not allowed in string format specifier"
  | .noPrecision => "Format specifier missing precision"
  | .unknownType c => "Unknown format code '" ++ shownType c ++ "' for object of type 'str'"
  | .separator mark type =>
    "Cannot specify '" ++ String.singleton mark ++ "' with '" ++ shownType type ++ "'."
  | .bothSeparators => "Cannot specify both ',' and '_'."
  | .layout text => "Invalid format specifier '" ++ text ++ "' for object of type 'str'"

/-- Why a template cannot be filled in. -/
inductive Fault where
  | flaw (flaw : Flaw)
  | noValue (name : String)
  | noPosition (index : Nat)
  | noCharacter
  | noMember
  /-- A text as the index into a subject of the named category that has items. -/
  | notAnIndex (kind : Category)
  | noItems (subject : Subject)
  | noPart (subject : Subject) (name : String)
  | noLayout (kind : Category)
  | tooWide
  /-- A value that has the name of something else in a report. -/
  | givenTwice (name : String)
  deriving DecidableEq, Repr

/-- The wording of a fault. -/
def Fault.message : Fault → String
  | .flaw f => f.message
  | .noValue name => quoted name
  | .noPosition index => s!"Replacement index {index} out of range for positional args tuple"
  | .noCharacter => "string index out of range"
  | .noMember => "tuple index out of range"
  | .notAnIndex .row => "tuple indices must be integers or slices, not str"
  | .notAnIndex _ => "string indices must be integers, not 'str'"
  | .noItems (.category c) => "type '" ++ c.name ++ "' is not subscriptable"
  | .noItems s => "'" ++ s.kind.name ++ "' object is not subscriptable"
  | .noPart (.category c) name =>
    "type object '" ++ c.name ++ "' has no attribute '" ++ name ++ "'"
  | .noPart s name => "'" ++ s.kind.name ++ "' object has no attribute '" ++ name ++ "'"
  | .noLayout kind => "unsupported format string passed to " ++ kind.name ++ ".__format__"
  | .tooWide => ""
  | .givenTwice name =>
    "DiagnosticsEngine.report() got multiple values for argument '" ++ name ++ "'"

/-- A field: the name with its selectors, the conversion and the layout. -/
structure Field where
  name : List Char
  conversion : Option Char := none
  layout : List Char := []
  deriving DecidableEq, Repr

/-- The name of a field, the character that ends it, and the rest. A bracket hides what it holds. -/
def spanName : Bool → List Char → Except Fault (List Char × Char × List Char)
  | _, [] => .error (.flaw .unclosed)
  | true, c :: cs => do
    let (name, stop, rest) ← spanName (c != ']') cs
    pure (c :: name, stop, rest)
  | false, c :: cs =>
    if c = '\x7b' then .error (.flaw .openingInName)
    else if c = '\x7d' ∨ c = ':' ∨ c = '!' then .ok ([], c, cs)
    else do
      let (name, stop, rest) ← spanName (c == '[') cs
      pure (c :: name, stop, rest)

/-- The layout of a field up to the brace that closes it, and the rest. -/
def spanLayout : Nat → List Char → Except Fault (List Char × List Char)
  | _, [] => .error (.flaw .unclosedLayout)
  | depth, c :: cs =>
    if c = '\x7d' ∧ depth = 0 then .ok ([], cs)
    else do
      let depth := if c = '\x7b' then depth + 1 else if c = '\x7d' then depth - 1 else depth
      let (layout, rest) ← spanLayout depth cs
      pure (c :: layout, rest)

/-- The field behind an opening brace, and the rest of the template. -/
def readField (cs : List Char) : Except Fault (Field × List Char) := do
  let (name, stop, rest) ← spanName false cs
  if stop = '\x7d' then pure ({ name }, rest)
  else if stop = ':' then
    let (layout, rest) ← spanLayout 0 rest
    pure ({ name, layout }, rest)
  else
    match rest with
    | [] => .error (.flaw .conversionCut)
    | [_] => .error (.flaw .unclosedLayout)
    | conversion :: next :: rest =>
      if next = '\x7d' then pure ({ name, conversion }, rest)
      else if next = ':' then
        let (layout, rest) ← spanLayout 0 rest
        pure ({ name, conversion, layout }, rest)
      else .error (.flaw .afterConversion)

/-- The first number too large for an index. -/
def indexLimit : Nat := 0x8000000000000000

/-- A text of digits as a number. The digits at the start must not be too many, whatever follows. -/
def index? (cs : List Char) : Except Fault (Option Nat) :=
  let digits := cs.takeWhile isDecimalDigit
  if indexLimit ≤ decimalValue digits then .error (.flaw .tooManyDigits)
  else if digits.isEmpty || digits.length < cs.length then .ok none
  else .ok (some (decimalValue digits))

/-- The item of a subject at an index. -/
def itemOf (s : Subject) (index : Option Nat) : Except Fault Subject :=
  match s, index with
  | .text cs, some i => (cs[i]?.elim (.error .noCharacter)) fun c => .ok (.text [c])
  | .row cs, some i => (cs[i]?.elim (.error .noMember)) fun c => .ok (.category c)
  | .text _, none => .error (.notAnIndex .text)
  | .row _, none => .error (.notAnIndex .row)
  | s, _ => .error (.noItems s)

/-- What the selectors behind a name pick. -/
def select (fuel : Nat) (selectors : List Char) (s : Subject) : Except Fault Subject :=
  match fuel, selectors with
  | 0, _ => .ok s
  | _, [] => .ok s
  | fuel + 1, '[' :: rest => do
    let inner := rest.takeWhile (· != ']')
    if inner.isEmpty then .error (.flaw .emptySelector)
    else
      let item ← itemOf s (← index? inner)
      select fuel ((rest.dropWhile (· != ']')).drop 1) item
  | fuel + 1, '.' :: rest =>
    let part := String.ofList (rest.takeWhile fun c => c != '.' && c != '[')
    if part.isEmpty then .error (.flaw .emptySelector)
    else
      match s.part? part with
      | none => .error (.noPart s part)
      | some found => select fuel (rest.dropWhile fun c => c != '.' && c != '[') found
  | _, _ => .error (.flaw .afterBracket)

/-- The value of a named field. Fields without a name ask for a value by position, and there is
none. -/
def lookUp (values : List (String × String)) (name : List Char) : Except Fault Subject := do
  let first := name.takeWhile fun c => c != '.' && c != '['
  let selectors := name.dropWhile fun c => c != '.' && c != '['
  if first.isEmpty then .error (.noPosition 0)
  else
    match ← index? first with
    | some i => .error (.noPosition i)
    | none =>
      match values.lookup (String.ofList first) with
      | none => .error (.noValue (String.ofList first))
      | some value => select selectors.length selectors (.ofString value)

/-- A text in ASCII, with escapes for all other characters. -/
def inAscii (s : String) : String :=
  String.ofList (s.toList.flatMap fun c =>
    if c.toNat < 0x80 then [c]
    else if c.toNat < 0x100 then backslash :: 'x' :: hexadecimal 2 c.toNat
    else if c.toNat < 0x10000 then backslash :: 'u' :: hexadecimal 4 c.toNat
    else backslash :: 'U' :: hexadecimal 8 c.toNat)

/-- A subject after the conversion that its field asks for, which makes a text of it. -/
def convert (conversion : Option Char) (s : Subject) : Except Fault Subject :=
  match conversion with
  | none => .ok s
  | some 's' => .ok (.ofString s.shown)
  | some 'r' => .ok (.ofString s.quotedForm)
  | some 'a' => .ok (.ofString (inAscii s.quotedForm))
  | some c => .error (.flaw (.unknownConversion c))

/-- Whether a character says where a value stands in its width. -/
def isAlignment (c : Char) : Bool := c == '<' || c == '>' || c == '=' || c == '^'

/-- The character of a kind at the start, and the rest. -/
def takeOne (p : Char → Bool) : List Char → Option Char × List Char
  | c :: cs => if p c then (some c, cs) else (none, c :: cs)
  | [] => (none, [])

/-- The number at the start, and the rest. -/
def takeNumber (cs : List Char) : Except Fault (Option Nat × List Char) := do
  let n ← index? (cs.takeWhile isDecimalDigit)
  pure (n, cs.dropWhile isDecimalDigit)

/-- The first width that there is no room for. -/
def widthLimit : Nat := 0x1000000000

/-- A value in the width that its layout gives. -/
def pad (fill : Char) (alignment : Char) (width : Nat) (value : List Char) : List Char :=
  let missing := width - value.length
  let left := if alignment = '>' then missing else if alignment = '^' then missing / 2 else 0
  List.replicate left fill ++ value ++ List.replicate (missing - left) fill

/-- A value in a layout. -/
def arrange (layout value : List Char) : Except Fault (List Char) := do
  let (fill, alignment, rest) :=
    match layout with
    | f :: a :: rest =>
      if isAlignment a then (some f, some a, rest)
      else if isAlignment f then (none, some f, a :: rest)
      else (none, none, layout)
    | [a] => if isAlignment a then (none, some a, []) else (none, none, layout)
    | [] => (none, none, [])
  let (sign, rest) := takeOne (fun c => c == '+' || c == '-' || c == ' ') rest
  let (coercion, rest) := takeOne (· == 'z') rest
  let (alternate, rest) := takeOne (· == '#') rest
  let (fill, rest) :=
    match fill, rest with
    | none, '0' :: more => (some '0', more)
    | _, _ => (fill, rest)
  let (width, rest) ← takeNumber rest
  let (comma, rest) := takeOne (· == ',') rest
  let (underscore, rest) := takeOne (· == '_') rest
  if underscore.isSome && (comma.isSome || rest.head? == some ',') then
    .error (.flaw .bothSeparators)
  let (precision, rest) ←
    match rest with
    | '.' :: more =>
      match ← takeNumber more with
      | (none, _) => .error (.flaw .noPrecision)
      | (some n, more) => pure (some n, more)
    | _ => pure (none, rest)
  let type ←
    match rest with
    | [] => pure 's'
    | [c] => pure c
    | _ => .error (.flaw (.layout (String.ofList layout)))
  match comma.or underscore with
  | some mark =>
    if (type ∈ "deEfFgG%".toList) ∨ (mark = '_' ∧ type ∈ "boxX".toList) then pure ()
    else .error (.flaw (.separator mark type))
  | none => pure ()
  if type ≠ 's' then .error (.flaw (.unknownType type))
  match sign with
  | some ' ' => .error (.flaw .space)
  | some _ => .error (.flaw .sign)
  | none => pure ()
  if coercion.isSome then .error (.flaw .negativeZero)
  if alternate.isSome then .error (.flaw .alternate)
  if alignment = some '=' then .error (.flaw .numericAlignment)
  let value := match precision with
    | some n => value.take n
    | none => value
  if widthLimit ≤ width.getD 0 then .error .tooWide
  pure (pad (fill.getD ' ') (alignment.getD '<') (width.getD 0) value)

/-- A subject in a layout. Only texts can have one. -/
def layOut (layout : List Char) (s : Subject) : Except Fault (List Char) :=
  if layout.isEmpty then .ok s.shown.toList
  else
    match s with
    | .text cs => arrange layout cs
    | s => .error (.noLayout s.kind)

/-- The text of a template, given what expands the layouts of its fields. Faults are found from left
to right. -/
def expandWith (inner : List Char → Except Fault (List Char)) (values : List (String × String)) :
    Nat → List Char → Except Fault (List Char)
  | 0, _ => .ok []
  | fuel + 1, cs =>
    let isText := fun c => c != '\x7b' && c != '\x7d'
    let literal := cs.takeWhile isText
    match cs.dropWhile isText with
    | [] => .ok literal
    | [brace] => .error (.flaw (if brace = '\x7b' then .loneOpening else .loneClosing))
    | brace :: next :: rest =>
      if brace = next then do
        let more ← expandWith inner values fuel rest
        pure (literal ++ brace :: more)
      else if brace = '\x7d' then .error (.flaw .loneClosing)
      else do
        let (field, rest) ← readField (next :: rest)
        let subject ← convert field.conversion (← lookUp values field.name)
        let layout ← if '\x7b' ∈ field.layout then inner field.layout else pure field.layout
        let shown ← layOut layout subject
        let more ← expandWith inner values fuel rest
        pure (literal ++ shown ++ more)

/-- The template filled in with named values. Fields inside a layout have plain layouts. -/
def fill (template : String) (values : List (String × String)) : Except Fault String :=
  let deepest : List Char → Except Fault (List Char) := fun _ => .error (.flaw .tooDeep)
  let inner := fun cs => expandWith deepest values (cs.length + 1) cs
  (expandWith inner values (template.toList.length + 1) template.toList).map String.ofList

end TargetResolution.Template
