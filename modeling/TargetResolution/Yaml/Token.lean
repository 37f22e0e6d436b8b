import TargetResolution.Text.Digits
import TargetResolution.Yaml.Cursor
import TargetResolution.Yaml.Fault

/-!
Tokens of YAML texts, and the lexemes that have a shape of their own: directives, anchors, tags and
scalars in their five styles. Each function reads one lexeme at a cursor and gives the cursor behind
it.
-/

namespace TargetResolution.Yaml

open Text

/-- A tag as it is written: a handle, if there is one, and a suffix. -/
structure RawTag where
  handle : Option String
  suffix : String
  deriving DecidableEq, Repr

/-- The tokens. -/
inductive Token where
  | streamEnd
  | versionDirective (major minor : Nat)
  | tagDirective (handle start : String)
  | otherDirective
  | documentStart
  | documentEnd
  | blockSequenceStart
  | blockMappingStart
  | blockEnd
  | flowSequenceStart
  | flowSequenceEnd
  | flowMappingStart
  | flowMappingEnd
  | blockEntry
  | flowEntry
  | key
  | value
  | alias (name : String)
  | anchor (name : String)
  | tag (tag : RawTag)
  | scalar (text : List Char) (plain : Bool)
  deriving DecidableEq, Repr

/-- The text is malformed. -/
def malformed {α : Type} : Except Fault α := .error .malformed

/-! ### Directives, anchors and tags -/

/-- The rest of a line that may hold spaces and a comment only. -/
def restOfLine (c : Cursor) : Except Fault Cursor :=
  let c := c.skip (· == ' ')
  let c := if c.peek == '#' then c.skip (!isEnd ·) else c
  if isEnd c.peek then .ok c.lineBreak.2 else malformed

/-- A number of a version directive. The number of its digits is limited. -/
def directiveNumber (c : Cursor) : Except Fault (Nat × Cursor) :=
  let (digits, c) := c.span Char.isDigit
  if digits.isEmpty || c.peek == refusedMark then malformed
  else if digitLimit < digits.length then .error (.scalar (.tooManyDigits digits.length))
  else .ok (decimalValue digits, c)

/-- A handle of tags, from its exclamation mark to the closing one, if there is one. -/
def tagHandle (c : Cursor) : Except Fault (String × Cursor) :=
  if c.peek != '!' then malformed
  else if c.peek 1 == ' ' then .ok ("!", c.next)
  else
    let name := (c.rest.drop 1).takeWhile isAnchorChar
    if c.peek (1 + name.length) != '!' then malformed
    else .ok (String.ofList ('!' :: name ++ ['!']), c.advance (name.length + 2))

/-- Whether a character may stand in a tag. -/
def isTagChar (c : Char) : Bool :=
  c.isAlphanum || "-;/?:@&=+$,_.!~*'()[]%".toList.contains c

/-- The octets of a run of percent escapes, and the rest. -/
def percentOctets : List Char → Except Fault (List UInt8 × List Char)
  | '%' :: a :: b :: rest => do
    match hexValue? a, hexValue? b with
    | some x, some y =>
      let (octets, rest) ← percentOctets rest
      pure (UInt8.ofNat (16 * x + y) :: octets, rest)
    | _, _ => malformed
  | '%' :: _ => malformed
  | cs => .ok ([], cs)

/-- The text of a run of tag characters, with percent escapes decoded. -/
def decodeTag : Nat → List Char → Except Fault (List Char)
  | 0, _ => .ok []
  | _, [] => .ok []
  | fuel + 1, '%' :: cs => do
    let (octets, rest) ← percentOctets ('%' :: cs)
    match String.fromUTF8? (ByteArray.mk octets.toArray) with
    | none => malformed
    | some s => pure (s.toList ++ (← decodeTag fuel rest))
  | fuel + 1, c :: cs => do pure (c :: (← decodeTag fuel cs))

/-- The characters of a tag or of the start of tags. -/
def tagText (c : Cursor) : Except Fault (String × Cursor) := do
  let (cs, c) := c.span isTagChar
  if cs.isEmpty then malformed
  else do
    let text ← decodeTag cs.length cs
    pure (String.ofList text, c)

/-- A directive, from behind its percent sign to the end of its line. -/
def directive (c : Cursor) : Except Fault (Token × Cursor) := do
  let (name, c) := c.next.span isAnchorChar
  if name.isEmpty || !isSpaceOrEnd c.peek then malformed
  else if name = "YAML".toList then
    let (major, c) ← directiveNumber (c.skip (· == ' '))
    if c.peek != '.' then malformed
    else
      let (minor, c) ← directiveNumber c.next
      if !isSpaceOrEnd c.peek then malformed
      else pure (.versionDirective major minor, ← restOfLine c)
  else if name = "TAG".toList then
    let (handle, c) ← tagHandle (c.skip (· == ' '))
    if c.peek != ' ' then malformed
    else
      let (start, c) ← tagText (c.skip (· == ' '))
      if !isSpaceOrEnd c.peek then malformed
      else pure (.tagDirective handle start, ← restOfLine c)
  else pure (.otherDirective, ← restOfLine (c.skip (!isEnd ·)))

/-- The name of an anchor or an alias, behind its mark. -/
def anchorName (c : Cursor) : Except Fault (String × Cursor) :=
  let (name, c) := c.next.span isAnchorChar
  if name.isEmpty then malformed
  else if isGap c.peek || "?:,]\x7d%@\x60".toList.contains c.peek then .ok (String.ofList name, c)
  else malformed

/-- Whether an exclamation mark stands before the next space. -/
def hasHandle (c : Cursor) : Bool :=
  ((c.rest.drop 1).takeWhile (!isSpaceOrEnd ·)).contains '!'

/-- A tag. -/
def rawTag (c : Cursor) : Except Fault (RawTag × Cursor) := do
  let (tag, c) ←
    if c.peek 1 == '<' then do
      let (suffix, c) ← tagText (c.advance 2)
      if c.peek != '>' then malformed else pure (⟨none, suffix⟩, c.next)
    else if isGap (c.peek 1) then pure (⟨none, "!"⟩, c.next)
    else do
      let (handle, c) ← if hasHandle c then tagHandle c else pure ("!", c.next)
      let (suffix, c) ← tagText c
      pure (⟨some handle, suffix⟩, c)
  if isSpaceOrEnd c.peek then pure (tag, c) else malformed

/-! ### Block scalars -/

/-- What becomes of the line breaks at the end of a block scalar. -/
inductive Chomping where
  | strip
  | clip
  | keep
  deriving DecidableEq, Repr

/-- A chomping mark, if there is one. -/
def chompingMark (c : Cursor) : Option Chomping × Cursor :=
  if c.peek == '+' then (some .keep, c.next)
  else if c.peek == '-' then (some .strip, c.next)
  else (none, c)

/-- An indentation mark, if there is one. Zero is none. -/
def indentationMark (c : Cursor) : Except Fault (Option Nat × Cursor) :=
  if c.peek == '0' then malformed
  else if c.peek.isDigit then .ok (some (c.peek.toNat - 48), c.next)
  else .ok (none, c)

/-- The marks behind the start of a block scalar, in either order. -/
def blockMarks (c : Cursor) : Except Fault ((Chomping × Option Nat) × Cursor) := do
  let (chomping, c) := chompingMark c
  let (indentation, c) ← indentationMark c
  let (chomping, c) :=
    if chomping.isSome || indentation.isNone then (chomping, c) else chompingMark c
  if isSpaceOrEnd c.peek then pure ((chomping.getD .clip, indentation), c) else malformed

/-- The line breaks at the start of a block scalar, the widest indentation seen, and the cursor at
the first line that is not empty. -/
def leadingBreaks : Nat → Cursor → Nat → List Char → List Char × Nat × Cursor
  | 0, c, widest, breaks => (breaks, widest, c)
  | fuel + 1, c, widest, breaks =>
    if c.peek == ' ' then leadingBreaks fuel c.next (max widest c.next.column) breaks
    else if isBreak c.peek then
      let (br, c) := c.lineBreak
      leadingBreaks fuel c widest (breaks ++ br)
    else (breaks, widest, c)

/-- The line breaks between lines of a block scalar, indentation skipped. -/
def innerBreaks : Nat → Nat → Cursor → List Char → List Char × Cursor
  | 0, _, c, breaks => (breaks, c)
  | fuel + 1, indent, c, breaks =>
    let c := c.skipSpacesBelow indent
    if isBreak c.peek then
      let (br, c) := c.lineBreak
      innerBreaks fuel indent c (breaks ++ br)
    else (breaks, c)

/-- The lines of a block scalar: the text so far, the last line break and the breaks after it. In a
folded scalar a single break between lines that start with no blank becomes a space. -/
def blockLines : Nat → Bool → Nat → Cursor → List Char → List Char →
    List Char × List Char × List Char × Cursor
  | 0, _, _, c, text, breaks => (text, [], breaks, c)
  | fuel + 1, folded, indent, c, text, breaks =>
    let blank := fun ch => ch == ' ' || ch == '\t'
    let leading := blank c.peek
    let (line, c) := c.span (!isEnd ·)
    let text := text ++ breaks ++ line
    let (br, c) := c.lineBreak
    let (breaks, c) := innerBreaks (c.rest.length + 1) indent c []
    if c.column = indent ∧ c.peek ≠ endMark then
      let joint :=
        if folded && br == ['\n'] && !leading && !blank c.peek then
          if breaks.isEmpty then [' '] else []
        else br
      blockLines fuel folded indent c (text ++ joint) breaks
    else (text, br, breaks, c)

/-- A block scalar in a block of the given indentation. -/
def blockScalar (folded : Bool) (outer : Int) (c : Cursor) : Except Fault (List Char × Cursor) := do
  let ((chomping, indentation), c) ← blockMarks c.next
  let c ← restOfLine c
  let least := (max (outer + 1) 1).toNat
  let (indent, breaks, c) :=
    match indentation with
    | none =>
      let (breaks, widest, c) := leadingBreaks (c.rest.length + 1) c 0 []
      (max least widest, breaks, c)
    | some n =>
      let (breaks, c) := innerBreaks (c.rest.length + 1) (least + n - 1) c []
      (least + n - 1, breaks, c)
  let (text, br, breaks, c) :=
    if c.column = indent ∧ c.peek ≠ endMark then
      blockLines (c.rest.length + 1) folded indent c [] breaks
    else ([], [], breaks, c)
  let tail :=
    match chomping with
    | .strip => []
    | .clip => br
    | .keep => br ++ breaks
  pure (text ++ tail, c)

/-! ### Quoted scalars -/

/-- The character that a letter behind a backslash stands for. -/
def escaped? (c : Char) : Option Char :=
  ([('0', 0x00), ('a', 0x07), ('b', 0x08), ('t', 0x09), ('\t', 0x09), ('n', 0x0A), ('v', 0x0B),
    ('f', 0x0C), ('r', 0x0D), ('e', 0x1B), (' ', 0x20), (doubleQuote, 0x22), (backslash, 0x5C),
    ('/', 0x2F), ('N', 0x85), ('_', 0xA0), ('L', 0x2028), ('P', 0x2029)].lookup c).map Char.ofNat

/-- The number of digits behind a letter that announces a code point. -/
def codeDigits? (c : Char) : Option Nat := [('x', 2), ('u', 4), ('U', 8)].lookup c

/-- The first number too large to stand for a code point at all. -/
def codePointLimit : Nat := 0x80000000

/-- The character of a code point. -/
def codePoint (n : Nat) : Except Fault Char :=
  if n < 0x110000 then .ok (Char.ofNat n)
  else if n < codePointLimit then .error (.scalar .noCharacter)
  else .error (.scalar .characterTooLarge)

/-- The line breaks inside a quoted scalar, blanks skipped. A document mark ends no scalar and is
refused. -/
def quotedBreaks : Nat → Cursor → List Char → Except Fault (List Char × Cursor)
  | 0, c, breaks => .ok (breaks, c)
  | fuel + 1, c, breaks =>
    if c.atDocumentMark then malformed
    else
      let c := c.skip fun ch => ch == ' ' || ch == '\t'
      if isBreak c.peek then
        let (br, c) := c.lineBreak
        quotedBreaks fuel c (breaks ++ br)
      else .ok (breaks, c)

/-- The blanks inside a quoted scalar. A single line break among them becomes a space. -/
def quotedBlanks (c : Cursor) : Except Fault (List Char × Cursor) := do
  let (blanks, c) := c.span fun ch => ch == ' ' || ch == '\t'
  if c.peek == endMark then malformed
  else if isBreak c.peek then
    let (br, c) := c.lineBreak
    let (breaks, c) ← quotedBreaks (c.rest.length + 1) c []
    let first := if br != ['\n'] then br else if breaks.isEmpty then [' '] else []
    pure (first ++ breaks, c)
  else pure (blanks, c)

/-- The escape at a backslash. -/
def escape (c : Cursor) : Except Fault (List Char × Cursor) := do
  let c := c.next
  match escaped? c.peek, codeDigits? c.peek with
  | some ch, _ => pure ([ch], c.next)
  | none, some n =>
    let digits := (c.rest.drop 1).take n
    if digits.length < n then malformed
    else
      match hexNumber? digits with
      | none => malformed
      | some code => pure ([← codePoint code], c.advance (n + 1))
  | none, none =>
    if isBreak c.peek then quotedBreaks (c.rest.length + 1) c.lineBreak.2 [] else malformed

/-- The parts of a quoted scalar up to its closing quote. -/
def quotedParts : Nat → Char → Cursor → List Char → Except Fault (List Char × Cursor)
  | 0, _, _, _ => malformed
  | fuel + 1, quote, c, text => do
    let ch := c.peek
    if ch == quote then
      if quote == singleQuote && c.peek 1 == singleQuote then
        quotedParts fuel quote (c.advance 2) (text ++ [singleQuote])
      else pure (text, c.next)
    else if ch == ' ' || ch == '\t' || isEnd ch then
      let (blanks, c) ← quotedBlanks c
      quotedParts fuel quote c (text ++ blanks)
    else if quote == doubleQuote && ch == backslash then
      let (chars, c) ← escape c
      quotedParts fuel quote c (text ++ chars)
    else
      let stops := fun x =>
        x == singleQuote || x == doubleQuote || x == backslash || x == ' ' || x == '\t' || isEnd x
      let (run, after) := c.span (!stops ·)
      if run.isEmpty then quotedParts fuel quote c.next (text ++ [ch])
      else quotedParts fuel quote after (text ++ run)

/-- A quoted scalar. -/
def quotedScalar (c : Cursor) : Except Fault (List Char × Cursor) :=
  quotedParts (c.rest.length + 1) c.peek c.next []

/-! ### Plain scalars -/

/-- Whether a character is one of the indicators of flow collections. -/
def isFlowIndicator (c : Char) : Bool := ",[]\x7b\x7d".toList.contains c

/-- The run of plain characters at the cursor. A colon ends it before a gap, and inside flow
collections before an indicator. -/
def plainRun (flow : Bool) : List Char → List Char
  | [] => []
  | ch :: rest =>
    let after := rest.headD endMark
    if isGap ch || (ch == ':' && (isGap after || (flow && isFlowIndicator after)))
        || (flow && (ch == '?' || isFlowIndicator ch)) then []
    else ch :: plainRun flow rest

/-- The breaks and spaces after the first break inside a plain scalar, or nothing if a document mark
follows a break. -/
def plainBreaks : Nat → Cursor → List Char → Option (List Char) × Cursor
  | 0, c, breaks => (some breaks, c)
  | fuel + 1, c, breaks =>
    if c.peek == ' ' then plainBreaks fuel c.next breaks
    else if isBreak c.peek then
      let (br, c) := c.lineBreak
      if c.atDocumentMark then (none, c) else plainBreaks fuel c (breaks ++ br)
    else (some breaks, c)

/-- The blanks between two runs of a plain scalar, whether a line ended among them, and the cursor
behind them. Without blanks the scalar ends. -/
def plainBlanks (c : Cursor) : List Char × Bool × Cursor :=
  let (spaces, c) := c.span (· == ' ')
  if isBreak c.peek then
    let (br, c) := c.lineBreak
    if c.atDocumentMark then ([], true, c)
    else
      match plainBreaks (c.rest.length + 1) c [] with
      | (none, c) => ([], true, c)
      | (some breaks, c) =>
        let first := if br != ['\n'] then br else if breaks.isEmpty then [' '] else []
        (first ++ breaks, true, c)
  else (spaces, false, c)

/-- The runs of a plain scalar, whether its last blanks ended a line, and the cursor behind it. -/
def plainRuns : Nat → Bool → Int → Cursor → List Char → List Char → Bool →
    List Char × Bool × Cursor
  | 0, _, _, c, text, _, ended => (text, ended, c)
  | fuel + 1, flow, indent, c, text, blanks, ended =>
    let run := if c.peek == '#' then [] else plainRun flow c.rest
    if run.isEmpty then (text, ended, c)
    else
      let text := text ++ blanks ++ run
      let (blanks, ended, c) := plainBlanks (c.advance run.length)
      if blanks.isEmpty || c.peek == '#' || (!flow && decide ((c.column : Int) < indent)) then
        (text, ended, c)
      else plainRuns fuel flow indent c text blanks ended

/-- A plain scalar in a block of the given indentation, and whether the line ended behind it. -/
def plainScalar (flow : Bool) (outer : Int) (c : Cursor) : List Char × Bool × Cursor :=
  plainRuns (c.rest.length + 1) flow (outer + 1) c [] [] false

end TargetResolution.Yaml
