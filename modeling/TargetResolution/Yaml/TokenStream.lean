import TargetResolution.Yaml.Token

/-!
The tokens of a YAML text, up to its first fault. Indentation becomes start and end tokens of
blocks. A key of a mapping shows only at the colon behind it, so the places where a key may have
started are kept, one for each level of flow collections, and the key token is put in there
afterwards. Where a fault ends the text, the tokens behind such a place are lost with it.
-/

namespace TargetResolution.Yaml

/-- A place where a key on one line may have started. -/
structure KeyPlace where
  /-- The number of tokens before it. -/
  position : Nat
  /-- Whether a colon has to follow, since nothing else may stand in this column. -/
  required : Bool
  index : Nat
  line : Nat
  column : Nat
  deriving Repr

/-- The state between two tokens. -/
structure Lexer where
  cursor : Cursor
  tokens : Array Token := #[]
  flowLevel : Nat := 0
  /-- The column of the current block; -1 outside all blocks. -/
  indent : Int := -1
  /-- The columns of the blocks around the current one. -/
  outer : List Int := []
  /-- Whether a key may start at the cursor. -/
  keyAllowed : Bool := true
  /-- The places of possible keys, by flow level. -/
  keys : List (Nat × KeyPlace) := []

namespace Lexer

/-- Whether the cursor is inside a flow collection. -/
def inFlow (s : Lexer) : Bool := s.flowLevel != 0

/-- The state after one more token. -/
def push (s : Lexer) (t : Token) : Lexer := { s with tokens := s.tokens.push t }

/-- The state with the cursor elsewhere. -/
def moveTo (s : Lexer) (c : Cursor) : Lexer := { s with cursor := c }

/-- The state after a token of some characters. -/
def pushAt (s : Lexer) (t : Token) (length : Nat) : Lexer :=
  (s.push t).moveTo (s.cursor.advance length)

/-- The state behind spaces, comments and line breaks. A line break in a block allows a key. -/
def skipGaps : Nat → Lexer → Lexer
  | 0, s => s
  | fuel + 1, s =>
    let c := s.cursor.skip (· == ' ')
    let c := if c.peek == '#' then c.skip (!isEnd ·) else c
    if isBreak c.peek then
      skipGaps fuel { s with cursor := c.lineBreak.2, keyAllowed := s.keyAllowed || !s.inFlow }
    else s.moveTo c

/-- The state without the key places that are on another line or too far back. A required key that
is lost is a fault. -/
def dropStaleKeys (s : Lexer) : Except Fault Lexer :=
  let stale := fun (k : KeyPlace) =>
    k.line != s.cursor.line || decide (1024 < s.cursor.index - k.index)
  if s.keys.any fun (_, k) => stale k && k.required then malformed
  else .ok { s with keys := s.keys.filter fun (_, k) => !stale k }

/-- The state without the key place of the current level. -/
def dropKey (s : Lexer) : Except Fault Lexer :=
  match s.keys.lookup s.flowLevel with
  | some k =>
    if k.required then malformed
    else .ok { s with keys := s.keys.filter fun (level, _) => level != s.flowLevel }
  | none => .ok s

/-- The state with a key place at the cursor, where a key is allowed. -/
def saveKey (s : Lexer) : Except Fault Lexer :=
  if s.keyAllowed then do
    let s ← s.dropKey
    let c := s.cursor
    let place : KeyPlace :=
      ⟨s.tokens.size, !s.inFlow && s.indent == (c.column : Int), c.index, c.line, c.column⟩
    pure { s with keys := (s.flowLevel, place) :: s.keys }
  else .ok s

/-- The state with all blocks closed that start right of a column. -/
def closeBlocks (column : Int) : List Int → Lexer → Lexer
  | [], s => s
  | around :: rest, s =>
    if column < s.indent then
      closeBlocks column rest { s.push .blockEnd with indent := around, outer := rest }
    else s

/-- The state with the blocks closed, unless the cursor is in a flow collection. -/
def unwind (s : Lexer) (column : Int) : Lexer :=
  if s.inFlow then s else s.closeBlocks column s.outer

/-- The state with a block opened at a column, if it is right of the current one, and whether it
is. -/
def openBlock (s : Lexer) (column : Nat) : Lexer × Bool :=
  if s.indent < (column : Int) then
    ({ s with outer := s.indent :: s.outer, indent := column }, true)
  else (s, false)

/-- The state with a block opened at the cursor and its token. -/
def openBlockHere (s : Lexer) (t : Token) : Lexer :=
  let (s, opened) := s.openBlock s.cursor.column
  if opened then s.push t else s

/-- The last token. -/
def finish (s : Lexer) : Except Fault Lexer := do
  let s ← (s.unwind (-1)).dropKey
  pure (s.push .streamEnd)

/-- A token that ends all blocks and allows no key behind it. -/
def unblocked (s : Lexer) : Except Fault Lexer := do
  let s ← (s.unwind (-1)).dropKey
  pure { s with keyAllowed := false }

/-- The start of a flow collection. -/
def openFlow (s : Lexer) (t : Token) : Except Fault Lexer := do
  let s ← s.saveKey
  pure ({ s with flowLevel := s.flowLevel + 1, keyAllowed := true }.pushAt t 1)

/-- The end of a flow collection. -/
def closeFlow (s : Lexer) (t : Token) : Except Fault Lexer := do
  if s.flowLevel = 0 then malformed
  else
    let s ← s.dropKey
    pure ({ s with flowLevel := s.flowLevel - 1, keyAllowed := false }.pushAt t 1)

/-- The comma of a flow collection. -/
def flowEntry (s : Lexer) : Except Fault Lexer := do
  let s ← { s with keyAllowed := true }.dropKey
  pure (s.pushAt .flowEntry 1)

/-- The dash of a block sequence. -/
def blockEntry (s : Lexer) : Except Fault Lexer := do
  if !s.inFlow && !s.keyAllowed then malformed
  else
    let s := if s.inFlow then s else s.openBlockHere .blockSequenceStart
    let s ← { s with keyAllowed := true }.dropKey
    pure (s.pushAt .blockEntry 1)

/-- The question mark of a key. -/
def explicitKey (s : Lexer) : Except Fault Lexer := do
  if !s.inFlow && !s.keyAllowed then malformed
  else
    let s := if s.inFlow then s else s.openBlockHere .blockMappingStart
    let s ← { s with keyAllowed := !s.inFlow }.dropKey
    pure (s.pushAt .key 1)

/-- The state with the key token put in at the place of a key, and the start of a block before it if
the key starts one. -/
def insertKey (s : Lexer) (k : KeyPlace) : Lexer :=
  let s := { s with
    keys := s.keys.filter fun (level, _) => level != s.flowLevel
    tokens := s.tokens.insertIdxIfInBounds k.position .key
    keyAllowed := false }
  if s.inFlow then s
  else
    let (s, opened) := s.openBlock k.column
    if opened then
      { s with tokens := s.tokens.insertIdxIfInBounds k.position .blockMappingStart }
    else s

/-- The colon of a value. -/
def value (s : Lexer) : Except Fault Lexer := do
  match s.keys.lookup s.flowLevel with
  | some k => pure ((s.insertKey k).pushAt .value 1)
  | none =>
    if !s.inFlow && !s.keyAllowed then malformed
    else
      let s := if s.inFlow then s else s.openBlockHere .blockMappingStart
      let s ← { s with keyAllowed := !s.inFlow }.dropKey
      pure (s.pushAt .value 1)

/-- A lexeme that may start a key and allows none behind it. -/
def keyLexeme (s : Lexer) (read : Cursor → Except Fault (Token × Cursor)) : Except Fault Lexer := do
  let s ← s.saveKey
  let (t, c) ← read s.cursor
  pure ({ s with keyAllowed := false }.push t |>.moveTo c)

/-- A block scalar. A key may follow it. -/
def blockScalarToken (s : Lexer) (folded : Bool) : Except Fault Lexer := do
  let s ← { s with keyAllowed := true }.dropKey
  let (text, c) ← blockScalar folded s.indent s.cursor
  pure (s.push (.scalar text false) |>.moveTo c)

/-- A plain scalar. A key may follow it if a line ended behind it. -/
def plainToken (s : Lexer) : Except Fault Lexer := do
  let s ← s.saveKey
  let (text, ended, c) := plainScalar s.inFlow s.indent s.cursor
  pure ({ s with keyAllowed := ended }.push (.scalar text true) |>.moveTo c)

/-- Whether a plain scalar may start at the cursor. -/
def atPlain (s : Lexer) : Bool :=
  let ch := s.cursor.peek
  let indicator := "-?:,[]\x7b\x7d#&*!|>'%@\x60".toList.contains ch || ch == Text.doubleQuote
  (!isGap ch && !indicator)
    || (!isGap (s.cursor.peek 1) && (ch == '-' || (!s.inFlow && (ch == '?' || ch == ':'))))

/-- The state after the token at the cursor. -/
def token (s : Lexer) : Except Fault Lexer := do
  let c := s.cursor
  let gap := isGap (c.peek 1)
  match c.peek with
  | '%' =>
    if c.column = 0 then
      let s ← s.unblocked
      let (t, c) ← directive s.cursor
      pure (s.push t |>.moveTo c)
    else malformed
  | '[' => s.openFlow .flowSequenceStart
  | '\x7b' => s.openFlow .flowMappingStart
  | ']' => s.closeFlow .flowSequenceEnd
  | '\x7d' => s.closeFlow .flowMappingEnd
  | ',' => s.flowEntry
  | '*' => s.keyLexeme fun c => (anchorName c).map fun (name, c) => (.alias name, c)
  | '&' => s.keyLexeme fun c => (anchorName c).map fun (name, c) => (.anchor name, c)
  | '!' => s.keyLexeme fun c => (rawTag c).map fun (tag, c) => (.tag tag, c)
  | '\x27' => s.keyLexeme fun c => (quotedScalar c).map fun (text, c) => (.scalar text false, c)
  | '\x22' => s.keyLexeme fun c => (quotedScalar c).map fun (text, c) => (.scalar text false, c)
  | ch =>
    if c.column = 0 && c.atMark '-' then
      pure ((← s.unblocked).pushAt .documentStart 3)
    else if c.column = 0 && c.atMark '.' then
      pure ((← s.unblocked).pushAt .documentEnd 3)
    else if ch == '-' && gap then s.blockEntry
    else if ch == '?' && (s.inFlow || gap) then s.explicitKey
    else if ch == ':' && (s.inFlow || gap) then s.value
    else if ch == '|' && !s.inFlow then s.blockScalarToken false
    else if ch == '>' && !s.inFlow then s.blockScalarToken true
    else if s.atPlain then s.plainToken
    else malformed

/-- The state after the next token, or after the last one. -/
def step (s : Lexer) : Except Fault Lexer := do
  let s ← (s.skipGaps (s.cursor.rest.length + 1)).dropStaleKeys
  let s := s.unwind s.cursor.column
  if s.cursor.rest.isEmpty then s.finish else s.token

/-- The number of tokens that stand fast: no key token can be put in before them any more. -/
def settled (s : Lexer) : Nat :=
  match s.dropStaleKeys with
  | .error _ => 0
  | .ok s => s.keys.foldl (fun n (_, k) => min n k.position) s.tokens.size

end Lexer

/-- Tokens, and the fault that ends them, if there is one. -/
structure TokenStream where
  tokens : List Token
  fault : Option Fault := none
  deriving Repr

namespace TokenStream

/-- No tokens of a malformed text. -/
def refused : TokenStream := ⟨[], some .malformed⟩

/-- The tokens from a state on. Each token takes at least one character. -/
def run : Nat → Lexer → TokenStream
  | 0, _ => refused
  | fuel + 1, s =>
    match s.step with
    | .error fault => ⟨s.tokens.toList.take s.settled, some fault⟩
    | .ok s => if s.tokens.back? == some .streamEnd then ⟨s.tokens.toList, none⟩ else run fuel s

/-- The tokens of legal characters. A byte order mark at the start is skipped. -/
def ofLegal (text : List Char) : TokenStream :=
  let start : Cursor := { rest := text }
  let start := if start.peek.toNat == 0xFEFF then start.next else start
  run (text.length + 2) { cursor := start }

/-- The length of a piece of a text that is looked through for illegal characters at once. The first
piece has twice this length. -/
def pieceLength : Nat := 4096

/-- The number of characters in the pieces before the one that holds an illegal character. -/
def lengthBefore (illegal : Nat) : Nat :=
  if illegal < 2 * pieceLength then 0 else illegal / pieceLength * pieceLength

/-- The tokens of a text. An illegal character makes it malformed, unless a scalar in the pieces
before is at fault. -/
def ofText (text : List Char) : TokenStream :=
  match text.findIdx? (!isLegal ·) with
  | none => ofLegal text
  | some illegal =>
    if lengthBefore illegal = 0 then refused
    else
      match ofLegal (text.take (lengthBefore illegal) ++ [refusedMark]) with
      | ⟨tokens, some (.scalar fault)⟩ => ⟨tokens, some (.scalar fault)⟩
      | _ => refused

end TokenStream

end TargetResolution.Yaml
