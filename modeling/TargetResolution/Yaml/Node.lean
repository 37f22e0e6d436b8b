import TargetResolution.Yaml.Scalar
import TargetResolution.Yaml.TokenStream

/-!
The nodes of a YAML document: scalars, sequences and mappings with their tags. Nodes stand in a
table and name each other by their places, so that an alias is the node that it names. A collection
has its place before its content is read; an alias inside of it may name the collection itself.
-/

namespace TargetResolution.Yaml

/-- The place of a node in the table. -/
abbrev NodeId := Nat

/-- What a node holds. -/
inductive Content where
  | scalar (text : List Char)
  | sequence (items : List NodeId)
  | mapping (entries : List (NodeId × NodeId))
  deriving Repr

/-- A node with its tag. -/
structure Node where
  tag : Tag
  content : Content
  deriving Repr

/-- A document: the table of its nodes, and its root. -/
structure Graph where
  nodes : Array Node
  root : NodeId
  deriving Repr

namespace Graph

/-- The state between two nodes. -/
structure Reader where
  stream : TokenStream
  /-- What the handles of tags stand for. -/
  handles : List (String × String) := []
  /-- The nodes that anchors name. -/
  anchors : List (String × NodeId) := []
  nodes : Array Node := #[]

/-- A reading of nodes. -/
abbrev Read := StateT Reader (Except Fault)

/-- The text is malformed. -/
def fail {α : Type} : Read α := throw .malformed

/-- The tokens that are left. -/
def tokensLeft : Read (List Token) := do return (← get).stream.tokens

/-- The state with other tokens left. -/
def leave (tokens : List Token) : Read Unit :=
  modify fun s => { s with stream := { s.stream with tokens } }

/-- The next token. Behind the last one stands the fault of the text. -/
def peek : Read Token := do
  match (← get).stream with
  | ⟨t :: _, _⟩ => return t
  | ⟨[], some fault⟩ => throw fault
  | ⟨[], none⟩ => return .streamEnd

/-- The state without the next token. -/
def drop : Read Unit := do leave ((← tokensLeft).drop 1)

/-- Whether the next token satisfies a predicate. -/
def at? (p : Token → Bool) : Read Bool := do return p (← peek)

/-- The next token, which must be the given one. -/
def expect (t : Token) : Read Unit := do
  if (← peek) == t then drop else fail

/-- The place of a new node. -/
def add (node : Node) : Read NodeId :=
  modifyGet fun s => (s.nodes.size, { s with nodes := s.nodes.push node })

/-- An empty plain scalar. -/
def absent : Read NodeId := add ⟨.null, .scalar []⟩

/-- The full name of a tag. -/
def tagName (raw : RawTag) : Read String := do
  match raw.handle with
  | none => pure raw.suffix
  | some handle =>
    match (← get).handles.lookup handle with
    | none => fail
    | some start => pure (start ++ raw.suffix)

/-- The anchor and the tag before a node, in either order. -/
def properties : Read (Option String × Option String) := do
  match ← peek with
  | .anchor name =>
    drop
    match ← peek with
    | .tag raw =>
      drop
      return (some name, some (← tagName raw))
    | _ => return (some name, none)
  | .tag raw =>
    drop
    match ← peek with
    | .anchor name =>
      drop
      return (some name, some (← tagName raw))
    | _ => return (none, some (← tagName raw))
  | _ => return (none, none)

/-- The tag of a scalar. Plain scalars and those with the mark for no tag have the tag of their
form, quoted ones are texts. -/
def scalarTag (name : Option String) (plain : Bool) (text : List Char) : Tag :=
  match name with
  | none => if plain then plainTag text else .str
  | some "!" => plainTag text
  | some name => Tag.ofName name

/-- The tag of an empty node with properties: null by its form, unless a tag is given. -/
def emptyTag (name : Option String) : Tag :=
  match name with
  | none => plainTag []
  | some "!" => plainTag []
  | some name => Tag.ofName name

/-- The tag of a collection. -/
def collectionTag (name : Option String) (default : Tag) : Tag :=
  match name with
  | none => default
  | some "!" => default
  | some name => Tag.ofName name

/-- An anchor must be new. -/
def checkAnchor (anchor : Option String) : Read Unit := do
  match anchor with
  | none => pure ()
  | some name => if ((← get).anchors.lookup name).isSome then fail

/-- The place of a new node that an anchor names, if there is one. -/
def place (anchor : Option String) (node : Node) : Read NodeId := do
  let id ← add node
  match anchor with
  | none => pure ()
  | some name => modify fun s => { s with anchors := (name, id) :: s.anchors }
  return id

/-- A collection. It has its place before its content is read. -/
def collection (anchor : Option String) (tag : Tag) (content : Read Content) : Read NodeId := do
  let id ← place anchor ⟨tag, .sequence []⟩
  let content ← content
  modify fun s => { s with nodes := s.nodes.setIfInBounds id ⟨tag, content⟩ }
  return id

/-- The node that an alias names. -/
def aliased (name : String) : Read NodeId := do
  match (← get).anchors.lookup name with
  | some id => return id
  | none => fail

/-- An empty node, which must have an anchor or a tag. -/
def emptyOr (anchor name : Option String) : Read NodeId := do
  if anchor.isNone && name.isNone then fail
  else place anchor ⟨emptyTag name, .scalar []⟩

/-- Whether a block node that is left out ends here. -/
def endsEntry (t : Token) : Bool := t == .key || t == .value || t == .blockEnd

mutual

/-- A node. Block collections are allowed in blocks, and sequences without indentation behind keys
and values. -/
def read : Nat → Bool → Bool → Read NodeId
  | 0, _, _ => fail
  | fuel + 1, block, indentless => do
    match ← peek with
    | .alias name =>
      drop
      aliased name
    | _ =>
      let (anchor, name) ← properties
      let next ← peek
      checkAnchor anchor
      let sequenceOf (items : Read (List NodeId)) : Read NodeId :=
        collection anchor (collectionTag name .seq) (do return .sequence (← items))
      let mappingOf (entries : Read (List (NodeId × NodeId))) : Read NodeId :=
        collection anchor (collectionTag name .map) (do return .mapping (← entries))
      match next with
      | .blockEntry =>
        if indentless then sequenceOf (indentlessItems fuel) else emptyOr anchor name
      | .scalar text plain =>
        drop
        place anchor ⟨scalarTag name plain text, .scalar text⟩
      | .flowSequenceStart =>
        drop
        sequenceOf (flowItems fuel true)
      | .flowMappingStart =>
        drop
        mappingOf (flowEntries fuel true)
      | .blockSequenceStart =>
        if block then
          drop
          sequenceOf (blockItems fuel)
        else emptyOr anchor name
      | .blockMappingStart =>
        if block then
          drop
          mappingOf (blockEntries fuel)
        else emptyOr anchor name
      | _ => emptyOr anchor name

/-- The items of a block sequence. -/
def blockItems : Nat → Read (List NodeId)
  | 0 => fail
  | fuel + 1 => do
    match ← peek with
    | .blockEntry =>
      drop
      let item ← if ← at? (fun t => t == .blockEntry || t == .blockEnd) then absent
        else read fuel true false
      return item :: (← blockItems fuel)
    | .blockEnd =>
      drop
      return []
    | _ => fail

/-- The items of a sequence without an indentation of its own. -/
def indentlessItems : Nat → Read (List NodeId)
  | 0 => fail
  | fuel + 1 => do
    match ← peek with
    | .blockEntry =>
      drop
      let item ← if ← at? (fun t => t == .blockEntry || endsEntry t) then absent
        else read fuel true false
      return item :: (← indentlessItems fuel)
    | _ => return []

/-- The entries of a block mapping. -/
def blockEntries : Nat → Read (List (NodeId × NodeId))
  | 0 => fail
  | fuel + 1 => do
    match ← peek with
    | .blockEnd =>
      drop
      return []
    | .key =>
      drop
      let key ← if ← at? endsEntry then absent else read fuel true true
      let value ← blockValue fuel
      return (key, value) :: (← blockEntries fuel)
    | _ => fail

/-- The value behind a key of a block mapping. -/
def blockValue : Nat → Read NodeId
  | 0 => fail
  | fuel + 1 => do
    match ← peek with
    | .value =>
      drop
      if ← at? endsEntry then absent else read fuel true true
    | _ => absent

/-- The items of a flow sequence. A key makes a mapping of one entry. -/
def flowItems : Nat → Bool → Read (List NodeId)
  | 0, _ => fail
  | fuel + 1, first => do
    if ← at? (· == .flowSequenceEnd) then
      drop
      return []
    if !first then expect .flowEntry
    match ← peek with
    | .flowSequenceEnd =>
      drop
      return []
    | .key =>
      drop
      let ends := fun t => t == .flowEntry || t == .flowSequenceEnd
      let bare ← at? fun t => t == .value || ends t
      let key ← if bare then absent else read fuel false false
      let value ← flowValue fuel ends
      let pair ← add ⟨.map, .mapping [(key, value)]⟩
      return pair :: (← flowItems fuel false)
    | _ =>
      let item ← read fuel false false
      return item :: (← flowItems fuel false)

/-- The entries of a flow mapping. A node without a value has null. -/
def flowEntries : Nat → Bool → Read (List (NodeId × NodeId))
  | 0, _ => fail
  | fuel + 1, first => do
    if ← at? (· == .flowMappingEnd) then
      drop
      return []
    if !first then expect .flowEntry
    match ← peek with
    | .flowMappingEnd =>
      drop
      return []
    | .key =>
      drop
      let ends := fun t => t == .flowEntry || t == .flowMappingEnd
      let bare ← at? fun t => t == .value || ends t
      let key ← if bare then absent else read fuel false false
      let value ← flowValue fuel ends
      return (key, value) :: (← flowEntries fuel false)
    | _ =>
      let key ← read fuel false false
      return (key, ← absent) :: (← flowEntries fuel false)

/-- The value behind a key of a flow collection. -/
def flowValue : Nat → (Token → Bool) → Read NodeId
  | 0, _ => fail
  | fuel + 1, ends => do
    match ← peek with
    | .value =>
      drop
      if ← at? ends then absent else read fuel false false
    | _ => absent

end

/-- The handles that need no directive. -/
def standardHandles : List (String × String) := [("!", "!"), ("!!", Tag.standardStart)]

/-- The directives before a document, and what handles stand for after them. A version is given at
most once and must be of the first major version, a handle is given at most once. -/
def directives : List Token → Bool → List (String × String) →
    Except Fault (List Token × List (String × String))
  | .versionDirective major _ :: rest, seen, handles =>
    if seen || major ≠ 1 then malformed else directives rest true handles
  | .tagDirective handle start :: rest, seen, handles =>
    if (handles.lookup handle).isSome then malformed
    else directives rest seen ((handle, start) :: handles)
  | .otherDirective :: rest, seen, handles => directives rest seen handles
  | tokens, _, handles => .ok (tokens, handles ++ standardHandles)

/-- Whether a token stands outside of documents. -/
def endsDocument (t : Token) : Bool :=
  match t with
  | .versionDirective .. | .tagDirective .. | .otherDirective => true
  | .documentStart | .documentEnd | .streamEnd => true
  | _ => false

/-- The state behind marks for the end of a document. -/
def skipEnds : Read Unit := do leave ((← tokensLeft).dropWhile (· == .documentEnd))

/-- The state behind the directives of a document, with the handles that they declare. -/
def readDirectives : Read Unit := do
  let (rest, handles) ← directives (← tokensLeft) false []
  leave rest
  modify fun s => { s with handles }

/-- The root of a document, behind which nothing may follow. A second document is refused, faults of
its directives coming first. -/
def onlyRoot (root : Read NodeId) : Read (Option NodeId) := do
  let id ← root
  skipEnds
  if (← peek) == .streamEnd then return some id
  else
    readDirectives
    let _ ← peek
    fail

/-- The root of the only document of a stream, if it holds one. -/
def readRoot : Read (Option NodeId) := do
  let content := read (4 * (← tokensLeft).length + 8) true false
  let first ← peek
  if !endsDocument first || first == .documentEnd then
    modify fun s => { s with handles := standardHandles }
    onlyRoot content
  else
    skipEnds
    if (← peek) == .streamEnd then return none
    else
      readDirectives
      expect .documentStart
      if endsDocument (← peek) then onlyRoot absent else onlyRoot content

/-- The only document of a stream, if it holds one. -/
def ofStream? (stream : TokenStream) : Except Fault (Option Graph) := do
  let (root, s) ← readRoot.run { stream }
  return root.map fun root => ⟨s.nodes, root⟩

end Graph

end TargetResolution.Yaml
