import TargetResolution.Text.Digits
import TargetResolution.Yaml.Key

/-!
What the nodes of a document stand for. Scalars are made at once; a collection is announced first
and filled in its turn, first come, first served, so that it can hold itself. Of several faults the
one that is met first in this order counts.
-/

namespace TargetResolution.Yaml

open Text

/-- What a node stands for. Collections hold nodes. -/
inductive Object where
  | scalar (value : Value) (key : Key)
  | list (items : List NodeId)
  | map (entries : List (NodeId × NodeId))
  | set (members : List NodeId)
  | pairs (entries : List (NodeId × NodeId))

/-- The object as a key. Collections are none. -/
def Object.key? : Object → Option Key
  | .scalar _ key => some key
  | _ => none

/-- The state between two objects: the nodes, whose merges are resolved step by step, the objects
that are made or announced, and the collections that wait to be filled. -/
structure Builder where
  nodes : Array Node
  objects : Array (Option Object)
  waiting : List NodeId := []

/-- A making of objects. -/
abbrev Build := StateT Builder (Except Fault)

namespace Build

/-- The text is malformed. -/
def fail {α : Type} : Build α := throw .malformed

/-- The node at a place. -/
def nodeAt (id : NodeId) : Build Node := do
  match (← get).nodes[id]? with
  | some node => return node
  | none => fail

/-- The tag of the node at a place. -/
def tagAt (id : NodeId) : Build Tag := do return (← nodeAt id).tag

/-- The entries of the mapping at a place. Other nodes have none. -/
def entriesAt (id : NodeId) : Build (List (NodeId × NodeId)) := do
  match (← nodeAt id).content with
  | .mapping entries => return entries
  | _ => return []

/-- The state with another node at a place. -/
def putNode (id : NodeId) (node : Node) : Build Unit :=
  modify fun s => { s with nodes := s.nodes.setIfInBounds id node }

/-- The state with other entries of a mapping. -/
def putEntries (id : NodeId) (entries : List (NodeId × NodeId)) : Build Unit := do
  putNode id { (← nodeAt id) with content := .mapping entries }

/-- The state with the object of a node. -/
def putObject (id : NodeId) (object : Object) : Build Unit :=
  modify fun s => { s with objects := s.objects.setIfInBounds id (some object) }

/-! ### Scalars -/

/-- The text of a node where a scalar is asked for: a mapping may hold it under the key for
values. -/
def textOf : Nat → NodeId → Build (List Char)
  | 0, _ => throw (.scalar .endless)
  | fuel + 1, id => do
    match (← nodeAt id).content with
    | .scalar text => return text
    | .sequence _ => fail
    | .mapping entries =>
      match ← entries.filterM fun (k, _) => do return (← tagAt k) == .value with
      | (_, v) :: _ => textOf fuel v
      | [] => fail

/-- The octets that a text writes in base 64. -/
def octetsOf (text : List Char) : Except Fault Value :=
  if text.all fun c => decide (c.toNat < 0x80) then
    match base64Octets text [] 0 with
    | some bytes => .ok (.octets bytes)
    | none => .error .malformed
  else .error .malformed

/-- The value of a text with a tag for scalars, on a node that may be a mapping. -/
def scalarValue (tag : Tag) (isMapping : Bool) (text : List Char) : Except Fault Value :=
  let lift (r : Except ScalarFault Value) : Except Fault Value := r.mapError Fault.scalar
  match tag with
  | .null => .ok .null
  | .bool => lift ((booleanValue text).map .bool)
  | .int => lift ((integerValue text).map .int)
  | .float => lift ((floatValue text).map .float)
  | .str => .ok (.str (String.ofList text))
  | .timestamp =>
    if isMapping then .error (.scalar .timestampOfMapping) else lift (timestampValue text)
  | .binary => octetsOf text
  | _ => .error .malformed

/-- The object of a node with a tag for scalars. -/
def scalarObject (id : NodeId) (node : Node) : Build Object := do
  let text ← textOf ((← get).nodes.size + 1) id
  let isMapping := match node.content with
    | .mapping _ => true
    | _ => false
  let value ← scalarValue node.tag isMapping text
  match Key.of? (if isNotANumberWord text then none else some id) value with
  | some key => return .scalar value key
  | none => fail

/-! ### Collections -/

/-- The empty collection that a tag announces, if it is one for collections. -/
def announced? : Tag → Option Object
  | .seq => some (.list [])
  | .map => some (.map [])
  | .set => some (.set [])
  | .omap => some (.pairs [])
  | .pairs => some (.pairs [])
  | _ => none

/-- Whether a tag is one for scalars. -/
def isScalarTag : Tag → Bool
  | .null | .bool | .int | .float | .str | .timestamp | .binary => true
  | _ => false

/-- The object of a node, which is made only once. A collection is announced and waits. -/
def make (id : NodeId) : Build Object := do
  match (← get).objects[id]? with
  | some (some object) => return object
  | _ =>
    let node ← nodeAt id
    let object ←
      match announced? node.tag with
      | some object => do
        modify fun s => { s with waiting := s.waiting ++ [id] }
        pure object
      | none => if isScalarTag node.tag then scalarObject id node else fail
    putObject id object
    return object

/-- The key for values counts as a text once its mapping is looked at. -/
def renameValueKeys (entries : List (NodeId × NodeId)) : Build Unit :=
  entries.forM fun (k, _) => do
    let node ← nodeAt k
    if node.tag == .value then putNode k { node with tag := .str }

/-- The entries before the first one that merges, and those from it on. -/
def splitAtMerge : List (NodeId × NodeId) →
    Build (List (NodeId × NodeId) × List (NodeId × NodeId))
  | [] => return ([], [])
  | e :: rest => do
    if (← tagAt e.1) == .merge then return ([], e :: rest)
    else
      let (before, after) ← splitAtMerge rest
      return (e :: before, after)

mutual

/-- Resolves the merges of a mapping from an entry on. The entries that are merged in are gathered
and stand before the mapping's own in the end. Each step takes an entry away for good. -/
def mergeFrom : Nat → NodeId → Nat → List (NodeId × NodeId) → Build Unit
  | 0, _, _, _ => fail
  | fuel + 1, id, start, gathered => do
    let entries ← entriesAt id
    let (before, rest) ← splitAtMerge (entries.drop start)
    renameValueKeys before
    match rest with
    | [] => if !gathered.isEmpty then putEntries id (gathered ++ entries)
    | (_, v) :: after =>
      putEntries id (entries.take start ++ before ++ after)
      let more ← mergedIn fuel v
      mergeFrom fuel id (start + before.length) (gathered ++ more)

/-- The entries that a node under the key for merges brings in: those of a mapping, or those of
several, where earlier mappings go over later ones. -/
def mergedIn : Nat → NodeId → Build (List (NodeId × NodeId))
  | 0, _ => fail
  | fuel + 1, id => do
    match (← nodeAt id).content with
    | .scalar _ => fail
    | .mapping _ =>
      mergeFrom fuel id 0 []
      entriesAt id
    | .sequence items => do
      let parts ← items.mapM fun item => do
        match (← nodeAt item).content with
        | .mapping _ =>
          mergeFrom fuel item 0 []
          entriesAt item
        | _ => fail
      return parts.reverse.flatten

end

/-- The number of entries of all mappings. -/
def countEntries (nodes : Array Node) : Nat :=
  nodes.foldl
    (fun n node => match node.content with
      | .mapping entries => n + entries.length
      | _ => n) 0

/-- The entries with one more. A key that is there already keeps its place and its spelling and
takes the new value. -/
def putEntry : List (Key × NodeId × NodeId) → Key × NodeId × NodeId → List (Key × NodeId × NodeId)
  | [], e => [e]
  | (key, k, v) :: rest, e =>
    if key = e.1 then (key, k, e.2.2) :: rest else (key, k, v) :: putEntry rest e

/-- The entries of a mapping with the last value of each key. A key is made before its value, and
must be able to be one. -/
def keyedEntries (id : NodeId) : Build (List (NodeId × NodeId)) := do
  mergeFrom (2 * countEntries (← get).nodes + 2) id 0 []
  let entries ← (← entriesAt id).foldlM
    (fun made (k, v) => do
      match (← make k).key? with
      | none => fail
      | some key =>
        let _ ← make v
        return putEntry made (key, k, v)) []
  return entries.map (·.2)

/-- The only entry of a mapping, key and value made. -/
def pairOf (id : NodeId) : Build (NodeId × NodeId) := do
  match (← nodeAt id).content with
  | .mapping [(k, v)] =>
    let _ ← make k
    let _ ← make v
    return (k, v)
  | _ => fail

/-- Fills a collection that waits. -/
def fill (id : NodeId) : Build Unit := do
  let node ← nodeAt id
  match node.tag, node.content with
  | .seq, .sequence items =>
    items.forM fun item => do let _ ← make item
    putObject id (.list items)
  | .omap, .sequence items => putObject id (.pairs (← items.mapM pairOf))
  | .pairs, .sequence items => putObject id (.pairs (← items.mapM pairOf))
  | .map, .mapping _ => putObject id (.map (← keyedEntries id))
  | .set, .mapping _ => putObject id (.set ((← keyedEntries id).map (·.1)))
  | _, _ => fail

/-- Fills all collections that wait, and those that come to wait meanwhile. Each waits once. -/
def fillAll : Nat → Build Unit
  | 0 => pure ()
  | fuel + 1 => do
    match (← get).waiting with
    | [] => pure ()
    | id :: rest =>
      modify fun s => { s with waiting := rest }
      fill id
      fillAll fuel

end Build

/-- The objects of a document by the places of their nodes. Only what the root reaches is made. -/
def Graph.objects (g : Graph) : Except Fault (Array (Option Object)) := do
  let start : Builder := { nodes := g.nodes, objects := Array.replicate g.nodes.size none }
  let build : Build Unit := do
    let _ ← Build.make g.root
    Build.fillAll (g.nodes.size + 1)
  return (← build.run start).2.objects

end TargetResolution.Yaml
