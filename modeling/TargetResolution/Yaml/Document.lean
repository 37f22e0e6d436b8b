import TargetResolution.Yaml.Members
import TargetResolution.Yaml.Object

/-!
Plain data of YAML documents. A document is read as a table of nodes, whose objects may share parts
and may hold themselves; its plain data is a tree, in which a collection that is met inside itself
is only marked.
-/

namespace TargetResolution.Yaml

/-- The values that are known already, by the places of their nodes. -/
abbrev Known := Array (Option Value)

/-- A value, and the nodes of the path to it that were met again inside of it. -/
abbrev Unfolded := StateM Known (Value × List NodeId)

/-- The collection as it is marked inside itself. -/
def Object.again : Object → Value
  | .map _ => .mapAgain
  | _ => .listAgain

/-- The results of a list of unfoldings. -/
def unfoldAll (unfold : NodeId → Unfolded) (ids : List NodeId) :
    StateM Known (List Value × List NodeId) := do
  let parts ← ids.mapM unfold
  return (parts.map (·.1), parts.flatMap (·.2))

/-- The results of a list of pairs of unfoldings. -/
def unfoldPairs (unfold : NodeId → Unfolded) (entries : List (NodeId × NodeId)) :
    StateM Known (List (Value × Value) × List NodeId) := do
  let (keys, met) ← unfoldAll unfold (entries.map (·.1))
  let (values, alsoMet) ← unfoldAll unfold (entries.map (·.2))
  return (keys.zip values, met ++ alsoMet)

/-- The value of an object whose parts are unfolded. -/
def unfoldObject (unfold : NodeId → Unfolded) (keyOf : NodeId → Option Key) : Object → Unfolded
  | .scalar value _ => return (value, [])
  | .list items => do
    let (values, met) ← unfoldAll unfold items
    return (.list values, met)
  | .map entries => do
    let (values, met) ← unfoldPairs unfold entries
    return (.map values, met)
  | .set members => do
    let (values, met) ← unfoldAll unfold (Members.ordered keyOf members)
    return (.set values, met)
  | .pairs entries => do
    let (values, met) ← unfoldPairs unfold entries
    return (.pairs values, met)

/-- The value of a node at the end of a path of collections. It is kept if no node of the path was
met again, for then it does not depend on the path. -/
def unfold (objects : Array (Option Object)) (keyOf : NodeId → Option Key) :
    Nat → List NodeId → NodeId → Unfolded
  | 0, _, _ => return (.null, [])
  | fuel + 1, path, id => do
    match (← get)[id]?, objects[id]? with
    | some (some value), _ => return (value, [])
    | _, some (some object) =>
      if path.contains id then return (object.again, [id])
      else
        let (value, met) ← unfoldObject (unfold objects keyOf fuel (id :: path)) keyOf object
        if met.isEmpty then modify fun known => known.setIfInBounds id (some value)
        return (value, (met.filter (· != id)).eraseDups)
    | _, _ => return (.null, [])

/-- The plain data of a document. The root itself stands on no path: each of its parts is looked at
alone. -/
def Graph.value (g : Graph) (objects : Array (Option Object)) : Value :=
  let keyOf (id : NodeId) : Option Key := (objects[id]?.join).bind Object.key?
  let part := unfold objects keyOf (g.nodes.size + 1) []
  match objects[g.root]? with
  | some (some object) =>
    ((unfoldObject part keyOf object).run (Array.replicate g.nodes.size none)).1.1
  | _ => .null

/-- The plain data of a YAML text. An empty stream is null. -/
def load (text : String) : Except Fault Value := do
  match ← Graph.ofStream? (TokenStream.ofText text.toList) with
  | none => return .null
  | some g => return g.value (← g.objects)

end TargetResolution.Yaml
