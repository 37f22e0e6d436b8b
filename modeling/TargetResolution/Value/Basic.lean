import TargetResolution.Calendar

/-!
Plain data, as configuration documents hold it and reports are made of: scalars, lists and mappings
that keep the order of their keys.
-/

namespace TargetResolution

/-- Plain data. Dates, moments, octets, sets, lists of pairs and collections inside
of themselves occur in documents only. -/
inductive Value where
  | null
  | bool (b : Bool)
  | int (n : Int)
  | float (x : Float)
  | str (s : String)
  | list (items : List Value)
  | map (entries : List (Value × Value))
  | date (d : Date)
  | moment (t : Moment)
  | octets (bytes : List Nat)
  | set (members : List Value)
  | pairs (entries : List (Value × Value))
  /-- A list that is met again inside of itself. -/
  | listAgain
  /-- A mapping that is met again inside of itself. -/
  | mapAgain
  deriving Inhabited

namespace Value

/-- The entry of a mapping under a text key. -/
def entry? (key : String) : List (Value × Value) → Option Value
  | [] => none
  | (.str k, v) :: rest => if k = key then some v else entry? key rest
  | _ :: rest => entry? key rest

/-- The text, if the value is one. -/
def text? : Value → Option String
  | .str s => some s
  | _ => none

/-- The texts of a list, if all items are texts. -/
def texts? (items : List Value) : Option (List String) := items.mapM text?

theorem texts?_map_str (texts : List String) : texts? (texts.map .str) = some texts := by
  unfold texts?
  induction texts with
  | nil => rfl
  | cons s texts ih =>
    rw [List.map_cons, List.mapM_cons, ih]
    rfl

theorem texts?_eq_some_iff {items : List Value} {texts : List String} :
    texts? items = some texts ↔ items = texts.map .str := by
  constructor
  · intro h
    induction items generalizing texts with
    | nil =>
      obtain rfl := Option.some.inj h
      rfl
    | cons v items ih =>
      unfold texts? at h ih
      rw [List.mapM_cons] at h
      obtain ⟨s, hs, h⟩ := Option.bind_eq_some_iff.1 h
      obtain ⟨rest, hrest, h⟩ := Option.bind_eq_some_iff.1 h
      obtain rfl := Option.some.inj h
      rw [ih hrest]
      cases v <;> first | rw [← Option.some.inj hs]; rfl | cases hs
  · rintro rfl
    exact texts?_map_str texts

/-- Whether a value counts as absent where an empty one may stand for none: null, false, zero, and
whatever is empty. -/
def isVoid : Value → Bool
  | .null => true
  | .bool b => !b
  | .int n => n == 0
  | .float x => x == 0.0
  | .str s => s == ""
  | .list items => items.isEmpty
  | .map entries => entries.isEmpty
  | .octets bytes => bytes.isEmpty
  | .set members => members.isEmpty
  | .pairs entries => entries.isEmpty
  | .date _ => false
  | .moment _ => false
  | .listAgain => false
  | .mapAgain => false

/-- The name that messages give to the kind of a value. -/
def kindName : Value → String
  | .null => "NoneType"
  | .bool _ => "bool"
  | .int _ => "int"
  | .float _ => "float"
  | .str _ => "str"
  | .list _ => "list"
  | .map _ => "dict"
  | .date _ => "datetime.date"
  | .moment _ => "datetime.datetime"
  | .octets _ => "bytes"
  | .set _ => "set"
  | .pairs _ => "list"
  | .listAgain => "list"
  | .mapAgain => "dict"

end Value

end TargetResolution
