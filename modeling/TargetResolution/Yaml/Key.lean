import TargetResolution.Decimal.Fraction
import TargetResolution.Value.Basic
import TargetResolution.Yaml.Node

/-!
What a scalar is as a key of a mapping or as a member of a set. Numbers are compared as numbers
whatever their kind, moments as instants if their offsets are known, and all else within its kind.
-/

namespace TargetResolution.Yaml

/-- A key. -/
inductive Key where
  | null
  /-- A number as a fraction in lowest terms. Truth values are numbers. -/
  | number (numerator : Int) (denominator : Nat)
  | infinite (negative : Bool)
  /-- No number at all: the one that its word names, or one that a node makes for itself. -/
  | notANumber (node : Option NodeId)
  | text (s : String)
  | date (d : Date)
  /-- A moment whose offset is known, in microseconds. -/
  | instant (microseconds : Int)
  | moment (t : Moment)
  | octets (bytes : List Nat)
  deriving DecidableEq, Repr

namespace Key

/-- The key of a number. -/
def ofExact (node : Option NodeId) : Decimal.Exact → Key
  | .notANumber => .notANumber node
  | .infinite negative => .infinite negative
  | .finite numerator denominator => .number numerator denominator

/-- The key of a value, unless it is a collection. A value that is no number takes its identity from
the node. -/
def of? (node : Option NodeId) : Value → Option Key
  | .null => some .null
  | .bool b => some (.number (if b then 1 else 0) 1)
  | .int n => some (.number n 1)
  | .float x => some (ofExact node (Decimal.Exact.ofFloat x))
  | .str s => some (.text s)
  | .date d => some (.date d)
  | .moment t =>
    match t.instant? with
    | some microseconds => some (.instant microseconds)
    | none => some (.moment t)
  | .octets bytes => some (.octets bytes)
  | _ => none

end Key

end TargetResolution.Yaml
