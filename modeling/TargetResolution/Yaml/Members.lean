import TargetResolution.Yaml.Key

/-!
The order in which the members of a set are shown. Sets of numbers have an order that depends on the
numbers alone: each number has a place in a table, found from its residue modulo a prime, and the
table is shown from its start. All other sets are shown as they are written.
-/

namespace TargetResolution.Yaml.Members

open Decimal (twoTo)

/-- The modulus of residues, a prime of 61 binary digits. -/
def modulus : Nat := 0x1FFFFFFFFFFFFFFF

/-- The residue of infinity. -/
def infiniteResidue : Int := 314159

/-- The residue of one over a power of two. Since the modulus is one below the power of two with the
exponent 61, dividing by two is multiplying by the power with the exponent 60. -/
def halvings : Nat → Nat
  | 0 => 1
  | n + 1 => halvings n * twoTo 60 % modulus

/-- The residue of a number, if the key is one. Minus one stands for no residue and is avoided. -/
def residue? : Key → Option Int
  | .number numerator denominator =>
    let size := numerator.natAbs % modulus * halvings (Nat.log2 denominator) % modulus
    let residue : Int := if numerator < 0 then -size else size
    some (if residue = -1 then -2 else residue)
  | .infinite negative => some (if negative then -infiniteResidue else infiniteResidue)
  | _ => none

/-- The size of the table for a number of members: a power of two, eight at least, and more than
twice the number from five members on. -/
def tableSize (count : Nat) : Nat :=
  if count < 5 then 8 else max 8 (twoTo (Nat.log2 (2 * count) + 1))

/-- The places that are looked at together: a place and the nine behind it, as far as they all lie
in the table, or else the place alone. -/
def neighbours (size place : Nat) : List Nat :=
  if place + 9 < size then List.range' place 10 else [place]

/-- The first free place for a residue. From one group of places the next one follows by a step that
depends on the digits of the residue, fewer and fewer of them. -/
def freePlace? (size : Nat) (taken : List Nat) : Nat → Nat → Nat → Option Nat
  | 0, _, _ => none
  | fuel + 1, place, digits =>
    match (neighbours size place).find? (!taken.contains ·) with
    | some free => some free
    | none =>
      let digits := digits / 32
      freePlace? size taken fuel ((5 * place + 1 + digits) % size) digits

/-- The places of residues in a table. A residue below zero counts from the end of 64 binary
digits. -/
def places (size : Nat) (residues : List Int) : List Nat :=
  residues.foldl
    (fun taken residue =>
      let digits := (residue % Int.ofNat (twoTo 64)).toNat
      taken ++ [(freePlace? size taken (size + 64) (digits % size) digits).getD size]) []

/-- The members in the order in which they are shown. -/
def ordered (keyOf : NodeId → Option Key) (members : List NodeId) : List NodeId :=
  match members.mapM fun m => (keyOf m).bind residue? with
  | none => members
  | some residues =>
    let placed := (places (tableSize members.length) residues).zip members
    (placed.mergeSort fun a b => decide (a.1 ≤ b.1)).map (·.2)

end TargetResolution.Yaml.Members
