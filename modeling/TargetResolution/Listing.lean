import TargetResolution.Path

/-!
Listings of existing paths, which stand in for the host's directories. A listed path exists with all
directories that hold it, and paths that mean one location exist together.
-/

namespace TargetResolution

/-- A set of existing locations. -/
structure Listing where
  locations : List Path.Location := []
  deriving DecidableEq, Repr

namespace Listing

/-- The listing with a location and the directories that hold it. Nothing is done for a location
that is there already, since what holds it is there as well. -/
def addLocation (t : Listing) (l : Path.Location) : Listing :=
  if l ∈ t.locations then t
  else
    match _h : l.parent? with
    | none => ⟨l :: t.locations⟩
    | some p => (⟨l :: t.locations⟩ : Listing).addLocation p
  termination_by l.segments.length
  decreasing_by exact Path.Location.length_segments_of_parent? _h

/-- The listing with a path that is not empty. -/
def add (t : Listing) (path : String) : Listing := t.addLocation (Path.Location.ofPath path)

/-- Whether a path exists. The empty path never does. -/
def contains (t : Listing) (path : String) : Bool :=
  path ≠ "" && decide (Path.Location.ofPath path ∈ t.locations)

/-- The number of existing locations. -/
def size (t : Listing) : Nat := t.locations.length

/-- The normal spellings of the existing locations. -/
def paths (t : Listing) : List String := t.locations.map Path.Location.toPath

/-- The listing with one more path, or nothing if the path is empty. -/
def add? (t : Listing) (path : String) : Option Listing :=
  if path = "" then none else some (t.add path)

/-- The listing of some paths, or nothing if one of them is empty. -/
def ofPaths? (paths : List String) : Option Listing :=
  paths.foldlM add? {}

end Listing

end TargetResolution
