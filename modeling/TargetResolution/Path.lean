import TargetResolution.Text.CharClass
import TargetResolution.Text.Lists

/-!
Paths. A path means a location, whatever its spelling: absolute or not, and the segments that are
left when empty and single-dot segments are dropped and each double dot takes back the segment
before it; a double dot stays only at the start of a relative location, and has no effect at the
root. Components are appended to a path without the slashes at their ends, and a component of
slashes only is skipped, so that an absent directory suffix can be appended like any other. The name
of a file is shown with its double dots, since they may lead through a link.
-/

namespace TargetResolution.Path

open Text

/-! ### Locations -/

/-- What a path means. -/
structure Location where
  absolute : Bool
  segments : List String
  deriving DecidableEq, Repr

/-- The trail of segments, last one first, after one more segment. -/
def follow (absolute : Bool) (trail : List String) (segment : String) : List String :=
  if segment = "" ∨ segment = "." then trail
  else if segment = ".." then
    match trail with
    | [] => if absolute then [] else [".."]
    | last :: earlier => if last = ".." then ".." :: trail else earlier
  else segment :: trail

/-- Whether a path starts at the root. -/
def isAbsolute (path : String) : Bool := path.toList.head? == some '/'

/-- The location of a path. -/
def Location.ofPath (path : String) : Location where
  absolute := isAbsolute path
  segments := ((splitOn '/' path).foldl (follow (isAbsolute path)) []).reverse

/-- The one spelling that stands for all paths to a location. -/
def Location.toPath (l : Location) : String :=
  if l.absolute then "/" ++ joinWith '/' l.segments
  else if l.segments = [] then "."
  else joinWith '/' l.segments

/-- The normal spelling of a path. -/
def normalize (path : String) : String := (Location.ofPath path).toPath

/-- The location that holds this one. The root has none, and neither has a relative location of one
segment, since the directory that it is relative to has no spelling of its own. -/
def Location.parent? (l : Location) : Option Location :=
  match l.absolute, l.segments with
  | _, [] => none
  | false, [_] => none
  | _, segments => some ⟨l.absolute, segments.dropLast⟩

theorem Location.length_segments_of_parent? {l p : Location} (h : l.parent? = some p) :
    p.segments.length < l.segments.length := by
  obtain ⟨a, s⟩ := l
  simp only [Location.parent?] at h
  split at h
  · simp at h
  · simp at h
  · next hne _ =>
    have : s ≠ [] := by rintro rfl; exact hne rfl
    obtain rfl := Option.some.inj h
    have := List.length_pos_iff.2 this
    simp only [List.length_dropLast]
    omega

/-! ### Joined paths -/

/-- Whether a character separates components. -/
def isSlash (c : Char) : Bool := c == '/'

/-- The component without the slashes at its ends. -/
def trimSlashes (s : String) : String := String.ofList (trim isSlash s.toList)

/-- The path without the slashes at its end. -/
def trimEndSlashes (s : String) : String := String.ofList (trimEnd isSlash s.toList)

/-- The path one component further. Dot segments stay as they are written. -/
def append (base component : String) : String :=
  let component := trimSlashes component
  if component = "" then base
  else if base = "" then component
  else trimEndSlashes base ++ "/" ++ component

/-- The path with all components appended in turn. -/
def join (base : String) (components : List String) : String :=
  components.foldl append base

theorem join_nil (base : String) : join base [] = base := rfl

theorem join_cons (base c : String) (cs : List String) :
    join base (c :: cs) = join (append base c) cs := rfl

/-! ### Names of files -/

/-- The slashes at the start of a path as they are kept: two stay two, more are one. -/
def leadingSlashes (path : String) : String :=
  match (path.toList.takeWhile (· == '/')).length with
  | 0 => ""
  | 2 => "//"
  | _ => "/"

/-- The tidy name of a file. Without any component it is the current directory. -/
def tidy (path : String) : String :=
  let components := (splitOn '/' path).filter fun c => c != "" && c != "."
  let name := leadingSlashes path ++ joinWith '/' components
  if name = "" then "." else name

end TargetResolution.Path
