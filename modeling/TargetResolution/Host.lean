import TargetResolution.Document
import TargetResolution.Text.Lists

/-!
Hosts: trees of directories and files in which paths are resolved one component at a time. Unlike in
a listing, every component but the last must be a directory, so a double dot behind a file or behind
nothing leads nowhere.
-/

namespace TargetResolution

open Text

/-- A place in a tree: so many levels above the current directory's known surroundings, or a
sequence of names below them. -/
inductive Place where
  | root
  | above (levels : Nat)
  | below (names : List String)
  deriving DecidableEq, Repr

/-- The tree of a host around a current directory. -/
structure Host where
  /-- The names that lead from the known surroundings to the current directory. -/
  current : List String
  /-- The directories, each by the names that lead to it. -/
  directories : List (List String)
  /-- The files with their texts. -/
  files : List (List String × String)
  deriving DecidableEq, Repr

namespace Host

/-- The most octets that one name may have. -/
def nameLimit : Nat := 255

/-- The first number of octets that a path may not have. -/
def pathLimit : Nat := 4096

/-- The names of a path, without empty and single-dot components. -/
def namesOf (path : String) : List String :=
  (splitOn '/' path).filter fun name => name != "" && name != "."

/-- The starts of a sequence of names, itself among them. -/
def starts (names : List String) : List (List String) :=
  (List.range (names.length + 1)).map names.take

/-- The host with some directories and files in a current directory that is otherwise empty. The
directories that hold them exist too. -/
def ofEntries (current : List String) (directories : List String) (files : List (String × String)) :
    Host where
  current := current
  directories :=
    starts current ++ directories.flatMap (fun d => starts (current ++ namesOf d))
      ++ files.flatMap fun (f, _) => starts (current ++ (namesOf f).dropLast)
  files := files.map fun (f, text) => (current ++ namesOf f, text)

/-- What a place holds. -/
inductive Entry where
  | directory (place : Place)
  | file (content : String)
  deriving DecidableEq, Repr

/-- What the names below the known surroundings lead to. -/
def entry? (h : Host) (names : List String) : Option Entry :=
  if names ∈ h.directories then some (.directory (.below names))
  else (h.files.lookup names).map .file

/-- One level up. The root holds itself. -/
def up : Place → Place
  | .root => .root
  | .above n => .above (n + 1)
  | .below [] => .above 1
  | .below names => .below names.dropLast

/-- The entry of one more component. Only directories have components. -/
def follow (h : Host) (component : String) : Entry → Except FileState Entry
  | .file _ => .error .missing
  | .directory place =>
    if component = "" ∨ component = "." then .ok (.directory place)
    else if component = ".." then .ok (.directory (up place))
    else if nameLimit < component.utf8ByteSize then .error .nameTooLong
    else
      match place with
      | .below names =>
        match h.entry? (names ++ [component]) with
        | some e => .ok e
        | none => .error .missing
      | _ => .error .missing

/-- What stands under a path. -/
def state (h : Host) (path : String) : FileState :=
  if path = "" then .missing
  else if pathLimit ≤ path.utf8ByteSize then .nameTooLong
  else
    let start := Entry.directory (if path.toList.head? = some '/' then .root else .below h.current)
    match (splitOn '/' path).foldlM (fun e component => h.follow component e) start with
    | .ok (.directory _) => .directory
    | .ok (.file content) => .text content
    | .error s => s

/-- Whether a path exists. -/
def contains (h : Host) (path : String) : Bool :=
  match h.state path with
  | .directory => true
  | .text _ => true
  | _ => false

end Host

end TargetResolution
