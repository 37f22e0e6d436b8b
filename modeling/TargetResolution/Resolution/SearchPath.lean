import TargetResolution.Resolution.Note
import TargetResolution.Search
import TargetResolution.Triple.Version

/-!
Search paths. A sysroot has a library directory for each level of the target's version next to the
unversioned one, and the include directories; candidates stand from the most to the least specific.
A search through candidates keeps the existing ones in order, or the first one that exists.
-/

namespace TargetResolution

/-! ### The layout of a sysroot -/

/-- A sysroot and the multiarch name of a target. The empty sysroot is the system's own. -/
structure Sysroot where
  path : String
  multiarch : String
  deriving DecidableEq, Repr

namespace Sysroot

/-- The sysroot that comes with a compiler, relative to the directory of its binary. -/
def bundled (installedDir : String) : String := installedDir ++ "/" ++ "../../sysroot"

/-- The library directory of the target, without a version. -/
def libraryDir (s : Sysroot) : String := s.path ++ "/usr/lib/" ++ s.multiarch

/-- The library directories of a version, most specific first. -/
def libraryCandidates (s : Sysroot) (v : Version) (suffix : String) : List String :=
  let major := toString v.major
  let minor := toString v.minor
  let micro := toString v.micro
  [ s.libraryDir ++ "/" ++ major ++ "." ++ minor ++ "." ++ micro ++ suffix,
    s.libraryDir ++ "/" ++ major ++ "." ++ minor ++ suffix,
    s.libraryDir ++ "/" ++ major ++ suffix,
    s.libraryDir ++ suffix ]

/-- The C include directories. Configured ones replace the layout, absolute ones among them under
the sysroot. -/
def includeCandidates (s : Sysroot) (configured : List String) : List String :=
  if configured.isEmpty then
    [ s.path ++ "/usr/include/" ++ s.multiarch, s.path ++ "/include", s.path ++ "/usr/include" ]
  else configured.map fun d => if d.toList.head? = some '/' then s.path ++ d else d

end Sysroot

/-! ### Searches through candidates -/

namespace SearchPath

/-- Whether a candidate exists; if not, it is noted as skipped. -/
def keep (path : String) : Search Note Bool :=
  .probe path fun found => if found then .done true else .note (.skipped path) (.done false)

/-- The existing candidates, in order. -/
def existing : List String → Search Note (List String)
  | [] => .done []
  | path :: rest =>
    (keep path).andThen fun found =>
      (existing rest).andThen fun more => .done (if found then path :: more else more)

/-- The first candidate that exists. Candidates behind it are not asked for. -/
def first? : List String → Search Note (Option String)
  | [] => .done none
  | path :: rest =>
    .probe path fun found =>
      if found then .note (.found path) (.done (some path)) else first? rest

end SearchPath

end TargetResolution
