import TargetResolution.Recorder
import TargetResolution.Resolution.Toolchain

/-!
Sessions: a toolchain that has been found is asked questions while paths are added to its listing.
A session keeps what was resolved when it started, the listing as it is now, and a record of all
that was looked up since then. Most questions are answered from what was found; the include
directories, the C++ include directories and the file paths are looked up again.
-/

namespace TargetResolution

/-- What a toolchain can be asked. -/
inductive Question where
  | multilib
  | sysroot
  | libraryDirs
  | runtimeDir
  | standardLibraryDir
  | loader
  | linkerFlags
  | sanitizers
  /-- The path of a runtime artifact of the kind that is named. -/
  | artifactPath (component kindName : String)
  | configuration
  | includeDirs
  | cxxIncludeDirs
  | filePaths
  deriving DecidableEq, Repr

/-- Whether a question is looked up each time that it is asked. -/
def Question.looksUp : Question → Bool
  | .includeDirs | .cxxIncludeDirs | .filePaths => true
  | _ => false

/-- What a toolchain can answer. -/
inductive Answer where
  | multilib (m : Multilib)
  | text (s : String)
  | directory (d : Option String)
  | list (entries : List String)
  | sanitizers (s : SanitizerSet)
  | configuration (c : Configuration)
  | unknownKind (kindName : String)
  deriving DecidableEq, Repr

/-- The path of an artifact as an answer. A name that is no kind has none. -/
def Configuration.artifactAnswer (c : Configuration) (component kindName : String) : Answer :=
  match ArtifactKind.ofName? kindName with
  | none => .unknownKind kindName
  | some kind => .text (c.artifactPath component kind)

/-- How a question is answered. -/
def Resolution.ask (r : Resolution) : Question → Search Note Answer
  | .multilib => .done (.multilib r.toolchain.multilib)
  | .sysroot => .done (.text r.toolchain.sysroot)
  | .libraryDirs => .done (.list r.toolchain.libraryDirs)
  | .runtimeDir => .done (.directory r.toolchain.runtimeDir)
  | .standardLibraryDir => .done (.directory r.toolchain.standardLibraryDir)
  | .loader => .done (.text r.toolchain.loader)
  | .linkerFlags => .done (.list r.toolchain.linkerFlags)
  | .sanitizers => .done (.sanitizers r.toolchain.sanitizers)
  | .artifactPath component kindName => .done (r.configuration.artifactAnswer component kindName)
  | .configuration => .done (.configuration r.configuration)
  | .includeDirs => r.toolchain.includeDirs.andThen fun dirs => .done (.list dirs)
  | .cxxIncludeDirs => r.toolchain.cxxIncludeDirs.andThen fun dirs => .done (.list dirs)
  | .filePaths => r.toolchain.filePaths.andThen fun dirs => .done (.list dirs)

/-- A toolchain in use. -/
structure Session where
  resolution : Resolution
  listing : Listing
  record : Recorder := {}
  deriving DecidableEq, Repr

namespace Session

/-- What can be done in a session. -/
inductive Step where
  | add (path : String)
  | ask (q : Question)
  deriving DecidableEq, Repr

/-- What comes back from a step. -/
inductive Reply where
  | added
  /-- An empty path cannot be added. -/
  | emptyPath
  | answered (a : Answer)
  deriving DecidableEq, Repr

/-- The session of a resolution that has just been made for a listing. -/
def start (triple : Triple) (options : OptionList) (environment : Environment)
    (variants : List Multilib) (t : Listing) : Session :=
  let s := Resolution.search triple options environment variants
  { resolution := s.answer t.contains
    listing := t
    record := ⟨s.queries t.contains, s.hits t.contains⟩ }

/-- The answer to a question now. -/
def answer (s : Session) (q : Question) : Answer :=
  (s.resolution.ask q).answer s.listing.contains

/-- The paths that are looked up when a question is asked now. -/
def queries (s : Session) (q : Question) : List String :=
  (s.resolution.ask q).queries s.listing.contains

/-- Those of them that are found. -/
def hits (s : Session) (q : Question) : List String :=
  (s.resolution.ask q).hits s.listing.contains

/-- The session after a step, and what comes back. A step that fails leaves the session as it is. -/
def step (s : Session) : Step → Session × Reply
  | .add path =>
    match s.listing.add? path with
    | none => (s, .emptyPath)
    | some t => ({ s with listing := t }, .added)
  | .ask q =>
    ({ s with record := ⟨s.record.queries ++ s.queries q, s.record.hits ++ s.hits q⟩ },
      .answered (s.answer q))

/-- The session after some steps. -/
def after (s : Session) (steps : List Step) : Session :=
  steps.foldl (fun s x => (s.step x).1) s

end Session

end TargetResolution
