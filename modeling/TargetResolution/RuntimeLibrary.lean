import TargetResolution.Diagnostic.Basic
import TargetResolution.OptionList
import TargetResolution.Path
import TargetResolution.Text.Case

/-!
The compiler runtime and the C++ standard library: the directories in which they are looked for, the
names of runtime artifacts, and the checks of the options that choose a library.
-/

namespace TargetResolution

/-- Kinds of runtime artifacts. -/
inductive ArtifactKind where
  | object
  | static
  | shared
  deriving DecidableEq, Repr

namespace ArtifactKind

/-- All kinds. -/
def all : List ArtifactKind := [.object, .static, .shared]

/-- The name of a kind. -/
def name : ArtifactKind → String
  | .object => "object"
  | .static => "static"
  | .shared => "shared"

/-- The name of a kind in capitals. -/
def capitalName : ArtifactKind → String
  | .object => "OBJECT"
  | .static => "STATIC"
  | .shared => "SHARED"

/-- What the file name of an artifact starts with. -/
def start : ArtifactKind → String
  | .object => ""
  | _ => "lib"

/-- What the file name of an artifact ends in. -/
def extension : ArtifactKind → String
  | .object => ".o"
  | .static => ".a"
  | .shared => ".so"

/-- The kind of a name. Capitals do not matter. -/
def ofName? (name : String) : Option ArtifactKind :=
  (Text.asciiUpper? name).bind fun capitals => all.find? fun k => k.capitalName == capitals

/-- The wording for a name that is no kind. -/
def unknownMessage (name : String) : String :=
  "Unknown artifact kind: " ++ name ++ ". Supported kinds: "
    ++ ", ".intercalate (all.map ArtifactKind.name)

/-- The file name of a component's artifact. -/
def fileName (kind : ArtifactKind) (component : String) : String :=
  kind.start ++ "clang_rt." ++ component ++ kind.extension

end ArtifactKind

namespace RuntimeLibrary

/-- The path of a runtime artifact under the resource directory. -/
def artifactPath (resourceDir target suffix component : String) (kind : ArtifactKind) : String :=
  Path.join resourceDir ["lib", target, suffix, kind.fileName component]

/-- The directories of the compiler runtime, for some names of a target. -/
def runtimeCandidates (resourceDir : String) (names : List String) (suffix : String) :
    List String :=
  names.map fun name => Path.join resourceDir ["lib", name, suffix]

/-- The directories of the C++ standard library, for some names of a target. -/
def standardLibraryCandidates (driverDir : String) (names : List String) (suffix : String) :
    List String :=
  names.map fun name => Path.join driverDir ["../lib", name, "c++", suffix]

/-- The runtime directory of an architecture. -/
def architectureDir (resourceDir system architectureName : String) : String :=
  Path.join resourceDir ["lib", system, architectureName]

/-- The compiler runtime, the only one there is. -/
def runtimeName : String := "compiler-rt"

/-- The C++ standard library, the only one there is. -/
def standardLibraryName : String := "libc++"

/-- The arguments that link the C++ standard library. -/
def standardLibraryLinkArguments : List String := ["-lc++", "-lc++abi", "-lunwind"]

/-- The report about the last of some options, unless it asks for the only library there is. -/
def checkChoice (l : OptionList) (names : List String) (only : String) (kind : Diagnostic.Kind) :
    Option Diagnostic :=
  match l.last? names with
  | none => none
  | some o => if o.value = only then none else some (.about kind o.text)

/-- The report about the choice of the compiler runtime. -/
def checkRuntime (l : OptionList) : Option Diagnostic :=
  checkChoice l ["--rtlib=", "-rtlib="] runtimeName .runtimeLibrary

/-- The report about the choice of the C++ standard library. -/
def checkStandardLibrary (l : OptionList) : Option Diagnostic :=
  checkChoice l ["--stdlib=", "-stdlib="] standardLibraryName .standardLibrary

end RuntimeLibrary

end TargetResolution
