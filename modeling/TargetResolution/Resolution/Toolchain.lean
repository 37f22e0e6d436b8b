import TargetResolution.LinkPolicy
import TargetResolution.Resolution.Configuration
import TargetResolution.Resolution.SearchPath
import TargetResolution.Triple.Multiarch

/-!
Toolchains: the resolution of one target for one list of options. `Toolchain.search` looks
everything up once; afterwards a toolchain answers from what was found. Only the include
directories, the C++ include directories and the file paths can be looked up again.
-/

namespace TargetResolution

/-- What one resolution was asked for, and what its first look-ups found. -/
structure Toolchain where
  triple : Triple
  options : OptionList
  environment : Environment
  floatAbi : FloatAbi
  flags : FlagSet
  multilib : Multilib
  diagnostics : Diagnostics
  sysroot : String
  runtimeDir : Option String
  standardLibraryDir : Option String
  libraryDirs : List String
  deriving DecidableEq, Repr

namespace Toolchain

/-- The multiarch name of the target. -/
def multiarch (t : Toolchain) : String := t.triple.multiarch

/-- The layout of the sysroot that was found. -/
def layout (t : Toolchain) : Sysroot := ⟨t.sysroot, t.multiarch⟩

/-- The names under which a target's directories are looked for: as it was given, normalized, and
the multiarch name. -/
def targetNames (t : Triple) : List String := [t.text, t.normalized, t.multiarch]

/-- The path of a runtime artifact of the target. -/
def artifactPath (t : Toolchain) (component : String) (kind : ArtifactKind) : String :=
  RuntimeLibrary.artifactPath t.environment.resourceDir t.triple.text t.multilib.suffix component
    kind

/-- The directories of compiler headers among the include directories. -/
def builtinIncludeCandidates (t : Toolchain) : List String :=
  if t.options.has ["-nobuiltininc"] then [] else [Path.join t.environment.resourceDir ["include"]]

/-- The existing C include directories, in the order of search. -/
def includeDirs (t : Toolchain) : Search Note (List String) :=
  if t.options.has ["-nostdinc"] then .done []
  else
    (SearchPath.existing t.builtinIncludeCandidates).andThen fun builtin =>
      if t.options.has ["-nostdlibinc"] then .done builtin
      else
        (SearchPath.existing (t.layout.includeCandidates t.environment.includeDirs)).andThen
          fun system => .done (builtin ++ system)

/-- The existing directory of C++ headers. -/
def cxxIncludeDirs (t : Toolchain) : Search Note (List String) :=
  if t.options.has ["-nostdlibinc", "-nostdinc++"] then .done []
  else SearchPath.existing [Path.join t.environment.driverDir ["..", "include", "c++", "v1"]]

/-- The directory of the C++ standard library, if the driver runs as a C++ compiler. -/
def cxxModeDirs (t : Toolchain) : List String :=
  if t.environment.cxxMode then t.standardLibraryDir.toList else []

/-- The directories that the linker searches: the C++ standard library in C++ mode, the runtime of
the architecture, and the libraries of the sysroot. -/
def filePaths (t : Toolchain) : Search Note (List String) :=
  (SearchPath.existing
    [RuntimeLibrary.architectureDir t.environment.resourceDir t.triple.system
      t.triple.architectureName]).andThen fun architecture =>
    .done (t.cxxModeDirs ++ architecture ++ t.libraryDirs)

/-- The path of the dynamic loader. -/
def loader (t : Toolchain) : String := t.triple.loader t.floatAbi

/-- The flags of every link. -/
def linkerFlags (t : Toolchain) : List String := LinkPolicy.linkerFlags t.environment.buildId

/-- The sanitizers that the target supports. -/
def sanitizers (t : Toolchain) : SanitizerSet := SanitizerSet.supported t.triple.architecture

/-- The arguments that link the profiling runtime. -/
def profileLinkArguments (t : Toolchain) : List String :=
  LinkPolicy.profileLinkArguments t.options (t.artifactPath "profile" .static)

/-- Notes left in order. -/
def leaveAll (notes : List Note) : Search Note Unit :=
  notes.foldr (fun n rest => .note n rest) (.done ())

/-- The sysroot: the one that is asked for or forced, else the one that comes with the compiler if
it exists, else the system's own. -/
def findSysroot (forced installedDir : String) : Search Note String :=
  if forced ≠ "" then .done forced
  else if installedDir = "" then .note .noSysroot (.done "")
  else
    .probe (Sysroot.bundled installedDir) fun found =>
      if found then .note (.bundledSysroot (Sysroot.bundled installedDir))
        (.done (Sysroot.bundled installedDir))
      else .note .noSysroot (.done "")

/-- The sysroot that the options ask for or the environment forces. An empty option is none. -/
def forcedSysroot (l : OptionList) (e : Environment) : String :=
  match l.lastValue? "--sysroot=" with
  | some path => if path = "" then e.sysroot else path
  | none => e.sysroot

/-- The notes about the selection of a multilib. -/
def multilibNote (variants : List Multilib) (flags : FlagSet) : Note :=
  if (Multilib.compatible variants flags).isEmpty then .noMultilibFits
  else .multilibSelected (Multilib.select variants flags).displayName

/-- The note about a multiarch name that is missing. -/
def multiarchNotes (t : Triple) : List Note :=
  if (MultiarchEntry.of? t.architecture).isNone then [.noMultiarch t.architecture.name t.text]
  else []

/-- The first look-ups of a resolution. -/
def search (triple : Triple) (options : OptionList) (environment : Environment)
    (variants : List Multilib) : Search Note Toolchain := do
  let (floatAbi, floatReport) := options.floatAbi
  leaveAll (floatReport.toList.map .diagnosed)
  let flags := FlagSet.ofOptions options floatAbi
  let multilib := Multilib.select variants flags
  let runtimeReport := RuntimeLibrary.checkRuntime options
  let standardReport := RuntimeLibrary.checkStandardLibrary options
  leaveAll ([.flagsFound flags.predicates, multilibNote variants flags]
    ++ (runtimeReport.toList ++ standardReport.toList).map .diagnosed)
  let sysroot ← findSysroot (forcedSysroot options environment) environment.installedDir
  leaveAll (multiarchNotes triple)
  let runtimeDir ← SearchPath.first?
    (RuntimeLibrary.runtimeCandidates environment.resourceDir (targetNames triple) multilib.suffix)
  let standardLibraryDir ← SearchPath.first?
    (RuntimeLibrary.standardLibraryCandidates environment.driverDir (targetNames triple)
      multilib.suffix)
  let libraryDirs ← SearchPath.existing
    ((Sysroot.mk sysroot triple.multiarch).libraryCandidates triple.version multilib.suffix)
  pure {
    triple, options, environment, floatAbi, flags, multilib
    diagnostics := (((Diagnostics.mk []).add floatReport).add runtimeReport).add standardReport
    sysroot, runtimeDir, standardLibraryDir, libraryDirs
  }

/-- The configuration of a toolchain. -/
def configure (t : Toolchain) : Search Note Configuration := do
  let includeDirs ← t.includeDirs
  let cxxIncludeDirs ← t.cxxIncludeDirs
  let filePaths ← t.filePaths
  if !t.profileLinkArguments.isEmpty then Search.leave (.profileArguments t.profileLinkArguments)
  pure {
    triple := t.triple
    environment := t.environment
    floatAbi := t.floatAbi
    multilib := t.multilib
    sysroot := t.sysroot
    multiarch := t.multiarch
    includeDirs, cxxIncludeDirs
    libraryDirs := t.libraryDirs
    filePaths
    runtimeDir := t.runtimeDir
    standardLibraryDir := t.standardLibraryDir
    loader := t.loader
    linkerFlags := t.linkerFlags
    compilerOptions := LinkPolicy.compilerOptions t.options
    profileLinkArguments := t.profileLinkArguments
    sanitizers := t.sanitizers
    diagnostics := t.diagnostics
  }

end Toolchain

/-- A toolchain with the configuration that was made from it. -/
structure Resolution where
  toolchain : Toolchain
  configuration : Configuration
  deriving DecidableEq, Repr

/-- The resolution of a parsed target. -/
def Resolution.search (triple : Triple) (options : OptionList) (environment : Environment)
    (variants : List Multilib) : Search Note Resolution := do
  let toolchain ← Toolchain.search triple options environment variants
  let configuration ← toolchain.configure
  Search.leave (.resolved triple.text toolchain.multilib.displayName toolchain.sysroot
    toolchain.libraryDirs.length)
  pure ⟨toolchain, configuration⟩

/-- The configuration of a target for some options and an environment. It fails only if the target
is no triple. -/
def resolve (target : String) (options : List String) (environment : Environment) :
    Except Triple.Error (Search Note Configuration) :=
  (Triple.parse target).map fun triple =>
    (Resolution.search triple (OptionList.ofTokens options) environment Multilib.catalog).andThen
      fun r => .done r.configuration

end TargetResolution
