import TargetResolution.Environment
import TargetResolution.LinkPolicy
import TargetResolution.Multilib
import TargetResolution.RuntimeLibrary
import TargetResolution.Sanitizer

/-!
Resolved configurations: all that a builder of compile and link commands needs for one target. The
order of every list is the order of search or of the command line.
-/

namespace TargetResolution

/-- The configuration of one target. -/
structure Configuration where
  triple : Triple
  environment : Environment
  floatAbi : FloatAbi
  multilib : Multilib
  sysroot : String
  multiarch : String
  includeDirs : List String
  cxxIncludeDirs : List String
  libraryDirs : List String
  filePaths : List String
  runtimeDir : Option String
  standardLibraryDir : Option String
  loader : String
  linkerFlags : List String
  compilerOptions : List String
  profileLinkArguments : List String
  sanitizers : SanitizerSet
  diagnostics : Diagnostics
  deriving DecidableEq, Repr

namespace Configuration

/-- The target as it was given. -/
def target (c : Configuration) : String := c.triple.text

/-- The library directories of the compiler itself. -/
def libraryPaths (c : Configuration) : List String := c.runtimeDir.toList

/-- The path of a runtime artifact of the target. -/
def artifactPath (c : Configuration) (component : String) (kind : ArtifactKind) : String :=
  RuntimeLibrary.artifactPath c.environment.resourceDir c.target c.multilib.suffix component kind

/-- Texts as plain data. -/
def textList (texts : List String) : Value := .list (texts.map .str)

/-- A text that may be absent as plain data. -/
def optionalText (text : Option String) : Value := (text.map Value.str).getD .null

/-- The entries of a report about the configuration. -/
def entries (c : Configuration) : List (Value × Value) :=
  [ (.str "target", .str c.target),
    (.str "normalized_triple", .str c.triple.normalized),
    (.str "libc", .str c.triple.family.name),
    (.str "float_abi", .str c.floatAbi.name),
    (.str "multilib", .str c.multilib.displayName),
    (.str "multilib_suffix", .str c.multilib.suffix),
    (.str "sysroot", .str c.sysroot),
    (.str "multiarch_triple", .str c.multiarch),
    (.str "include_dirs", textList c.includeDirs),
    (.str "cxx_include_dirs", textList c.cxxIncludeDirs),
    (.str "library_dirs", textList c.libraryDirs),
    (.str "file_paths", textList c.filePaths),
    (.str "runtime_dir", optionalText c.runtimeDir),
    (.str "cxx_stdlib_dir", optionalText c.standardLibraryDir),
    (.str "runtime_lib", .str RuntimeLibrary.runtimeName),
    (.str "cxx_stdlib", .str RuntimeLibrary.standardLibraryName),
    (.str "dynamic_linker", .str c.loader),
    (.str "linker_flags", textList c.linkerFlags),
    (.str "cxx_stdlib_link_args", textList RuntimeLibrary.standardLibraryLinkArguments),
    (.str "target_cc1_args", textList c.compilerOptions),
    (.str "profile_link_args", textList c.profileLinkArguments),
    (.str "sanitizers", textList c.sanitizers.names),
    (.str "diagnostics", textList (c.diagnostics.reported.map Diagnostic.text)) ]

end Configuration

end TargetResolution
