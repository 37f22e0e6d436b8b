import TargetResolution.FloatAbi
import TargetResolution.Triple.Basic

/-!
The link policy. Targets of the bionic family are loaded by the system linker; targets of the musl
family by a loader whose name holds the architecture and, on ARM, the hard float ABI. Every link has
the same flags, and the profiling runtime is linked when the options ask for profiling or coverage.
-/

namespace TargetResolution

/-! ### Dynamic loaders -/

/-- The name of a target's architecture in the name of its loader: ARM flavours share two names. -/
def Triple.loaderArchitecture (t : Triple) : String :=
  match t.architecture with
  | .arm | .thumb => "arm"
  | .armeb | .thumbeb => "armeb"
  | _ => t.architectureName

/-- The path of the dynamic loader of a target. -/
def Triple.loader (t : Triple) (abi : FloatAbi) : String :=
  match t.family with
  | .bionic => if t.architecture.is64Bit then "/system/bin/linker64" else "/system/bin/linker"
  | .musl =>
    let mark := if t.architecture.isArm ∧ abi = .hard then "hf" else ""
    "/lib/ld-musl-" ++ t.loaderArchitecture ++ mark ++ ".so.1"

namespace LinkPolicy

/-! ### Flags and options -/

/-- The flags that every link gets, in order. The linker sees both hash styles. -/
def linkerFlags (buildId : Bool) : List String :=
  ["-z", "now", "-z", "relro", "-z", "max-page-size=4096", "--hash-style=gnu", "--hash-style=both"]
    ++ (if buildId then ["--build-id"] else []) ++ ["--enable-new-dtags"]

/-- The compiler options of the target. Initialisation arrays are used unless switched off. -/
def compilerOptions (l : OptionList) : List String :=
  if l.flag "-fuse-init-array" "-fno-use-init-array" true then ["-fuse-init-array"] else []

/-- A family of profiling flags: the flags that switch profiling on, and the one that does not. -/
structure ProfileFamily where
  positive : List String
  negative : String
  deriving DecidableEq, Repr

/-- The families of profiling flags. Two of them share their negative flag. -/
def profileFamilies : List ProfileFamily :=
  [ ⟨["-fprofile-arcs"], "-fno-profile-arcs"⟩,
    ⟨["-fprofile-generate", "-fprofile-generate="], "-fno-profile-generate"⟩,
    ⟨["-fprofile-instr-generate", "-fprofile-instr-generate="], "-fno-profile-instr-generate"⟩,
    ⟨["-fcs-profile-generate", "-fcs-profile-generate="], "-fno-profile-generate"⟩ ]

/-- Options that ask for profiling on their own. -/
def requestOptions : List String := ["-fcreate-profile", "-forder-file-instrumentation"]

/-- Options that ask for coverage. -/
def coverageOptions : List String := ["--coverage", "-coverage"]

/-- The option that asks for coverage notes. -/
def coverageNotesOption : String := "-ftest-coverage"

/-- The symbol that pulls in the initialisation of the profiling runtime. -/
def runtimeHook : String := "__llvm_profile_runtime"

/-- Whether the last flag of a family switches profiling on. -/
def ProfileFamily.isOn (f : ProfileFamily) (l : OptionList) : Bool :=
  match l.last? (f.positive ++ [f.negative]) with
  | none => false
  | some o => o.name != f.negative

/-- Whether the profiling runtime has to be linked. -/
def needsProfileRuntime (l : OptionList) : Bool :=
  l.has coverageOptions || profileFamilies.any (·.isOn l) || l.has requestOptions

/-- The arguments that link the profiling runtime. Its hook is left out in coverage builds. -/
def profileLinkArguments (l : OptionList) (runtime : String) : List String :=
  if needsProfileRuntime l then
    (if l.has coverageOptions || l.has [coverageNotesOption] then [] else ["-u" ++ runtimeHook])
      ++ [runtime]
  else []

end LinkPolicy

end TargetResolution
