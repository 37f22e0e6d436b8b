import TargetResolution.Proofs.Search.Run
import TargetResolution.Resolution.Toolchain

/-!
The outcome of a resolution: what each of its parts answers and asks when exactly the paths of a
predicate exist. Lists of directories are filters of their candidates; a directory that is looked
for in tiers is the first candidate that exists.
-/

namespace TargetResolution

namespace Triple

/-- A parsed triple keeps the text it was given as. -/
theorem text_of_parse {text : String} {t : Triple} (h : parse text = .ok t) : t.text = text := by
  unfold parse at h
  simp only at h
  split at h
  · exact absurd h (by simp)
  · split at h
    · exact absurd h (by simp)
    · exact absurd h (by simp)
    · split at h
      · exact absurd h (by simp)
      · split at h
        · exact absurd h (by simp)
        · split at h
          · exact absurd h (by simp)
          · obtain rfl := Except.ok.inj h
            rfl

end Triple

namespace Toolchain

variable (present : String → Bool)

@[simp] theorem queries_leaveAll (notes : List Note) : (leaveAll notes).queries present = [] := by
  induction notes with
  | nil => rfl
  | cons n notes ih => exact ih

theorem answer_findSysroot (forced installedDir : String) :
    (findSysroot forced installedDir).answer present =
      if forced ≠ "" then forced
      else if installedDir ≠ "" ∧ present (Sysroot.bundled installedDir) = true then
        Sysroot.bundled installedDir
      else "" := by
  unfold findSysroot
  by_cases hf : forced = ""
  · by_cases hi : installedDir = ""
    · simp [hf, hi]
    · cases h : present (Sysroot.bundled installedDir) <;> simp [hf, hi, h]
  · simp [hf]

theorem queries_findSysroot (forced installedDir : String) :
    (findSysroot forced installedDir).queries present =
      if forced = "" ∧ installedDir ≠ "" then [Sysroot.bundled installedDir] else [] := by
  unfold findSysroot
  by_cases hf : forced = ""
  · by_cases hi : installedDir = ""
    · simp [hf, hi]
    · cases h : present (Sysroot.bundled installedDir) <;> simp [hf, hi, h]
  · simp [hf]

/-- What the first look-ups of a resolution find. -/
def found (triple : Triple) (options : OptionList) (e : Environment) (variants : List Multilib) :
    Toolchain :=
  let floatAbi := options.floatAbi.1
  let flags := FlagSet.ofOptions options floatAbi
  let multilib := Multilib.select variants flags
  let sysroot := (findSysroot (forcedSysroot options e) e.installedDir).answer present
  { triple, options, environment := e, floatAbi, flags, multilib, sysroot
    diagnostics := (((Diagnostics.mk []).add options.floatAbi.2).add
      (RuntimeLibrary.checkRuntime options)).add (RuntimeLibrary.checkStandardLibrary options)
    runtimeDir := (RuntimeLibrary.runtimeCandidates e.resourceDir (targetNames triple)
      multilib.suffix).find? present
    standardLibraryDir := (RuntimeLibrary.standardLibraryCandidates e.driverDir
      (targetNames triple) multilib.suffix).find? present
    libraryDirs := ((Sysroot.mk sysroot triple.multiarch).libraryCandidates triple.version
      multilib.suffix).filter present }

theorem answer_search (triple : Triple) (options : OptionList) (e : Environment)
    (variants : List Multilib) :
    (search triple options e variants).answer present =
      found present triple options e variants := by
  simp only [search, found, Search.andThen_eq_bind, Search.pure_eq_done, Search.answer_andThen,
    Search.answer_done, SearchPath.answer_first?, SearchPath.answer_existing]

theorem queries_search (triple : Triple) (options : OptionList) (e : Environment)
    (variants : List Multilib) :
    let t := found present triple options e variants
    (search triple options e variants).queries present =
      (findSysroot (forcedSysroot options e) e.installedDir).queries present
        ++ SearchPath.upToFirst present (RuntimeLibrary.runtimeCandidates e.resourceDir
          (targetNames triple) t.multilib.suffix)
        ++ SearchPath.upToFirst present (RuntimeLibrary.standardLibraryCandidates e.driverDir
          (targetNames triple) t.multilib.suffix)
        ++ t.layout.libraryCandidates triple.version t.multilib.suffix := by
  simp only [search, found, layout, multiarch, Search.andThen_eq_bind, Search.pure_eq_done,
    Search.queries_andThen, Search.queries_done, queries_leaveAll, SearchPath.queries_first?,
    SearchPath.queries_existing, List.nil_append, List.append_nil, List.append_assoc]

/-- The C include directories that are looked for, in order. -/
def includeCandidates (t : Toolchain) : List String :=
  if t.options.has ["-nostdinc"] then []
  else t.builtinIncludeCandidates
    ++ if t.options.has ["-nostdlibinc"] then []
      else t.layout.includeCandidates t.environment.includeDirs

theorem answer_includeDirs (t : Toolchain) :
    t.includeDirs.answer present = t.includeCandidates.filter present := by
  unfold includeDirs includeCandidates
  split
  · rfl
  · rw [Search.answer_andThen, SearchPath.answer_existing, List.filter_append]
    split
    · simp
    · rw [Search.answer_andThen, SearchPath.answer_existing, Search.answer_done]

theorem queries_includeDirs (t : Toolchain) :
    t.includeDirs.queries present = t.includeCandidates := by
  unfold includeDirs includeCandidates
  split
  · rfl
  · rw [Search.queries_andThen, SearchPath.queries_existing]
    split
    · rfl
    · rw [Search.queries_andThen, SearchPath.queries_existing, Search.queries_done,
        List.append_nil]

/-- The directory of C++ headers that is looked for, if any. -/
def cxxIncludeCandidates (t : Toolchain) : List String :=
  if t.options.has ["-nostdlibinc", "-nostdinc++"] then []
  else [Path.join t.environment.driverDir ["..", "include", "c++", "v1"]]

theorem answer_cxxIncludeDirs (t : Toolchain) :
    t.cxxIncludeDirs.answer present = t.cxxIncludeCandidates.filter present := by
  unfold cxxIncludeDirs cxxIncludeCandidates
  split
  · rfl
  · rw [SearchPath.answer_existing]

theorem queries_cxxIncludeDirs (t : Toolchain) :
    t.cxxIncludeDirs.queries present = t.cxxIncludeCandidates := by
  unfold cxxIncludeDirs cxxIncludeCandidates
  split
  · rfl
  · rw [SearchPath.queries_existing]

/-- The runtime directory of the target's architecture. -/
def architectureDir (t : Toolchain) : String :=
  RuntimeLibrary.architectureDir t.environment.resourceDir t.triple.system
    t.triple.architectureName

theorem answer_filePaths (t : Toolchain) :
    t.filePaths.answer present =
      t.cxxModeDirs ++ [t.architectureDir].filter present ++ t.libraryDirs := by
  rw [filePaths, Search.answer_andThen, SearchPath.answer_existing, Search.answer_done]
  rfl

theorem queries_filePaths (t : Toolchain) : t.filePaths.queries present = [t.architectureDir] := by
  rw [filePaths, Search.queries_andThen, SearchPath.queries_existing, Search.queries_done]
  rfl

/-- The configuration of a toolchain for the directories that were looked up last. -/
def assemble (t : Toolchain) (includeDirs cxxIncludeDirs filePaths : List String) :
    Configuration where
  triple := t.triple
  environment := t.environment
  floatAbi := t.floatAbi
  multilib := t.multilib
  sysroot := t.sysroot
  multiarch := t.multiarch
  includeDirs := includeDirs
  cxxIncludeDirs := cxxIncludeDirs
  libraryDirs := t.libraryDirs
  filePaths := filePaths
  runtimeDir := t.runtimeDir
  standardLibraryDir := t.standardLibraryDir
  loader := t.loader
  linkerFlags := t.linkerFlags
  compilerOptions := LinkPolicy.compilerOptions t.options
  profileLinkArguments := t.profileLinkArguments
  sanitizers := t.sanitizers
  diagnostics := t.diagnostics

/-- The configuration of a toolchain when exactly the paths of a predicate exist. -/
def configured (t : Toolchain) : Configuration :=
  t.assemble (t.includeCandidates.filter present) (t.cxxIncludeCandidates.filter present)
    (t.cxxModeDirs ++ [t.architectureDir].filter present ++ t.libraryDirs)

theorem answer_configure (t : Toolchain) :
    t.configure.answer present = configured present t := by
  unfold configure configured assemble
  simp only [Search.andThen_eq_bind, Search.pure_eq_done, Search.answer_andThen,
    answer_includeDirs, answer_cxxIncludeDirs, answer_filePaths]
  split <;> rfl

theorem queries_configure (t : Toolchain) :
    t.configure.queries present =
      t.includeCandidates ++ t.cxxIncludeCandidates ++ [t.architectureDir] := by
  unfold configure
  simp only [Search.andThen_eq_bind, Search.pure_eq_done, Search.queries_andThen,
    queries_includeDirs, queries_cxxIncludeDirs, queries_filePaths]
  split <;> simp [Search.leave, Search.queries_andThen]

end Toolchain

namespace Resolution

/-- What a resolution comes to when exactly the paths of a predicate exist. -/
def found (present : String → Bool) (triple : Triple) (options : OptionList) (e : Environment)
    (variants : List Multilib) : Resolution :=
  let t := Toolchain.found present triple options e variants
  ⟨t, Toolchain.configured present t⟩

theorem answer_search (present : String → Bool) (triple : Triple) (options : OptionList)
    (e : Environment) (variants : List Multilib) :
    (search triple options e variants).answer present =
      found present triple options e variants := by
  simp [search, found, Search.leave, Search.answer_andThen, Toolchain.answer_search,
    Toolchain.answer_configure]

end Resolution

/-- An accepted target is resolved: first the toolchain is found, then it is configured. -/
theorem resolve_of_parse {target : String} {triple : Triple} (h : Triple.parse target = .ok triple)
    (tokens : List String) (e : Environment) :
    ∃ s, resolve target tokens e = .ok s ∧ ∀ present : String → Bool,
      let t := Toolchain.found present triple (.ofTokens tokens) e Multilib.catalog
      s.answer present = Toolchain.configured present t ∧
        s.queries present =
          (Toolchain.search triple (.ofTokens tokens) e Multilib.catalog).queries present
            ++ t.configure.queries present := by
  refine ⟨_, by rw [resolve, h]; rfl, ?_⟩
  intro present
  constructor
  · rw [Search.answer_andThen, Resolution.answer_search]
    rfl
  · simp [Resolution.search, Search.leave, Search.queries_andThen, Toolchain.answer_search]

/-- There is one search only that resolves a target, so every search that does runs like this. -/
theorem run_of_resolve {target : String} {triple : Triple} (h : Triple.parse target = .ok triple)
    {tokens : List String} {e : Environment} {s : Search Note Configuration}
    (hs : resolve target tokens e = .ok s) (present : String → Bool) :
    let t := Toolchain.found present triple (.ofTokens tokens) e Multilib.catalog
    s.answer present = Toolchain.configured present t ∧
      s.queries present =
        (Toolchain.search triple (.ofTokens tokens) e Multilib.catalog).queries present
          ++ t.configure.queries present := by
  obtain ⟨s', hs', hrun⟩ := resolve_of_parse h tokens e
  obtain rfl : s' = s := Except.ok.inj (hs'.symm.trans hs)
  exact hrun present

end TargetResolution
