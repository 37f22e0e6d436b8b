import Mathlib.Data.List.Infix
import TargetResolution.Proofs.Multilib.Catalog
import TargetResolution.Proofs.Resolution.Outcome
import TargetResolution.Proofs.Result

/-!
The questions of a resolution. An agenda lists the candidates of a resolution group by group, with
the options that leave a group out. Main statement: through a recorder, a resolution asks for its
agenda and nothing else, in tiers only up to the first hit, and all that it finds are hits.
-/

namespace TargetResolution

open SearchPath (upToFirst)

/-- The candidates of a resolution, in the order in which the groups are looked for. -/
structure Agenda where
  /-- The sysroot that comes with the compiler. -/
  bundled : List String
  /-- The tiers of the runtime directory. -/
  runtime : List String
  /-- The tiers of the directory of the C++ standard library. -/
  standardLibrary : List String
  library : List String
  headers : List String
  cxxHeaders : List String
  /-- The runtime directory of the architecture. -/
  architecture : List String

namespace Agenda

/-- The agenda for a target under a sysroot and a multilib suffix. The libraries lie under the whole
version, under ever shorter parts of it, and under none. The headers are those of the compiler and
of the system; configured directories replace the system's own, the absolute ones among them under
the sysroot. -/
def of (target : String) (triple : Triple) (options : OptionList) (e : Environment)
    (sysroot suffix : String) : Agenda where
  bundled :=
    if (options.lastValue? "--sysroot=").getD "" = "" ∧ e.sysroot = "" ∧ e.installedDir ≠ "" then
      [e.installedDir ++ "/../../sysroot"]
    else []
  runtime := [target, triple.normalized, triple.multiarch].map fun name =>
    Path.join e.resourceDir ["lib", name, suffix]
  standardLibrary := [target, triple.normalized, triple.multiarch].map fun name =>
    Path.join e.driverDir ["../lib", name, "c++", suffix]
  library :=
    let dir := sysroot ++ "/usr/lib/" ++ triple.multiarch
    let v := triple.version
    [ s!"{dir}/{v.major}.{v.minor}.{v.micro}{suffix}",
      s!"{dir}/{v.major}.{v.minor}{suffix}",
      s!"{dir}/{v.major}{suffix}",
      s!"{dir}{suffix}" ]
  headers :=
    let compiler :=
      if options.has ["-nobuiltininc"] then [] else [Path.join e.resourceDir ["include"]]
    let configured := e.includeDirs.map fun d =>
      if d.toList.head? = some '/' then sysroot ++ d else d
    let layout :=
      [ sysroot ++ "/usr/include/" ++ triple.multiarch, sysroot ++ "/include",
        sysroot ++ "/usr/include" ]
    let system := if e.includeDirs = [] then layout else configured
    if options.has ["-nostdinc"] then []
    else compiler ++ (if options.has ["-nostdlibinc"] then [] else system)
  cxxHeaders :=
    if options.has ["-nostdlibinc"] ∨ options.has ["-nostdinc++"] then []
    else [Path.join e.driverDir ["..", "include", "c++", "v1"]]
  architecture := [Path.join e.resourceDir ["lib", triple.system, triple.architectureName]]

/-- The bundled sysroot is a candidate when no other one is named. -/
theorem bundled_of_unnamed {target : String} {triple : Triple} {options : OptionList}
    {e : Environment} {sysroot suffix : String}
    (hoption : (options.lastValue? "--sysroot=").getD "" = "") (he : e.sysroot = "")
    (hinstalled : e.installedDir ≠ "") :
    (of target triple options e sysroot suffix).bundled = [e.installedDir ++ "/../../sysroot"] :=
  if_pos ⟨hoption, he, hinstalled⟩

/-- The questions that an agenda comes to: tiers end with the first hit, the other groups are asked
for as a whole. -/
def questions (present : String → Bool) (a : Agenda) : List String :=
  a.bundled ++ upToFirst present a.runtime ++ upToFirst present a.standardLibrary ++ a.library
    ++ a.headers ++ a.cxxHeaders ++ a.architecture

/-- The questions that are answered with yes. -/
theorem filter_questions (present : String → Bool) (a : Agenda) :
    (a.questions present).filter present =
      a.bundled.filter present ++ (a.runtime.find? present).toList
        ++ (a.standardLibrary.find? present).toList ++ a.library.filter present
        ++ a.headers.filter present ++ a.cxxHeaders.filter present
        ++ a.architecture.filter present := by
  simp only [questions, List.filter_append, SearchPath.filter_upToFirst]

/-- What a configuration has from an agenda: the first hit of each tier, the hits of each group in
order, and as file paths the C++ standard library in C++ mode, the runtime of the architecture and
the libraries. -/
structure FoundIn (a : Agenda) (present : String → Bool) (c : Configuration) : Prop where
  runtimeDir : c.runtimeDir = a.runtime.find? present
  standardLibraryDir : c.standardLibraryDir = a.standardLibrary.find? present
  libraryDirs : c.libraryDirs = a.library.filter present
  includeDirs : c.includeDirs = a.headers.filter present
  cxxIncludeDirs : c.cxxIncludeDirs = a.cxxHeaders.filter present
  filePaths : c.filePaths =
    (if c.environment.cxxMode then c.standardLibraryDir.toList else [])
      ++ a.architecture.filter present ++ c.libraryDirs

/-- Every directory that a configuration has from an agenda is one of the hits. -/
theorem FoundIn.mem_hits {present : String → Bool} {a : Agenda} {c : Configuration}
    (h : a.FoundIn present c) {d : String}
    (hd : d ∈ c.includeDirs ∨ d ∈ c.cxxIncludeDirs ∨ d ∈ c.libraryDirs ∨ d ∈ c.filePaths
      ∨ c.runtimeDir = some d ∨ c.standardLibraryDir = some d) :
    d ∈ (a.questions present).filter present := by
  rw [filter_questions, ← h.runtimeDir, ← h.standardLibraryDir, ← h.libraryDirs, ← h.includeDirs,
    ← h.cxxIncludeDirs]
  simp only [List.mem_append, Option.mem_toList]
  rcases hd with hd | hd | hd | hd | hd | hd
  · simp [hd]
  · simp [hd]
  · simp [hd]
  · rw [h.filePaths, List.mem_append, List.mem_append] at hd
    rcases hd with (hd | hd) | hd
    · split at hd
      · simp [Option.mem_toList.1 hd]
      · exact absurd hd (by simp)
    · simp [hd]
    · simp [hd]
  · simp [hd]
  · simp [hd]

end Agenda

/-! ### Options -/

namespace OptionList

/-- An option with one of two names occurs if one with the first or one with the second does. -/
theorem has_pair (l : OptionList) (a b : String) :
    l.has [a, b] = true ↔ l.has [a] = true ∨ l.has [b] = true := by
  simp only [has, last?, List.find?_isSome, List.mem_reverse, decide_eq_true_iff, List.mem_cons,
    List.not_mem_nil, or_false]
  constructor
  · rintro ⟨o, ho, h | h⟩
    · exact Or.inl ⟨o, ho, h⟩
    · exact Or.inr ⟨o, ho, h⟩
  · rintro (⟨o, ho, h⟩ | ⟨o, ho, h⟩)
    · exact ⟨o, ho, Or.inl h⟩
    · exact ⟨o, ho, Or.inr h⟩

end OptionList

/-- The forced sysroot is that of the last option, or of the environment if that one is missing or
empty. -/
theorem Toolchain.forcedSysroot_eq (l : OptionList) (e : Environment) :
    forcedSysroot l e =
      if (l.lastValue? "--sysroot=").getD "" = "" then e.sysroot
      else (l.lastValue? "--sysroot=").getD "" := by
  unfold forcedSysroot
  cases l.lastValue? "--sysroot=" <;> rfl

/-- No sysroot is forced exactly when neither the options nor the environment name one. -/
theorem Toolchain.forcedSysroot_eq_empty_iff (l : OptionList) (e : Environment) :
    forcedSysroot l e = "" ↔ (l.lastValue? "--sysroot=").getD "" = "" ∧ e.sysroot = "" := by
  rw [forcedSysroot_eq]
  split <;> simp_all

/-! ### The run and its agenda -/

namespace Toolchain

variable (present : String → Bool) (triple : Triple) (options : OptionList) (e : Environment)
  (variants : List Multilib)

/-- The agenda of the toolchain that is found. -/
def agenda : Agenda :=
  let t := found present triple options e variants
  .of triple.text triple options e t.sysroot t.multilib.suffix

theorem queries_findSysroot_eq_bundled :
    (findSysroot (forcedSysroot options e) e.installedDir).queries present =
      (agenda present triple options e variants).bundled := by
  rw [queries_findSysroot]
  simp only [forcedSysroot_eq_empty_iff, agenda, Agenda.of, and_assoc, Sysroot.bundled,
    String.append_assoc]
  rfl

/-- The library directories that are looked for are those of the agenda. -/
theorem libraryCandidates_found :
    let t := found present triple options e variants
    t.layout.libraryCandidates triple.version t.multilib.suffix =
      (agenda present triple options e variants).library := rfl

/-- The include directories that are looked for are those of the agenda. -/
theorem includeCandidates_found :
    (found present triple options e variants).includeCandidates =
      (agenda present triple options e variants).headers := by
  simp only [includeCandidates, builtinIncludeCandidates, layout, Sysroot.includeCandidates, agenda,
    Agenda.of, List.isEmpty_iff]
  rfl

theorem cxxIncludeCandidates_found :
    (found present triple options e variants).cxxIncludeCandidates =
      (agenda present triple options e variants).cxxHeaders := by
  simp only [cxxIncludeCandidates, agenda, Agenda.of, found, OptionList.has_pair]

/-- Finding and configuring a toolchain asks for its agenda. -/
theorem queries_eq_questions :
    (search triple options e variants).queries present
        ++ (found present triple options e variants).configure.queries present =
      (agenda present triple options e variants).questions present := by
  rw [queries_search, queries_configure, includeCandidates_found, cxxIncludeCandidates_found,
    queries_findSysroot_eq_bundled present triple options e variants, libraryCandidates_found]
  simp only [Agenda.questions, List.append_assoc]
  rfl

/-- The sysroot is the one that the last option names, else the one of the environment, else the
bundled one if it exists. -/
theorem sysroot_found :
    (found present triple options e variants).sysroot =
      if (options.lastValue? "--sysroot=").getD "" ≠ "" then
        (options.lastValue? "--sysroot=").getD ""
      else if e.sysroot ≠ "" then e.sysroot
      else ((agenda present triple options e variants).bundled.find? present).getD "" := by
  have hbundled := queries_findSysroot_eq_bundled present triple options e variants
  rw [queries_findSysroot] at hbundled
  rw [← hbundled]
  show (findSysroot (forcedSysroot options e) e.installedDir).answer present = _
  rw [answer_findSysroot, forcedSysroot_eq]
  by_cases hnamed : (options.lastValue? "--sysroot=").getD "" = ""
  · by_cases he : e.sysroot = ""
    · by_cases hi : e.installedDir = ""
      · simp [hnamed, he, hi]
      · cases h : present (Sysroot.bundled e.installedDir) <;> simp [hnamed, he, hi, h]
    · simp [hnamed, he]
  · simp [hnamed]

/-- The configuration of the toolchain that is found has what its agenda finds. -/
theorem foundIn_configured :
    (agenda present triple options e variants).FoundIn present
      (configured present (found present triple options e variants)) where
  runtimeDir := rfl
  standardLibraryDir := rfl
  libraryDirs := by rw [← libraryCandidates_found]; rfl
  includeDirs := by rw [← includeCandidates_found]; rfl
  cxxIncludeDirs := by rw [← cxxIncludeCandidates_found]; rfl
  filePaths := rfl

end Toolchain

/-- An accepted target is resolved, and a recorder keeps exactly the questions of its agenda. The
directories of the configuration are the hits among their candidates, in the order of the
candidates, and each of them is recorded as a hit. -/
theorem resolve_asks_agenda {target : String} {triple : Triple}
    (accepted : Triple.parse target = .ok triple) (tokens : List String) (e : Environment)
    (t : Listing) :
    ∃ s c record, resolve target tokens e = .ok s ∧ Recorder.recorded t s {} = (c, record) ∧
      let options := OptionList.ofTokens tokens
      let named := (options.lastValue? "--sysroot=").getD ""
      let a := Agenda.of target triple options e c.sysroot c.multilib.suffix
      record.queries = a.questions t.contains ∧
        record.hits = record.queries.filter t.contains ∧
        c.environment = e ∧
        c.sysroot = (if named ≠ "" then named else if e.sysroot ≠ "" then e.sysroot
          else (a.bundled.find? t.contains).getD "") ∧
        a.FoundIn t.contains c ∧
        ∀ d, d ∈ c.includeDirs ∨ d ∈ c.cxxIncludeDirs ∨ d ∈ c.libraryDirs ∨ d ∈ c.filePaths
            ∨ c.runtimeDir = some d ∨ c.standardLibraryDir = some d → d ∈ record.hits := by
  obtain ⟨s, hs, hrun⟩ := resolve_of_parse accepted tokens e
  obtain ⟨hanswer, hqueries⟩ := hrun t.contains
  obtain rfl := Triple.text_of_parse accepted
  rw [Toolchain.queries_eq_questions] at hqueries
  have hfound := Toolchain.foundIn_configured t.contains triple (.ofTokens tokens) e
    Multilib.catalog
  have hsysroot := Toolchain.sysroot_found t.contains triple (.ofTokens tokens) e Multilib.catalog
  have hrecorded := Recorder.recorded_eq t s {}
  rw [hanswer, Search.hits_eq_filter, hqueries] at hrecorded
  simp only [List.nil_append] at hrecorded
  exact ⟨s, _, _, hs, hrecorded, rfl, rfl, rfl, hsysroot, hfound, fun d hd => hfound.mem_hits hd⟩

theorem resolve_asks_agenda_bundled :
    let e : Environment :=
      { installedDir := "/bin", resourceDir := "/res", driverDir := "/bin" }
    let installed : List (List String) :=
      [ ["res", "lib", "arm-unknown-linux-ohos9.2", "a7_soft"], ["sysroot", "usr", "include"],
        ["sysroot", "usr", "lib", "arm-linux-ohos", "9.2", "a7_soft"] ]
    let t : Listing := ⟨(installed.flatMap List.inits).map (Path.Location.mk true)⟩
    let triple : Triple :=
      { text := "arm-linux-ohos9.2", architecture := .arm, architectureName := "arm",
        vendor := "unknown", system := "linux", environment := "ohos", version := ⟨9, 2, 0⟩,
        family := .bionic, systemPart := "linux", environmentPart := "ohos9.2" }
    Triple.parse triple.text = .ok triple ∧
      ∃ s c record, resolve triple.text ["-mcpu=cortex-a7"] e = .ok s ∧
        Recorder.recorded t s {} = (c, record) ∧
        record.queries =
          [ "/bin/../../sysroot",
            "/res/lib/arm-linux-ohos9.2/a7_soft",
            "/res/lib/arm-unknown-linux-ohos9.2/a7_soft",
            "/bin/../lib/arm-linux-ohos9.2/c++/a7_soft",
            "/bin/../lib/arm-unknown-linux-ohos9.2/c++/a7_soft",
            "/bin/../lib/arm-linux-ohos/c++/a7_soft",
            "/bin/../../sysroot/usr/lib/arm-linux-ohos/9.2.0/a7_soft",
            "/bin/../../sysroot/usr/lib/arm-linux-ohos/9.2/a7_soft",
            "/bin/../../sysroot/usr/lib/arm-linux-ohos/9/a7_soft",
            "/bin/../../sysroot/usr/lib/arm-linux-ohos/a7_soft",
            "/res/include",
            "/bin/../../sysroot/usr/include/arm-linux-ohos",
            "/bin/../../sysroot/include",
            "/bin/../../sysroot/usr/include",
            "/bin/../include/c++/v1",
            "/res/lib/linux/arm" ] ∧
        c.runtimeDir = some "/res/lib/arm-unknown-linux-ohos9.2/a7_soft" ∧
        c.libraryDirs = ["/bin/../../sysroot/usr/lib/arm-linux-ohos/9.2/a7_soft"] ∧
        c.includeDirs = ["/bin/../../sysroot/usr/include"] ∧
        ∀ d ∈ c.libraryDirs ++ c.includeDirs, d ∈ record.hits := by
  intro e installed t triple
  have accepted : Triple.parse triple.text = .ok triple :=
    eq_ok_of_toOption_eq_some (by decide +kernel)
  obtain ⟨s, c, record, hs, hrecorded, hqueries, -, -, hsysroot, hfound, hhits⟩ :=
    resolve_asks_agenda accepted ["-mcpu=cortex-a7"] e t
  have hmultilib : c.multilib = Multilib.cortexA7Soft := by
    have hanswer : c = s.answer t.contains :=
      congrArg Prod.fst (hrecorded.symm.trans (Recorder.recorded_eq t s {}))
    rw [hanswer, (run_of_resolve accepted hs t.contains).1]
    refine (Multilib.select_catalog _ _).trans ?_
    decide +kernel
  have hroot : c.sysroot = "/bin/../../sysroot" := by
    rw [hsysroot, Agenda.bundled_of_unnamed (by decide +kernel) rfl (by decide)]
    decide +kernel
  rw [hroot, hmultilib] at hqueries hfound
  refine ⟨accepted, s, c, record, hs, hrecorded, ?_, ?_, ?_, ?_, fun d hd => hhits d ?_⟩
  · rw [hqueries]
    decide +kernel
  · rw [hfound.runtimeDir]
    decide +kernel
  · rw [hfound.libraryDirs]
    decide +kernel
  · rw [hfound.includeDirs]
    decide +kernel
  · rcases List.mem_append.1 hd with hd | hd
    · exact .inr (.inr (.inl hd))
    · exact .inl hd

end TargetResolution
