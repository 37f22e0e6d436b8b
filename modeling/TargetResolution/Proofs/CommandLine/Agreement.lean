import TargetResolution.Proofs.CommandLine.Status
import TargetResolution.Proofs.Environment.Override

/-!
What the commands have in common. All that a configuration says apart from its directories is
decided by the target, the options and the environment, whatever exists. So the command for a
multilib, which sees the options only, and the command for a runtime artifact, for which nothing
exists, print what the configuration of the resolving command says.
-/

namespace TargetResolution

/-! ### What does not depend on the existing paths -/

namespace Configuration

/-- The configuration without the directories that are found among the existing paths. -/
def withoutDirectories (c : Configuration) : Configuration :=
  { c with
    sysroot := ""
    includeDirs := []
    cxxIncludeDirs := []
    libraryDirs := []
    filePaths := []
    runtimeDir := none
    standardLibraryDir := none }

/-- The keys of these directories in a report. -/
def directoryKeys : List String :=
  ["sysroot", "include_dirs", "cxx_include_dirs", "library_dirs", "file_paths", "runtime_dir",
    "cxx_stdlib_dir"]

/-- The entries of a report that are not about directories. -/
def sharedEntries (c : Configuration) : List (Value × Value) :=
  c.entries.filter fun (key, _) => key.text?.all fun k => decide (k ∉ directoryKeys)

theorem sharedEntries_withoutDirectories (c : Configuration) :
    c.withoutDirectories.sharedEntries = c.sharedEntries := by
  simp [sharedEntries, entries, directoryKeys, Value.text?, withoutDirectories, target]

theorem artifactPath_withoutDirectories (c : Configuration) (component : String)
    (kind : ArtifactKind) :
    c.withoutDirectories.artifactPath component kind = c.artifactPath component kind := rfl

/-- Configurations that differ in directories only. -/
theorem shared_of_withoutDirectories {c d : Configuration}
    (h : c.withoutDirectories = d.withoutDirectories) :
    c.sharedEntries = d.sharedEntries ∧
      ∀ component kind, c.artifactPath component kind = d.artifactPath component kind := by
  refine ⟨?_, fun component kind => ?_⟩
  · rw [← sharedEntries_withoutDirectories c, h, sharedEntries_withoutDirectories]
  · rw [← artifactPath_withoutDirectories c, h, artifactPath_withoutDirectories]

end Configuration

/-- What is found for one target differs in directories only. -/
theorem Toolchain.withoutDirectories_configured (p q : String → Bool) (triple : Triple)
    (options : OptionList) (e : Environment) (variants : List Multilib) :
    (configured p (found p triple options e variants)).withoutDirectories =
      (configured q (found q triple options e variants)).withoutDirectories := rfl

/-! ### Environments of requests -/

/-- Whenever an environment is gathered with some overrides, one is gathered with the resource
directory alone overridden, and the resource directory is the same. -/
theorem Environment.gather_resourceDir {files : String → FileState} {file : Option String}
    {o : Overrides} {present : String → Bool} {e : Environment}
    (h : (gather files file o).answer present = .ok e) :
    ∃ e', (gather files file { resourceDir := o.resourceDir }).answer present = .ok e' ∧
      e'.resourceDir = e.resourceDir := by
  unfold gather at h ⊢
  obtain ⟨base, hbase, h⟩ := Search.ok_of_answer_ifOk present h
  obtain ⟨e', he', hdir⟩ := override_resourceDir (eq_ok_of_mapError_eq_ok h)
  refine ⟨e', ?_, hdir⟩
  simp only [Search.answer_ifOk, hbase, he', Search.answer_done]
  rfl

namespace CommandLine

variable {present : String → Bool} {files : String → FileState}

theorem resolveGiven_of_resolve {target : String} {tokens : List String} {e : Environment}
    {s : Search Note Configuration} (h : resolve target tokens e = .ok s) :
    resolveGiven (.text target) tokens e = .ok s := by
  rw [resolveGiven, h]
  rfl

/-- The resolving command answers with a report about the configuration that it finds among the
paths of its listing, or of the host. -/
theorem ResolveRequest.answer_search {r : ResolveRequest} {e : Environment}
    {listing : Option Listing} {s : Search Note Configuration}
    (he : (Environment.gather files r.environmentFile r.overrides).answer present = .ok e)
    (hlisting : (listingOf files r.listingFile).answer present = .ok listing)
    (hs : resolveGiven r.target r.driverOptions e = .ok s) :
    (r.search files).answer present =
      reportAnswer r (s.answer (presentIn present listing))
        (s.traced.answer (presentIn present listing)).2 := by
  obtain ⟨htraced, -⟩ := run_withinListing present s.traced listing
  unfold ResolveRequest.search
  simp only [Search.answer_ifOk, Search.answer_mapError, he, hlisting, hs, mapError_ok,
    Search.answer_note, Search.answer_andThen, htraced, Search.answer_done, Search.answer_traced]

/-- The command for an artifact answers with its path in the configuration that is found when
nothing exists. -/
theorem ArtifactRequest.answer_search {a : ArtifactRequest} {e : Environment} {kind : ArtifactKind}
    {s : Search Note Configuration}
    (he : (Environment.gather files a.environmentFile a.overrides).answer present = .ok e)
    (hkind : a.kind = some kind) (hs : resolveGiven a.target a.driverOptions e = .ok s) :
    (a.search files).answer present =
      .ok ⟨(s.answer fun _ => false).artifactPath a.component kind ++ "\n", 0⟩ := by
  obtain ⟨hwithin, -⟩ := Search.run_within present (fun _ => false) s
  unfold ArtifactRequest.search
  simp only [Search.answer_ifOk, Search.answer_mapError, he, hs, mapError_ok,
    Search.answer_andThen, hwithin, hkind, Search.answer_done]

/-- The command for a multilib answers with the name of the variant that the options select. -/
theorem answer_selectSearch (driverOptions : List String) :
    let options := OptionList.ofTokens driverOptions
    let flags := FlagSet.ofOptions options options.floatAbi.1
    (selectSearch driverOptions).answer present =
      .ok ⟨(Multilib.select Multilib.catalog flags).displayName ++ "\n",
        statusOf (Diagnostics.add {} options.floatAbi.2)⟩ := by
  rw [selectSearch, Search.answer_andThen]
  rfl

/-- Requests of both kinds about one target, with the same options, environment file and resource
directory. -/
structure SameQuestion (r : ResolveRequest) (a : ArtifactRequest) : Prop where
  target : a.target = r.target
  driverOptions : a.driverOptions = r.driverOptions
  environmentFile : a.environmentFile = r.environmentFile
  overrides : a.overrides = { resourceDir := r.overrides.resourceDir }

/-- An accepted target is resolved to configurations that differ in directories only, whatever
exists; the entries of their reports and the paths of artifacts are the same. The command for a
multilib prints the name that the report gives, for whatever target. The resolving command reports
one of these configurations, and the command for an artifact succeeds along with it and prints the
path in all of them. -/
theorem commands_agree {target : String} {triple : Triple}
    (accepted : Triple.parse target = .ok triple) (tokens : List String) (e : Environment) :
    ∃ s, resolve target tokens e = .ok s ∧
      (∀ p q : String → Bool,
        (s.answer p).withoutDirectories = (s.answer q).withoutDirectories ∧
          (s.answer p).sharedEntries = (s.answer q).sharedEntries ∧
          ∀ component kind,
            (s.answer p).artifactPath component kind = (s.answer q).artifactPath component kind) ∧
      (∀ (files : String → FileState) (present p : String → Bool), ∃ name status,
        Value.entry? "multilib" (s.answer p).entries = some (.str name) ∧
          ((Command.selectMultilib tokens).search files).answer present =
            .ok ⟨name ++ "\n", status⟩) ∧
      ∀ (r : ResolveRequest) (files : String → FileState) (present : String → Bool),
        r.target = .text target → r.driverOptions = tokens →
        (Environment.gather files r.environmentFile r.overrides).answer present = .ok e →
          (∀ listing, (listingOf files r.listingFile).answer present = .ok listing →
            ∃ trail, ((Command.resolve r).search files).answer present =
              reportAnswer r (s.answer (presentIn present listing)) trail) ∧
          ∀ a, SameQuestion r a → ∀ kind, a.kind = some kind → ∀ p : String → Bool,
            ((Command.artifact a).search files).answer present =
              .ok ⟨(s.answer p).artifactPath a.component kind ++ "\n", 0⟩ := by
  obtain ⟨s, hs, hfound⟩ := resolve_of_parse accepted tokens e
  have hshared : ∀ p q : String → Bool,
      (s.answer p).withoutDirectories = (s.answer q).withoutDirectories := by
    intro p q
    rw [(hfound p).1, (hfound q).1]
    exact Toolchain.withoutDirectories_configured p q triple _ e _
  refine ⟨s, hs, fun p q => ?_, fun files present p => ?_, fun r files present ht ho he => ⟨?_, ?_⟩⟩
  · obtain ⟨hentries, hpath⟩ := Configuration.shared_of_withoutDirectories (hshared p q)
    exact ⟨hshared p q, hentries, hpath⟩
  · rw [(hfound p).1]
    exact ⟨_, _, rfl, answer_selectSearch tokens⟩
  · intro listing hlisting
    have hgiven : resolveGiven r.target r.driverOptions e = .ok s := by
      rw [ht, ho]
      exact resolveGiven_of_resolve hs
    exact ⟨_, r.answer_search he hlisting hgiven⟩
  · intro a hsame kind hkind p
    -- the environments may differ, but not in the resource directory
    obtain ⟨e', he', hdir⟩ := Environment.gather_resourceDir he
    rw [← hsame.overrides, ← hsame.environmentFile] at he'
    obtain ⟨s', hs', hfound'⟩ := resolve_of_parse accepted tokens e'
    have hgiven : resolveGiven a.target a.driverOptions e' = .ok s' := by
      rw [hsame.target, hsame.driverOptions, ht, ho]
      exact resolveGiven_of_resolve hs'
    have hpath : (s'.answer fun _ => false).artifactPath a.component kind =
        (s.answer p).artifactPath a.component kind := by
      rw [(hfound' _).1, (hfound p).1]
      show RuntimeLibrary.artifactPath e'.resourceDir _ _ _ _ =
        RuntimeLibrary.artifactPath e.resourceDir _ _ _ _
      rw [hdir]
      rfl
    rw [← hpath]
    exact a.answer_search he' hkind hgiven

theorem commands_agree_neon :
    let tokens := ["-mcpu=cortex-a7", "-mfloat-abi=softfp", "-mfpu=neon-vfpv4"]
    let e : Environment := { sysroot := "/s", resourceDir := "/res" }
    let r : ResolveRequest := {
      target := .text "arm-linux-ohos", driverOptions := tokens, environmentFile := none,
      overrides := { sysroot := some (.str "/s"), resourceDir := some (.str "/res") },
      listingFile := none, trace := false, format := "text" }
    let a : ArtifactRequest := {
      component := "builtins", kind := some .static, target := .text "arm-linux-ohos",
      driverOptions := tokens, environmentFile := none,
      overrides := { resourceDir := some (.str "/res") } }
    let files : String → FileState := fun _ => .missing
    ∃ triple s, Triple.parse "arm-linux-ohos" = .ok triple ∧
      resolve "arm-linux-ohos" tokens e = .ok s ∧ SameQuestion r a ∧
      (s.answer fun _ => true).sharedEntries = (s.answer fun _ => false).sharedEntries ∧
      (∃ name status, Value.entry? "multilib" (s.answer fun _ => true).entries = some (.str name) ∧
        ((Command.selectMultilib tokens).search files).answer (fun _ => true) =
          .ok ⟨name ++ "\n", status⟩) ∧
      ((Command.artifact a).search files).answer (fun _ => true) =
        .ok ⟨(s.answer fun _ => true).artifactPath "builtins" .static ++ "\n", 0⟩ := by
  intro tokens e r a files
  have accepted : Triple.parse "arm-linux-ohos" = .ok _ := rfl
  obtain ⟨s, hs, hshared, hmultilib, hrequests⟩ := commands_agree accepted tokens e
  have hsame : SameQuestion r a := ⟨rfl, rfl, rfl, rfl⟩
  obtain ⟨-, hartifact⟩ := hrequests r files (fun _ => true) rfl rfl rfl
  exact ⟨_, s, accepted, hs, hsame, (hshared _ _).2.1, hmultilib files _ _,
    hartifact a hsame .static rfl _⟩

end CommandLine

end TargetResolution
