import TargetResolution.Proofs.Listing.Spelling
import TargetResolution.Proofs.Path.Respelling
import TargetResolution.Proofs.Resolution.Outcome
import TargetResolution.Proofs.Result
import TargetResolution.Proofs.Search.Lockstep

/-!
Resolutions under respelled directories. A resolution uses the directories of its environment only
by putting paths behind them, so the resolutions under two spellings of these directories run in
lockstep. Main statement: they ask for the same locations, get the same answers, and come to
configurations that differ in the spelling of directories only.
-/

namespace TargetResolution

open TargetResolution.Path (normalize)

/-- Environments that differ in the spelling of their directories only. -/
structure Environment.Respelled (e₁ e₂ : Environment) : Prop where
  sysroot : Path.Respelled e₁.sysroot e₂.sysroot
  installedDir : Path.Respelled e₁.installedDir e₂.installedDir
  resourceDir : Path.Respelled e₁.resourceDir e₂.resourceDir
  driverDir : Path.Respelled e₁.driverDir e₂.driverDir
  cxxMode : e₁.cxxMode = e₂.cxxMode
  buildId : e₁.buildId = e₂.buildId
  includeDirs : e₁.includeDirs = e₂.includeDirs

/-- Toolchains that differ in the spelling of directories only. -/
structure Toolchain.Respelled (t u : Toolchain) : Prop where
  triple : t.triple = u.triple
  options : t.options = u.options
  environment : t.environment.Respelled u.environment
  floatAbi : t.floatAbi = u.floatAbi
  multilib : t.multilib = u.multilib
  diagnostics : t.diagnostics = u.diagnostics
  sysroot : Path.Respelled t.sysroot u.sysroot
  runtimeDir : Option.Rel Path.Respelled t.runtimeDir u.runtimeDir
  standardLibraryDir : Option.Rel Path.Respelled t.standardLibraryDir u.standardLibraryDir
  libraryDirs : List.Forall₂ Path.Respelled t.libraryDirs u.libraryDirs

/-- Link arguments with the last of them, an archive, in its normal spelling. -/
def LinkPolicy.normalizeArchive (arguments : List String) : List String :=
  match arguments.getLast? with
  | none => []
  | some archive => arguments.dropLast ++ [normalize archive]

/-- A configuration with all its directories in their normal spelling, and without the environment
that it was made for. -/
def Configuration.upToSpelling (c : Configuration) : Configuration :=
  { c with
    environment := {}
    sysroot := normalize c.sysroot
    includeDirs := c.includeDirs.map normalize
    cxxIncludeDirs := c.cxxIncludeDirs.map normalize
    libraryDirs := c.libraryDirs.map normalize
    filePaths := c.filePaths.map normalize
    runtimeDir := c.runtimeDir.map normalize
    standardLibraryDir := c.standardLibraryDir.map normalize
    profileLinkArguments := LinkPolicy.normalizeArchive c.profileLinkArguments }

/-- Configurations that differ in the spelling of directories only, and have a sysroot both or
neither. -/
def Configuration.Respelled (c d : Configuration) : Prop :=
  c.upToSpelling = d.upToSpelling ∧ (c.sysroot = "" ↔ d.sysroot = "")

/-! ### The profiling runtime -/

namespace LinkPolicy

theorem isEmpty_profileLinkArguments (l : OptionList) (runtime : String) :
    (profileLinkArguments l runtime).isEmpty = !needsProfileRuntime l := by
  unfold profileLinkArguments
  cases needsProfileRuntime l <;> simp

/-- Only the archive of the arguments depends on where the runtime lies. -/
theorem normalizeArchive_profileLinkArguments (l : OptionList) (runtime : String) :
    normalizeArchive (profileLinkArguments l runtime) =
      profileLinkArguments l (normalize runtime) := by
  unfold profileLinkArguments normalizeArchive
  cases needsProfileRuntime l with
  | false => rfl
  | true => simp only [if_true, List.getLast?_concat, List.dropLast_concat]

end LinkPolicy

/-! ### Candidates -/

theorem Path.forall₂_map_respelled {f g : String → String} (l : List String)
    (h : ∀ s, Path.Respelled (f s) (g s)) : List.Forall₂ Path.Respelled (l.map f) (l.map g) := by
  rw [List.forall₂_map_left_iff, List.forall₂_map_right_iff, List.forall₂_same]
  exact fun s _ => h s

theorem Path.forall₂_toList_respelled {a b : Option String} (h : Option.Rel Path.Respelled a b) :
    List.Forall₂ Path.Respelled a.toList b.toList := by
  cases h with
  | none => exact .nil
  | some h => exact .cons h .nil

namespace Sysroot

variable {p q : String} (h : Path.Respelled p q) (multiarch : String)

include h

theorem respelled_libraryCandidates (v : Version) (suffix : String) :
    List.Forall₂ Path.Respelled ((Sysroot.mk p multiarch).libraryCandidates v suffix)
      ((Sysroot.mk q multiarch).libraryCandidates v suffix) := by
  have hdir : ∀ r, Path.Respelled (p ++ ("/usr/lib/" ++ r)) (q ++ ("/usr/lib/" ++ r)) := by
    intro r
    exact h.append_absolute (Path.isAbsolute_append (by decide) r)
  simp only [libraryCandidates, libraryDir, String.append_assoc]
  exact .cons (hdir _) (.cons (hdir _) (.cons (hdir _) (.cons (hdir _) .nil)))

theorem respelled_includeCandidates (configured : List String) :
    List.Forall₂ Path.Respelled ((Sysroot.mk p multiarch).includeCandidates configured)
      ((Sysroot.mk q multiarch).includeCandidates configured) := by
  unfold includeCandidates
  split
  · have hdir : Path.Respelled (p ++ "/usr/include/" ++ multiarch)
        (q ++ "/usr/include/" ++ multiarch) := by
      rw [String.append_assoc, String.append_assoc]
      exact h.append_absolute (Path.isAbsolute_append (by decide) multiarch)
    exact .cons hdir (.cons (h.append_absolute (by decide))
      (.cons (h.append_absolute (by decide)) .nil))
  · refine Path.forall₂_map_respelled configured fun d => ?_
    split
    · next habs => exact h.append_absolute (by simpa [Path.isAbsolute] using habs)
    · exact .refl d

end Sysroot

/-! ### Runs in lockstep -/

namespace Toolchain

theorem lockstep_findSysroot {forced₁ forced₂ installed₁ installed₂ : String}
    (hf : Path.Respelled forced₁ forced₂) (hi : Path.Respelled installed₁ installed₂) :
    Search.Lockstep Path.Respelled Path.Respelled (findSysroot forced₁ installed₁)
      (findSysroot forced₂ installed₂) := by
  unfold findSysroot
  by_cases hforced : forced₁ = ""
  · have h₁ : ¬forced₁ ≠ "" := fun h => h hforced
    have h₂ : ¬forced₂ ≠ "" := fun h => h (hf.eq_empty_iff.1 hforced)
    rw [if_neg h₁, if_neg h₂]
    by_cases hinstalled : installed₁ = ""
    · rw [if_pos hinstalled, if_pos (hi.eq_empty_iff.1 hinstalled)]
      exact .note (.done (.refl ""))
    · rw [if_neg hinstalled, if_neg (mt hi.eq_empty_iff.2 hinstalled)]
      have hbundled : Path.Respelled (Sysroot.bundled installed₁) (Sysroot.bundled installed₂) :=
        hi.append_slash _
      refine .probe hbundled fun found => ?_
      cases found with
      | true => exact .note (.done hbundled)
      | false => exact .note (.done (.refl ""))
  · rw [if_pos hforced, if_pos (mt hf.eq_empty_iff.2 hforced)]
    exact .done hf

theorem respelled_forcedSysroot (l : OptionList) {e₁ e₂ : Environment} (h : e₁.Respelled e₂) :
    Path.Respelled (forcedSysroot l e₁) (forcedSysroot l e₂) := by
  unfold forcedSysroot
  split
  · split
    · exact h.sysroot
    · exact .refl _
  · exact h.sysroot

/-- The first look-ups under respelled environments. -/
theorem lockstep_search (triple : Triple) (options : OptionList) (variants : List Multilib)
    {e₁ e₂ : Environment} (h : e₁.Respelled e₂) :
    Search.Lockstep Path.Respelled Toolchain.Respelled (search triple options e₁ variants)
      (search triple options e₂ variants) := by
  have leave : ∀ notes : List Note,
      Search.Lockstep Path.Respelled Eq (leaveAll notes) (leaveAll notes) := fun notes =>
    .refl Path.Respelled.refl _
  simp only [search, Search.andThen_eq_bind, Search.pure_eq_done]
  refine (leave _).andThen fun _ _ _ => (leave _).andThen fun _ _ _ => ?_
  refine (lockstep_findSysroot (respelled_forcedSysroot options h) h.installedDir).andThen
    fun sysroot₁ sysroot₂ hsysroot => (leave _).andThen fun _ _ _ => ?_
  refine (SearchPath.lockstep_first? (Path.forall₂_map_respelled _ fun name =>
    h.resourceDir.join _)).andThen fun runtime₁ runtime₂ hruntime => ?_
  refine (SearchPath.lockstep_first? (Path.forall₂_map_respelled _ fun name =>
    h.driverDir.join _)).andThen fun standard₁ standard₂ hstandard => ?_
  refine (SearchPath.lockstep_existing (Sysroot.respelled_libraryCandidates hsysroot _ _ _)).andThen
    fun library₁ library₂ hlibrary => .done ?_
  exact ⟨rfl, rfl, h, rfl, rfl, rfl, hsysroot, hruntime, hstandard, hlibrary⟩

section

variable {t u : Toolchain} (h : t.Respelled u)

include h

theorem lockstep_includeDirs :
    Search.Lockstep Path.Respelled (List.Forall₂ Path.Respelled) t.includeDirs u.includeDirs := by
  have hbuiltin : List.Forall₂ Path.Respelled t.builtinIncludeCandidates
      u.builtinIncludeCandidates := by
    unfold builtinIncludeCandidates
    rw [h.options]
    split
    · exact .nil
    · exact .cons (h.environment.resourceDir.join _) .nil
  have hlayout : List.Forall₂ Path.Respelled (t.layout.includeCandidates t.environment.includeDirs)
      (u.layout.includeCandidates u.environment.includeDirs) := by
    unfold layout multiarch
    rw [h.triple, h.environment.includeDirs]
    exact Sysroot.respelled_includeCandidates h.sysroot _ _
  unfold includeDirs
  rw [h.options]
  split
  · exact .done .nil
  · refine (SearchPath.lockstep_existing hbuiltin).andThen fun builtin₁ builtin₂ hb => ?_
    split
    · exact .done hb
    · exact (SearchPath.lockstep_existing hlayout).andThen fun system₁ system₂ hs =>
        .done (List.rel_append hb hs)

theorem lockstep_cxxIncludeDirs :
    Search.Lockstep Path.Respelled (List.Forall₂ Path.Respelled) t.cxxIncludeDirs
      u.cxxIncludeDirs := by
  unfold cxxIncludeDirs
  rw [h.options]
  split
  · exact .done .nil
  · exact SearchPath.lockstep_existing (.cons (h.environment.driverDir.join _) .nil)

theorem lockstep_filePaths :
    Search.Lockstep Path.Respelled (List.Forall₂ Path.Respelled) t.filePaths u.filePaths := by
  have hcxx : List.Forall₂ Path.Respelled t.cxxModeDirs u.cxxModeDirs := by
    unfold cxxModeDirs
    rw [h.environment.cxxMode]
    split
    · exact Path.forall₂_toList_respelled h.standardLibraryDir
    · exact .nil
  unfold filePaths
  rw [h.triple]
  refine (SearchPath.lockstep_existing (.cons (h.environment.resourceDir.join _) .nil)).andThen
    fun architecture₁ architecture₂ harch => .done ?_
  exact List.rel_append (List.rel_append hcxx harch) h.libraryDirs

theorem normalizeArchive_eq :
    LinkPolicy.normalizeArchive t.profileLinkArguments =
      LinkPolicy.normalizeArchive u.profileLinkArguments := by
  have hpath : normalize (t.artifactPath "profile" .static) =
      normalize (u.artifactPath "profile" .static) := by
    unfold artifactPath
    rw [h.triple, h.multilib]
    exact (h.environment.resourceDir.join _).normalize_eq
  unfold profileLinkArguments
  rw [LinkPolicy.normalizeArchive_profileLinkArguments,
    LinkPolicy.normalizeArchive_profileLinkArguments, h.options, hpath]

theorem upToSpelling_assemble {include₁ include₂ cxx₁ cxx₂ files₁ files₂ : List String}
    (hinclude : List.Forall₂ Path.Respelled include₁ include₂)
    (hcxx : List.Forall₂ Path.Respelled cxx₁ cxx₂)
    (hfiles : List.Forall₂ Path.Respelled files₁ files₂) :
    (t.assemble include₁ cxx₁ files₁).upToSpelling =
      (u.assemble include₂ cxx₂ files₂).upToSpelling := by
  have hmap : ∀ {l m : List String}, List.Forall₂ Path.Respelled l m →
      l.map normalize = m.map normalize :=
    Search.map_eq_of_forall₂ fun _ _ hpq => hpq.normalize_eq
  have hoption : ∀ {a b : Option String}, Option.Rel Path.Respelled a b →
      a.map normalize = b.map normalize := by
    rintro _ _ (hab | _)
    · exact congrArg some hab.normalize_eq
    · rfl
  simp only [Configuration.upToSpelling, assemble, multiarch, loader, linkerFlags, sanitizers,
    h.triple, h.options, h.floatAbi, h.multilib, h.diagnostics, h.environment.buildId,
    h.sysroot.normalize_eq, hoption h.runtimeDir, hoption h.standardLibraryDir,
    hmap h.libraryDirs, hmap hinclude, hmap hcxx, hmap hfiles, normalizeArchive_eq h]

/-- The configurations of toolchains that differ in spellings differ in spellings. -/
theorem lockstep_configure :
    Search.Lockstep Path.Respelled Configuration.Respelled t.configure u.configure := by
  have hempty : t.profileLinkArguments.isEmpty = u.profileLinkArguments.isEmpty := by
    unfold profileLinkArguments
    rw [LinkPolicy.isEmpty_profileLinkArguments, LinkPolicy.isEmpty_profileLinkArguments, h.options]
  simp only [configure, Search.andThen_eq_bind, Search.pure_eq_done]
  refine (lockstep_includeDirs h).andThen fun include₁ include₂ hinclude => ?_
  refine (lockstep_cxxIncludeDirs h).andThen fun cxx₁ cxx₂ hcxx => ?_
  refine (lockstep_filePaths h).andThen fun files₁ files₂ hfiles => ?_
  have hassembled := upToSpelling_assemble h hinclude hcxx hfiles
  rw [hempty]
  split
  · exact .note (.done ⟨hassembled, h.sysroot.eq_empty_iff⟩)
  · exact .done ⟨hassembled, h.sysroot.eq_empty_iff⟩

end

end Toolchain

/-! ### Whole resolutions -/

theorem lockstep_resolution (triple : Triple) (options : OptionList) (variants : List Multilib)
    {e₁ e₂ : Environment} (h : e₁.Respelled e₂) :
    Search.Lockstep Path.Respelled
      (fun r₁ r₂ : Resolution => r₁.configuration.Respelled r₂.configuration)
      (Resolution.search triple options e₁ variants)
      (Resolution.search triple options e₂ variants) := by
  simp only [Resolution.search, Search.andThen_eq_bind, Search.pure_eq_done]
  refine (Toolchain.lockstep_search triple options variants h).andThen fun t u htu => ?_
  refine (Toolchain.lockstep_configure htu).andThen fun c d hcd => ?_
  exact .note (.done hcd)

/-- Two environments that name the same directories in other spellings lead to questions for the
same locations, to the same answers, and to configurations that differ in the spelling of
directories only. -/
theorem resolve_eq_upToSpelling {target : String} {triple : Triple}
    (accepted : Triple.parse target = .ok triple) (tokens : List String) {e₁ e₂ : Environment}
    (h : e₁.Respelled e₂) (t : Listing) :
    ∃ s₁ s₂, resolve target tokens e₁ = .ok s₁ ∧ resolve target tokens e₂ = .ok s₂ ∧
      (s₁.queries t.contains).map normalize = (s₂.queries t.contains).map normalize ∧
      (s₁.queries t.contains).map t.contains = (s₂.queries t.contains).map t.contains ∧
      (s₁.answer t.contains).upToSpelling = (s₂.answer t.contains).upToSpelling ∧
      ((s₁.answer t.contains).sysroot = "" ↔ (s₂.answer t.contains).sysroot = "") := by
  have hcontains : ∀ p q, Path.Respelled p q → t.contains p = t.contains q :=
    fun _ _ => t.contains_eq_of_respelled
  have hlockstep := (lockstep_resolution triple (.ofTokens tokens) Multilib.catalog h).andThen
    (P := Configuration.Respelled) (f := fun r => .done r.configuration)
    (g := fun r => .done r.configuration) fun _ _ hr => .done hr
  obtain ⟨hanswer, hqueries⟩ := hlockstep.run hcontains
  refine ⟨_, _, by rw [resolve, accepted]; rfl, by rw [resolve, accepted]; rfl, ?_, ?_, hanswer⟩
  · exact Search.map_eq_of_forall₂ (fun _ _ hpq => hpq.normalize_eq) hqueries
  · exact Search.map_eq_of_forall₂ hcontains hqueries

theorem resolve_eq_upToSpelling_root :
    let e₁ : Environment := { sysroot := "/", resourceDir := "res/clang" }
    let e₂ : Environment := { sysroot := "//.", resourceDir := "res/./x/../clang//" }
    let t : Listing :=
      ⟨[⟨false, ["res", "clang", "include"]⟩, ⟨false, ["res", "clang", "lib", "arm-linux-ohos"]⟩,
        ⟨true, ["usr", "lib", "arm-linux-ohos"]⟩, ⟨true, ["usr", "include"]⟩]⟩
    let triple : Triple :=
      { text := "arm-linux-ohos", architecture := .arm, architectureName := "arm",
        vendor := "unknown", system := "linux", environment := "ohos", version := ⟨0, 0, 0⟩,
        family := .bionic, systemPart := "linux", environmentPart := "ohos" }
    Triple.parse triple.text = .ok triple ∧ e₁.Respelled e₂ ∧
      ∃ s₁ s₂, resolve triple.text [] e₁ = .ok s₁ ∧ resolve triple.text [] e₂ = .ok s₂ ∧
        (s₁.queries t.contains).map normalize = (s₂.queries t.contains).map normalize ∧
        (s₁.answer t.contains).upToSpelling = (s₂.answer t.contains).upToSpelling ∧
        (s₁.answer t.contains).libraryDirs = ["//usr/lib/arm-linux-ohos"] ∧
        (s₂.answer t.contains).libraryDirs = ["//./usr/lib/arm-linux-ohos"] ∧
        (s₁.answer t.contains).includeDirs = ["res/clang/include", "//usr/include"] ∧
        (s₂.answer t.contains).includeDirs = ["res/./x/../clang/include", "//./usr/include"] ∧
        (s₁.answer t.contains).runtimeDir = some "res/clang/lib/arm-linux-ohos" ∧
        (s₂.answer t.contains).runtimeDir = some "res/./x/../clang/lib/arm-linux-ohos" := by
  intro e₁ e₂ t triple
  have accepted : Triple.parse triple.text = .ok triple :=
    eq_ok_of_toOption_eq_some (by decide +kernel)
  have respelled : e₁.Respelled e₂ :=
    ⟨Or.inr (by decide), .refl _, Or.inr (by decide), .refl _, rfl, rfl, rfl⟩
  obtain ⟨s₁, s₂, h₁, h₂, hqueries, _, hanswer, _⟩ :=
    resolve_eq_upToSpelling accepted [] respelled t
  refine ⟨accepted, respelled, s₁, s₂, h₁, h₂, hqueries, hanswer, ?_⟩
  rw [(run_of_resolve accepted h₁ t.contains).1, (run_of_resolve accepted h₂ t.contains).1]
  decide +kernel

end TargetResolution
