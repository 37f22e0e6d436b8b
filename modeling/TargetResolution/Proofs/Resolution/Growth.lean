import TargetResolution.Proofs.Listing.Growth
import TargetResolution.Proofs.Resolution.Questions
import TargetResolution.Proofs.Search.Tier

/-!
Resolutions against an installation that has grown. Lists of directories are filters of their
candidates, so they only gain entries; a directory that is looked for in tiers may be replaced, but
by one of the same tier or of an earlier one. The candidates under the sysroot are the same ones only
if the sysroot is.
-/

namespace TargetResolution

open SearchPath (KeepsTier keepsTier_find?)

namespace Agenda

variable {p q : String → Bool} {a : Agenda} {c d : Configuration}

/-- What is found for one agenda with fewer and with more paths. -/
structure Keeps (a : Agenda) (p q : String → Bool) (c d : Configuration) : Prop where
  includeDirs : c.includeDirs.Sublist d.includeDirs
  cxxIncludeDirs : c.cxxIncludeDirs.Sublist d.cxxIncludeDirs
  libraryDirs : c.libraryDirs.Sublist d.libraryDirs
  runtimeDir : KeepsTier p q a.runtime c.runtimeDir d.runtimeDir
  standardLibraryDir : KeepsTier p q a.standardLibrary c.standardLibraryDir d.standardLibraryDir

theorem FoundIn.keeps (hc : a.FoundIn p c) (hd : a.FoundIn q d)
    (hpq : ∀ path, p path = true → q path = true) : a.Keeps p q c d where
  includeDirs := by
    rw [hc.includeDirs, hd.includeDirs]
    exact List.monotone_filter_right _ hpq
  cxxIncludeDirs := by
    rw [hc.cxxIncludeDirs, hd.cxxIncludeDirs]
    exact List.monotone_filter_right _ hpq
  libraryDirs := by
    rw [hc.libraryDirs, hd.libraryDirs]
    exact List.monotone_filter_right _ hpq
  runtimeDir := by
    rw [hc.runtimeDir, hd.runtimeDir]
    exact keepsTier_find? hpq _
  standardLibraryDir := by
    rw [hc.standardLibraryDir, hd.standardLibraryDir]
    exact keepsTier_find? hpq _

end Agenda

/-- Paths that are added to a listing never cost a resolution a directory, as long as the sysroot
stays: the lists of directories keep their entries in order, and what was found in a tier is found
in the same tier or an earlier one. -/
theorem resolve_keeps_directories {target : String} {triple : Triple}
    (accepted : Triple.parse target = .ok triple) (tokens : List String) (e : Environment)
    {t u : Listing} (grown : t.IsWithin u) :
    ∃ s, resolve target tokens e = .ok s ∧
      let c := s.answer t.contains
      let d := s.answer u.contains
      c.sysroot = d.sysroot →
        (Agenda.of target triple (.ofTokens tokens) e c.sysroot c.multilib.suffix).Keeps
          t.contains u.contains c d := by
  obtain ⟨s, hs, hrun⟩ := resolve_of_parse accepted tokens e
  obtain rfl := Triple.text_of_parse accepted
  have hfound : ∀ present : String → Bool,
      (Agenda.of triple.text triple (.ofTokens tokens) e (s.answer present).sysroot
        (s.answer present).multilib.suffix).FoundIn present (s.answer present) := by
    intro present
    rw [(hrun present).1]
    exact Toolchain.foundIn_configured present triple (.ofTokens tokens) e Multilib.catalog
  have hmultilib : (s.answer t.contains).multilib = (s.answer u.contains).multilib := by
    rw [(hrun _).1, (hrun _).1]
    rfl
  refine ⟨s, hs, fun hsysroot => (hfound t.contains).keeps ?_ grown⟩
  rw [hsysroot, hmultilib]
  exact hfound u.contains

theorem resolve_keeps_directories_earlier_tier :
    let e : Environment := { resourceDir := "/res" }
    let t : Listing := ⟨[⟨true, ["res", "lib", "arm-linux-ohos"]⟩]⟩
    let u : Listing := ⟨⟨true, ["res", "lib", "armv7a-linux-ohos"]⟩ :: t.locations⟩
    ∃ triple s, Triple.parse "armv7a-linux-ohos" = .ok triple ∧
      resolve "armv7a-linux-ohos" [] e = .ok s ∧ t.IsWithin u ∧
      let c := s.answer t.contains
      let d := s.answer u.contains
      c.sysroot = d.sysroot ∧
        (Agenda.of "armv7a-linux-ohos" triple (.ofTokens []) e c.sysroot c.multilib.suffix).Keeps
          t.contains u.contains c d ∧
        c.runtimeDir = some "/res/lib/arm-linux-ohos" ∧
        d.runtimeDir = some "/res/lib/armv7a-linux-ohos" := by
  intro e t u
  have accepted : Triple.parse "armv7a-linux-ohos" = .ok _ := rfl
  have hs : resolve "armv7a-linux-ohos" [] e = .ok _ := rfl
  have grown : t.IsWithin u := Listing.isWithin_of_subset (List.subset_cons_self _ _)
  obtain ⟨s, hs', hkeeps⟩ := resolve_keeps_directories accepted [] e grown
  obtain ⟨hsysroot, hruntime⟩ : (s.answer t.contains).sysroot = (s.answer u.contains).sysroot ∧
      (s.answer t.contains).runtimeDir = some "/res/lib/arm-linux-ohos" ∧
      (s.answer u.contains).runtimeDir = some "/res/lib/armv7a-linux-ohos" := by
    obtain rfl := Except.ok.inj (hs.symm.trans hs')
    decide +kernel
  exact ⟨_, s, accepted, hs', grown, hsysroot, hkeeps hsysroot, hruntime⟩

end TargetResolution
