import TargetResolution.Proofs.OptionList.FloatAbi
import TargetResolution.Proofs.Triple.Places

/-!
The dynamic loader of a configuration. It is the system's loader for the bionic environment and a
musl loader otherwise, which is named after the architecture and, for 32-bit ARM, after the float
ABI that the last option asks for. So options matter for the musl loaders of 32-bit ARM only.
-/

namespace TargetResolution

open Diagnostic (Kind)

/-- Whether the last option of the float ABI asks for hard floats. -/
def OptionList.AsksForHard (l : OptionList) : Prop :=
  ∃ o, l.last? Kind.floatAbi.names = some o ∧ o.AsksFor .hard

theorem OptionList.floatAbi_eq_hard_iff (l : OptionList) :
    l.floatAbi.1 = .hard ↔ l.AsksForHard := by
  rw [floatAbi_eq_iff]
  exact or_iff_left (by simp)

namespace Architecture

/-- The architectures that are 32-bit ARM. -/
def armKinds : List Architecture := [.arm, .thumb, .armeb, .thumbeb]

/-- The architectures whose addresses have 64 bits. -/
def wideKinds : List Architecture := [.aarch64, .aarch64be, .x86_64, .riscv64, .mips64, .mips64el]

theorem isArm_iff (a : Architecture) : a.isArm = true ↔ a ∈ armKinds := by
  cases a <;> simp [isArm, armKinds]

theorem is64Bit_iff (a : Architecture) : a.is64Bit = true ↔ a ∈ wideKinds := by
  cases a <;> simp [is64Bit, wideKinds]

end Architecture

/-- The path of the musl loader with this name, and this mark behind it. -/
def muslLoader (name mark : String) : String := "/lib/ld-musl-" ++ name ++ mark ++ ".so.1"

/-- No musl loader is one of the system's loaders: their paths differ in the second character. -/
theorem muslLoader_ne (name mark : String) :
    ∀ path ∈ ["/system/bin/linker64", "/system/bin/linker"], muslLoader name mark ≠ path := by
  have hsecond : ∀ path ∈ ["/system/bin/linker64", "/system/bin/linker"],
      path.toList[1]? = some 's' := by decide
  intro path hpath heq
  have hpath := hsecond path hpath
  rw [← heq] at hpath
  change ("/lib/ld-musl-" ++ name ++ mark ++ ".so.1").toList[1]? = some 's' at hpath
  simp at hpath

namespace Triple

variable {t : Triple}

theorem loader_of_bionic (h : t.family = .bionic) (abi : FloatAbi) :
    t.loader abi =
      if t.architecture.is64Bit then "/system/bin/linker64" else "/system/bin/linker" := by
  rw [loader, h]

theorem loader_of_musl (h : t.family ≠ .bionic) (abi : FloatAbi) :
    t.loader abi = muslLoader t.loaderArchitecture
      (if t.architecture.isArm ∧ abi = .hard then "hf" else "") := by
  cases hfamily : t.family with
  | bionic => exact absurd hfamily h
  | musl =>
    rw [loader, hfamily]
    rfl

/-- The system's loaders are for the bionic family only, one for each width of addresses. -/
theorem loader_eq_system_iff (abi : FloatAbi) :
    (t.loader abi = "/system/bin/linker64" ↔
      t.family = .bionic ∧ t.architecture ∈ Architecture.wideKinds) ∧
    (t.loader abi = "/system/bin/linker" ↔
      t.family = .bionic ∧ t.architecture ∉ Architecture.wideKinds) := by
  rw [← Architecture.is64Bit_iff]
  by_cases hfamily : t.family = .bionic
  · rw [loader_of_bionic hfamily]
    cases t.architecture.is64Bit <;> simp [hfamily]
  · rw [loader_of_musl hfamily]
    have hne := muslLoader_ne t.loaderArchitecture
      (if t.architecture.isArm ∧ abi = .hard then "hf" else "")
    simp [hfamily, hne]

/-- The name in a musl loader is shared by the kinds of 32-bit ARM of one byte order. -/
theorem loaderArchitecture_cases (t : Triple) :
    (t.architecture ∈ [.arm, .thumb] → t.loaderArchitecture = "arm") ∧
    (t.architecture ∈ [.armeb, .thumbeb] → t.loaderArchitecture = "armeb") ∧
    (t.architecture ∉ Architecture.armKinds → t.loaderArchitecture = t.architectureName) := by
  unfold loaderArchitecture
  cases t.architecture <;> simp [Architecture.armKinds]

/-- The float ABI does not matter to the system's loaders, nor without 32-bit ARM. -/
theorem loader_congr (h : t.family = .bionic ∨ t.architecture ∉ Architecture.armKinds)
    (abi abi' : FloatAbi) : t.loader abi = t.loader abi' := by
  by_cases hfamily : t.family = .bionic
  · rw [loader_of_bionic hfamily, loader_of_bionic hfamily]
  · have harm : t.architecture.isArm = false := by
      rw [← Bool.not_eq_true, Architecture.isArm_iff]
      exact h.resolve_left hfamily
    rw [loader_of_musl hfamily, loader_of_musl hfamily]
    simp [harm]

end Triple

/-- The loader of a configuration is that of the target for the float ABI of the options. -/
theorem loader_of_resolve {text : String} {t : Triple} (accepted : Triple.parse text = .ok t)
    {tokens : List String} {e : Environment} {s : Search Note Configuration}
    (hs : resolve text tokens e = .ok s) (present : String → Bool) :
    (s.answer present).loader = t.loader (OptionList.ofTokens tokens).floatAbi.1 := by
  rw [(run_of_resolve accepted hs present).1]
  rfl

open Architecture in
/-- Every accepted text is resolved with a loader. It is one of the system's exactly for the bionic
environment, for all options. Otherwise it is a musl loader, with a name for 32-bit ARM and its
big-endian variants and else the architecture as it is spelled, and with a mark behind the name
exactly on 32-bit ARM if the last option of the float ABI asks for hard floats. For the bionic
environment and without 32-bit ARM, all options and environments lead to the same loader. -/
theorem resolve_loader {text : String} {t : Triple} (accepted : Triple.parse text = .ok t)
    (tokens : List String) (e : Environment) :
    let c := Triple.components text
    let spelling := c.headD ""
    let arch := Architecture.parse spelling
    let bionic := Triple.NamesBionic c
    let hard := (OptionList.ofTokens tokens).AsksForHard
    ∃ s, resolve text tokens e = .ok s ∧ ∀ present : String → Bool,
      let loader := (s.answer present).loader
      (loader = "/system/bin/linker64" ↔ bionic ∧ arch ∈ wideKinds) ∧
      (loader = "/system/bin/linker" ↔ bionic ∧ arch ∉ wideKinds) ∧
      (¬bionic → ∃ name mark, loader = "/lib/ld-musl-" ++ name ++ mark ++ ".so.1" ∧
        (arch ∈ [.arm, .thumb] → name = "arm") ∧
        (arch ∈ [.armeb, .thumbeb] → name = "armeb") ∧
        (arch ∉ armKinds → name = spelling) ∧
        (arch ∈ armKinds ∧ hard → mark = "hf") ∧ (¬(arch ∈ armKinds ∧ hard) → mark = "")) ∧
      (bionic ∨ arch ∉ armKinds → ∀ tokens' e' s', resolve text tokens' e' = .ok s' →
        ∀ present' : String → Bool, (s'.answer present').loader = loader) := by
  intro c spelling arch bionic hard
  obtain ⟨s, hs, -⟩ := resolve_of_parse accepted tokens e
  have hspelling : t.architectureName = spelling := Triple.architectureName_of_parse accepted
  have harch : t.architecture = arch := Triple.architecture_of_parse accepted
  have hfamily : t.family = .bionic ↔ bionic := Triple.family_of_parse accepted
  have hhard : (OptionList.ofTokens tokens).floatAbi.1 = .hard ↔ hard :=
    OptionList.floatAbi_eq_hard_iff _
  refine ⟨s, hs, fun present => ?_⟩
  intro loader
  have hloader : loader = t.loader (OptionList.ofTokens tokens).floatAbi.1 :=
    loader_of_resolve accepted hs present
  obtain ⟨hlinker64, hlinker⟩ := t.loader_eq_system_iff (OptionList.ofTokens tokens).floatAbi.1
  obtain ⟨hlittle, hbig, hother⟩ := t.loaderArchitecture_cases
  rw [← hloader, harch, hfamily] at hlinker64 hlinker
  rw [harch] at hlittle hbig hother
  refine ⟨hlinker64, hlinker, fun hmusl => ?_, fun hsame tokens' e' s' hs' present' => ?_⟩
  · refine ⟨_, _, hloader.trans (Triple.loader_of_musl (mt hfamily.1 hmusl) _), hlittle, hbig,
      fun hne => (hother hne).trans hspelling, ?_⟩
    have hmark : t.architecture.isArm = true ∧ (OptionList.ofTokens tokens).floatAbi.1 = .hard ↔
        arch ∈ armKinds ∧ hard := by
      rw [harch, isArm_iff, hhard]
    exact ⟨fun h => if_pos (hmark.2 h), fun h => if_neg (mt hmark.1 h)⟩
  · rw [← harch, ← hfamily] at hsame
    rw [hloader, loader_of_resolve accepted hs' present']
    exact Triple.loader_congr hsame _ _

theorem resolve_loader_both_families :
    let tokens := ["--soft-float", "-mhard-float", "--target", "-msoft-float"]
    (∃ t s, Triple.parse " ThumbV7EB-acme-linux-ohosmusl9.2" = .ok t ∧
      resolve " ThumbV7EB-acme-linux-ohosmusl9.2" tokens {} = .ok s ∧
      ∀ present : String → Bool, (s.answer present).loader = "/lib/ld-musl-armebhf.so.1") ∧
    ∃ t s, Triple.parse "ARM64-linux-ohos9.2" = .ok t ∧
      resolve "ARM64-linux-ohos9.2" tokens {} = .ok s ∧
      ∀ present : String → Bool, (s.answer present).loader = "/system/bin/linker64" := by
  intro tokens
  constructor
  · have accepted : Triple.parse " ThumbV7EB-acme-linux-ohosmusl9.2" = .ok _ := rfl
    obtain ⟨s, hs, hloader⟩ := resolve_loader accepted tokens {}
    have harch : Architecture.parse
        ((Triple.components " ThumbV7EB-acme-linux-ohosmusl9.2").headD "") = .thumbeb :=
      (Triple.architecture_of_parse accepted).symm
    have hmusl : ¬Triple.NamesBionic (Triple.components " ThumbV7EB-acme-linux-ohosmusl9.2") :=
      mt (Triple.family_of_parse accepted).2 (by decide)
    have hhard : (OptionList.ofTokens tokens).AsksForHard :=
      ⟨.ofToken "-mhard-float", by decide +kernel, .inl (by decide +kernel)⟩
    refine ⟨_, s, accepted, hs, fun present => ?_⟩
    obtain ⟨-, -, hname, -⟩ := hloader present
    obtain ⟨name, mark, hpath, -, hbig, -, hmark, -⟩ := hname hmusl
    rw [harch] at hbig hmark
    rw [hpath, hbig (by decide), hmark ⟨by decide, hhard⟩]
    rfl
  · have accepted : Triple.parse "ARM64-linux-ohos9.2" = .ok _ := rfl
    obtain ⟨s, hs, hloader⟩ := resolve_loader accepted tokens {}
    have harch : Architecture.parse ((Triple.components "ARM64-linux-ohos9.2").headD "") =
        .aarch64 := (Triple.architecture_of_parse accepted).symm
    have hbionic : Triple.NamesBionic (Triple.components "ARM64-linux-ohos9.2") :=
      (Triple.family_of_parse accepted).1 (by decide)
    refine ⟨_, s, accepted, hs, fun present => (hloader present).1.2 ⟨hbionic, ?_⟩⟩
    rw [harch]
    decide

end TargetResolution
