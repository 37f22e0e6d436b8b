import TargetResolution.Proofs.Multilib.Selection
import TargetResolution.Proofs.OptionList.FloatAbi
import TargetResolution.Proofs.Resolution.Outcome

/-!
The catalog of the OHOS toolchain. The predicates that hold for some options name one float ABI at
most, so at most one specific variant fits, and it wins in any order of the catalog. Main statement:
which variant is selected is told by the last CPU, the last FPU and the float ABI, and the variant
never asks for another float ABI than the configuration has.
-/

namespace TargetResolution

namespace Multilib

/-- The variant for Cortex-A7 with soft floats. -/
def cortexA7Soft : Multilib := ⟨"a7_soft", ["mcpu=cortex-a7", "mfloat-abi=soft"], 1⟩

/-- The variant for Cortex-A7 with soft calls to its FPU. -/
def cortexA7Softfp : Multilib :=
  ⟨"a7_softfp_neon-vfpv4", ["mcpu=cortex-a7", "mfloat-abi=softfp", "mfpu=neon-vfpv4"], 1⟩

/-- The variant for Cortex-A7 with hard floats. -/
def cortexA7Hard : Multilib :=
  ⟨"a7_hard_neon-vfpv4", ["mcpu=cortex-a7", "mfloat-abi=hard", "mfpu=neon-vfpv4"], 1⟩

theorem catalog_eq : catalog = [plain, cortexA7Soft, cortexA7Softfp, cortexA7Hard] := rfl

/-- The variant that is built for the CPU, the FPU and the float ABI, if there is one. -/
def builtFor? (l : OptionList) : FloatAbi → Option Multilib
  | .soft => if l.lastValue? "-mcpu=" = some "cortex-a7" then some cortexA7Soft else none
  | .softfp =>
    if l.lastValue? "-mcpu=" = some "cortex-a7" ∧ l.lastValue? "-mfpu=" = some "neon-vfpv4" then
      some cortexA7Softfp
    else none
  | .hard =>
    if l.lastValue? "-mcpu=" = some "cortex-a7" ∧ l.lastValue? "-mfpu=" = some "neon-vfpv4" then
      some cortexA7Hard
    else none
  | .invalid => none

variable (l : OptionList) (abi : FloatAbi)

variable {l abi} in
/-- When a variant for Cortex-A7 and a float ABI fits. -/
theorem fits_of_required {m : Multilib} {a : FloatAbi} {rest : List String} (ha : a ≠ .invalid)
    (hm : m.required = "mcpu=cortex-a7" :: ("mfloat-abi=" ++ a.name) :: rest) :
    m.fits (FlagSet.ofOptions l abi) = true ↔
      l.lastValue? "-mcpu=" = some "cortex-a7" ∧ abi = a ∧
        ∀ p ∈ rest, p ∈ (FlagSet.ofOptions l abi).predicates := by
  have habi : abi ≠ .invalid ∧ a.name = abi.name ↔ abi = a := by
    cases a <;> cases abi <;> simp_all [FloatAbi.name]
  rw [fits_iff, hm, List.forall_mem_cons, List.forall_mem_cons, FlagSet.cpu_mem_ofOptions,
    FlagSet.floatAbi_mem_ofOptions, habi]

theorem fits_cortexA7Soft :
    cortexA7Soft.fits (FlagSet.ofOptions l abi) = true ↔
      l.lastValue? "-mcpu=" = some "cortex-a7" ∧ abi = .soft := by
  rw [fits_of_required (a := .soft) (by decide) rfl]
  simp

theorem fits_cortexA7Softfp :
    cortexA7Softfp.fits (FlagSet.ofOptions l abi) = true ↔
      l.lastValue? "-mcpu=" = some "cortex-a7" ∧ abi = .softfp ∧
        l.lastValue? "-mfpu=" = some "neon-vfpv4" := by
  rw [fits_of_required (a := .softfp) (by decide) rfl, List.forall_mem_singleton,
    FlagSet.fpu_mem_ofOptions]

theorem fits_cortexA7Hard :
    cortexA7Hard.fits (FlagSet.ofOptions l abi) = true ↔
      l.lastValue? "-mcpu=" = some "cortex-a7" ∧ abi = .hard ∧
        l.lastValue? "-mfpu=" = some "neon-vfpv4" := by
  rw [fits_of_required (a := .hard) (by decide) rfl, List.forall_mem_singleton,
    FlagSet.fpu_mem_ofOptions]

/-- Besides the plain variant, the one that fits is the one that is built for the options. -/
theorem compatible_catalog :
    compatible catalog (FlagSet.ofOptions l abi) = plain :: (builtFor? l abi).toList := by
  have hplain : plain.fits (FlagSet.ofOptions l abi) = true := rfl
  have hsoft := fits_cortexA7Soft l abi
  have hsoftfp := fits_cortexA7Softfp l abi
  have hhard := fits_cortexA7Hard l abi
  simp only [compatible, catalog_eq, List.filter_cons, List.filter_nil, hplain, hsoft, hsoftfp,
    hhard, if_true]
  by_cases hcpu : l.lastValue? "-mcpu=" = some "cortex-a7" <;>
    by_cases hfpu : l.lastValue? "-mfpu=" = some "neon-vfpv4" <;>
    cases abi <;> simp [builtFor?, hcpu, hfpu]

/-- What is built for some options is preferred to the plain variant. -/
theorem beats_plain_of_builtFor? {m : Multilib} (h : builtFor? l abi = some m) :
    m ∈ catalog ∧ m.beats plain = true := by
  have hall : ∀ n ∈ [cortexA7Soft, cortexA7Softfp, cortexA7Hard],
      n ∈ catalog ∧ n.beats plain = true := by decide
  refine hall m ?_
  cases abi <;> simp [builtFor?] at h <;> simp [h]

/-- The variant that is built for the options is selected, or the plain one. -/
theorem select_catalog :
    select catalog (FlagSet.ofOptions l abi) = (builtFor? l abi).getD plain := by
  unfold select
  rw [compatible_catalog]
  cases hbuilt : builtFor? l abi with
  | none => rfl
  | some m => exact if_pos (beats_plain_of_builtFor? l abi hbuilt).2

/-- When each variant is selected. -/
theorem select_catalog_eq_iff :
    let selected := select catalog (FlagSet.ofOptions l abi)
    let cpu := l.lastValue? "-mcpu=" = some "cortex-a7"
    let fpu := l.lastValue? "-mfpu=" = some "neon-vfpv4"
    (selected = cortexA7Soft ↔ cpu ∧ abi = .soft) ∧
    (selected = cortexA7Softfp ↔ cpu ∧ fpu ∧ abi = .softfp) ∧
    (selected = cortexA7Hard ↔ cpu ∧ fpu ∧ abi = .hard) ∧
    (selected = plain ↔ ¬(cpu ∧ (abi = .soft ∨ fpu ∧ (abi = .softfp ∨ abi = .hard)))) := by
  intro selected cpu fpu
  have hselected : selected = (builtFor? l abi).getD plain := select_catalog l abi
  have hdistinct : [plain, cortexA7Soft, cortexA7Softfp, cortexA7Hard].Nodup := by decide
  rw [hselected]
  by_cases hcpu : cpu <;> by_cases hfpu : fpu <;> cases abi <;>
    simp_all [builtFor?, cpu, fpu, eq_comm]

/-- Variants that fit and have one rank are the same, so the catalog's order does not matter. -/
theorem select_catalog_perm {others : List Multilib} (h : catalog.Perm others) :
    select others (FlagSet.ofOptions l abi) = select catalog (FlagSet.ofOptions l abi) := by
  rcases select_of_perm h with hsame | ⟨-, hother, hrank⟩
  · exact hsame
  rw [select_catalog] at hrank ⊢
  rw [compatible_catalog] at hother
  cases hbuilt : builtFor? l abi with
  | none =>
    rw [hbuilt] at hother
    exact List.mem_singleton.1 hother
  | some m =>
    -- Two variants fit here, and they differ in rank.
    rw [hbuilt] at hother hrank
    have hlt : plain.rank < m.rank :=
      (beats_iff_rank_lt m plain).1 (beats_plain_of_builtFor? l abi hbuilt).2
    rcases List.mem_cons.1 hother with hplain | hm
    · rw [hplain] at hrank
      exact absurd hrank hlt.ne
    · exact List.mem_singleton.1 hm

/-- At most one variant that asks for anything fits. -/
theorem length_specific_le_one :
    ((compatible catalog (FlagSet.ofOptions l abi)).filter fun m => !m.isDefault).length ≤ 1 := by
  rw [compatible_catalog]
  have hplain : plain.isDefault = true := rfl
  cases builtFor? l abi with
  | none => simp [hplain]
  | some m => simpa [hplain] using List.length_filter_le (fun m : Multilib => !m.isDefault) [m]

/-- No selected variant asks for a float ABI that is not the one of the options. -/
theorem name_of_floatAbi_mem_required {name : String}
    (h : "mfloat-abi=" ++ name ∈ (select catalog (FlagSet.ofOptions l abi)).required) :
    name = abi.name := by
  have hfit : ∃ v ∈ catalog, v.fits (FlagSet.ofOptions l abi) = true :=
    ⟨plain, List.mem_cons_self, rfl⟩
  have hfits := (mem_compatible.1 (wins_select hfit).mem_compatible).2
  exact (FlagSet.floatAbi_mem_ofOptions.1 (fits_iff.1 hfits _ h)).2

end Multilib

/-- The float ABI is the one that the last option about it asks for. At most one specific variant of
the catalog fits, and the order of the catalog does not matter. Which variant is selected is told by
the last CPU, the last FPU and the float ABI, an unknown name of which counts as soft and an empty
one as none. Every configuration has this variant and this float ABI, and the variant asks for no
other one. -/
theorem multilib_of_cpu_fpu_floatAbi (tokens : List String) :
    let l : OptionList := .ofTokens tokens
    let last :=
      l.last? ["-msoft-float", "--soft-float", "-mhard-float", "--hard-float", "-mfloat-abi="]
    let abi := l.floatAbi.1
    let flags := FlagSet.ofOptions l abi
    let selected := Multilib.select Multilib.catalog flags
    let cpu := l.lastValue? "-mcpu=" = some "cortex-a7"
    let fpu := l.lastValue? "-mfpu=" = some "neon-vfpv4"
    (∀ a : FloatAbi, abi = a ↔
      (∃ o, last = some o ∧ o.AsksFor a) ∨ (last = none ∧ a = .soft)) ∧
    ((Multilib.compatible Multilib.catalog flags).filter fun m => !m.isDefault).length ≤ 1 ∧
    (∀ others, Multilib.catalog.Perm others → Multilib.select others flags = selected) ∧
    (selected = Multilib.cortexA7Soft ↔ cpu ∧ abi = .soft) ∧
    (selected = Multilib.cortexA7Softfp ↔ cpu ∧ fpu ∧ abi = .softfp) ∧
    (selected = Multilib.cortexA7Hard ↔ cpu ∧ fpu ∧ abi = .hard) ∧
    (selected = Multilib.plain ↔ ¬(cpu ∧ (abi = .soft ∨ fpu ∧ (abi = .softfp ∨ abi = .hard)))) ∧
    (∀ o, last = some o → o.name = "-mfloat-abi=" →
      (o.value ∉ ["", "soft", "softfp", "hard"] → abi = .soft) ∧
        (o.value = "" → selected = Multilib.plain)) ∧
    ∀ target triple e, Triple.parse target = .ok triple →
      ∃ s, resolve target tokens e = .ok s ∧ ∀ present : String → Bool,
        let c := s.answer present
        c.multilib = selected ∧ c.floatAbi = abi ∧
          ∀ name, "mfloat-abi=" ++ name ∈ c.multilib.required → name = c.floatAbi.name := by
  intro l last abi flags selected cpu fpu
  obtain ⟨hsoft, hsoftfp, hhard, hplain⟩ := Multilib.select_catalog_eq_iff l abi
  refine ⟨l.floatAbi_eq_iff, Multilib.length_specific_le_one l abi,
    fun others => Multilib.select_catalog_perm l abi, hsoft, hsoftfp, hhard, hplain,
    fun o hlast hname => ⟨fun hunknown => ?_, fun hempty => ?_⟩, ?_⟩
  · have hother : o.value ∉ ["", "softfp", "hard"] := by simp_all
    exact (l.floatAbi_eq_iff .soft).2 (.inl ⟨o, hlast, .inr ⟨hname, hother⟩⟩)
  · have hnone : abi = .invalid := (l.floatAbi_eq_iff .invalid).2 (.inl ⟨o, hlast, hname, hempty⟩)
    exact hplain.2 (by simp [hnone])
  · intro target triple e accepted
    obtain ⟨s, hs, hfound⟩ := resolve_of_parse accepted tokens e
    refine ⟨s, hs, fun present => ?_⟩
    rw [(hfound present).1]
    exact ⟨rfl, rfl, fun name => Multilib.name_of_floatAbi_mem_required l abi⟩

theorem multilib_of_cpu_fpu_floatAbi_unknown :
    let tokens := ["-mfpu=neon-vfpv4", "-mcpu=cortex-a7", "--hard-float", "-mfloat-abi=softest"]
    let l := OptionList.ofTokens tokens
    let flags := FlagSet.ofOptions l l.floatAbi.1
    Multilib.select Multilib.catalog flags = Multilib.cortexA7Soft ∧
      Multilib.select Multilib.catalog.reverse flags = Multilib.cortexA7Soft ∧
      ∃ triple s, Triple.parse "arm-linux-ohos" = .ok triple ∧
        resolve "arm-linux-ohos" tokens {} = .ok s ∧ ∀ present : String → Bool,
          (s.answer present).multilib = Multilib.cortexA7Soft ∧
            (s.answer present).floatAbi = .soft := by
  intro tokens l flags
  obtain ⟨-, -, hperm, hsoft, -, -, -, hlast, hresolve⟩ := multilib_of_cpu_fpu_floatAbi tokens
  have hlast' :
      l.last? ["-msoft-float", "--soft-float", "-mhard-float", "--hard-float", "-mfloat-abi="] =
        some (.ofToken "-mfloat-abi=softest") := by decide +kernel
  have habi : l.floatAbi.1 = .soft := (hlast _ hlast' (by decide +kernel)).1 (by decide +kernel)
  have hselected := hsoft.2 ⟨by decide +kernel, habi⟩
  have accepted : Triple.parse "arm-linux-ohos" = .ok _ := rfl
  obtain ⟨s, hs, hanswer⟩ := hresolve _ _ {} accepted
  refine ⟨hselected, ?_, _, s, accepted, hs, fun present => ?_⟩
  · exact (hperm _ (List.reverse_perm _).symm).trans hselected
  · obtain ⟨hmultilib, hfloatAbi, -⟩ := hanswer present
    exact ⟨hmultilib.trans hselected, hfloatAbi.trans habi⟩

end TargetResolution
