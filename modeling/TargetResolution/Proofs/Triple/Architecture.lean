import TargetResolution.LinkPolicy
import TargetResolution.Triple.Architecture
import TargetResolution.Triple.Multiarch

/-!
Aliases of architectures. The spellings are told apart by an ordered chain of tests; here they are
told without an order: each alias is read as its own architecture, and a spelling without an alias
is unknown. The exception are the stray names, which start with `arm` like an alias and are none:
they are taken for 32-bit ARM, even those that belong to a 64-bit one. Main statement: what is read
follows the aliases for exactly the names that are not stray.
-/

namespace TargetResolution.Architecture

open Text

/-- Whether a name starts with a stem. -/
def Starts (stem name : String) : Prop := stem.toList <+: name.toList

instance (stem name : String) : Decidable (Starts stem name) :=
  inferInstanceAs (Decidable (_ <+: _))

/-- Whether a name ends in the mark of the big-endian variants. -/
def IsBig (name : String) : Prop := endsInEb name.toList = true

instance (name : String) : Decidable (IsBig name) := inferInstanceAs (Decidable (_ = _))

/-- Whether a name in small letters is an alias of an architecture. -/
def IsAlias (name : String) : Architecture → Prop
  | .arm => name = "arm" ∨ Starts "armv" name ∧ ¬IsBig name
  | .armeb => name = "armeb" ∨ Starts "armv" name ∧ IsBig name
  | .thumb => Starts "thumb" name ∧ ¬IsBig name
  | .thumbeb => Starts "thumb" name ∧ IsBig name
  | .aarch64 => name = "aarch64" ∨ name = "arm64"
  | .aarch64be => name = "aarch64_be"
  | .x86 => name ∈ ["x86", "i386", "i486", "i586", "i686"]
  | .x86_64 => name = "x86_64" ∨ name = "amd64"
  | .riscv32 => name = "riscv32"
  | .riscv64 => name = "riscv64"
  | .mips => name = "mips"
  | .mipsel => name = "mipsel"
  | .mips64 => name = "mips64"
  | .mips64el => name = "mips64el"
  | .unknown | .other _ => False

instance (name : String) : (a : Architecture) → Decidable (IsAlias name a)
  | .arm | .armeb => inferInstanceAs (Decidable (_ ∨ _ ∧ _))
  | .thumb | .thumbeb => inferInstanceAs (Decidable (_ ∧ _))
  | .aarch64 | .x86_64 => inferInstanceAs (Decidable (_ ∨ _))
  | .x86 => inferInstanceAs (Decidable (_ ∈ _))
  | .aarch64be | .riscv32 | .riscv64 | .mips | .mipsel | .mips64 | .mips64el =>
    inferInstanceAs (Decidable (_ = _))
  | .unknown | .other _ => inferInstanceAs (Decidable False)

/-- Whether a name starts with `arm` and is no alias. -/
def IsStray (name : String) : Prop :=
  Starts "arm" name ∧ ¬Starts "armv" name ∧ name ∉ ["arm", "armeb", "arm64"]

instance (name : String) : Decidable (IsStray name) := inferInstanceAs (Decidable (_ ∧ _))

/-! ### One lemma for each test of the chain -/

section OfSmall

variable {name : String}

theorem Starts.trans {a b : String} (h : Starts b name) (hab : Starts a b) : Starts a name :=
  List.IsPrefix.trans hab h

/-- Of two stems of one name, one starts with the other. -/
theorem Starts.comparable {a b : String} (ha : Starts a name) (hb : Starts b name) :
    Starts a b ∨ Starts b a :=
  List.prefix_or_prefix_of_prefix ha hb

theorem not_starts_thumb (h : Starts "arm" name) : ¬Starts "thumb" name := fun hthumb =>
  absurd (h.comparable hthumb) (by decide)

theorem ofSmall_of_starts_thumb (h : Starts "thumb" name) :
    ofSmall name = if IsBig name then .thumbeb else .thumb := by
  have hothers : ∀ n ∈ ["aarch64", "arm64", "aarch64_be"], ¬Starts "thumb" n := by decide
  have hne : ∀ n ∈ ["aarch64", "arm64", "aarch64_be"], name ≠ n :=
    fun n hn heq => hothers n hn (heq ▸ h)
  have hthumb : "thumb".toList.isPrefixOf name.toList = true := List.isPrefixOf_iff_prefix.2 h
  unfold ofSmall
  rw [if_neg (by simp [hne]), if_neg (by simp [hne]), if_pos hthumb]
  rfl

/-- A name that starts with `arm` is taken for 32-bit ARM unless it is the one 64-bit alias. -/
theorem ofSmall_of_starts_arm (h : Starts "arm" name) (hname : name ≠ "arm64") :
    ofSmall name = if IsBig name then .armeb else .arm := by
  have hothers : ∀ n ∈ ["aarch64", "aarch64_be"], ¬Starts "arm" n := by decide
  have hne : ∀ n ∈ ["aarch64", "aarch64_be"], name ≠ n := fun n hn heq => hothers n hn (heq ▸ h)
  have hthumb : ¬"thumb".toList.isPrefixOf name.toList = true :=
    fun hthumb => not_starts_thumb h (List.isPrefixOf_iff_prefix.1 hthumb)
  have harm : "arm".toList.isPrefixOf name.toList = true := List.isPrefixOf_iff_prefix.2 h
  unfold ofSmall
  rw [if_neg (by simp [hne, hname]), if_neg (by simp [hne]), if_neg hthumb, if_pos harm]
  rfl

theorem Starts.arm_of_armv (h : Starts "armv" name) : Starts "arm" name ∧ name ≠ "arm64" := by
  refine ⟨h.trans (by decide), ?_⟩
  rintro rfl
  exact absurd h (by decide)

/-- Each alias is read as its own architecture. -/
theorem ofSmall_of_isAlias {a : Architecture} (h : IsAlias name a) : ofSmall name = a := by
  cases a with
  | arm =>
    rcases h with rfl | ⟨hv, hbig⟩
    · rfl
    · rw [ofSmall_of_starts_arm hv.arm_of_armv.1 hv.arm_of_armv.2, if_neg hbig]
  | armeb =>
    rcases h with rfl | ⟨hv, hbig⟩
    · rfl
    · rw [ofSmall_of_starts_arm hv.arm_of_armv.1 hv.arm_of_armv.2, if_pos hbig]
  | thumb => rw [ofSmall_of_starts_thumb h.1, if_neg h.2]
  | thumbeb => rw [ofSmall_of_starts_thumb h.1, if_pos h.2]
  | aarch64 | x86_64 => rcases h with rfl | rfl <;> rfl
  | x86 =>
    have hnames : ∀ n ∈ ["x86", "i386", "i486", "i586", "i686"], ofSmall n = .x86 := by decide
    exact hnames name h
  | aarch64be | riscv32 | riscv64 | mips | mipsel | mips64 | mips64el =>
    obtain rfl : name = _ := h
    rfl
  | unknown | other => exact h.elim

/-- What starts with `arm` has an alias unless it is stray. -/
theorem exists_isAlias_of_starts_arm (h : Starts "arm" name) (hstray : ¬IsStray name) :
    ∃ a, IsAlias name a := by
  by_cases hv : Starts "armv" name
  · by_cases hbig : IsBig name
    · exact ⟨.armeb, .inr ⟨hv, hbig⟩⟩
    · exact ⟨.arm, .inr ⟨hv, hbig⟩⟩
  · have hname : name ∈ ["arm", "armeb", "arm64"] :=
      Decidable.byContradiction fun hname => hstray ⟨h, hv, hname⟩
    simp only [List.mem_cons, List.not_mem_nil, or_false] at hname
    rcases hname with rfl | rfl | rfl
    · exact ⟨.arm, .inl rfl⟩
    · exact ⟨.armeb, .inl rfl⟩
    · exact ⟨.aarch64, .inr rfl⟩

/-- A name that is neither an alias nor stray passes all tests. -/
theorem ofSmall_eq_unknown (hnone : ∀ a, ¬IsAlias name a) (hstray : ¬IsStray name) :
    ofSmall name = .unknown := by
  have hthumb : ¬"thumb".toList.isPrefixOf name.toList = true := by
    intro hthumb
    have hstarts : Starts "thumb" name := List.isPrefixOf_iff_prefix.1 hthumb
    by_cases hbig : IsBig name
    · exact hnone .thumbeb ⟨hstarts, hbig⟩
    · exact hnone .thumb ⟨hstarts, hbig⟩
  have harm : ¬"arm".toList.isPrefixOf name.toList = true := by
    intro harm
    obtain ⟨a, ha⟩ := exists_isAlias_of_starts_arm (List.isPrefixOf_iff_prefix.1 harm) hstray
    exact hnone a ha
  -- The tests fail one by one, in the order of the chain. Most of them are aliases as they stand.
  unfold ofSmall
  calc
    _ = _ := if_neg (hnone .aarch64)
    _ = _ := if_neg (hnone .aarch64be)
    _ = _ := if_neg hthumb
    _ = _ := if_neg harm
    _ = _ := if_neg (hnone .x86_64)
    _ = _ := if_neg (hnone .x86)
    _ = _ := if_neg (hnone .riscv32)
    _ = _ := if_neg (hnone .riscv64)
    _ = _ := if_neg (hnone .mips)
    _ = _ := if_neg (hnone .mipsel)
    _ = _ := if_neg (hnone .mips64)
    _ = _ := if_neg (hnone .mips64el)

theorem ofSmall_of_isStray (h : IsStray name) :
    ofSmall name = if IsBig name then .armeb else .arm := by
  obtain ⟨harm, -, hname⟩ := h
  exact ofSmall_of_starts_arm harm fun heq => hname (by simp [heq])

/-- No stray name is an alias. -/
theorem not_isAlias_of_isStray (h : IsStray name) (a : Architecture) : ¬IsAlias name a := by
  intro ha
  have hread : (if IsBig name then armeb else arm) = a :=
    (ofSmall_of_isStray h).symm.trans (ofSmall_of_isAlias ha)
  -- It is read as one of the two whose aliases are `arm`, `armeb` and what starts with `armv`.
  obtain ⟨-, hv, hname⟩ := h
  split at hread <;> subst hread <;> rcases ha with rfl | ⟨hv', -⟩
  · exact hname (by simp)
  · exact hv hv'
  · exact hname (by simp)
  · exact hv hv'

/-- A name is an alias, stray, or unknown. -/
theorem ofSmall_cases (name : String) :
    (∃ a, IsAlias name a ∧ ofSmall name = a) ∨
    (IsStray name ∧ ofSmall name = if IsBig name then .armeb else .arm) ∨
    ((∀ a, ¬IsAlias name a) ∧ ¬IsStray name ∧ ofSmall name = .unknown) := by
  by_cases halias : ∃ a, IsAlias name a
  · obtain ⟨a, ha⟩ := halias
    exact .inl ⟨a, ha, ofSmall_of_isAlias ha⟩
  have hnone : ∀ a, ¬IsAlias name a := fun a ha => halias ⟨a, ha⟩
  by_cases hstray : IsStray name
  · exact .inr (.inl ⟨hstray, ofSmall_of_isStray hstray⟩)
  · exact .inr (.inr ⟨hnone, hstray, ofSmall_eq_unknown hnone hstray⟩)

/-- Without stray names, what is read is told by the aliases. -/
theorem ofSmall_eq_iff_isAlias (hstray : ¬IsStray name) {a : Architecture} (ha : a ≠ .unknown) :
    ofSmall name = a ↔ IsAlias name a := by
  refine ⟨fun hread => ?_, ofSmall_of_isAlias⟩
  rcases ofSmall_cases name with ⟨b, hb, hread'⟩ | ⟨hstray', -⟩ | ⟨-, -, hread'⟩
  · exact (hread'.symm.trans hread) ▸ hb
  · exact absurd hstray' hstray
  · exact absurd (hread.symm.trans hread') ha

/-- A name that starts with `arm64` is the alias or stray. -/
theorem starts_arm64_cases (h : Starts "arm64" name) : name = "arm64" ∨ IsStray name := by
  by_cases hname : name = "arm64"
  · exact .inl hname
  refine .inr ⟨h.trans (by decide), fun hv => ?_, fun hmem => ?_⟩
  · exact absurd (h.comparable hv) (by decide)
  · have hothers : ∀ n ∈ ["arm", "armeb", "arm64"], Starts "arm64" n → n = "arm64" := by decide
    exact hname (hothers name hmem h)

/-- Of all names that start with `arm64`, only the alias is read as the 64-bit architecture. -/
theorem ofSmall_of_starts_arm64 (h : Starts "arm64" name) :
    ((ofSmall name).isArm = true ↔ name ≠ "arm64") ∧
      ((ofSmall name).is64Bit = true ↔ name = "arm64") := by
  rcases starts_arm64_cases h with rfl | hstray
  · decide
  · have hne : name ≠ "arm64" := fun heq => hstray.2.2 (by simp [heq])
    rw [ofSmall_of_isStray hstray]
    split <;> simp [isArm, is64Bit, hne]

end OfSmall

/-- What is read from a spelling follows the aliases exactly if the spelling in small letters is not
stray; then each alias is read as its own architecture and everything else is unknown. A stray name
is read as 32-bit ARM. So are all names that start with `arm64`, but for the alias itself. -/
theorem parse_follows_aliases_iff (spelling : String) :
    let name := lower spelling
    let a := parse spelling
    (((a = .arm ↔ name = "arm" ∨ Starts "armv" name ∧ ¬IsBig name) ∧
        (a = .armeb ↔ name = "armeb" ∨ Starts "armv" name ∧ IsBig name) ∧
        ((∀ b, ¬IsAlias name b) → a = .unknown) ∧
        (Starts "arm64" name → a.isArm = false)) ↔ ¬IsStray name) ∧
    (¬IsStray name →
      (∀ b, b ≠ .unknown → (a = b ↔ IsAlias name b)) ∧
        (a = .unknown ↔ ∀ b, ¬IsAlias name b)) ∧
    (IsStray name → a = if IsBig name then .armeb else .arm) ∧
    (Starts "arm64" name →
      (a.isArm = true ↔ name ≠ "arm64") ∧ (a.is64Bit = true ↔ name = "arm64")) := by
  intro name a
  refine ⟨⟨?_, fun hstray => ⟨?_, ?_, ?_, ?_⟩⟩, fun hstray => ⟨fun b => ?_, ?_, ?_⟩,
    ofSmall_of_isStray, ofSmall_of_starts_arm64⟩
  · rintro ⟨-, -, hunknown, -⟩ hstray
    have hread : a = if IsBig name then .armeb else .arm := ofSmall_of_isStray hstray
    rw [hunknown (not_isAlias_of_isStray hstray)] at hread
    split at hread <;> cases hread
  · exact ofSmall_eq_iff_isAlias hstray (by decide)
  · exact ofSmall_eq_iff_isAlias hstray (by decide)
  · exact fun hnone => ofSmall_eq_unknown hnone hstray
  · intro h
    rcases starts_arm64_cases h with heq | hstray'
    · show (ofSmall name).isArm = false
      rw [heq]
      rfl
    · exact absurd hstray' hstray
  · exact ofSmall_eq_iff_isAlias hstray
  · rintro hread b hb
    have hunknown : b = .unknown := (ofSmall_of_isAlias hb).symm.trans hread
    exact (hunknown ▸ hb : IsAlias name .unknown)
  · exact fun hnone => ofSmall_eq_unknown hnone hstray

theorem arm64e_taken_for_arm :
    let name := lower "arm64e"
    let a := parse "arm64e"
    (∀ b, ¬IsAlias name b) ∧ Starts "arm64" name ∧ a = .arm ∧ a.isArm = true ∧
      a.is64Bit = false ∧
      ¬(a = .arm ↔ name = "arm" ∨ Starts "armv" name ∧ ¬IsBig name) ∧
      ∃ t, Triple.parse "arm64e-linux-ohos" = .ok t ∧ t.loader .soft = "/system/bin/linker" ∧
        t.multiarch = "arm-linux-ohos" := by
  intro name a
  refine ⟨fun b => ?_, by decide, by decide, by decide, by decide, by decide, _, rfl, ?_, ?_⟩
  · cases b with
    | other name => exact id
    | _ => decide
  · decide
  · decide

end TargetResolution.Architecture
