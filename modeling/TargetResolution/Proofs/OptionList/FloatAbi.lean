import TargetResolution.Proofs.OptionList.Choice

/-!
The float ABI that options ask for. Each option of the choice asks for exactly one convention, and
the last of them is heard; without any the floats are soft. An unknown name asks for soft floats,
and an empty one for none. So the predicates of a list of options name one float ABI at most.
-/

namespace TargetResolution

open Diagnostic (Kind)

/-- Whether an option asks for a convention. -/
def DriverOption.AsksFor (o : DriverOption) : FloatAbi → Prop
  | .soft => o.name ∈ ["-msoft-float", "--soft-float"] ∨
      (o.name = "-mfloat-abi=" ∧ o.value ∉ ["", "softfp", "hard"])
  | .softfp => o.name = "-mfloat-abi=" ∧ o.value = "softfp"
  | .hard => o.name ∈ ["-mhard-float", "--hard-float"] ∨
      (o.name = "-mfloat-abi=" ∧ o.value = "hard")
  | .invalid => o.name = "-mfloat-abi=" ∧ o.value = ""

namespace FloatAbi

variable {o : DriverOption}

theorem asksFor_of_soft (h : o.name ∈ softOptions) : o.AsksFor (ofOption o).1 := by
  rw [ofOption, if_pos h]
  exact .inl h

theorem asksFor_of_hard (h : o.name ∈ hardOptions) : o.AsksFor (ofOption o).1 := by
  have hsoft : ∀ n ∈ hardOptions, n ∉ softOptions := by decide
  rw [ofOption, if_neg (hsoft _ h), if_pos h]
  exact .inl h

/-- What the value of the naming option asks for. -/
theorem asksFor_of_naming (h : o.name = namingOption) : o.AsksFor (ofOption o).1 := by
  have hplain : o.name ∉ softOptions ∧ o.name ∉ hardOptions := by
    rw [h]
    decide
  rw [ofOption, if_neg hplain.1, if_neg hplain.2]
  by_cases hempty : o.value = ""
  · rw [if_pos hempty]
    exact ⟨h, hempty⟩
  rw [if_neg hempty]
  cases hvalue : ofOptionValue? o.value with
  | none =>
    have hunknown := (OptionList.ofOptionValue?_eq_none_iff _).1 hvalue
    exact .inr ⟨h, by simp_all⟩
  | some abi =>
    have hname : abi.name = o.value := by simpa using List.find?_some hvalue
    have hmem : abi ∈ [soft, softfp, hard] := List.mem_of_find?_eq_some hvalue
    cases abi with
    | soft => exact .inr ⟨h, by rw [← hname]; decide⟩
    | softfp => exact ⟨h, hname.symm⟩
    | hard => exact .inr ⟨h, hname.symm⟩
    | invalid => exact absurd hmem (by decide)

/-- An option of the choice asks for the convention that is read from it. -/
theorem asksFor_ofOption (h : o.name ∈ Kind.floatAbi.names) : o.AsksFor (ofOption o).1 := by
  rcases List.mem_append.1 h with h | h
  · rcases List.mem_append.1 h with h | h
    · exact asksFor_of_soft h
    · exact asksFor_of_hard h
  · exact asksFor_of_naming (List.mem_singleton.1 h)

/-- No option asks for two conventions. -/
theorem eq_of_asksFor {a b : FloatAbi} (ha : o.AsksFor a) (hb : o.AsksFor b) : a = b := by
  cases a <;> cases b <;> grind [DriverOption.AsksFor]

end FloatAbi

/-- The float ABI is the one that the last option of the choice asks for, and soft without any. -/
theorem OptionList.floatAbi_eq_iff (l : OptionList) (abi : FloatAbi) :
    l.floatAbi.1 = abi ↔
      (∃ o, l.last? Kind.floatAbi.names = some o ∧ o.AsksFor abi) ∨
        (l.last? Kind.floatAbi.names = none ∧ abi = .soft) := by
  cases hlast : l.last? Kind.floatAbi.names with
  | none =>
    rw [floatAbi_of_last?_none hlast]
    simp [eq_comm]
  | some o =>
    have hasks := FloatAbi.asksFor_ofOption (name_mem_of_last? hlast).2
    rw [floatAbi_of_last? hlast]
    constructor
    · rintro rfl
      exact .inl ⟨o, rfl, hasks⟩
    · rintro (⟨o', ho', hasks'⟩ | ⟨hnone, -⟩)
      · obtain rfl := Option.some.inj ho'
        exact FloatAbi.eq_of_asksFor hasks hasks'
      · cases hnone

namespace FlagSet

variable {l : OptionList} {abi : FloatAbi}

/-- The predicates that hold for some options. -/
theorem mem_ofOptions {p : String} :
    p ∈ (ofOptions l abi).predicates ↔
      (l.lastValue? "-mcpu=" = some "cortex-a7" ∧ p = "mcpu=cortex-a7") ∨
        (l.lastValue? "-mfpu=" = some "neon-vfpv4" ∧ p = "mfpu=neon-vfpv4") ∨
        (abi ≠ .invalid ∧ p = "mfloat-abi=" ++ abi.name) := by
  unfold ofOptions ofList
  rw [Text.mem_sortedSet, List.mem_append, List.mem_append, or_assoc, List.mem_ite_nil_right,
    List.mem_ite_nil_right, List.mem_ite_nil_left, List.mem_singleton, List.mem_singleton,
    List.mem_singleton]
  rfl

theorem cpu_mem_ofOptions :
    "mcpu=cortex-a7" ∈ (ofOptions l abi).predicates ↔
      l.lastValue? "-mcpu=" = some "cortex-a7" := by
  have habi : "mcpu=cortex-a7" ≠ "mfloat-abi=" ++ abi.name := by cases abi <;> decide
  simp [mem_ofOptions, habi]

theorem fpu_mem_ofOptions :
    "mfpu=neon-vfpv4" ∈ (ofOptions l abi).predicates ↔
      l.lastValue? "-mfpu=" = some "neon-vfpv4" := by
  have habi : "mfpu=neon-vfpv4" ≠ "mfloat-abi=" ++ abi.name := by cases abi <;> decide
  simp [mem_ofOptions, habi]

/-- Only the float ABI that is asked for is named. -/
theorem floatAbi_mem_ofOptions {name : String} :
    "mfloat-abi=" ++ name ∈ (ofOptions l abi).predicates ↔ abi ≠ .invalid ∧ name = abi.name := by
  have hcpu : "mfloat-abi=" ++ name ≠ "mcpu=cortex-a7" := fun h => by
    simpa using congrArg String.toList h
  have hfpu : "mfloat-abi=" ++ name ≠ "mfpu=neon-vfpv4" := fun h => by
    simpa using congrArg String.toList h
  simp [mem_ofOptions, hcpu, hfpu, String.append_right_inj]

end FlagSet

end TargetResolution
