import TargetResolution.LinkPolicy
import TargetResolution.Proofs.OptionList.FloatAbi

/-!
Later options override earlier ones. Tokens behind a list that leaves no name waiting are scanned on
their own, so the last option with some names is the one that they write, if they write one, and
else the one from before. Main statement: whatever is read off such a last option follows the tokens
behind if they write an option of its group, and the tokens in front if they do not.
-/

namespace TargetResolution.OptionList

open Diagnostic (Kind)

/-- Whether tokens write an option with one of the names. -/
def Writes (tokens names : List String) : Prop := ∃ o ∈ scan tokens, o.name ∈ names

instance (tokens names : List String) : Decidable (Writes tokens names) :=
  inferInstanceAs (Decidable (∃ o ∈ scan tokens, o.name ∈ names))

section

variable {α β : Type} {names : List String} {answer : OptionList → α}

/-- An answer for tokens with others behind them: it is that for the tokens behind if these write an
option with one of the names, and that for the tokens in front if they do not. -/
def LastWins (names : List String) (answer : OptionList → α) (front behind : List String) : Prop :=
  answer (ofTokens (front ++ behind)) =
    if Writes behind names then answer (ofTokens behind) else answer (ofTokens front)

/-- Whether an answer is read off the last option with one of the names. -/
def ReadsLast (names : List String) (answer : OptionList → α) : Prop :=
  ∃ read : Option DriverOption → α, ∀ l, answer l = read (l.last? names)

theorem ReadsLast.map (h : ReadsLast names answer) (f : α → β) :
    ReadsLast names fun l => f (answer l) := by
  obtain ⟨read, hread⟩ := h
  exact ⟨fun o => f (read o), fun l => congrArg f (hread l)⟩

/-! ### The last option behind others -/

theorem last?_eq_none_iff {tokens : List String} :
    (ofTokens tokens).last? names = none ↔ ¬Writes tokens names := by
  simp [last?, ofTokens, Writes]

theorem has_iff {tokens : List String} :
    (ofTokens tokens).has names = true ↔ Writes tokens names := by
  rw [has, Option.isSome_iff_ne_none, ne_eq, last?_eq_none_iff, Decidable.not_not]

variable {front behind : List String} (whole : dangles front = false)
include whole

theorem writes_append :
    Writes (front ++ behind) names ↔ Writes front names ∨ Writes behind names := by
  unfold Writes
  rw [scan_append whole]
  simp only [List.mem_append, or_and_right, exists_or]

/-- The last option is looked for behind before it is looked for in front. -/
theorem last?_append (names : List String) :
    (ofTokens (front ++ behind)).last? names =
      ((ofTokens behind).last? names).or ((ofTokens front).last? names) := by
  unfold last? ofTokens
  rw [scan_append whole, List.reverse_append, List.find?_append]

/-- Whatever is read off a last option is overridden with it. -/
theorem ReadsLast.lastWins (h : ReadsLast names answer) : LastWins names answer front behind := by
  obtain ⟨read, hread⟩ := h
  unfold LastWins
  rw [hread, hread, hread, last?_append whole]
  by_cases hwrites : Writes behind names
  · have hsome : (ofTokens behind).last? names ≠ none := fun hnone =>
      last?_eq_none_iff.1 hnone hwrites
    obtain ⟨o, ho⟩ := Option.ne_none_iff_exists'.1 hsome
    rw [if_pos hwrites, ho, Option.some_or]
  · rw [if_neg hwrites, last?_eq_none_iff.2 hwrites, Option.none_or]

end

/-! ### What is read off last options -/

section Answers

variable (names : List String)

theorem readsLast_last? : ReadsLast names fun l => l.last? names := ⟨id, fun _ => rfl⟩

theorem readsLast_floatAbi : ReadsLast Kind.floatAbi.names floatAbi := by
  refine ⟨fun o => (o.map FloatAbi.ofOption).getD (.soft, none), fun l => ?_⟩
  cases hlast : l.last? Kind.floatAbi.names with
  | none => exact floatAbi_of_last?_none hlast
  | some o => exact floatAbi_of_last? hlast

theorem readsLast_lastValue? (name : String) : ReadsLast [name] fun l => l.lastValue? name :=
  (readsLast_last? [name]).map (Option.map DriverOption.value)

theorem readsLast_checkChoice (only : String) (kind : Kind) :
    ReadsLast names fun l => RuntimeLibrary.checkChoice l names only kind := by
  refine ⟨fun o => o.bind fun o => if o.value = only then none else some (.about kind o.text),
    fun l => ?_⟩
  show RuntimeLibrary.checkChoice l names only kind = _
  unfold RuntimeLibrary.checkChoice
  cases l.last? names <;> rfl

theorem readsLast_flag (positive negative : String) (default : Bool) :
    ReadsLast [positive, negative] fun l => l.flag positive negative default := by
  refine ⟨fun o => (o.map fun o => o.name == positive).getD default, fun l => ?_⟩
  show l.flag positive negative default = _
  unfold flag
  cases l.last? [positive, negative] <;> rfl

theorem readsLast_isOn (f : LinkPolicy.ProfileFamily) :
    ReadsLast (f.positive ++ [f.negative]) fun l => f.isOn l := by
  refine ⟨fun o => (o.map fun o => o.name != f.negative).getD false, fun l => ?_⟩
  show f.isOn l = _
  unfold LinkPolicy.ProfileFamily.isOn
  cases l.last? (f.positive ++ [f.negative]) <;> rfl

/-- The predicate of the CPU does not look at the float ABI. -/
theorem readsLast_cpu (abi : OptionList → FloatAbi) :
    ReadsLast ["-mcpu="] fun l => (FlagSet.ofOptions l (abi l)).holds "mcpu=cortex-a7" := by
  refine ⟨fun o => decide (o.map DriverOption.value = some "cortex-a7"), fun l => ?_⟩
  exact decide_eq_decide.2 FlagSet.cpu_mem_ofOptions

/-- Nor does the predicate of the FPU. -/
theorem readsLast_fpu (abi : OptionList → FloatAbi) :
    ReadsLast ["-mfpu="] fun l => (FlagSet.ofOptions l (abi l)).holds "mfpu=neon-vfpv4" := by
  refine ⟨fun o => decide (o.map DriverOption.value = some "neon-vfpv4"), fun l => ?_⟩
  exact decide_eq_decide.2 FlagSet.fpu_mem_ofOptions

end Answers

/-- Tokens behind a list that leaves no name waiting write the same options as on their own, and so
the last option wins: the float ABI with its report, the predicates of the CPU and the FPU, the
reports about the two libraries, the sysroot, each flag with its opposite and the last flag of each
family of profiling flags follow the tokens behind if these write an option of the group, and else
the tokens in front. -/
theorem later_options_win {front : List String} (whole : dangles front = false)
    (behind : List String) :
    (ofTokens (front ++ behind)).options = (ofTokens front).options ++ (ofTokens behind).options ∧
    LastWins ["-msoft-float", "--soft-float", "-mhard-float", "--hard-float", "-mfloat-abi="]
      (fun l => l.floatAbi) front behind ∧
    (∀ abi : OptionList → FloatAbi,
      LastWins ["-mcpu="] (fun l => (FlagSet.ofOptions l (abi l)).holds "mcpu=cortex-a7")
        front behind ∧
      LastWins ["-mfpu="] (fun l => (FlagSet.ofOptions l (abi l)).holds "mfpu=neon-vfpv4")
        front behind) ∧
    LastWins ["--rtlib=", "-rtlib="] RuntimeLibrary.checkRuntime front behind ∧
    LastWins ["--stdlib=", "-stdlib="] RuntimeLibrary.checkStandardLibrary front behind ∧
    LastWins ["--sysroot="] (fun l => l.lastValue? "--sysroot=") front behind ∧
    (∀ positive negative default, LastWins [positive, negative]
      (fun l => l.flag positive negative default) front behind) ∧
    ∀ family ∈ LinkPolicy.profileFamilies,
      LastWins (family.positive ++ [family.negative])
        (fun l => l.last? (family.positive ++ [family.negative])) front behind := by
  refine ⟨scan_append whole behind, readsLast_floatAbi.lastWins whole, fun abi => ⟨?_, ?_⟩, ?_, ?_,
    ?_, fun positive negative default => ?_, fun family _ => ?_⟩
  · exact (readsLast_cpu abi).lastWins whole
  · exact (readsLast_fpu abi).lastWins whole
  · exact (readsLast_checkChoice _ _ _).lastWins whole
  · exact (readsLast_checkChoice _ _ _).lastWins whole
  · exact (readsLast_lastValue? "--sysroot=").lastWins whole
  · exact (readsLast_flag positive negative default).lastWins whole
  · exact (readsLast_last? _).lastWins whole

theorem later_options_win_separate_value :
    let front := ["-mcpu=cortex-a7", "--rtlib=x", "--soft-float", "--sysroot", "-mcpu=cortex-a8"]
    let behind := ["--sysroot=/s", "-mfloat-abi=none", "--target"]
    let all := ofTokens (front ++ behind)
    dangles front = false ∧
      all.floatAbi = (.soft, some (.about .floatAbi "-mfloat-abi=none")) ∧
      (FlagSet.ofOptions all all.floatAbi.1).holds "mcpu=cortex-a7" = true ∧
      RuntimeLibrary.checkRuntime all = some (.about .runtimeLibrary "--rtlib=x") ∧
      all.lastValue? "--sysroot=" = some "/s" := by
  intro front behind all
  have whole : dangles front = false := by decide
  obtain ⟨-, hfloatAbi, hflags, hruntime, -, hsysroot, -⟩ := later_options_win whole behind
  obtain ⟨hcpu, -⟩ := hflags fun l => l.floatAbi.1
  have hfront : (FlagSet.ofOptions (ofTokens front) (ofTokens front).floatAbi.1).holds
      "mcpu=cortex-a7" = true :=
    decide_eq_true (FlagSet.cpu_mem_ofOptions.2 (by decide +kernel))
  exact ⟨whole, hfloatAbi.trans (by decide +kernel),
    hcpu.trans ((if_neg (by decide +kernel)).trans hfront),
    hruntime.trans (by decide +kernel), hsysroot.trans (by decide +kernel)⟩

end TargetResolution.OptionList
