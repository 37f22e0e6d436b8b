import TargetResolution.Proofs.OptionList.Override

/-!
When the profiling runtime is linked. A family of flags is on when the last of them is not the
negative one, so tokens behind others decide about the families that they write a flag of; options
that ask for profiling or coverage on their own cannot be taken back. Main statement: the negative
flags behind any options switch off all but these, a positive flag behind any options is enough, and
the archive comes last, behind its hook unless coverage is asked for.
-/

namespace TargetResolution.LinkPolicy

open OptionList

/-- The flags that switch a family off. -/
def offFlags : List String := ["-fno-profile-arcs", "-fno-profile-generate",
  "-fno-profile-instr-generate"]

/-- The options that have the profiling runtime linked whatever comes behind them. -/
def standingRequests : List String := coverageOptions ++ requestOptions

/-- Whether a token writes a flag: it is the flag, or the flag takes a value and it follows. -/
def IsFlagToken (flag token : String) : Prop :=
  token = flag ∨ DriverOption.IsValued flag ∧ ∃ value, token = flag ++ value

variable {front tokens : List String} {f : ProfileFamily}

/-! ### Flags -/

/-- What the flags of a family have in common. -/
theorem flags_of_family : ∀ f ∈ profileFamilies,
    f.negative ∈ offFlags ∧ f.negative ∉ f.positive ∧
      ∀ flag ∈ f.positive, flag ∉ offFlags ∧ (DriverOption.ofToken flag).name = flag := by
  decide

theorem name_of_offFlag : ∀ flag ∈ offFlags,
    flag ∉ DriverOption.separateValueNames ∧ (DriverOption.ofToken flag).name = flag := by
  decide

theorem offFlag_not_standing : ∀ flag ∈ offFlags, flag ∉ standingRequests := by
  decide

/-- The options that negative flags write have their names. -/
theorem exists_of_mem_scan_offFlags (h : ∀ token ∈ tokens, token ∈ offFlags) {o : DriverOption}
    (ho : o ∈ scan tokens) : ∃ flag ∈ tokens, o.name = flag := by
  rw [scan_eq_map fun token htoken => (name_of_offFlag token (h token htoken)).1] at ho
  obtain ⟨flag, hflag, rfl⟩ := List.mem_map.1 ho
  exact ⟨flag, hflag, (name_of_offFlag flag (h flag hflag)).2⟩

theorem writes_of_offFlag_mem (h : ∀ token ∈ tokens, token ∈ offFlags) {flag : String}
    (hflag : flag ∈ tokens) {names : List String} (hname : flag ∈ names) : Writes tokens names := by
  refine ⟨.ofToken flag, ?_, ?_⟩
  · rw [scan_eq_map fun token htoken => (name_of_offFlag token (h token htoken)).1]
    exact List.mem_map_of_mem hflag
  · rw [(name_of_offFlag flag (h flag hflag)).2]
    exact hname

theorem name_of_isFlagToken (hf : f ∈ profileFamilies) {flag token : String}
    (hflag : flag ∈ f.positive) (htoken : IsFlagToken flag token) :
    (DriverOption.ofToken token).name = flag := by
  rcases htoken with rfl | ⟨hvalued, value, rfl⟩
  · exact ((flags_of_family f hf).2.2 token hflag).2
  · rw [DriverOption.ofToken_valued_name hvalued]

/-! ### Families -/

theorem isOn_iff {l : OptionList} :
    f.isOn l = true ↔ ∃ o, l.last? (f.positive ++ [f.negative]) = some o ∧ o.name ≠ f.negative := by
  unfold ProfileFamily.isOn
  cases l.last? (f.positive ++ [f.negative]) <;> simp

/-- A family is on behind other options if its flags there switch it on, or if there are none and it
was on before. -/
theorem isOn_append (whole : dangles front = false) (f : ProfileFamily) (tokens : List String) :
    f.isOn (ofTokens (front ++ tokens)) =
      if Writes tokens (f.positive ++ [f.negative]) then f.isOn (ofTokens tokens)
      else f.isOn (ofTokens front) :=
  (readsLast_isOn f).lastWins whole

/-- All negative flags behind any options switch every family off. -/
theorem isOn_append_offFlags (whole : dangles front = false)
    (hoff : ∀ token, token ∈ tokens ↔ token ∈ offFlags) (hf : f ∈ profileFamilies) :
    f.isOn (ofTokens (front ++ tokens)) = false := by
  obtain ⟨hnegative, -, hpositive⟩ := flags_of_family f hf
  have honly : ∀ token ∈ tokens, token ∈ offFlags := fun token => (hoff token).1
  have hwrites : Writes tokens (f.positive ++ [f.negative]) :=
    writes_of_offFlag_mem honly ((hoff _).2 hnegative) (by simp)
  rw [isOn_append whole, if_pos hwrites, Bool.eq_false_iff, ne_eq, isOn_iff]
  rintro ⟨o, hlast, hname⟩
  obtain ⟨hmem, hfamily⟩ := name_mem_of_last? hlast
  obtain ⟨flag, hflag, hoption⟩ := exists_of_mem_scan_offFlags honly hmem
  have hon : o.name ∈ f.positive := by simpa [hname] using hfamily
  rw [hoption] at hon
  exact (hpositive flag hon).1 (honly flag hflag)

/-- A positive flag behind any options switches its family on. -/
theorem isOn_append_flag (whole : dangles front = false) (hf : f ∈ profileFamilies)
    {flag token : String} (hflag : flag ∈ f.positive) (htoken : IsFlagToken flag token) :
    f.isOn (ofTokens (front ++ [token])) = true := by
  obtain ⟨-, hne, -⟩ := flags_of_family f hf
  have hname := name_of_isFlagToken hf hflag htoken
  have hfamily : (DriverOption.ofToken token).name ∈ f.positive ++ [f.negative] := by
    rw [hname]
    exact List.mem_append_left _ hflag
  have hlast : (ofTokens [token]).last? (f.positive ++ [f.negative]) = some (.ofToken token) := by
    simp only [last?, ofTokens, scan, List.reverse_singleton, List.find?_singleton,
      decide_eq_true hfamily, if_true]
  rw [isOn_append whole, if_pos ⟨.ofToken token, List.mem_singleton_self _, hfamily⟩, isOn_iff]
  refine ⟨_, hlast, ?_⟩
  rw [hname]
  rintro rfl
  exact hne hflag

/-! ### The profiling runtime -/

theorem writes_append_names {names more : List String} :
    Writes tokens (names ++ more) ↔ Writes tokens names ∨ Writes tokens more := by
  unfold Writes
  simp only [List.mem_append, and_or_left, exists_or]

theorem needsProfileRuntime_iff :
    needsProfileRuntime (ofTokens tokens) = true ↔
      Writes tokens standingRequests ∨ ∃ f ∈ profileFamilies, f.isOn (ofTokens tokens) = true := by
  unfold needsProfileRuntime standingRequests
  rw [Bool.or_eq_true, Bool.or_eq_true, has_iff, has_iff, List.any_eq_true, writes_append_names,
    or_right_comm]

theorem profileLinkArguments_ne_nil_iff {archive : String} :
    profileLinkArguments (ofTokens tokens) archive ≠ [] ↔
      needsProfileRuntime (ofTokens tokens) = true := by
  unfold profileLinkArguments
  split <;> simp_all

/-- The hook is there unless coverage or its notes are asked for. -/
theorem profileLinkArguments_eq {archive : String}
    (h : profileLinkArguments (ofTokens tokens) archive ≠ []) :
    profileLinkArguments (ofTokens tokens) archive =
      (if Writes tokens (coverageOptions ++ [coverageNotesOption]) then []
        else ["-u" ++ runtimeHook]) ++ [archive] := by
  have hhook : ((ofTokens tokens).has coverageOptions ||
      (ofTokens tokens).has [coverageNotesOption]) = true ↔
        Writes tokens (coverageOptions ++ [coverageNotesOption]) := by
    rw [Bool.or_eq_true, has_iff, has_iff, writes_append_names]
  rw [profileLinkArguments, if_pos (profileLinkArguments_ne_nil_iff.1 h)]
  simp only [hhook]

/-- Behind options that leave no name waiting, all the negative flags, in any order, leave nothing
to link unless coverage or profiling is asked for by an option of its own in front of them; then the
archive is still linked. Any positive flag, with a value if it takes one, has the archive linked
whatever stands in front of it. Whenever something is linked, the archive comes last, and nothing
but the hook comes before it, exactly if no option asks for coverage or its notes. -/
theorem profile_arguments_follow_flags (archive : String) :
    (∀ front, dangles front = false →
      (∀ tokens, (∀ token, token ∈ tokens ↔
          token ∈ ["-fno-profile-arcs", "-fno-profile-generate", "-fno-profile-instr-generate"]) →
        (profileLinkArguments (ofTokens (front ++ tokens)) archive ≠ [] ↔
          Writes front ["--coverage", "-coverage", "-fcreate-profile",
            "-forder-file-instrumentation"])) ∧
      ∀ f ∈ profileFamilies, ∀ flag ∈ f.positive, ∀ token, IsFlagToken flag token →
        profileLinkArguments (ofTokens (front ++ [token])) archive ≠ []) ∧
    ∀ tokens, profileLinkArguments (ofTokens tokens) archive ≠ [] →
      ∃ before, profileLinkArguments (ofTokens tokens) archive = before ++ [archive] ∧
        (before = [] ∨ before = ["-u__llvm_profile_runtime"]) ∧
        (before = ["-u__llvm_profile_runtime"] ↔
          ¬Writes tokens ["--coverage", "-coverage", "-ftest-coverage"]) := by
  refine ⟨fun front whole => ⟨fun tokens hoff => ?_, fun f hf flag hflag token htoken => ?_⟩,
    fun tokens hne => ?_⟩
  · rw [profileLinkArguments_ne_nil_iff, needsProfileRuntime_iff, writes_append whole]
    have hnone : ¬Writes tokens standingRequests := by
      rintro ⟨o, ho, hname⟩
      obtain ⟨flag, hflag, hoption⟩ :=
        exists_of_mem_scan_offFlags (fun token => (hoff token).1) ho
      rw [hoption] at hname
      exact offFlag_not_standing flag ((hoff flag).1 hflag) hname
    constructor
    · rintro ((hfront | htokens) | ⟨f, hf, hon⟩)
      · exact hfront
      · exact absurd htokens hnone
      · rw [isOn_append_offFlags whole hoff hf] at hon
        exact absurd hon Bool.false_ne_true
    · exact fun hfront => Or.inl (Or.inl hfront)
  · rw [profileLinkArguments_ne_nil_iff, needsProfileRuntime_iff]
    exact Or.inr ⟨f, hf, isOn_append_flag whole hf hflag htoken⟩
  · refine ⟨_, profileLinkArguments_eq hne, ?_, ?_⟩
    · split
      · exact Or.inl rfl
      · exact Or.inr rfl
    · by_cases hcoverage : Writes tokens (coverageOptions ++ [coverageNotesOption])
      · rw [if_pos hcoverage]
        exact iff_of_false (by simp) (not_not_intro hcoverage)
      · rw [if_neg hcoverage]
        exact iff_of_true rfl hcoverage

theorem profile_arguments_follow_flags_shared_negative :
    let front := ["-fcs-profile-generate=/p", "-fprofile-arcs", "--sysroot", "--coverage"]
    let offs := ["-fno-profile-instr-generate", "-fno-profile-generate", "-fno-profile-arcs"]
    dangles front = false ∧ (∀ token, token ∈ offs ↔
        token ∈ ["-fno-profile-arcs", "-fno-profile-generate", "-fno-profile-instr-generate"]) ∧
      profileLinkArguments (ofTokens (front ++ offs)) "p.a" = [] ∧
      profileLinkArguments (ofTokens ((front ++ offs) ++ ["-fprofile-generate=a=b"])) "p.a" =
        ["-u__llvm_profile_runtime", "p.a"] := by
  intro front offs
  have whole : dangles front = false := by decide
  have whole' : dangles (front ++ offs) = false := by decide
  have hperm : offs.Perm offFlags := by decide
  have hoffs : ∀ token, token ∈ offs ↔ token ∈ offFlags := fun token => hperm.mem_iff
  obtain ⟨hbehind, hshape⟩ := profile_arguments_follow_flags "p.a"
  obtain ⟨hoff, -⟩ := hbehind front whole
  obtain ⟨-, hon⟩ := hbehind (front ++ offs) whole'
  have hlinked := hon ⟨["-fprofile-generate", "-fprofile-generate="], "-fno-profile-generate"⟩
    (by decide) "-fprofile-generate=" (by decide) "-fprofile-generate=a=b"
    (Or.inr ⟨⟨"-fprofile-generate", by decide, by decide, by decide, by decide⟩, "a=b", by decide⟩)
  obtain ⟨before, hargs, -, hhook⟩ := hshape _ hlinked
  have hnone := mt (hoff offs hoffs).1 (by decide +kernel)
  refine ⟨whole, hoffs, Decidable.not_not.1 hnone, ?_⟩
  rw [hargs, hhook.2 (by decide +kernel)]
  rfl

end TargetResolution.LinkPolicy
