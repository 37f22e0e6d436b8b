import TargetResolution.FloatAbi
import TargetResolution.LinkPolicy
import TargetResolution.Proofs.OptionList.Scan
import TargetResolution.RuntimeLibrary

/-!
The options that a resolution consults. All questions about options ask for the last one with some
names. Lists whose consulted options have the same names and values, in order, give every such
question the same answer, however these options were written and whatever stands between them.
-/

namespace TargetResolution.OptionList

/-- The names of the options that a resolution looks at. -/
def consultedNames : List String :=
  [ "-msoft-float", "--soft-float", "-mhard-float", "--hard-float", "-mfloat-abi=", "-mcpu=",
    "-mfpu=", "--rtlib=", "-rtlib=", "--stdlib=", "-stdlib=", "--sysroot=", "-nostdinc",
    "-nobuiltininc", "-nostdlibinc", "-nostdinc++", "-fuse-init-array", "-fno-use-init-array",
    "--coverage", "-coverage", "-ftest-coverage", "-fprofile-arcs", "-fno-profile-arcs",
    "-fprofile-generate", "-fprofile-generate=", "-fno-profile-generate",
    "-fprofile-instr-generate", "-fprofile-instr-generate=", "-fno-profile-instr-generate",
    "-fcs-profile-generate", "-fcs-profile-generate=", "-fcreate-profile",
    "-forder-file-instrumentation" ]

/-- The name and the value of an option, without the way in which it was written. -/
def meaning (o : DriverOption) : String × String := (o.name, o.value)

/-- What the consulted options among those that tokens write mean, in order. -/
def consulted (tokens : List String) : List (String × String) :=
  ((scan tokens).filter fun o => decide (o.name ∈ consultedNames)).map meaning

/-- An option of a meaning, written as its name and its value. -/
def plain (m : String × String) : DriverOption where
  name := m.1
  value := m.2
  spelling := m.1 ++ m.2

/-- The consulted options of some tokens, written plainly, and no others. -/
def consultedOnly (tokens : List String) : OptionList := ⟨[], (consulted tokens).map plain⟩

/-- Whether all of some names are consulted. -/
def AllConsulted (names : List String) : Prop := ∀ n ∈ names, n ∈ consultedNames

instance (names : List String) : Decidable (AllConsulted names) :=
  inferInstanceAs (Decidable (∀ n ∈ names, n ∈ consultedNames))

/-! ### Lists that agree on last options -/

/-- Lists that have the same last option, however it was written, for any names among some. -/
def AgreeOn (l m : OptionList) (known : List String) : Prop :=
  ∀ names, (∀ n ∈ names, n ∈ known) → (l.last? names).map meaning = (m.last? names).map meaning

namespace AgreeOn

variable {l m : OptionList} {known : List String} (h : AgreeOn l m known)
include h

theorem has_eq {names : List String} (hnames : ∀ n ∈ names, n ∈ known) :
    l.has names = m.has names := by
  have hsome := congrArg Option.isSome (h names hnames)
  rw [Option.isSome_map, Option.isSome_map] at hsome
  exact hsome

theorem lastValue?_eq {name : String} (hname : ∀ n ∈ [name], n ∈ known) :
    l.lastValue? name = m.lastValue? name := by
  have hvalue := congrArg (Option.map Prod.snd) (h [name] hname)
  rw [Option.map_map, Option.map_map] at hvalue
  exact hvalue

/-- Whether the last of two opposite flags is the positive one is read off its name. -/
theorem flag_eq {positive negative : String} (hnames : ∀ n ∈ [positive, negative], n ∈ known)
    (default : Bool) : l.flag positive negative default = m.flag positive negative default := by
  have hflag : ∀ k : OptionList, k.flag positive negative default =
      (((k.last? [positive, negative]).map meaning).map fun x => x.1 == positive).getD default := by
    intro k
    unfold flag
    cases k.last? [positive, negative] <;> rfl
  rw [hflag, hflag, h _ hnames]

theorem flags_eq (hcpu : ∀ n ∈ ["-mcpu="], n ∈ known) (hfpu : ∀ n ∈ ["-mfpu="], n ∈ known)
    (abi : FloatAbi) : FlagSet.ofOptions l abi = FlagSet.ofOptions m abi := by
  unfold FlagSet.ofOptions
  rw [h.lastValue?_eq hcpu, h.lastValue?_eq hfpu]

theorem compilerOptions_eq
    (hnames : ∀ n ∈ ["-fuse-init-array", "-fno-use-init-array"], n ∈ known) :
    LinkPolicy.compilerOptions l = LinkPolicy.compilerOptions m := by
  unfold LinkPolicy.compilerOptions
  rw [h.flag_eq hnames]

theorem isOn_eq {f : LinkPolicy.ProfileFamily}
    (hnames : ∀ n ∈ f.positive ++ [f.negative], n ∈ known) : f.isOn l = f.isOn m := by
  have hon : ∀ k : OptionList, f.isOn k = (((k.last? (f.positive ++ [f.negative])).map meaning).map
      fun x => x.1 != f.negative).getD false := by
    intro k
    unfold LinkPolicy.ProfileFamily.isOn
    cases k.last? (f.positive ++ [f.negative]) <;> rfl
  rw [hon, hon, h _ hnames]

/-- The profiling runtime is linked alike for lists that agree on all options that ask for it. -/
theorem profileLinkArguments_eq
    (hfamilies : ∀ f ∈ LinkPolicy.profileFamilies, ∀ n ∈ f.positive ++ [f.negative], n ∈ known)
    (hrequests : ∀ n ∈ LinkPolicy.requestOptions, n ∈ known)
    (hcoverage : ∀ n ∈ LinkPolicy.coverageOptions, n ∈ known)
    (hnotes : ∀ n ∈ [LinkPolicy.coverageNotesOption], n ∈ known) (runtime : String) :
    LinkPolicy.profileLinkArguments l runtime = LinkPolicy.profileLinkArguments m runtime := by
  have hany : LinkPolicy.profileFamilies.any (·.isOn l) =
      LinkPolicy.profileFamilies.any (·.isOn m) := by
    rw [Bool.eq_iff_iff, List.any_eq_true, List.any_eq_true]
    refine exists_congr fun f => and_congr_right fun hf => ?_
    rw [h.isOn_eq (hfamilies f hf)]
  unfold LinkPolicy.profileLinkArguments LinkPolicy.needsProfileRuntime
  rw [h.has_eq hcoverage, h.has_eq hrequests, h.has_eq hnotes, hany]

end AgreeOn

/-! ### The consulted options alone -/

variable (tokens : List String)

/-- The last option with one of some consulted names is the last such one that is consulted. -/
theorem last?_consultedOnly {names : List String} (h : AllConsulted names) :
    (consultedOnly tokens).last? names =
      ((ofTokens tokens).last? names).map fun o => plain (meaning o) := by
  have hname : ∀ o : DriverOption,
      decide (decide (o.name ∈ consultedNames) = true ∧ decide (o.name ∈ names) = true) =
        decide (o.name ∈ names) := by
    intro o
    by_cases ho : o.name ∈ names
    · simp [ho, h _ ho]
    · simp [ho]
  simp only [consultedOnly, consulted, last?, ofTokens, List.map_map, ← List.map_reverse,
    ← List.filter_reverse, List.find?_map, List.find?_filter, Function.comp_def, plain, meaning,
    hname]

theorem text_plain (m : String × String) : (plain m).text = m.1 ++ m.2 := ite_self _

/-- An option that is found under names without separate values was written as name and value. -/
theorem text_of_last? {names : List String} {o : DriverOption}
    (ho : (ofTokens tokens).last? names = some o)
    (hsep : ∀ n ∈ DriverOption.separateValueNames, n ++ "=" ∉ names) :
    (plain (meaning o)).text = o.text := by
  have hmem : o ∈ scan tokens := List.mem_reverse.1 (List.mem_of_find?_eq_some ho)
  have hname : o.name ∈ names := by simpa using List.find?_some ho
  rw [text_plain, text_of_mem_scan hmem]
  · rfl
  · intro n hn heq
    rw [heq] at hname
    exact hsep n hn hname

/-- The consulted options alone agree with all options on every consulted name. -/
theorem agreeOn_consultedOnly :
    AgreeOn (consultedOnly tokens) (ofTokens tokens) consultedNames := by
  intro names hnames
  rw [last?_consultedOnly tokens hnames, Option.map_map]
  rfl

theorem floatAbi_consultedOnly : (consultedOnly tokens).floatAbi = (ofTokens tokens).floatAbi := by
  unfold floatAbi
  rw [last?_consultedOnly tokens (by decide)]
  cases ho : (ofTokens tokens).last?
      (FloatAbi.softOptions ++ FloatAbi.hardOptions ++ [FloatAbi.namingOption]) with
  | none => rfl
  | some o =>
    simp only [Option.map_some, FloatAbi.ofOption, text_of_last? tokens ho (by decide)]
    rfl

theorem checkChoice_consultedOnly {names : List String} (h : AllConsulted names)
    (hsep : ∀ n ∈ DriverOption.separateValueNames, n ++ "=" ∉ names) (only : String)
    (kind : Diagnostic.Kind) :
    RuntimeLibrary.checkChoice (consultedOnly tokens) names only kind =
      RuntimeLibrary.checkChoice (ofTokens tokens) names only kind := by
  unfold RuntimeLibrary.checkChoice
  rw [last?_consultedOnly tokens h]
  cases ho : (ofTokens tokens).last? names with
  | none => rfl
  | some o =>
    simp only [Option.map_some, text_of_last? tokens ho hsep]
    rfl

/-! ### Lists with the same consulted options -/

theorem consulted_append {xs : List String} (h : dangles xs = false) (ys : List String) :
    consulted (xs ++ ys) = consulted xs ++ consulted ys := by
  unfold consulted
  rw [scan_append h, List.filter_append, List.map_append]

theorem consulted_eq_nil_iff :
    consulted tokens = [] ↔ ∀ o ∈ scan tokens, o.name ∉ consultedNames := by
  unfold consulted
  rw [List.map_eq_nil_iff, List.filter_eq_nil_iff]
  simp only [decide_eq_true_eq]

/-- Tokens that write no consulted option can be left out. They must not take the token behind them
as a value. -/
theorem consulted_skip {xs us ys : List String} (hx : dangles xs = false)
    (hu : dangles us = false ∨ ys = []) (hus : consulted us = []) :
    consulted (xs ++ us ++ ys) = consulted (xs ++ ys) := by
  have htail : consulted (us ++ ys) = consulted ys := by
    rcases hu with hu | rfl
    · rw [consulted_append hu, hus, List.nil_append]
    · rw [List.append_nil, hus]
      rfl
  rw [List.append_assoc, consulted_append hx, consulted_append hx, htail]

/-- A name with its value behind it means what the two mean when they are one token. -/
theorem meanings_pair {name : String} (h : name ∈ DriverOption.separateValueNames) (value : String)
    {xs : List String} (hx : dangles xs = false) (ys : List String) :
    (scan (xs ++ name :: value :: ys)).map meaning =
      (scan (xs ++ (name ++ "=" ++ value) :: ys)).map meaning := by
  have hname : ∀ n ∈ DriverOption.separateValueNames,
      n.toList.head? = some '-' ∧ '=' ∉ n.toList := by decide
  have hjoined : name ++ "=" ++ value ∉ DriverOption.separateValueNames := by
    intro hmem
    exact (hname _ hmem).2 (by simp)
  rw [scan_append hx, scan_append hx, scan_pair h, scan_cons hjoined,
    DriverOption.ofToken_joined (hname name h).1 (hname name h).2, List.map_append, List.map_append]
  rfl

/-- What is consulted is told by the meanings of all options. -/
theorem consulted_eq_filter :
    consulted tokens =
      ((scan tokens).map meaning).filter fun m => decide (m.1 ∈ consultedNames) := by
  rw [List.filter_map]
  rfl

theorem consulted_pair {name : String} (h : name ∈ DriverOption.separateValueNames) (value : String)
    {xs : List String} (hx : dangles xs = false) (ys : List String) :
    consulted (xs ++ name :: value :: ys) = consulted (xs ++ (name ++ "=" ++ value) :: ys) := by
  rw [consulted_eq_filter, consulted_eq_filter, meanings_pair h value hx]

end TargetResolution.OptionList
