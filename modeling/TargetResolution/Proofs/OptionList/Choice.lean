import TargetResolution.FloatAbi
import TargetResolution.Proofs.OptionList.Scan
import TargetResolution.RuntimeLibrary

/-!
Choices that options make: the float ABI, the compiler runtime and the C++ standard library. The last
option of a choice counts. It is reported if it has a value that is not accepted, and then the choice
falls back to a value that is.
-/

namespace TargetResolution

open Diagnostic (Kind)

namespace Diagnostic.Kind

/-- The names of the options that make a choice. -/
def names : Kind → List String
  | .floatAbi => FloatAbi.softOptions ++ FloatAbi.hardOptions ++ [FloatAbi.namingOption]
  | .runtimeLibrary => ["--rtlib=", "-rtlib="]
  | .standardLibrary => ["--stdlib=", "-stdlib="]

/-- Those of them that have a value. -/
def valueNames : Kind → List String
  | .floatAbi => ["-mfloat-abi="]
  | .runtimeLibrary => ["--rtlib=", "-rtlib="]
  | .standardLibrary => ["--stdlib=", "-stdlib="]

/-- The values that are not reported. -/
def accepted : Kind → List String
  | .floatAbi => ["", "soft", "softfp", "hard"]
  | .runtimeLibrary => ["compiler-rt"]
  | .standardLibrary => ["libc++"]

/-- The value that is used for one that is reported. -/
def fallback : Kind → String
  | .floatAbi => "soft"
  | .runtimeLibrary => "compiler-rt"
  | .standardLibrary => "libc++"

/-- Whether an option is reported if it is the last one of its choice. -/
def Offends (k : Kind) (o : DriverOption) : Prop := o.name ∈ k.valueNames ∧ o.value ∉ k.accepted

instance (k : Kind) (o : DriverOption) : Decidable (k.Offends o) :=
  inferInstanceAs (Decidable (_ ∧ _))

theorem mem_all (k : Kind) : k ∈ all := by
  cases k <;> decide

theorem code_injective : ∀ {j k : Kind}, j.code = k.code → j = k := by
  intro j k
  cases j <;> cases k <;> decide

theorem mem_names_of_valueNames (k : Kind) : ∀ n ∈ k.valueNames, n ∈ k.names := by
  cases k <;> decide

theorem fallback_mem_accepted (k : Kind) : k.fallback ∈ k.accepted := by
  cases k <;> decide

end Diagnostic.Kind

/-- Whether a name ends in the equals sign in front of a value that stands in the same token. -/
def DriverOption.IsValued (n : String) : Prop :=
  ∃ stem, n = stem ++ "=" ∧ stem.toList.head? = some '-' ∧ '=' ∉ stem.toList ∧
    stem ∉ separateValueNames

theorem DriverOption.ofToken_valued_name {n : String} (h : IsValued n) (value : String) :
    ofToken (n ++ value) = { name := n, value := value, spelling := n ++ value } := by
  obtain ⟨stem, rfl, hdash, hstem, -⟩ := h
  exact ofToken_joined hdash hstem value

/-- A name with its value is no name that waits for one. -/
theorem DriverOption.IsValued.not_mem_separate {n : String} (h : IsValued n) (value : String) :
    n ++ value ∉ separateValueNames := by
  obtain ⟨stem, rfl, -, -, -⟩ := h
  have hequals : ∀ s ∈ separateValueNames, '=' ∉ s.toList := by decide
  exact fun hmem => hequals _ hmem (by simp)

/-- A name with its value in the same token is no name with a separate value. -/
theorem DriverOption.IsValued.ne_separate {n : String} (h : IsValued n) :
    ∀ s ∈ separateValueNames, n ≠ s ++ "=" := by
  obtain ⟨stem, rfl, -, -, hstem⟩ := h
  intro s hs heq
  rw [String.append_left_inj] at heq
  exact hstem (heq ▸ hs)

theorem Diagnostic.Kind.isValued (k : Kind) : ∀ n ∈ k.valueNames, DriverOption.IsValued n := by
  have hstem : ∀ k : Kind, ∀ n ∈ k.valueNames,
      ∃ stem ∈ ["-mfloat-abi", "--rtlib", "-rtlib", "--stdlib", "-stdlib"], n = stem ++ "=" := by
    intro k
    cases k <;> decide
  have hvalued : ∀ stem ∈ ["-mfloat-abi", "--rtlib", "-rtlib", "--stdlib", "-stdlib"],
      stem.toList.head? = some '-' ∧ '=' ∉ stem.toList ∧
        stem ∉ DriverOption.separateValueNames := by decide
  intro n hn
  obtain ⟨stem, hmem, rfl⟩ := hstem k n hn
  exact ⟨stem, rfl, hvalued stem hmem⟩

namespace OptionList

/-- The last option of a choice, if it is one to report. -/
def offending? (l : OptionList) (k : Kind) : Option DriverOption :=
  (l.last? k.names).filter fun o => decide (k.Offends o)

theorem offending?_eq_some_iff {l : OptionList} {k : Kind} {o : DriverOption} :
    l.offending? k = some o ↔ l.last? k.names = some o ∧ k.Offends o := by
  rw [offending?, Option.filter_eq_some_iff, decide_eq_true_iff]

theorem name_mem_of_last? {l : OptionList} {names : List String} {o : DriverOption}
    (h : l.last? names = some o) : o ∈ l.options ∧ o.name ∈ names :=
  ⟨List.mem_reverse.1 (List.mem_of_find?_eq_some h), by simpa using List.find?_some h⟩

/-- The report about a choice. -/
def report? (l : OptionList) (k : Kind) : Option Diagnostic :=
  (l.offending? k).map fun o => .about k o.text

theorem report?_of_last?_none {l : OptionList} {k : Kind} (h : l.last? k.names = none) :
    l.report? k = none := by
  rw [report?, offending?, h]
  rfl

theorem report?_of_last? {l : OptionList} {k : Kind} {o : DriverOption}
    (h : l.last? k.names = some o) :
    l.report? k = if k.Offends o then some (.about k o.text) else none := by
  rw [report?, offending?, h, Option.filter_some]
  by_cases ho : k.Offends o <;> simp [ho]

theorem ofOptionValue?_eq_none_iff (value : String) :
    FloatAbi.ofOptionValue? value = none ↔ value ∉ ["soft", "softfp", "hard"] := by
  rw [FloatAbi.ofOptionValue?, List.find?_eq_none]
  simp [FloatAbi.name, @eq_comm _ value]

/-- What an option of the float ABI asks for: soft with a report if it offends, else no report. -/
theorem ofOption_cases {o : DriverOption} (h : o.name ∈ Kind.floatAbi.names) :
    if Kind.floatAbi.Offends o then
      FloatAbi.ofOption o = (.soft, some (.about .floatAbi o.text))
    else (FloatAbi.ofOption o).2 = none := by
  have hsoft : ∀ n ∈ FloatAbi.softOptions, n ∉ Kind.floatAbi.valueNames := by decide
  have hhard : ∀ n ∈ FloatAbi.hardOptions, n ∉ Kind.floatAbi.valueNames := by decide
  have hnames : ∀ n ∈ Kind.floatAbi.names, n ∉ FloatAbi.softOptions → n ∉ FloatAbi.hardOptions →
      n ∈ Kind.floatAbi.valueNames := by decide
  unfold FloatAbi.ofOption
  by_cases hs : o.name ∈ FloatAbi.softOptions
  · simp [hs, Kind.Offends, hsoft _ hs]
  by_cases hh : o.name ∈ FloatAbi.hardOptions
  · simp [hs, hh, Kind.Offends, hhard _ hh]
  by_cases hv : o.value = ""
  · simp [hs, hh, hv, Kind.Offends, Kind.accepted]
  rw [if_neg hs, if_neg hh, if_neg hv]
  have hname := hnames _ h hs hh
  have haccepted : o.value ∈ Kind.floatAbi.accepted ↔ o.value ∈ ["soft", "softfp", "hard"] := by
    simp [Kind.accepted, hv]
  cases hvalue : FloatAbi.ofOptionValue? o.value with
  | none =>
    have hoffends : Kind.floatAbi.Offends o :=
      ⟨hname, fun hmem => (ofOptionValue?_eq_none_iff _).1 hvalue (haccepted.1 hmem)⟩
    rw [if_pos hoffends]
  | some abi =>
    have hoffends : ¬Kind.floatAbi.Offends o := by
      rintro ⟨-, hmem⟩
      rw [haccepted, ← ofOptionValue?_eq_none_iff, hvalue] at hmem
      cases hmem
    rw [if_neg hoffends]

theorem floatAbi_of_last?_none {l : OptionList} (h : l.last? Kind.floatAbi.names = none) :
    l.floatAbi = (.soft, none) := by
  unfold floatAbi
  exact h ▸ rfl

theorem floatAbi_of_last? {l : OptionList} {o : DriverOption}
    (h : l.last? Kind.floatAbi.names = some o) : l.floatAbi = FloatAbi.ofOption o := by
  unfold floatAbi
  exact h ▸ rfl

/-- The float ABI is reported if its last option has an unknown name for a value, and is soft then. -/
theorem floatAbi_eq (l : OptionList) :
    l.floatAbi.2 = l.report? .floatAbi ∧
      ∀ o, l.offending? .floatAbi = some o → l.floatAbi.1 = .soft := by
  cases hlast : l.last? Kind.floatAbi.names with
  | none =>
    rw [floatAbi_of_last?_none hlast, report?_of_last?_none hlast]
    exact ⟨rfl, fun _ _ => rfl⟩
  | some o =>
    have hcases := ofOption_cases (name_mem_of_last? hlast).2
    rw [report?_of_last? hlast, floatAbi_of_last? hlast]
    split at hcases
    next ho => exact ⟨by rw [hcases, if_pos ho], fun _ _ => by rw [hcases]⟩
    next ho =>
      refine ⟨by rw [hcases, if_neg ho], fun o' h => ?_⟩
      obtain ⟨hlast', ho'⟩ := offending?_eq_some_iff.1 h
      obtain rfl := Option.some.inj (hlast.symm.trans hlast')
      exact absurd ho' ho

/-- A library is reported if its last option asks for another one than there is. -/
theorem checkChoice_eq (l : OptionList) (k : Kind) {only : String}
    (hnames : k.names = k.valueNames) (honly : k.accepted = [only]) :
    RuntimeLibrary.checkChoice l k.names only k = l.report? k := by
  unfold RuntimeLibrary.checkChoice
  cases hlast : l.last? k.names with
  | none => rw [report?_of_last?_none hlast]
  | some o =>
    have hname := (name_mem_of_last? hlast).2
    rw [hnames] at hname
    have hoffends : k.Offends o ↔ o.value ≠ only := by
      simp [Kind.Offends, hname, honly]
    rw [report?_of_last? hlast]
    by_cases hv : o.value = only <;> simp [hv, hoffends]

end OptionList

end TargetResolution
