import Mathlib.Data.List.Basic
import TargetResolution.Proofs.Diagnostic.Template
import TargetResolution.Proofs.OptionList.Amendment
import TargetResolution.Proofs.Resolution.Outcome

/-!
The diagnostics of a configuration. They are found in the options alone: each choice whose last
option has a value that is not accepted is reported once, in a fixed order, with this option quoted.
All else is as if an accepted value had been written instead.
-/

namespace TargetResolution

open Diagnostic (Kind)

namespace OptionList

/-- The reports about all choices, in order. -/
def reports (l : OptionList) : List Diagnostic := Kind.all.filterMap l.report?

theorem mem_reports {l : OptionList} {d : Diagnostic} :
    d ∈ l.reports ↔ ∃ k o, l.last? k.names = some o ∧ k.Offends o ∧ d = .about k o.text := by
  simp only [reports, report?, List.mem_filterMap, Kind.mem_all, true_and, Option.map_eq_some_iff,
    offending?_eq_some_iff, and_assoc, eq_comm (a := d)]

/-- The codes of the reports are those of the choices to report. -/
theorem codes_reports (l : OptionList) :
    l.reports.map (·.code) =
      (Kind.all.filter fun k => (l.offending? k).isSome).map Kind.code := by
  unfold reports
  induction Kind.all with
  | nil => rfl
  | cons k ks ih =>
    rw [List.filterMap_cons, List.filter_cons]
    cases ho : l.offending? k with
    | none => simp [report?, ho, ih]
    | some o => simp [report?, ho, ih, Diagnostic.about]

/-- Each code is reported at most once, in the order of the choices. -/
theorem codes_sublist (l : OptionList) :
    (l.reports.map (·.code)).Sublist (Kind.all.map Kind.code) := by
  rw [codes_reports]
  exact List.filter_sublist.map _

theorem code_mem_codes_iff {l : OptionList} {k : Kind} :
    k.code ∈ l.reports.map (·.code) ↔ ∃ o, l.last? k.names = some o ∧ k.Offends o := by
  rw [codes_reports, List.mem_map]
  constructor
  · rintro ⟨j, hj, hcode⟩
    obtain rfl := Kind.code_injective hcode
    obtain ⟨o, ho⟩ := Option.isSome_iff_exists.1 (List.mem_filter.1 hj).2
    exact ⟨o, offending?_eq_some_iff.1 ho⟩
  · rintro ⟨o, ho⟩
    refine ⟨k, List.mem_filter.2 ⟨k.mem_all, ?_⟩, rfl⟩
    rw [offending?_eq_some_iff.2 ho]
    rfl

/-- All reports are errors, so there are errors as soon as there are reports. -/
theorem hasErrors_reports_iff (l : OptionList) :
    (Diagnostics.mk l.reports).hasErrors = true ↔ l.reports ≠ [] := by
  rw [Diagnostics.hasErrors, List.any_eq_true]
  constructor
  · rintro ⟨d, hd, -⟩
    exact List.ne_nil_of_mem hd
  · intro hne
    obtain ⟨d, hd⟩ := List.exists_mem_of_ne_nil _ hne
    obtain ⟨k, o, -, -, rfl⟩ := mem_reports.1 hd
    exact ⟨_, hd, rfl⟩

/-- What is reported about an option quotes a token of the command line. -/
theorem text_of_offends {tokens : List String} {k : Kind} {o : DriverOption}
    (hlast : (ofTokens tokens).last? k.names = some o) (ho : k.Offends o) :
    o.text = o.name ++ o.value ∧ o.text ∈ tokens := by
  have hmem : o ∈ scan tokens := (name_mem_of_last? hlast).1
  have hname := (k.isValued _ ho.1).ne_separate
  obtain ⟨token, htoken, rfl⟩ := exists_token_of_mem_scan hmem hname
  refine ⟨text_of_mem_scan hmem hname, ?_⟩
  rw [DriverOption.text_ofToken]
  exact htoken

theorem reports_eq_nil {l : OptionList} (h : ∀ k : Kind, l.offending? k = none) :
    l.reports = [] := by
  simp [reports, List.filterMap_eq_nil_iff, report?, h]

end OptionList

namespace Toolchain

variable (present : String → Bool) (triple : Triple) (e : Environment) (variants : List Multilib)

theorem diagnostics_found (l : OptionList) :
    (found present triple l e variants).diagnostics = ⟨l.reports⟩ := by
  have hfloat := (OptionList.floatAbi_eq l).1
  have hruntime : RuntimeLibrary.checkRuntime l = l.report? .runtimeLibrary :=
    OptionList.checkChoice_eq l .runtimeLibrary rfl rfl
  have hstandard : RuntimeLibrary.checkStandardLibrary l = l.report? .standardLibrary :=
    OptionList.checkChoice_eq l .standardLibrary rfl rfl
  simp [found, hfloat, hruntime, hstandard, Diagnostics.add, OptionList.reports, Kind.all,
    List.filterMap_eq_flatMap_toList]

/-- Options that are alike up to reports lead to configurations that differ in diagnostics only. -/
theorem configured_of_alike {l m : OptionList} (h : OptionList.AlikeUpToReports l m) :
    configured present (found present triple l e variants) =
      { configured present (found present triple m e variants) with
        diagnostics := (found present triple l e variants).diagnostics } := by
  have hflags := h.others.flags_eq (by decide +kernel) (by decide +kernel)
  have hsysroot : forcedSysroot l e = forcedSysroot m e := by
    unfold forcedSysroot
    rw [h.others.lastValue?_eq (by decide +kernel)]
  have hheaders : l.has ["-nostdinc"] = m.has ["-nostdinc"] := h.others.has_eq (by decide +kernel)
  have hbuiltin : l.has ["-nobuiltininc"] = m.has ["-nobuiltininc"] :=
    h.others.has_eq (by decide +kernel)
  have hsystem : l.has ["-nostdlibinc"] = m.has ["-nostdlibinc"] :=
    h.others.has_eq (by decide +kernel)
  have hcxx : l.has ["-nostdlibinc", "-nostdinc++"] = m.has ["-nostdlibinc", "-nostdinc++"] :=
    h.others.has_eq (by decide +kernel)
  have hcompiler := h.others.compilerOptions_eq (by decide +kernel)
  have hprofile := h.others.profileLinkArguments_eq (by decide +kernel) (by decide +kernel)
    (by decide +kernel) (by decide +kernel)
  unfold configured assemble includeCandidates builtinIncludeCandidates cxxIncludeCandidates
    profileLinkArguments found
  simp only [h.floatAbi, hflags, hsysroot, hheaders, hbuiltin, hsystem, hcxx, hcompiler, hprofile]
  rfl

end Toolchain

/-- The diagnostics of an accepted target: the codes of the choices whose last option has a value
that is not accepted, in the order of the choices and each of them once, all of them errors. Each is
what a report makes of the template of its code, and quotes this option as it was written. With
accepted values in place of these, all of the configuration but the diagnostics is the same, and
there are none. -/
theorem resolve_diagnostics {target : String} {triple : Triple}
    (accepted : Triple.parse target = .ok triple) (tokens : List String) (e : Environment) :
    ∃ s s', resolve target tokens e = .ok s ∧
      resolve target (OptionList.corrected tokens) e = .ok s' ∧
      ∀ present : String → Bool,
        let c := s.answer present
        let codes := c.diagnostics.reported.map (·.code)
        (codes.Sublist (Kind.all.map Kind.code) ∧ codes.Nodup) ∧
        (∀ k : Kind, k.code ∈ codes ↔
          ∃ o, (OptionList.ofTokens tokens).last? k.names = some o ∧ k.Offends o) ∧
        (∀ d ∈ c.diagnostics.reported, d.severity = .error ∧
          ∃ (k : Kind) (o : DriverOption),
            (OptionList.ofTokens tokens).last? k.names = some o ∧ k.Offends o ∧
            d.code = k.code ∧ d.message = k.lead ++ "'" ++ o.text ++ "'" ∧
            (∀ ds : Diagnostics,
              ds.report k.code .error [("arg", o.text)] = .ok (d, ds.add (some d))) ∧
            o.text = o.name ++ o.value ∧ o.text ∈ tokens) ∧
        (c.diagnostics.hasErrors = true ↔ c.diagnostics.reported ≠ []) ∧
        s'.answer present = { c with diagnostics := {} } := by
  obtain ⟨s, hs, hfound⟩ := resolve_of_parse accepted tokens e
  obtain ⟨s', hs', hfound'⟩ := resolve_of_parse accepted (OptionList.corrected tokens) e
  refine ⟨s, s', hs, hs', fun present => ?_⟩
  intro c codes
  have hdiagnostics : c.diagnostics = ⟨(OptionList.ofTokens tokens).reports⟩ := by
    show (s.answer present).diagnostics = _
    rw [(hfound present).1]
    exact Toolchain.diagnostics_found present triple e Multilib.catalog _
  have hcodes : codes = (OptionList.ofTokens tokens).reports.map (·.code) :=
    congrArg (fun ds : Diagnostics => ds.reported.map (·.code)) hdiagnostics
  rw [hcodes, hdiagnostics]
  have hsublist := (OptionList.ofTokens tokens).codes_sublist
  refine ⟨⟨hsublist, hsublist.nodup (by decide)⟩, fun k => OptionList.code_mem_codes_iff,
    fun d hd => ?_, OptionList.hasErrors_reports_iff _, ?_⟩
  · obtain ⟨k, o, hlast, ho, rfl⟩ := OptionList.mem_reports.1 hd
    exact ⟨rfl, k, o, hlast, ho, rfl, rfl, fun ds => ds.report_about k o.text,
      OptionList.text_of_offends hlast ho⟩
  · obtain ⟨halike, hnone⟩ := OptionList.alike_corrected tokens
    show s'.answer present = { s.answer present with diagnostics := {} }
    rw [(hfound present).1, (hfound' present).1]
    rw [Toolchain.configured_of_alike present triple e _ halike, Toolchain.diagnostics_found,
      OptionList.reports_eq_nil hnone]

theorem resolve_diagnostics_braces :
    let tokens := ["-mfloat-abi=hard", "--target", "-mfloat-abi=x", "-rtlib=\x7b0\x7d'", "-O2"]
    ∃ triple s s', Triple.parse "arm-linux-ohos" = .ok triple ∧
      resolve "arm-linux-ohos" tokens {} = .ok s ∧
      resolve "arm-linux-ohos" ["-mfloat-abi=hard", "--target", "-mfloat-abi=x",
        "-rtlib=compiler-rt", "-O2"] {} = .ok s' ∧
      ∀ present : String → Bool,
        "invalid-rtlib-name" ∈ (s.answer present).diagnostics.reported.map (·.code) ∧
          "invalid-mfloat-abi" ∉ (s.answer present).diagnostics.reported.map (·.code) ∧
          s'.answer present = { s.answer present with diagnostics := {} } := by
  intro tokens
  have accepted : Triple.parse "arm-linux-ohos" = .ok _ := rfl
  have hcorrected : OptionList.corrected tokens = ["-mfloat-abi=hard", "--target", "-mfloat-abi=x",
      "-rtlib=compiler-rt", "-O2"] := by decide +kernel
  obtain ⟨s, s', hs, hs', hdiagnostics⟩ := resolve_diagnostics accepted tokens {}
  rw [hcorrected] at hs'
  refine ⟨_, s, s', accepted, hs, hs', fun present => ?_⟩
  obtain ⟨-, hcodes, -, -, hsame⟩ := hdiagnostics present
  refine ⟨(hcodes .runtimeLibrary).2 ?_, fun hmem => ?_, hsame⟩
  · exact ⟨.ofToken "-rtlib=\x7b0\x7d'", by decide +kernel, by decide +kernel⟩
  · obtain ⟨o, hlast, ho⟩ := (hcodes .floatAbi).1 hmem
    obtain rfl : DriverOption.ofToken "-mfloat-abi=hard" = o :=
      Option.some.inj (Eq.trans (by decide +kernel) hlast)
    exact absurd ho (by decide +kernel)

end TargetResolution
