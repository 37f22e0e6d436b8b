import TargetResolution.Proofs.Resolution.Outcome
import TargetResolution.Proofs.Result
import TargetResolution.Proofs.Search.Reports

/-!
The reports of a resolution. Only the first look-ups report something, and they report what the
options are found to ask for in vain. So the diagnostics that a configuration carries are exactly
those that were reported while it was made.
-/

namespace TargetResolution

namespace Toolchain

variable (present : String → Bool)

theorem reports_leaveAll (notes : List Note) :
    (leaveAll notes).reports present = notes.filterMap Note.report? := by
  induction notes with
  | nil => rfl
  | cons n notes ih =>
    rw [leaveAll, List.foldr_cons, Search.reports_note, List.filterMap_cons]
    rw [leaveAll] at ih
    cases h : n.report? <;> simp [ih]

/-- Notes of diagnostics report just these. -/
theorem filterMap_diagnosed (ds : List Diagnostic) :
    (ds.map Note.diagnosed).filterMap Note.report? = ds := by
  rw [List.filterMap_map]
  exact List.filterMap_some

theorem reports_findSysroot (forced installedDir : String) :
    (findSysroot forced installedDir).reports present = [] := by
  unfold findSysroot
  split
  · rfl
  · split
    · rfl
    · rw [Search.reports_probe]
      split <;> rfl

/-- The notes about the selection of a multilib report nothing. -/
theorem filterMap_selection (variants : List Multilib) (flags : FlagSet) :
    [Note.flagsFound flags.predicates, multilibNote variants flags].filterMap Note.report? = [] := by
  unfold multilibNote
  split <;> rfl

theorem filterMap_multiarchNotes (triple : Triple) :
    (multiarchNotes triple).filterMap Note.report? = [] := by
  unfold multiarchNotes
  split <;> rfl

/-- The first look-ups report the diagnostics that they collect. -/
theorem reports_search (triple : Triple) (options : OptionList) (e : Environment)
    (variants : List Multilib) :
    (search triple options e variants).reports present =
      (found present triple options e variants).diagnostics.reported := by
  simp only [search, found, Search.andThen_eq_bind, Search.pure_eq_done, Search.reports_andThen,
    Search.reports_done, reports_leaveAll, reports_findSysroot, SearchPath.reports_first?,
    SearchPath.reports_existing, List.filterMap_append, filterMap_diagnosed, filterMap_selection,
    filterMap_multiarchNotes, List.nil_append, List.append_nil, Diagnostics.add, List.append_assoc]

theorem reports_includeDirs (t : Toolchain) : t.includeDirs.reports present = [] := by
  unfold includeDirs
  split
  · rfl
  · rw [Search.reports_andThen, SearchPath.reports_existing]
    split
    · rfl
    · rw [Search.reports_andThen, SearchPath.reports_existing]
      rfl

theorem reports_cxxIncludeDirs (t : Toolchain) : t.cxxIncludeDirs.reports present = [] := by
  unfold cxxIncludeDirs
  split
  · rfl
  · exact SearchPath.reports_existing present _

theorem reports_filePaths (t : Toolchain) : t.filePaths.reports present = [] := by
  rw [filePaths, Search.reports_andThen, SearchPath.reports_existing]
  rfl

/-- Nothing is reported while a toolchain is configured. -/
theorem reports_configure (t : Toolchain) : t.configure.reports present = [] := by
  unfold configure
  simp only [Search.andThen_eq_bind, Search.pure_eq_done, Search.reports_andThen,
    reports_includeDirs, reports_cxxIncludeDirs, reports_filePaths]
  split <;> rfl

end Toolchain

/-- A configuration carries the diagnostics that were reported while it was made. -/
theorem diagnostics_of_resolve {target : String} {tokens : List String} {e : Environment}
    {s : Search Note Configuration} (h : resolve target tokens e = .ok s)
    (present : String → Bool) :
    (s.answer present).diagnostics.reported = s.reports present := by
  unfold resolve at h
  obtain ⟨triple, -, rfl⟩ := exists_of_map_eq_ok h
  rw [Search.answer_andThen, Resolution.answer_search]
  simp [Resolution.search, Search.leave, Search.reports_andThen, Toolchain.reports_search,
    Toolchain.reports_configure, Note.report?]
  rfl

end TargetResolution
