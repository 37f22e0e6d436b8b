import TargetResolution.CommandLine.Program
import TargetResolution.Proofs.Resolution.Reports

/-!
The status that a command ends with. A command that fails ends with one. A command that answers ends
with one exactly when an error was reported while it ran, wherever in it the diagnostics were
collected. The command for the path of an artifact is the odd one: it drops what was reported, so
its status is zero whenever it answers.
-/

namespace TargetResolution

/-! ### Nothing is reported while documents are read -/

theorem Environment.reports_gather (files : String → FileState) (file : Option String)
    (o : Overrides) (present : String → Bool) : (gather files file o).reports present = [] := by
  have hload : ∀ f, (load f (files f)).reports present = [] := by
    intro f
    unfold load
    split
    · rfl
    · split <;> rfl
  unfold gather
  rw [Search.reports_ifOk]
  cases file with
  | none => rfl
  | some f =>
    simp only [hload]
    split <;> rfl

namespace CommandLine

variable {present : String → Bool}

theorem reports_listingOf (files : String → FileState) (file : Option String) :
    (listingOf files file).reports present = [] := by
  have hload : ∀ f, (Listing.load f (files f)).reports present = [] := by
    intro f
    unfold Listing.load
    split
    · rfl
    · split <;> rfl
  cases file with
  | none => rfl
  | some f =>
    rw [listingOf, Search.reports_ifOk, hload]
    split <;> rfl

/-- The paths that exist for a request: those of its listing, or else those of the host. -/
def presentIn (present : String → Bool) : Option Listing → String → Bool
  | none => present
  | some t => t.contains

/-- A search within a listing goes as if exactly the listed paths existed. -/
theorem run_withinListing {α : Type} (present : String → Bool) (s : Search Note α)
    (listing : Option Listing) :
    (withinListing s listing).answer present = s.answer (presentIn present listing) ∧
      (withinListing s listing).reports present = s.reports (presentIn present listing) := by
  cases listing with
  | none => exact ⟨rfl, rfl⟩
  | some t => exact Search.run_within present t.contains s

/-- A target that is resolved is a text. -/
theorem resolve_of_resolveGiven {target : Argument} {tokens : List String} {e : Environment}
    {s : Search Note Configuration} (h : resolveGiven target tokens e = .ok s) :
    ∃ text, target = .text text ∧ resolve text tokens e = .ok s := by
  cases target with
  | nothing => cases h
  | text text => exact ⟨text, rfl, eq_ok_of_mapError_eq_ok h⟩

/-! ### Status and reports -/

/-- Whether a command, if it answers, ends with the status that its reports ask for. -/
def FollowsReports (present : String → Bool) (s : Search Note (Except Failure Answer)) : Prop :=
  ∀ a, s.answer present = .ok a → a.status = statusOf ⟨s.reports present⟩

/-- Steps that report nothing may come before. -/
theorem FollowsReports.ifOk {α : Type} {s : Search Note (Except Failure α)}
    {f : α → Search Note (Except Failure Answer)} (hs : s.reports present = [])
    (hf : ∀ a, FollowsReports present (f a)) : FollowsReports present (s.ifOk f) := by
  intro a h
  obtain ⟨b, hb, h⟩ := Search.ok_of_answer_ifOk present h
  rw [Search.reports_ifOk, hs, hb]
  exact hf b a h

theorem status_of_reportAnswer {r : ResolveRequest} {c : Configuration}
    {trail : List (String × Bool)} {a : Answer} (h : reportAnswer r c trail = .ok a) :
    a.status = statusOf c.diagnostics := by
  unfold reportAnswer at h
  split at h
  · obtain rfl := Except.ok.inj h
    rfl
  · cases h

theorem followsReports_resolve (r : ResolveRequest) (files : String → FileState) :
    FollowsReports present (r.search files) := by
  unfold ResolveRequest.search
  refine FollowsReports.ifOk ?_ fun e => FollowsReports.ifOk ?_ fun listing => ?_
  · rw [Search.reports_mapError, Environment.reports_gather]
  · rw [Search.reports_mapError, reports_listingOf]
  · intro a h
    rw [Search.answer_note] at h
    rw [Search.reports_note]
    cases hgiven : resolveGiven r.target r.driverOptions e with
    | error failure =>
      rw [hgiven] at h
      cases h
    | ok s =>
      obtain ⟨text, -, hs⟩ := resolve_of_resolveGiven hgiven
      obtain ⟨hanswer, hreports⟩ := run_withinListing present s.traced listing
      rw [hgiven] at h
      rw [Search.answer_andThen, hanswer] at h
      rw [Search.reports_andThen, hreports, Search.reports_traced]
      rw [status_of_reportAnswer h, Search.answer_traced, ← diagnostics_of_resolve hs]
      simp [Note.report?]

theorem followsReports_select (driverOptions : List String) :
    FollowsReports present (selectSearch driverOptions) := by
  intro a h
  rw [selectSearch, Search.answer_andThen] at h
  rw [selectSearch, Search.reports_andThen, Toolchain.reports_leaveAll, List.filterMap_append,
    Toolchain.filterMap_diagnosed, Toolchain.filterMap_selection]
  obtain rfl := Except.ok.inj h
  simp [Diagnostics.add]

/-- The path of an artifact comes with status zero, whatever was reported. -/
theorem status_of_artifact (r : ArtifactRequest) (files : String → FileState) {a : Answer}
    (h : (r.search files).answer present = .ok a) : a.status = 0 := by
  obtain ⟨e, -, h⟩ := Search.ok_of_answer_ifOk present h
  split at h
  · cases h
  · rw [Search.answer_andThen] at h
    split at h
    · cases h
    · obtain rfl := Except.ok.inj h
      rfl

/-- Whether a command asks for the path of an artifact. -/
def Command.asksForArtifact : Command → Bool
  | .artifact _ => true
  | _ => false

theorem followsReports_search {command : Command} (h : command.asksForArtifact = false)
    (files : String → FileState) : FollowsReports present (command.search files) := by
  cases command with
  | resolve r => exact followsReports_resolve r files
  | listMultilibs =>
    intro a ha
    obtain rfl := Except.ok.inj ha
    rfl
  | selectMultilib driverOptions => exact followsReports_select driverOptions
  | artifact r => cases h

theorem statusOf_eq_one_iff (ds : List Diagnostic) :
    statusOf ⟨ds⟩ = 1 ↔ ∃ d ∈ ds, d.severity = .error := by
  simp [statusOf, Diagnostics.hasErrors]

theorem status_run_of_ok (verbose quiet : Bool) {command : Command} {files : String → FileState}
    {a : Answer} (h : (command.search files).answer present = .ok a) :
    ((Outcome.invocation ⟨verbose, quiet, some command⟩).run files present).status = a.status := by
  unfold Outcome.run
  simp only [h]
  rfl

theorem status_run_of_error (verbose quiet : Bool) {command : Command} {files : String → FileState}
    {f : Failure} (h : (command.search files).answer present = .error f) :
    ((Outcome.invocation ⟨verbose, quiet, some command⟩).run files present).status = 1 := by
  unfold Outcome.run
  simp only [h]
  rfl

/-- A command ends with status zero or one, and with one whenever it fails. When it answers, the
status is one exactly if an error was reported while it ran, except for the path of an artifact. So
the runs that end otherwise are those that answer with such a path after an error was reported; their
status is zero. -/
theorem status_eq_one_iff (verbose quiet : Bool) (command : Command) (files : String → FileState)
    (present : String → Bool) :
    let status := ((Outcome.invocation ⟨verbose, quiet, some command⟩).run files present).status
    let failed := ∃ f, (command.search files).answer present = .error f
    let reported := ∃ d ∈ (command.search files).reports present, d.severity = .error
    (status = 0 ∨ status = 1) ∧
      ((status = 1 ↔ failed ∨ reported) ↔
        ¬(command.asksForArtifact = true ∧ ¬failed ∧ reported)) ∧
      (command.asksForArtifact = true → (status = 1 ↔ failed)) := by
  intro status failed reported
  cases hanswer : (command.search files).answer present with
  | error f =>
    have hfailed : failed := ⟨f, hanswer⟩
    have hone : status = 1 := status_run_of_error verbose quiet hanswer
    simp [hone, hfailed]
  | ok a =>
    have hstatus : status = a.status := status_run_of_ok verbose quiet hanswer
    have hfailed : ¬failed := by
      rintro ⟨f, hf⟩
      rw [hanswer] at hf
      cases hf
    cases hcommand : command.asksForArtifact with
    | false =>
      have hfollows := followsReports_search hcommand files a hanswer
      have hone : status = 1 ↔ reported := by
        rw [hstatus, hfollows]
        exact statusOf_eq_one_iff _
      refine ⟨?_, by simp [hone, hfailed], by simp⟩
      rw [hstatus, hfollows, statusOf]
      split <;> simp
    | true =>
      have hzero : status = 0 := by
        rw [hstatus]
        cases command with
        | artifact r => exact status_of_artifact r files hanswer
        | _ => cases hcommand
      simp [hzero, hfailed]

theorem status_zero_despite_error :
    let command : Command := .artifact {
      component := "builtins", kind := some .static, target := .text "arm-linux-ohos",
      driverOptions := ["--rtlib=libgcc"], environmentFile := none, overrides := {} }
    let files : String → FileState := fun _ => .missing
    let present : String → Bool := fun _ => false
    let status := ((Outcome.invocation ⟨false, false, some command⟩).run files present).status
    let failed := ∃ f, (command.search files).answer present = .error f
    let reported := ∃ d ∈ (command.search files).reports present, d.severity = .error
    Outcome.ofTokens ["compiler-rt", "--target", "arm-linux-ohos", "builtins", "--",
        "--rtlib=libgcc"] = .invocation ⟨false, false, some command⟩ ∧
      status = 0 ∧ ¬failed ∧ reported ∧ ¬(status = 1 ↔ failed ∨ reported) := by
  intro command files present status failed reported
  have hstatus : status = 0 := by decide +kernel
  have hfailed : ¬failed := by
    rintro ⟨f, hf⟩
    have hok : ((command.search files).answer present).isOk = true := by decide +kernel
    rw [hf] at hok
    exact absurd hok Bool.false_ne_true
  have hreported : reported := by decide +kernel
  exact ⟨rfl, hstatus, hfailed, hreported, by simp [hstatus, hreported]⟩

end CommandLine

end TargetResolution
