import Mathlib.Data.List.Forall2
import TargetResolution.Diagnostic.Journal
import TargetResolution.Proofs.Diagnostic.Unfillable
import TargetResolution.Proofs.Result

/-!
Runs of reports. What a report makes depends on its request alone, and a report that fails leaves
the journal as it was. So after a run the collection is what the reports that succeeded have made,
in order, and the log shows it line by line.
-/

namespace TargetResolution.Journal

variable {κ ε : Type}

/-- What a request makes, whatever has been reported before. -/
def made (fill : Filling κ ε) (r : Request κ) : Except ε Diagnostic :=
  (fill (Diagnostic.templateOf r.code) r.values).map fun message => ⟨r.severity, r.code, message⟩

/-- Whether a line of the log shows a diagnostic: its message, as an error if it is one and as a
warning if not. -/
structure Shows (d : Diagnostic) (e : LogEntry) : Prop where
  text : e.text = d.message
  error : e.level = .error ↔ d.severity = .error
  warning : e.level = .warning ↔ d.severity ≠ .error

theorem shows_entry (d : Diagnostic) : Shows d (Note.diagnosed d).entry := by
  obtain ⟨severity, code, message⟩ := d
  cases severity <;> exact ⟨rfl, by simp [Note.entry, LogLevel.ofSeverity],
    by simp [Note.entry, LogLevel.ofSeverity]⟩

/-! ### One report -/

/-- The journal with what a request has made, if it has made anything. -/
def enter (j : Journal) (outcome : Except ε Diagnostic) : Journal where
  diagnostics := j.diagnostics.add outcome.toOption
  log := j.log ++ (outcome.toOption.map fun d => (Note.diagnosed d).entry).toList

theorem enter_error (j : Journal) (e : ε) : j.enter (.error e : Except ε Diagnostic) = j := by
  simp [enter, Except.toOption, Diagnostics.add]

/-- The message is made before the journal is touched, so a report enters all or nothing. -/
theorem perform_eq (fill : Filling κ ε) (r : Request κ) (j : Journal) :
    perform fill r j = (made fill r, j.enter (made fill r)) := by
  unfold perform report made
  cases hfill : fill (Diagnostic.templateOf r.code) r.values with
  | error e =>
    rw [Except.map, enter_error]
    rfl
  | ok message => rfl

theorem made_eq_error_iff {fill : Filling κ ε} {r : Request κ} {e : ε} :
    made fill r = .error e ↔ fill (Diagnostic.templateOf r.code) r.values = .error e := by
  unfold made
  cases fill (Diagnostic.templateOf r.code) r.values <;> simp [Except.map]

theorem perform_of_error {fill : Filling κ ε} {r : Request κ} {e : ε}
    (h : made fill r = .error e) (j : Journal) : perform fill r j = (.error e, j) := by
  rw [perform_eq, h, enter_error]

/-! ### Runs -/

theorem run_cons (fill : Filling κ ε) (r : Request κ) (requests : List (Request κ)) (j : Journal) :
    run fill (r :: requests) j =
      ((perform fill r j).1 :: (run fill requests (perform fill r j).2).1,
        (run fill requests (perform fill r j).2).2) := by
  rw [run, List.mapM_cons]
  rfl

/-- The outcomes of a run are those of its requests, and what they have made is entered in order. -/
theorem run_eq (fill : Filling κ ε) (requests : List (Request κ)) (j : Journal) :
    run fill requests j =
      (requests.map (made fill), (requests.map (made fill)).foldl enter j) := by
  induction requests generalizing j with
  | nil => rfl
  | cons r requests ih => rw [run_cons, perform_eq, ih, List.map_cons, List.foldl_cons]

/-- The collection and the log grow by the same diagnostics. -/
theorem foldl_enter (outcomes : List (Except ε Diagnostic)) (j : Journal) :
    outcomes.foldl enter j =
      { diagnostics := ⟨j.diagnostics.reported ++ outcomes.filterMap Except.toOption⟩
        log := j.log ++
          (outcomes.filterMap Except.toOption).map fun d => (Note.diagnosed d).entry } := by
  induction outcomes generalizing j with
  | nil => simp
  | cons outcome outcomes ih =>
    rw [List.foldl_cons, ih, List.filterMap_cons]
    cases outcome <;> simp [enter, Diagnostics.add, Except.toOption]

/-- The journal after a run is that of a run of the reports that succeed. -/
theorem run_successes (fill : Filling κ ε) (requests : List (Request κ)) (j : Journal) :
    (run fill requests j).2 = (run fill (requests.filter fun r => (made fill r).isOk) j).2 := by
  rw [run_eq, run_eq]
  induction requests generalizing j with
  | nil => rfl
  | cons r requests ih =>
    rw [List.map_cons, List.foldl_cons, List.filter_cons]
    cases hmade : made fill r with
    | error e =>
      rw [enter_error, if_neg (by simp [Except.isOk, Except.toBool])]
      exact ih j
    | ok d =>
      have hok : (Except.ok d : Except ε Diagnostic).isOk = true := rfl
      rw [if_pos hok, List.map_cons, List.foldl_cons, hmade]
      exact ih _

theorem reported_run (fill : Filling κ ε) (requests : List (Request κ)) :
    (run fill requests {}).2.diagnostics.reported =
      (run fill requests {}).1.filterMap Except.toOption := by
  rw [run_eq, foldl_enter]
  exact List.nil_append _

theorem mem_reported_run {fill : Filling κ ε} {requests : List (Request κ)} {d : Diagnostic} :
    d ∈ (run fill requests {}).2.diagnostics.reported ↔ .ok d ∈ (run fill requests {}).1 := by
  rw [reported_run, List.mem_filterMap]
  constructor
  · rintro ⟨outcome, hmem, houtcome⟩
    obtain rfl := eq_ok_of_toOption_eq_some houtcome
    exact hmem
  · exact fun hmem => ⟨_, hmem, rfl⟩

theorem size_run (fill : Filling κ ε) (requests : List (Request κ)) :
    (run fill requests {}).2.diagnostics.size =
      (run fill requests {}).1.countP Except.isOk := by
  have hisOk : ∀ outcome : Except ε Diagnostic, outcome.toOption.isSome = outcome.isOk := by
    rintro (e | d) <;> rfl
  rw [Diagnostics.size, reported_run, List.length_filterMap_eq_countP]
  exact List.countP_congr fun outcome _ => by rw [hisOk]

theorem shows_run (fill : Filling κ ε) (requests : List (Request κ)) :
    List.Forall₂ Shows (run fill requests {}).2.diagnostics.reported
      (run fill requests {}).2.log := by
  rw [run_eq, foldl_enter]
  exact List.forall₂_map_right_iff.2 (List.forall₂_same.2 fun d _ => shows_entry d)

/-! ### Reports with named texts -/

/-- The collection of a journal is the one that a report on the collection alone leads to. -/
theorem report_eq (j : Journal) (code : String) (severity : Severity)
    (values : List (String × String)) :
    j.diagnostics.report code severity values =
      (perform Diagnostics.compose ⟨code, severity, values⟩ j).1.map fun d =>
        (d, (perform Diagnostics.compose ⟨code, severity, values⟩ j).2.diagnostics) := by
  rw [perform_eq, made, Diagnostics.report]
  cases Diagnostics.compose (Diagnostic.templateOf code) values with
  | error fault => rfl
  | ok message => rfl

theorem compose_of_unfillable {template : String} {values : List (String × String)}
    {fault : Template.Fault} (h : Template.Unfillable values template.toList fault)
    (hnames : ∀ x ∈ values, x.1 ∉ Diagnostics.reservedNames) :
    Diagnostics.compose template values = .error fault := by
  have hfind : (values.find? fun x => Diagnostics.reservedNames.contains x.1) = none :=
    List.find?_eq_none.2 fun x hx => by simpa using hnames x hx
  rw [Diagnostics.compose, hfind]
  exact Template.fill_of_unfillable h

/-- The collection and the log are in step over every run of reports, whatever fills in the
templates. A report fails as its template does, and then neither of them notices. With named texts,
this is what becomes of missing values, of positions and of braces out of place. -/
theorem collection_and_log_in_step :
    (∀ (κ ε : Type) (fill : Filling κ ε) (requests : List (Request κ)),
      (∀ (r : Request κ) (j : Journal) (e : ε),
        ((perform fill r j).1 = .error e ↔
            fill (Diagnostic.templateOf r.code) r.values = .error e) ∧
        ((perform fill r j).1 = .error e → (perform fill r j).2 = j)) ∧
      let outcomes := (run fill requests {}).1
      let j := (run fill requests {}).2
      outcomes = requests.map (made fill) ∧
      j = (run fill (requests.filter fun r => (made fill r).isOk) {}).2 ∧
      j.diagnostics.reported = outcomes.filterMap Except.toOption ∧
      List.Forall₂ Shows j.diagnostics.reported j.log ∧
      j.diagnostics.size = outcomes.countP Except.isOk ∧
      (j.diagnostics.hasErrors = true ↔ ∃ d, .ok d ∈ outcomes ∧ d.severity = .error)) ∧
    ∀ (code : String) (values : List (String × String)) (fault : Template.Fault),
      Template.Unfillable values (Diagnostic.templateOf code).toList fault →
      (∀ x ∈ values, x.1 ∉ Diagnostics.reservedNames) →
      ∀ (severity : Severity) (j : Journal),
        perform Diagnostics.compose ⟨code, severity, values⟩ j = (.error fault, j) := by
  constructor
  · intro κ ε fill requests
    refine ⟨fun r j e => ⟨?_, fun h => ?_⟩, congrArg Prod.fst (run_eq fill requests {}),
      run_successes fill requests {}, reported_run fill requests, shows_run fill requests,
      size_run fill requests, ?_⟩
    · rw [perform_eq]
      exact made_eq_error_iff
    · rw [perform_eq] at h
      rw [perform_of_error h]
    · simp only [Diagnostics.hasErrors, List.any_eq_true, beq_iff_eq, mem_reported_run]
  · intro code values fault hfault hnames severity j
    exact perform_of_error (made_eq_error_iff.2 (compose_of_unfillable hfault hnames)) j

/-- Requests with every kind of fault between two that succeed. -/
def mixedRequests : List (Request (List (String × String))) :=
  [ { code := "invalid-rtlib-name", values := [("arg", "--rtlib=\x7bx\x7d")] },
    { code := "invalid-rtlib-name", values := [] },
    { code := "odd \x7b\x7d", values := [] },
    { code := "\x7b\x7b \x7b7\x7d", values := [("arg", "x")] },
    { code := "50% \x7d", values := [] },
    { code := "set \x7b", values := [] },
    { code := "set \x7barg", values := [("arg", "x")] },
    { code := "odd set \x7b\x7b\x7d\x7d", severity := .warning, values := [] } ]

theorem collection_and_log_in_step_mixed :
    (run Diagnostics.compose mixedRequests {}).2.diagnostics.reported =
      [ ⟨.error, "invalid-rtlib-name",
          "invalid runtime library name in argument '--rtlib=\x7bx\x7d'"⟩,
        ⟨.warning, "odd set \x7b\x7b\x7d\x7d", "odd set \x7b\x7d"⟩ ] ∧
    List.Forall₂ Shows (run Diagnostics.compose mixedRequests {}).2.diagnostics.reported
      (run Diagnostics.compose mixedRequests {}).2.log ∧
    (run Diagnostics.compose mixedRequests {}).2.diagnostics.size = 2 ∧
    ∀ j, perform Diagnostics.compose ⟨"set \x7barg", .warning, [("arg", "x")]⟩ j =
      (.error (.flaw .unclosed), j) := by
  obtain ⟨hrun, hfault⟩ := collection_and_log_in_step
  obtain ⟨-, -, -, -, hlog, hsize, -⟩ := hrun _ _ Diagnostics.compose mixedRequests
  have htemplate : (Diagnostic.templateOf "set \x7barg").toList =
      ['s', 'e', 't', ' '] ++ '\x7b' :: ['a', 'r', 'g'] := by decide +kernel
  have hset : Template.Unfillable [("arg", "x")] (Diagnostic.templateOf "set \x7barg").toList
      (.flaw .unclosed) := by
    rw [htemplate]
    exact .behindText (by decide) (.unclosed Template.isFieldName_arg)
  refine ⟨by decide +kernel, hlog, hsize.trans (by decide +kernel), fun j => ?_⟩
  exact hfault "set \x7barg" _ _ hset (by decide +kernel) .warning j

end TargetResolution.Journal
