import TargetResolution.Proofs.Search.Run
import TargetResolution.Resolution.Note

/-!
The diagnostics that are reported during a run. They are read off the notes of the run, so they do
not depend on what a search answers with. A search that reports nothing keeps silent, whatever it
asks for and logs otherwise.
-/

namespace TargetResolution

/-- The diagnostic that a note reports, if it reports one. -/
def Note.report? : Note → Option Diagnostic
  | .diagnosed d => some d
  | _ => none

/-- The diagnostic that is reported when something happens, if one is. -/
def Event.report? : Event Note → Option Diagnostic
  | .noted n => n.report?
  | .probed _ _ => none

namespace Search

variable {α β : Type} (present : String → Bool)

/-- The diagnostics that are reported during a run, in order. -/
def reports (s : Search Note α) : List Diagnostic := (s.events present).filterMap Event.report?

@[simp] theorem reports_done (a : α) : (.done a : Search Note α).reports present = [] := rfl

@[simp] theorem reports_probe (path : String) (next : Bool → Search Note α) :
    (Search.probe path next).reports present = (next (present path)).reports present := rfl

@[simp] theorem reports_note (n : Note) (next : Search Note α) :
    (Search.note n next).reports present = n.report?.toList ++ next.reports present := by
  unfold reports
  rw [events, List.filterMap_cons]
  cases h : n.report? <;> simp [Event.report?, h]

/-- The reports of one search after another. -/
theorem reports_andThen (s : Search Note α) (f : α → Search Note β) :
    (s.andThen f).reports present =
      s.reports present ++ (f (s.answer present)).reports present := by
  unfold reports
  rw [events_andThen, List.filterMap_append]

theorem reports_mapError {ε δ : Type} (f : ε → δ) (s : Search Note (Except ε α)) :
    (s.mapError f).reports present = s.reports present := by
  rw [mapError, reports_andThen, reports_done, List.append_nil]

theorem reports_ifOk {ε : Type} (s : Search Note (Except ε α)) (f : α → Search Note (Except ε β)) :
    (s.ifOk f).reports present = s.reports present ++
      match s.answer present with
      | .ok a => (f a).reports present
      | .error _ => [] := by
  rw [ifOk, reports_andThen]
  cases s.answer present <;> rfl

/-! ### Searches that answer their own questions -/

theorem answer_traced (s : Search Note α) :
    (s.traced.answer present).1 = s.answer present := by
  induction s with
  | done a => rfl
  | probe path next ih =>
    rw [traced, answer_probe, answer_andThen, answer_probe]
    exact ih (present path)
  | note n next ih => exact ih

theorem reports_traced (s : Search Note α) : s.traced.reports present = s.reports present := by
  induction s with
  | done a => rfl
  | probe path next ih =>
    rw [traced, reports_probe, reports_andThen, reports_probe, ih (present path), reports_done,
      List.append_nil]
  | note n next ih => rw [traced, reports_note, reports_note, ih]

/-- A search within a set of paths goes as if exactly these paths existed. -/
theorem run_within (inside : String → Bool) (s : Search Note α) :
    (s.within inside).answer present = s.answer inside ∧
      (s.within inside).reports present = s.reports inside := by
  induction s with
  | done a => exact ⟨rfl, rfl⟩
  | probe path next ih => exact ih (inside path)
  | note n next ih =>
    obtain ⟨hanswer, hreports⟩ := ih
    exact ⟨hanswer, by rw [within, reports_note, reports_note, hreports]⟩

end Search

/-! ### Candidates -/

namespace SearchPath

variable (present : String → Bool)

theorem reports_existing (candidates : List String) :
    (existing candidates).reports present = [] := by
  induction candidates with
  | nil => rfl
  | cons path rest ih =>
    rw [existing, Search.reports_andThen, Search.reports_andThen, ih]
    unfold keep
    cases h : present path <;> simp [h, Note.report?]

theorem reports_first? (candidates : List String) :
    (first? candidates).reports present = [] := by
  induction candidates with
  | nil => rfl
  | cons path rest ih =>
    rw [first?, Search.reports_probe]
    cases h : present path with
    | true => rfl
    | false => exact ih

end SearchPath

end TargetResolution
