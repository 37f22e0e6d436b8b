import TargetResolution.Resolution.Note

/-!
Journals: the collected diagnostics together with the log that they are written to. A report fills
in the template of its code, then collects the diagnostic, then writes it to the log. Nothing takes
back what was done before a fault, so it is this order that keeps the collection and the log in
step.
-/

namespace TargetResolution

/-- The diagnostics collected so far, and what was written to the log about them. -/
structure Journal where
  diagnostics : Diagnostics := {}
  log : List LogEntry := []
  deriving DecidableEq, Repr

namespace Journal

/-- What a report asks for, with values of any kind for its template. -/
structure Request (κ : Type) where
  code : String
  severity : Severity := .error
  values : κ
  deriving DecidableEq, Repr

/-- A way to fill in a template with values. -/
abbrev Filling (κ ε : Type) := String → κ → Except ε String

/-- Work on a journal that can fail. What was done before a failure stays done. -/
abbrev Work (ε α : Type) := ExceptT ε (StateM Journal) α

variable {κ ε : Type}

/-- Adds a diagnostic to the collection. -/
def collect (d : Diagnostic) : Work ε Unit :=
  modify fun j => { j with diagnostics := j.diagnostics.add (some d) }

/-- Writes a diagnostic to the log. -/
def write (d : Diagnostic) : Work ε Unit :=
  modify fun j => { j with log := j.log ++ [(Note.diagnosed d).entry] }

/-- Makes the diagnostic that a request asks for, collects it and writes it to the log. -/
def report (fill : Filling κ ε) (r : Request κ) : Work ε Diagnostic := do
  let message ← MonadExcept.ofExcept (fill (Diagnostic.templateOf r.code) r.values)
  let d : Diagnostic := ⟨r.severity, r.code, message⟩
  collect d
  write d
  return d

/-- The outcome of a report, and the journal after it. -/
def perform (fill : Filling κ ε) (r : Request κ) (j : Journal) : Except ε Diagnostic × Journal :=
  (report fill r).run.run j

/-- The outcomes of requests in order, and the journal after them. A request that fails does not
keep the later ones from being performed. -/
def run (fill : Filling κ ε) (requests : List (Request κ)) (j : Journal) :
    List (Except ε Diagnostic) × Journal :=
  (requests.mapM fun r => (report fill r).run : StateM Journal _).run j

end Journal

end TargetResolution
