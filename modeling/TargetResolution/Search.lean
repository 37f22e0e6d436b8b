/-!
Searches: computations that ask whether paths exist and leave notes on the way. A search is a
tree of questions, so it can be run against any set of existing paths and against the host, and the
questions that it asks are part of its outcome. Main statement: a run depends on the existing paths
through the answers to the questions asked in that run only.
-/

namespace TargetResolution

/-- A computation that asks whether paths exist and leaves notes of type `ν`. -/
inductive Search (ν : Type) (α : Type) where
  | done (answer : α)
  | probe (path : String) (next : Bool → Search ν α)
  | note (entry : ν) (next : Search ν α)

/-- What happens during a search, in order. -/
inductive Event (ν : Type) where
  | probed (path : String) (found : Bool)
  | noted (entry : ν)
  deriving DecidableEq, Repr

namespace Search

variable {ν α β γ : Type}

/-- One search after another. -/
def andThen : Search ν α → (α → Search ν β) → Search ν β
  | .done a, f => f a
  | .probe path next, f => .probe path fun found => (next found).andThen f
  | .note entry next, f => .note entry (next.andThen f)

instance : Monad (Search ν) where
  pure := .done
  bind := andThen

/-- The question whether a path exists. -/
def ask (path : String) : Search ν Bool := .probe path .done

/-- A note. -/
def leave (entry : ν) : Search ν Unit := .note entry (.done ())

/-- The answer of a search where exactly the paths that satisfy the predicate exist. -/
def answer (present : String → Bool) : Search ν α → α
  | .done a => a
  | .probe path next => (next (present path)).answer present
  | .note _ next => next.answer present

/-- The events of a search, in order. -/
def events (present : String → Bool) : Search ν α → List (Event ν)
  | .done _ => []
  | .probe path next => .probed path (present path) :: (next (present path)).events present
  | .note entry next => .noted entry :: next.events present

/-- The search run against a world that answers by an action. -/
def perform {m : Type → Type} [Monad m] (present : String → m Bool) :
    Search ν α → m (α × List (Event ν))
  | .done a => pure (a, [])
  | .probe path next => do
    let found ← present path
    let (a, es) ← (next found).perform present
    pure (a, .probed path found :: es)
  | .note entry next => do
    let (a, es) ← next.perform present
    pure (a, .noted entry :: es)

/-- The search that also answers with its own questions and their answers. -/
def traced : Search ν α → Search ν (α × List (String × Bool))
  | .done a => .done (a, [])
  | .probe path next =>
    .probe path fun found =>
      (next found).traced.andThen fun (a, trail) => .done (a, (path, found) :: trail)
  | .note entry next => .note entry next.traced

/-- The search with its questions answered by a predicate, so that it asks none. -/
def within (present : String → Bool) : Search ν α → Search ν α
  | .done a => .done a
  | .probe path next => (next (present path)).within present
  | .note entry next => .note entry (next.within present)

/-- One search after another that succeeds. -/
def ifOk {ε : Type} (s : Search ν (Except ε α)) (f : α → Search ν (Except ε β)) :
    Search ν (Except ε β) :=
  s.andThen fun
    | .ok a => f a
    | .error e => .done (.error e)

/-- The search with its errors mapped. -/
def mapError {ε δ : Type} (f : ε → δ) (s : Search ν (Except ε α)) : Search ν (Except δ α) :=
  s.andThen fun r => .done (r.mapError f)

/-- The paths asked for, in order. -/
def queries (present : String → Bool) (s : Search ν α) : List String :=
  (s.events present).filterMap fun
    | .probed path _ => some path
    | .noted _ => none

/-- The paths asked for and found, in order. -/
def hits (present : String → Bool) (s : Search ν α) : List String :=
  (s.events present).filterMap fun
    | .probed path true => some path
    | _ => none

@[simp] theorem andThen_eq_bind (s : Search ν α) (f : α → Search ν β) : s >>= f = s.andThen f := rfl

@[simp] theorem pure_eq_done (a : α) : (pure a : Search ν α) = .done a := rfl

theorem answer_andThen (present : String → Bool) (s : Search ν α) (f : α → Search ν β) :
    (s.andThen f).answer present = (f (s.answer present)).answer present := by
  induction s with
  | done a => rfl
  | probe path next ih => exact ih (present path)
  | note entry next ih => exact ih

theorem events_andThen (present : String → Bool) (s : Search ν α) (f : α → Search ν β) :
    (s.andThen f).events present =
      s.events present ++ (f (s.answer present)).events present := by
  induction s with
  | done a => rfl
  | probe path next ih => simp [andThen, events, answer, ih]
  | note entry next ih => simp [andThen, events, answer, ih]

/-- Two sets of existing paths that agree on the questions of one run give the same run. -/
theorem run_congr {p q : String → Bool} (s : Search ν α)
    (h : ∀ path ∈ s.queries p, q path = p path) :
    s.answer q = s.answer p ∧ s.events q = s.events p := by
  induction s with
  | done a => exact ⟨rfl, rfl⟩
  | probe path next ih =>
    have hp : q path = p path := h path (by simp [queries, events])
    have ih := ih (p path) fun x hx => h x (by
      simp only [queries, events, List.filterMap_cons]
      exact List.mem_cons_of_mem _ hx)
    simp [answer, events, hp, ih]
  | note entry next ih =>
    have ih := ih fun x hx => h x (by simpa [queries, events] using hx)
    simp [answer, events, ih]

end Search

end TargetResolution
