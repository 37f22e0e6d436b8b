import TargetResolution.Recorder
import TargetResolution.Resolution.SearchPath

/-!
Runs of searches: what a search answers and what it asks, part by part. The existing ones of some
candidates are a filter that asks for all of them; the first one that exists is found without
asking for those behind it. A search that is performed through a recorder answers as it does on the
listing and leaves exactly its questions, and those answered with yes, in the record.
-/

namespace TargetResolution

namespace Search

variable {ν α β : Type} (present : String → Bool)

@[simp] theorem answer_done (a : α) : (.done a : Search ν α).answer present = a := rfl

@[simp] theorem answer_probe (path : String) (next : Bool → Search ν α) :
    (Search.probe path next).answer present = (next (present path)).answer present := rfl

@[simp] theorem answer_note (entry : ν) (next : Search ν α) :
    (Search.note entry next).answer present = next.answer present := rfl

@[simp] theorem queries_done (a : α) : (.done a : Search ν α).queries present = [] := rfl

@[simp] theorem queries_probe (path : String) (next : Bool → Search ν α) :
    (Search.probe path next).queries present =
      path :: (next (present path)).queries present := rfl

@[simp] theorem queries_note (entry : ν) (next : Search ν α) :
    (Search.note entry next).queries present = next.queries present := rfl

/-- The questions of one search after another. -/
theorem queries_andThen (s : Search ν α) (f : α → Search ν β) :
    (s.andThen f).queries present =
      s.queries present ++ (f (s.answer present)).queries present := by
  unfold queries
  rw [events_andThen, List.filterMap_append]

theorem answer_ifOk {ε : Type} (s : Search ν (Except ε α)) (f : α → Search ν (Except ε β)) :
    (s.ifOk f).answer present =
      match s.answer present with
      | .ok a => (f a).answer present
      | .error e => .error e := by
  rw [ifOk, answer_andThen]
  cases s.answer present <;> rfl

/-- A search that goes on and succeeds has succeeded before. -/
theorem ok_of_answer_ifOk {ε : Type} {s : Search ν (Except ε α)} {f : α → Search ν (Except ε β)}
    {b : β} (h : (s.ifOk f).answer present = .ok b) :
    ∃ a, s.answer present = .ok a ∧ (f a).answer present = .ok b := by
  rw [answer_ifOk] at h
  cases hs : s.answer present with
  | error e =>
    rw [hs] at h
    cases h
  | ok a =>
    rw [hs] at h
    exact ⟨a, rfl, h⟩

theorem answer_mapError {ε δ : Type} (f : ε → δ) (s : Search ν (Except ε α)) :
    (s.mapError f).answer present = (s.answer present).mapError f := by
  rw [mapError, answer_andThen]
  rfl

/-- The hits are the questions whose paths exist. -/
theorem hits_eq_filter (s : Search ν α) : s.hits present = (s.queries present).filter present := by
  induction s with
  | done a => rfl
  | probe path next ih =>
    have ih := ih (present path)
    unfold hits at ih ⊢
    rw [queries_probe, List.filter_cons, ← ih]
    cases h : present path <;> simp [events, h]
  | note entry next ih => exact ih

/-- A path is a hit when it was asked for and exists. -/
theorem mem_hits_iff (s : Search ν α) (path : String) :
    path ∈ s.hits present ↔ path ∈ s.queries present ∧ present path = true := by
  rw [hits_eq_filter, List.mem_filter]

/-- Two sets of existing paths that agree on the questions of one run lead to the same questions
and the same hits. -/
theorem queries_congr {p q : String → Bool} (s : Search ν α)
    (h : ∀ path ∈ s.queries p, q path = p path) :
    s.queries q = s.queries p ∧ s.hits q = s.hits p := by
  obtain ⟨-, hevents⟩ := run_congr s h
  unfold queries hits
  rw [hevents]
  exact ⟨rfl, rfl⟩

/-- The hits of a run answer its questions as they were answered. -/
theorem decide_mem_hits {s : Search ν α} {path : String} (h : path ∈ s.queries present) :
    decide (path ∈ s.hits present) = present path := by
  rw [Bool.eq_iff_iff, decide_eq_true_iff, mem_hits_iff]
  exact and_iff_right h

end Search

namespace Recorder

/-- A listing asked through a recorder: one question is one step. -/
def asking (t : Listing) (path : String) : StateM Recorder Bool :=
  fun r => (t.contains path, (step (t, r) (.query path)).2)

/-- The answer of a search on a listing asked through a recorder, and the record afterwards. -/
def recorded {ν α : Type} (t : Listing) (s : Search ν α) (r : Recorder) : α × Recorder :=
  let ((answer, _), after) := (s.perform (asking t)).run r
  (answer, after)

/-- The record is no more and no less than the run on the listing itself. -/
theorem recorded_eq {ν α : Type} (t : Listing) (s : Search ν α) (r : Recorder) :
    recorded t s r =
      (s.answer t.contains,
        ⟨r.queries ++ s.queries t.contains, r.hits ++ s.hits t.contains⟩) := by
  suffices h : (s.perform (asking t)).run r =
      ((s.answer t.contains, s.events t.contains),
        (⟨r.queries ++ s.queries t.contains, r.hits ++ s.hits t.contains⟩ : Recorder)) by
    unfold recorded
    rw [h]
  induction s generalizing r with
  | done a =>
    rw [Search.queries_done, Search.hits_eq_filter, Search.queries_done, List.filter_nil,
      List.append_nil, List.append_nil]
    rfl
  | probe path next ih =>
    have ih := ih (t.contains path) (r.record path (t.contains path))
    rw [Search.hits_eq_filter] at ih ⊢
    rw [Search.queries_probe]
    show (fun x : _ × Recorder => ((x.1.1, _ :: x.1.2), x.2))
      (((next (t.contains path)).perform (asking t)).run (r.record path (t.contains path))) = _
    rw [ih]
    cases h : t.contains path <;> simp [record, h, Search.events]
  | note entry next ih =>
    have ih := ih r
    show (fun x : _ × Recorder => ((x.1.1, _ :: x.1.2), x.2)) ((next.perform (asking t)).run r) = _
    rw [ih]
    rfl

/-- A listing that answers the recorded questions alike leaves the same answer and record. -/
theorem recorded_congr {ν α : Type} {t u : Listing} (s : Search ν α) (r : Recorder)
    (h : ∀ path ∈ s.queries t.contains, u.contains path = t.contains path) :
    recorded u s r = recorded t s r := by
  obtain ⟨hanswer, -⟩ := Search.run_congr s h
  obtain ⟨hqueries, hhits⟩ := Search.queries_congr s h
  rw [recorded_eq, recorded_eq, hanswer, hqueries, hhits]

end Recorder

namespace SearchPath

variable (present : String → Bool)

theorem answer_existing (candidates : List String) :
    (existing candidates).answer present = candidates.filter present := by
  induction candidates with
  | nil => rfl
  | cons path rest ih =>
    simp only [existing, keep, Search.answer_andThen, Search.answer_probe, Search.answer_done, ih]
    cases h : present path <;> simp [h]

theorem queries_existing (candidates : List String) :
    (existing candidates).queries present = candidates := by
  induction candidates with
  | nil => rfl
  | cons path rest ih =>
    simp only [existing, keep, Search.queries_andThen, Search.queries_probe, Search.queries_done,
      ih, List.append_nil]
    cases h : present path <;> simp

/-- The candidates up to the first that exists, that one included. -/
def upToFirst : List String → List String
  | [] => []
  | path :: rest => if present path then [path] else path :: upToFirst rest

theorem answer_first? (candidates : List String) :
    (first? candidates).answer present = candidates.find? present := by
  induction candidates with
  | nil => rfl
  | cons path rest ih =>
    rw [first?, Search.answer_probe, List.find?_cons]
    cases h : present path with
    | true => rfl
    | false => exact ih

theorem queries_first? (candidates : List String) :
    (first? candidates).queries present = upToFirst present candidates := by
  induction candidates with
  | nil => rfl
  | cons path rest ih =>
    rw [first?, Search.queries_probe, upToFirst]
    cases h : present path with
    | true => rfl
    | false => simp [ih]

/-- What is asked for ends with the first hit. -/
theorem filter_upToFirst (candidates : List String) :
    (upToFirst present candidates).filter present = (candidates.find? present).toList := by
  induction candidates with
  | nil => rfl
  | cons path rest ih =>
    rw [upToFirst, List.find?_cons]
    cases h : present path with
    | true => simp [h]
    | false => simp [h, ih]

end SearchPath

end TargetResolution
