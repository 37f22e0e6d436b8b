import TargetResolution.Listing

/-!
A recorder keeps the questions asked of a set of existing paths, and which of them were answered
with yes. Questions can be asked, paths added and the record cleared in any order.
-/

namespace TargetResolution

/-- The record of the questions asked so far. -/
structure Recorder where
  queries : List String := []
  hits : List String := []
  deriving DecidableEq, Repr

namespace Recorder

/-- The record after a question and its answer. -/
def record (r : Recorder) (path : String) (found : Bool) : Recorder where
  queries := r.queries ++ [path]
  hits := if found then r.hits ++ [path] else r.hits

/-- The record of questions and answers in order. -/
def ofTrail (trail : List (String × Bool)) : Recorder :=
  trail.foldl (fun r e => r.record e.1 e.2) {}

/-- How a question is shown: as a hit if a question for this path was answered with yes. -/
def label (r : Recorder) (path : String) : String :=
  (if path ∈ r.hits then "hit " else "miss") ++ " " ++ path

/-- All questions with their labels. -/
def labels (r : Recorder) : List String := r.queries.map r.label

/-- What can be done with a recorder over a listing. -/
inductive Step where
  | query (path : String)
  | add (path : String)
  | reset
  deriving DecidableEq, Repr

/-- The listing and the record after a step. Adding an empty path is no step. -/
def step : Listing × Recorder → Step → Listing × Recorder
  | (t, r), .query path => (t, r.record path (t.contains path))
  | (t, r), .add path => ((t.add? path).getD t, r)
  | (t, _), .reset => (t, {})

end Recorder

end TargetResolution
