import Mathlib.Data.List.Induction
import TargetResolution.Proofs.Listing.Growth
import TargetResolution.Recorder

/-!
Histories of a recorder over a listing. The trail of some steps are their questions, each with the
answer that the listing gives when it is asked. Main statements: the record is made from the trail
since the last reset and from nothing else, and labels that are looked up among the hits are right
for a trail whose answers depend on the path alone, which they do as long as nothing is added.
-/

namespace TargetResolution.Recorder

/-- The listing and the record after some steps. -/
def after (s : Listing × Recorder) (steps : List Step) : Listing × Recorder := steps.foldl step s

/-- The paths that some steps add. Empty ones are not added. -/
def added (steps : List Step) : List String :=
  steps.filterMap fun
    | .add path => if path = "" then none else some path
    | .query _ | .reset => none

/-- The paths that some steps ask for. -/
def asked (steps : List Step) : List String :=
  steps.filterMap fun
    | .query path => some path
    | .add _ | .reset => none

/-- The questions of some steps, each with its answer when it is asked. -/
def answers : Listing → List Step → List (String × Bool)
  | _, [] => []
  | t, .query path :: steps => (path, t.contains path) :: answers t steps
  | t, .add path :: steps => answers ((t.add? path).getD t) steps
  | t, .reset :: steps => answers t steps

/-- How an answer is shown. -/
def answerLine (path : String) (found : Bool) : String :=
  (if found then "hit " else "miss") ++ " " ++ path

/-- Hits and misses are never shown alike. -/
theorem answerLine_ne (p q : String) : answerLine p true ≠ answerLine q false := by
  intro h
  have hfirst := congrArg (fun s : String => s.toList.head?) h
  simp [answerLine] at hfirst

/-! ### The listing -/

theorem listing_step (s : Listing × Recorder) (x : Step) :
    (step s x).1 = (added [x]).foldl Listing.add s.1 := by
  cases x with
  | query path => rfl
  | add path => by_cases hpath : path = "" <;> simp [step, Listing.add?, added, hpath]
  | reset => rfl

/-- The listing after some steps has what they added, whatever is asked or forgotten. -/
theorem listing_after (s : Listing × Recorder) (steps : List Step) :
    (after s steps).1 = (added steps).foldl Listing.add s.1 := by
  induction steps generalizing s with
  | nil => rfl
  | cons x steps ih =>
    have hadded : added (x :: steps) = added [x] ++ added steps :=
      List.filterMap_append (l := [x])
    rw [after, List.foldl_cons, ← after, ih, listing_step, hadded, List.foldl_append]

/-- A path that exists goes on to exist. -/
theorem isWithin_after (s : Listing × Recorder) (steps : List Step) :
    s.1.IsWithin (after s steps).1 := by
  rw [listing_after]
  exact Listing.isWithin_foldl_add _ _

/-! ### The trail -/

theorem answers_cons (t : Listing) (x : Step) (steps : List Step) :
    answers t (x :: steps) = answers t [x] ++ answers ((added [x]).foldl Listing.add t) steps := by
  cases x with
  | query path => rfl
  | add path =>
    by_cases hpath : path = "" <;> simp [answers, Listing.add?, added, hpath]
  | reset => rfl

theorem answers_append (t : Listing) (xs ys : List Step) :
    answers t (xs ++ ys) = answers t xs ++ answers ((added xs).foldl Listing.add t) ys := by
  induction xs generalizing t with
  | nil => rfl
  | cons x xs ih =>
    have hadded : added (x :: xs) = added [x] ++ added xs := List.filterMap_append (l := [x])
    rw [List.cons_append, answers_cons, ih, answers_cons t x xs, hadded, List.foldl_append,
      List.append_assoc]

theorem map_answers (t : Listing) (steps : List Step) :
    (answers t steps).map (·.1) = asked steps := by
  induction steps generalizing t with
  | nil => rfl
  | cons x steps ih =>
    cases x with
    | query path => exact congrArg (path :: ·) (ih t)
    | add path => exact ih _
    | reset => exact ih t

/-- In its place in the trail, a question has the answer of the listing as it is then. -/
theorem getElem?_answers (t : Listing) (earlier : List Step) (path : String) (later : List Step) :
    (answers t (earlier ++ .query path :: later))[(asked earlier).length]? =
      some (path, ((added earlier).foldl Listing.add t).contains path) := by
  have hlength : (asked earlier).length = (answers t earlier).length := by
    rw [← map_answers t, List.length_map]
  rw [answers_append, hlength, List.getElem?_append_right (Nat.le_refl _), Nat.sub_self]
  rfl

theorem answers_queries (t : Listing) (paths : List String) :
    answers t (paths.map .query) = paths.map fun path => (path, t.contains path) := by
  induction paths with
  | nil => rfl
  | cons path paths ih => exact congrArg ((path, t.contains path) :: ·) ih

/-- As long as nothing is added, the answers depend on the path alone. -/
theorem answer_of_mem_answers {t : Listing} {steps : List Step} (h : added steps = [])
    {x : String × Bool} (hx : x ∈ answers t steps) : x.2 = t.contains x.1 := by
  induction steps with
  | nil => cases hx
  | cons y steps ih =>
    have hadded : added (y :: steps) = added [y] ++ added steps :=
      List.filterMap_append (l := [y])
    obtain ⟨hy, hsteps⟩ := List.append_eq_nil_iff.1 (hadded ▸ h)
    rw [answers_cons, hy, List.foldl_nil, List.mem_append] at hx
    rcases hx with hx | hx
    · cases y with
      | query path =>
        obtain rfl := List.mem_singleton.1 hx
        rfl
      | add path => simp [answers] at hx
      | reset => cases hx
    · exact ih hsteps hx

/-! ### The record -/

theorem foldl_record (trail : List (String × Bool)) (r : Recorder) :
    trail.foldl (fun r e => r.record e.1 e.2) r =
      ⟨r.queries ++ trail.map (·.1), r.hits ++ (trail.filter (·.2)).map (·.1)⟩ := by
  induction trail generalizing r with
  | nil => simp
  | cons x trail ih =>
    obtain ⟨path, found⟩ := x
    rw [List.foldl_cons, ih]
    cases found <;> simp [record]

theorem ofTrail_eq (trail : List (String × Bool)) :
    ofTrail trail = ⟨trail.map (·.1), (trail.filter (·.2)).map (·.1)⟩ := by
  rw [ofTrail, foldl_record]
  rfl

theorem record_step (t : Listing) (r : Recorder) {x : Step} (hx : x ≠ .reset) :
    (step (t, r) x).2 = (answers t [x]).foldl (fun r e => r.record e.1 e.2) r := by
  cases x with
  | reset => exact absurd rfl hx
  | _ => rfl

/-- Every history is cut at its last reset. -/
theorem exists_last_reset (steps : List Step) :
    ∃ before recent, steps = before ++ recent ∧ .reset ∉ recent ∧
      ∀ x ∈ before.getLast?, x = .reset := by
  induction steps using List.reverseRecOn with
  | nil => exact ⟨[], [], rfl, by simp, by simp⟩
  | append_singleton steps x ih =>
    by_cases hx : x = .reset
    · exact ⟨steps ++ [x], [], by simp, by simp, by simp [hx]⟩
    · obtain ⟨before, recent, rfl, hrecent, hbefore⟩ := ih
      refine ⟨before, recent ++ [x], by simp, ?_, hbefore⟩
      simpa [hrecent] using Ne.symm hx

/-- Without a reset, the trail of the steps comes behind what was recorded before. -/
theorem record_after {steps : List Step} (h : .reset ∉ steps) (s : Listing × Recorder) :
    (after s steps).2 = (answers s.1 steps).foldl (fun r e => r.record e.1 e.2) s.2 := by
  induction steps generalizing s with
  | nil => rfl
  | cons x steps ih =>
    obtain ⟨t, r⟩ := s
    obtain ⟨hx, hsteps⟩ := not_or.1 (mt List.mem_cons.2 h)
    rw [after, List.foldl_cons, ← after, ih hsteps, listing_step, record_step t r (Ne.symm hx),
      answers_cons t x steps, List.foldl_append]

/-- After a reset nothing is recorded, as at the start. -/
theorem record_of_getLast? {before : List Step} (h : ∀ x ∈ before.getLast?, x = .reset)
    (t : Listing) : (after (t, {}) before).2 = {} := by
  rcases List.eq_nil_or_concat before with rfl | ⟨earlier, x, rfl⟩
  · rfl
  · obtain rfl : x = .reset := h x (by simp)
    rw [List.concat_eq_append, after, List.foldl_append]
    rfl

/-- The record is made from the trail since the last reset. -/
theorem record_since_reset {before recent : List Step} (hrecent : .reset ∉ recent)
    (hbefore : ∀ x ∈ before.getLast?, x = .reset) (t : Listing) :
    (after (t, {}) (before ++ recent)).2 = ofTrail (answers (after (t, {}) before).1 recent) := by
  rw [after, List.foldl_append, ← after, ← after, record_after hrecent,
    record_of_getLast? hbefore, ofTrail]

/-! ### Labels -/

/-- Labels that are looked up among the hits are right if the answers depend on the path alone. -/
theorem labels_ofTrail {present : String → Bool} {trail : List (String × Bool)}
    (h : ∀ x ∈ trail, x.2 = present x.1) :
    (ofTrail trail).labels = trail.map fun x => answerLine x.1 x.2 := by
  rw [labels, ofTrail_eq, List.map_map]
  refine List.map_congr_left fun x hx => ?_
  have hmem : x.1 ∈ (trail.filter (·.2)).map (·.1) ↔ x.2 = true := by
    rw [List.mem_map]
    constructor
    · rintro ⟨y, hy, hpath⟩
      obtain ⟨hy, hfound⟩ := List.mem_filter.1 hy
      rw [h x hx, ← hpath, ← h y hy, hfound]
    · exact fun hfound => ⟨x, List.mem_filter.2 ⟨hx, hfound⟩, rfl⟩
  simp only [Function.comp_apply, label, answerLine, hmem]

/-- A path that comes to exist between two questions is shown as a hit for both. -/
example :
    (after ({}, {}) [.query "/a", .add "/a", .query "/a"]).2.labels = ["hit  /a", "hit  /a"] := by
  decide +kernel

end TargetResolution.Recorder
