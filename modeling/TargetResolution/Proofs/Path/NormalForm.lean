import TargetResolution.Path

/-!
Normal forms of locations. The trail that `follow` builds is settled: it holds proper segments only,
and double dots stand only at the start of a relative trail. A settled trail is followed to itself,
so the normal spelling of a location leads back to it and two paths have one normal spelling exactly
when they mean one location.
-/

namespace TargetResolution.Path

open Text

/-- Whether a segment is one step: neither empty nor a single dot, and without a separator. -/
def IsStep (segment : String) : Prop := segment ≠ "" ∧ segment ≠ "." ∧ '/' ∉ segment.toList

/-- A trail as `follow` leaves it, last segment first: double dots have only double dots before
them, and an absolute trail has none. -/
def Settled (absolute : Bool) : List String → Prop
  | [] => True
  | segment :: earlier =>
    IsStep segment ∧ (segment = ".." → absolute = false ∧ ∀ s ∈ earlier, s = "..")
      ∧ Settled absolute earlier

/-- A location whose segments form a settled trail. -/
def Location.Normal (l : Location) : Prop := Settled l.absolute l.segments.reverse

/-! ### Following segments -/

theorem isStep_dotdot : IsStep ".." := ⟨by decide, by decide, by decide⟩

/-- One more segment keeps a trail settled. -/
theorem settled_follow {absolute : Bool} {trail : List String} {segment : String}
    (hs : '/' ∉ segment.toList) (ht : Settled absolute trail) :
    Settled absolute (follow absolute trail segment) := by
  unfold follow
  by_cases hskip : segment = "" ∨ segment = "."
  · rw [if_pos hskip]
    exact ht
  · rw [if_neg hskip]
    rw [not_or] at hskip
    by_cases hup : segment = ".."
    · rw [if_pos hup]
      cases trail with
      | nil =>
        cases absolute with
        | false => exact ⟨isStep_dotdot, fun _ => ⟨rfl, by simp⟩, trivial⟩
        | true => exact trivial
      | cons last earlier =>
        obtain ⟨hlast, hdots, hearlier⟩ := ht
        simp only
        by_cases h : last = ".."
        · rw [if_pos h]
          obtain ⟨habs, hall⟩ := hdots h
          refine ⟨isStep_dotdot, fun _ => ⟨habs, ?_⟩, hlast, hdots, hearlier⟩
          intro s hmem
          rcases List.mem_cons.1 hmem with rfl | hmem
          · exact h
          · exact hall s hmem
        · rw [if_neg h]
          exact hearlier
    · rw [if_neg hup]
      exact ⟨⟨hskip.1, hskip.2, hs⟩, fun h => absurd h hup, ht⟩

theorem settled_foldl {absolute : Bool} {segments trail : List String}
    (hs : ∀ s ∈ segments, '/' ∉ s.toList) (ht : Settled absolute trail) :
    Settled absolute (segments.foldl (follow absolute) trail) := by
  induction segments generalizing trail with
  | nil => exact ht
  | cons s segments ih =>
    rw [List.foldl_cons]
    exact ih (fun x hx => hs x (List.mem_cons_of_mem _ hx))
      (settled_follow (hs s List.mem_cons_self) ht)

/-- A segment that keeps the trail settled is pushed as it is. -/
theorem follow_eq_cons {absolute : Bool} {trail : List String} {segment : String}
    (h : Settled absolute (segment :: trail)) :
    follow absolute trail segment = segment :: trail := by
  obtain ⟨⟨hne, hdot, _⟩, hdots, _⟩ := h
  unfold follow
  rw [if_neg (by simp [hne, hdot])]
  by_cases hup : segment = ".."
  · rw [if_pos hup]
    obtain ⟨rfl, hall⟩ := hdots hup
    cases trail with
    | nil => rw [hup]; rfl
    | cons last earlier =>
      have hlast : last = ".." := hall last List.mem_cons_self
      simp [hup, hlast]
  · rw [if_neg hup]

theorem settled_of_append {absolute : Bool} {later trail : List String}
    (h : Settled absolute (later ++ trail)) : Settled absolute trail := by
  induction later with
  | nil => exact h
  | cons s later ih => exact ih h.2.2

/-- Settled segments are followed to themselves. -/
theorem foldl_follow_eq {absolute : Bool} {segments trail : List String}
    (h : Settled absolute (segments.reverse ++ trail)) :
    segments.foldl (follow absolute) trail = segments.reverse ++ trail := by
  induction segments generalizing trail with
  | nil => rfl
  | cons s segments ih =>
    rw [List.reverse_cons, List.append_assoc, List.singleton_append] at h
    rw [List.foldl_cons, follow_eq_cons (settled_of_append h), ih h, List.reverse_cons,
      List.append_assoc, List.singleton_append]

/-! ### Locations and their normal spelling -/

theorem normal_ofPath (path : String) : (Location.ofPath path).Normal := by
  unfold Location.Normal Location.ofPath
  rw [List.reverse_reverse]
  exact settled_foldl (fun s hs => sep_not_mem_of_mem_splitOn hs) trivial

theorem Location.Normal.isStep {l : Location} (h : l.Normal) {s : String} (hs : s ∈ l.segments) :
    IsStep s := by
  have key : ∀ trail, Settled l.absolute trail → ∀ x ∈ trail, IsStep x := by
    intro trail
    induction trail with
    | nil => simp
    | cons y trail ih =>
      intro ht x hx
      rcases List.mem_cons.1 hx with rfl | hx
      · exact ht.1
      · exact ih ht.2.2 x hx
  exact key _ h s (List.mem_reverse.2 hs)

theorem isAbsolute_eq_true_iff {path : String} :
    isAbsolute path = true ↔ ∃ cs, path.toList = '/' :: cs := by
  unfold isAbsolute
  rw [beq_iff_eq, List.head?_eq_some_iff]

/-- Steps that are joined start with no separator. -/
theorem isAbsolute_joinWith {segments : List String} (h : ∀ s ∈ segments, IsStep s) :
    isAbsolute (joinWith '/' segments) = false := by
  rw [Bool.eq_false_iff]
  intro habs
  obtain ⟨cs, hcs⟩ := isAbsolute_eq_true_iff.1 habs
  cases segments with
  | nil => simp [joinWith, unfields] at hcs
  | cons s rest =>
    obtain ⟨hne, _, hsep⟩ := h s List.mem_cons_self
    obtain ⟨c, r, hr⟩ := List.exists_cons_of_ne_nil (mt String.toList_eq_nil_iff.1 hne)
    have hc : c = '/' := by
      cases rest with
      | nil =>
        rw [toList_joinWith, List.map_singleton, unfields, hr] at hcs
        exact (List.cons.inj hcs).1
      | cons t rest =>
        rw [toList_joinWith, List.map_cons, unfields_cons_of_ne_nil _ _ (by simp), hr] at hcs
        exact (List.cons.inj hcs).1
    rw [hr, hc] at hsep
    exact hsep List.mem_cons_self

/-- A skipped segment leaves the trail as it is. -/
theorem follow_empty (absolute : Bool) (trail : List String) : follow absolute trail "" = trail :=
  if_pos (Or.inl rfl)

theorem splitOn_append (p q : String) :
    splitOn '/' (p ++ "/" ++ q) = splitOn '/' p ++ splitOn '/' q :=
  splitOn_append_sep '/' p q

theorem splitOn_slash_append (q : String) : splitOn '/' ("/" ++ q) = "" :: splitOn '/' q :=
  splitOn_append "" q

/-- Following the segments of a normal location from the start gives its trail. -/
theorem Location.Normal.foldl_follow {l : Location} (h : l.Normal) :
    (splitOn '/' (joinWith '/' l.segments)).foldl (follow l.absolute) [] = l.segments.reverse := by
  by_cases hne : l.segments = []
  · rw [hne]
    exact follow_empty l.absolute []
  · have hsettled : Settled l.absolute (l.segments.reverse ++ []) := by
      rw [List.append_nil]
      exact h
    rw [splitOn_joinWith hne fun s hs => (h.isStep hs).2.2, foldl_follow_eq hsettled,
      List.append_nil]

/-- The normal spelling of a normal location leads back to it. -/
theorem Location.Normal.ofPath_toPath {l : Location} (h : l.Normal) :
    Location.ofPath l.toPath = l := by
  have hfollow := h.foldl_follow
  obtain ⟨absolute, segments⟩ := l
  cases absolute with
  | true =>
    have habs : isAbsolute ("/" ++ joinWith '/' segments) = true :=
      isAbsolute_eq_true_iff.2 ⟨_, by rw [String.toList_append]; rfl⟩
    simp only at hfollow
    simp only [toPath, ofPath, if_true, habs, splitOn_slash_append, List.foldl_cons, follow_empty,
      hfollow, List.reverse_reverse]
  | false =>
    by_cases hne : segments = []
    · subst hne
      rfl
    · have habs : isAbsolute (joinWith '/' segments) = false :=
        isAbsolute_joinWith fun s hs => h.isStep hs
      simp only at hfollow
      simp only [toPath, ofPath, Bool.false_eq_true, if_false, if_neg hne, habs, hfollow,
        List.reverse_reverse]

theorem Location.Normal.toPath_inj {l m : Location} (hl : l.Normal) (hm : m.Normal)
    (h : l.toPath = m.toPath) : l = m := by
  rw [← hl.ofPath_toPath, h, hm.ofPath_toPath]

/-- Two paths have one normal spelling exactly when they mean one location. -/
theorem normalize_eq_iff {p q : String} :
    normalize p = normalize q ↔ Location.ofPath p = Location.ofPath q := by
  constructor
  · exact (normal_ofPath p).toPath_inj (normal_ofPath q)
  · intro h
    rw [normalize, normalize, h]

end TargetResolution.Path
