import Mathlib.Data.List.Nodup
import TargetResolution.Listing
import TargetResolution.Proofs.Path.Ancestor

/-!
What a listing holds after any run of additions. `addLocation` climbs to the directories above a
location and stops as soon as it meets one that is there already; this leaves none out because a
listing is closed after every addition. Main statement: a path exists exactly when its normal
spelling is that of an added path or one of its ancestors, so neither the order nor the number of
the additions matters.
-/

namespace TargetResolution.Listing

open TargetResolution.Path

/-- A listing that holds every directory above its locations, which are normal and listed once. -/
structure Closed (t : Listing) : Prop where
  holders : ∀ l ∈ t.locations, ∀ m : Location, m.Holds l → m ∈ t.locations
  normal : ∀ l ∈ t.locations, l.Normal
  nodup : t.locations.Nodup

theorem closed_empty : Closed {} := ⟨by simp, by simp, List.nodup_nil⟩

/-! ### One addition -/

/-- The locations after an addition that has climbed past some deeper ones. The early exit is met
at a location of the closed listing only, since the ones passed are all deeper. -/
theorem mem_addLocation_append {t : Listing} (ht : t.Closed) (m : Location) (l : Location)
    (passed : List Location) (hdeep : ∀ c ∈ passed, l.segments.length < c.segments.length) :
    m ∈ ((⟨passed ++ t.locations⟩ : Listing).addLocation l).locations ↔
      m ∈ passed ∨ m ∈ t.locations ∨ m.Holds l := by
  induction hn : l.segments.length using Nat.strongRecOn generalizing l passed with
  | ind n ih =>
    rw [addLocation]
    by_cases hmem : l ∈ passed ++ t.locations
    · rw [if_pos hmem, List.mem_append]
      have hl : l ∈ t.locations := by
        rcases List.mem_append.1 hmem with h | h
        · exact absurd (hdeep l h) (Nat.lt_irrefl _)
        · exact h
      constructor
      · rintro (h | h)
        · exact Or.inl h
        · exact Or.inr (Or.inl h)
      · rintro (h | h | h)
        · exact Or.inl h
        · exact Or.inr h
        · exact Or.inr (ht.holders l hl m h)
    · rw [if_neg hmem]
      split
      · next hp =>
        rw [Location.holds_iff, hp]
        simp only [List.mem_cons, List.mem_append]
        constructor
        · rintro (h | h | h)
          · exact Or.inr (Or.inr (Or.inl h))
          · exact Or.inl h
          · exact Or.inr (Or.inl h)
        · rintro (h | h | h | ⟨p, hnone, _⟩)
          · exact Or.inr (Or.inl h)
          · exact Or.inr (Or.inr h)
          · exact Or.inl h
          · exact absurd hnone (by simp)
      · next p hp =>
        have hlt := Location.length_segments_of_parent? hp
        have hdeep' : ∀ c ∈ l :: passed, p.segments.length < c.segments.length := by
          intro c hc
          rcases List.mem_cons.1 hc with rfl | hc
          · exact hlt
          · exact Nat.lt_trans hlt (hdeep c hc)
        have hrec := ih p.segments.length (hn ▸ hlt) p (l :: passed) hdeep' rfl
        rw [List.cons_append] at hrec
        rw [hrec, Location.holds_iff (l := l), hp, List.mem_cons]
        constructor
        · rintro ((h | h) | h | h)
          · exact Or.inr (Or.inr (Or.inl h))
          · exact Or.inl h
          · exact Or.inr (Or.inl h)
          · exact Or.inr (Or.inr (Or.inr ⟨p, rfl, h⟩))
        · rintro (h | h | h | ⟨q, hq, h⟩)
          · exact Or.inl (Or.inr h)
          · exact Or.inr (Or.inl h)
          · exact Or.inl (Or.inl h)
          · obtain rfl := Option.some.inj hq
            exact Or.inr (Or.inr h)

/-- An addition to a closed listing adds a location with all that holds it, and nothing else. -/
theorem Closed.mem_addLocation {t : Listing} (ht : t.Closed) (l m : Location) :
    m ∈ (t.addLocation l).locations ↔ m ∈ t.locations ∨ m.Holds l := by
  have h := mem_addLocation_append ht m l [] (by simp)
  rw [List.nil_append] at h
  rw [h]
  simp

theorem nodup_addLocation {t : Listing} (l : Location) (ht : t.locations.Nodup) :
    (t.addLocation l).locations.Nodup := by
  fun_induction addLocation t l with
  | case1 t l hmem => exact ht
  | case2 t l hmem hp => exact List.nodup_cons.2 ⟨hmem, ht⟩
  | case3 t l hmem p hp ih => exact ih (List.nodup_cons.2 ⟨hmem, ht⟩)

/-- An addition keeps a listing closed. -/
theorem Closed.add {t : Listing} (ht : t.Closed) (path : String) : (t.add path).Closed where
  holders l hl m hm := by
    rw [Listing.add, ht.mem_addLocation] at hl ⊢
    rcases hl with hl | hl
    · exact Or.inl (ht.holders l hl m hm)
    · exact Or.inr (hm.trans hl)
  normal l hl := by
    rw [Listing.add, ht.mem_addLocation] at hl
    rcases hl with hl | hl
    · exact ht.normal l hl
    · exact hl.normal (normal_ofPath path)
  nodup := nodup_addLocation _ ht.nodup

/-! ### Runs of additions -/

theorem closed_foldl_add (paths : List String) {t : Listing} (ht : t.Closed) :
    (paths.foldl add t).Closed := by
  induction paths generalizing t with
  | nil => exact ht
  | cons p paths ih =>
    rw [List.foldl_cons]
    exact ih (ht.add p)

/-- A run over paths that are not empty goes through. -/
theorem foldlM_add?_eq (paths : List String) (h : ∀ p ∈ paths, p ≠ "") (t : Listing) :
    paths.foldlM add? t = some (paths.foldl add t) := by
  induction paths generalizing t with
  | nil => rfl
  | cons p paths ih =>
    have hp : add? t p = some (t.add p) := if_neg (h p List.mem_cons_self)
    rw [List.foldlM_cons, hp, List.foldl_cons]
    exact ih (fun q hq => h q (List.mem_cons_of_mem _ hq)) (t.add p)

/-! ### Spellings -/

theorem mem_paths {t : Listing} {s : String} : s ∈ t.paths ↔ ∃ l ∈ t.locations, l.toPath = s :=
  List.mem_map

/-- The stored spellings of a closed listing hold the ancestors of each of them. -/
theorem Closed.ancestor_mem_paths {t : Listing} (ht : t.Closed) {s a : String} (hs : s ∈ t.paths)
    (ha : IsAncestor a s) : a ∈ t.paths := by
  obtain ⟨l, hl, rfl⟩ := mem_paths.1 hs
  obtain ⟨m, _, hm, htoPath⟩ := ((ht.normal l hl).isAncestor_toPath_iff a).1 ha
  exact mem_paths.2 ⟨m, ht.holders l hl m hm, htoPath⟩

theorem Closed.nodup_paths {t : Listing} (ht : t.Closed) : t.paths.Nodup :=
  List.Nodup.map_on
    (fun l hl m hm h => (ht.normal l hl).toPath_inj (ht.normal m hm) h) ht.nodup

/-- An addition stores the normal spelling of a path, its ancestors and nothing else. -/
theorem Closed.mem_paths_add {t : Listing} (ht : t.Closed) (path s : String) :
    s ∈ (t.add path).paths ↔
      s ∈ t.paths ∨ s = normalize path ∨ IsAncestor s (normalize path) := by
  have hn := normal_ofPath path
  constructor
  · intro h
    obtain ⟨m, hm, rfl⟩ := mem_paths.1 h
    rw [Listing.add, ht.mem_addLocation] at hm
    rcases hm with hm | hm
    · exact Or.inl (mem_paths.2 ⟨m, hm, rfl⟩)
    · exact Or.inr (((hm.normal hn).holds_iff_toPath hn).1 hm)
  · rintro (h | rfl | h)
    · obtain ⟨m, hm, rfl⟩ := mem_paths.1 h
      exact mem_paths.2 ⟨m, (ht.mem_addLocation _ m).2 (Or.inl hm), rfl⟩
    · exact mem_paths.2 ⟨_, (ht.mem_addLocation _ _).2 (Or.inr (.self _)), rfl⟩
    · obtain ⟨m, _, hm, rfl⟩ := (hn.isAncestor_toPath_iff s).1 h
      exact mem_paths.2 ⟨m, (ht.mem_addLocation _ m).2 (Or.inr hm), rfl⟩

/-- The stored spellings after a run: those of the added paths and their ancestors. -/
theorem mem_paths_foldl_add (paths : List String) (s : String) :
    s ∈ (paths.foldl Listing.add {}).paths ↔
      ∃ p ∈ paths, s = normalize p ∨ IsAncestor s (normalize p) := by
  suffices h : ∀ t : Listing, t.Closed → (s ∈ (paths.foldl Listing.add t).paths ↔
      s ∈ t.paths ∨ ∃ p ∈ paths, s = normalize p ∨ IsAncestor s (normalize p)) by
    rw [h {} closed_empty]
    simp [Listing.paths]
  induction paths with
  | nil => simp
  | cons p paths ih =>
    intro t ht
    rw [List.foldl_cons, ih _ (ht.add p), ht.mem_paths_add]
    simp only [List.mem_cons, exists_eq_or_imp, or_assoc]

/-- A path that is not empty exists exactly when its normal spelling is stored. -/
theorem Closed.contains_iff {t : Listing} (ht : t.Closed) {q : String} (hq : q ≠ "") :
    t.contains q = true ↔ normalize q ∈ t.paths := by
  rw [contains, Bool.and_eq_true, decide_eq_true_iff, decide_eq_true_iff, mem_paths]
  constructor
  · rintro ⟨_, hmem⟩
    exact ⟨_, hmem, rfl⟩
  · rintro ⟨l, hl, htoPath⟩
    refine ⟨hq, ?_⟩
    rw [← (ht.normal l hl).toPath_inj (normal_ofPath q) htoPath]
    exact hl

/-- A run of additions of paths that are not empty stores the normal spellings of the paths and
their ancestors: a path exists exactly when its normal spelling is one of these, no ancestor is ever
left out, and neither order nor repetition matters. -/
theorem additions_store_ancestor_closure {paths : List String} (hne : ∀ p ∈ paths, p ≠ "") :
    ∃ t, ofPaths? paths = some t ∧
      (∀ q, q ≠ "" → (t.contains q = true ↔
        ∃ p ∈ paths, normalize q = normalize p ∨ IsAncestor (normalize q) (normalize p))) ∧
      (∀ s ∈ t.paths, ∀ a, IsAncestor a s → a ∈ t.paths) ∧
      (∀ path s, s ∈ (t.add path).paths ↔
        s ∈ t.paths ∨ s = normalize path ∨ IsAncestor s (normalize path)) ∧
      (∀ others, (∀ p, p ∈ others ↔ p ∈ paths) →
        ∃ u, ofPaths? others = some u ∧ u.paths.Perm t.paths) := by
  have hclosed := closed_foldl_add paths closed_empty
  refine ⟨paths.foldl Listing.add {}, foldlM_add?_eq paths hne {}, ?_, ?_, ?_, ?_⟩
  · intro q hq
    rw [hclosed.contains_iff hq, mem_paths_foldl_add]
  · intro s hs a ha
    exact hclosed.ancestor_mem_paths hs ha
  · exact hclosed.mem_paths_add
  · intro others hsame
    refine ⟨others.foldl Listing.add {}, ?_, ?_⟩
    · exact foldlM_add?_eq others (fun p hp => hne p ((hsame p).1 hp)) {}
    · have hothers := closed_foldl_add others closed_empty
      rw [List.perm_ext_iff_of_nodup hothers.nodup_paths hclosed.nodup_paths]
      intro s
      rw [mem_paths_foldl_add, mem_paths_foldl_add]
      simp only [hsame]

theorem additions_store_ancestor_closure_mixed :
    (∀ p ∈ ["/opt/../srv//x", "../lib/a", "../lib/a"], p ≠ "") ∧
      ∃ t, ofPaths? ["/opt/../srv//x", "../lib/a", "../lib/a"] = some t ∧
        t.contains "/srv/." = true ∧ "/" ∈ t.paths ∧ t.contains ".." = true ∧
        ∃ u, ofPaths? ["../lib/a", "/opt/../srv//x"] = some u ∧ u.paths.Perm t.paths := by
  have hne : ∀ p ∈ ["/opt/../srv//x", "../lib/a", "../lib/a"], p ≠ "" := by decide
  obtain ⟨t, ht, hcontains, hclosed, _, hsame⟩ := additions_store_ancestor_closure hne
  have hsrv : t.contains "/srv/." = true :=
    (hcontains "/srv/." (by decide)).2
      ⟨"/opt/../srv//x", by simp, Or.inr (Or.inr ⟨by decide, "x", by decide⟩)⟩
  have hup : t.contains ".." = true :=
    (hcontains ".." (by decide)).2
      ⟨"../lib/a", by simp, Or.inr (Or.inr ⟨by decide, "lib/a", by decide⟩)⟩
  have hroot : t.contains "/" = true :=
    (hcontains "/" (by decide)).2
      ⟨"/opt/../srv//x", by simp, Or.inr (Or.inl ⟨by decide, by decide, by decide⟩)⟩
  refine ⟨hne, t, ht, hsrv, ?_, hup, hsame _ (by simp [or_comm])⟩
  rw [contains, Bool.and_eq_true, decide_eq_true_iff, decide_eq_true_iff] at hroot
  exact mem_paths.2 ⟨_, hroot.2, by decide⟩

end TargetResolution.Listing
