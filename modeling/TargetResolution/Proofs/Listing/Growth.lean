import TargetResolution.Listing

/-!
Listings that grow. Additions never take a path away, and the addition of a path that exists already
changes nothing.
-/

namespace TargetResolution.Listing

variable {t u v : Listing}

/-- Whether every path that exists in the first listing exists in the second one. -/
def IsWithin (t u : Listing) : Prop := ∀ path, t.contains path = true → u.contains path = true

theorem IsWithin.refl (t : Listing) : t.IsWithin t := fun _ h => h

theorem IsWithin.trans (htu : t.IsWithin u) (huv : u.IsWithin v) : t.IsWithin v :=
  fun path h => huv path (htu path h)

theorem contains_iff {path : String} :
    t.contains path = true ↔ path ≠ "" ∧ Path.Location.ofPath path ∈ t.locations := by
  rw [contains, Bool.and_eq_true, decide_eq_true_iff, decide_eq_true_iff]

theorem isWithin_of_subset (h : t.locations ⊆ u.locations) : t.IsWithin u := by
  intro path hpath
  obtain ⟨hne, hmem⟩ := contains_iff.1 hpath
  exact contains_iff.2 ⟨hne, h hmem⟩

theorem subset_addLocation (t : Listing) (l : Path.Location) :
    t.locations ⊆ (t.addLocation l).locations := by
  fun_induction addLocation t l with
  | case1 t l hmem => exact List.Subset.refl _
  | case2 t l hmem hp => exact List.subset_cons_self _ _
  | case3 t l hmem p hp ih => exact List.Subset.trans (List.subset_cons_self _ _) ih

/-- No path is lost by an addition. -/
theorem isWithin_add (t : Listing) (path : String) : t.IsWithin (t.add path) :=
  isWithin_of_subset (subset_addLocation t _)

/-- The addition of a path that exists changes nothing. -/
theorem add_eq_self {path : String} (h : t.contains path = true) : t.add path = t := by
  rw [add, addLocation, if_pos (contains_iff.1 h).2]

theorem isWithin_foldl_add (paths : List String) (t : Listing) :
    t.IsWithin (paths.foldl add t) := by
  induction paths generalizing t with
  | nil => exact .refl t
  | cons p paths ih =>
    rw [List.foldl_cons]
    exact (t.isWithin_add p).trans (ih (t.add p))

theorem foldl_add_eq_self {paths : List String} {t : Listing}
    (h : ∀ p ∈ paths, t.contains p = true) : paths.foldl add t = t := by
  induction paths with
  | nil => rfl
  | cons p paths ih =>
    rw [List.foldl_cons, add_eq_self (h p List.mem_cons_self)]
    exact ih fun x hx => h x (List.mem_cons_of_mem _ hx)

end TargetResolution.Listing
