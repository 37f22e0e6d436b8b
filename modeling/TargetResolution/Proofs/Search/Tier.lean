import Mathlib.Data.List.Basic
import TargetResolution.Search

/-!
Candidates that are looked for in tiers. The first one that exists stands in some tier, with nothing
in the tiers before it. When more paths exist, the first hit is met in the same tier or in an earlier
one, and no directory that passed a filter is lost.
-/

namespace TargetResolution.SearchPath

variable {present p q : String → Bool} {candidates : List String} {tier : Nat} {dir : String}

/-- Where the first candidate that exists stands, and which one it is. -/
structure FirstAt (present : String → Bool) (candidates : List String) (tier : Nat)
    (dir : String) : Prop where
  candidate : candidates[tier]? = some dir
  found : present dir = true
  missing : ∀ k < tier, ∀ d, candidates[k]? = some d → present d = false

theorem exists_firstAt_of_find? (h : candidates.find? present = some dir) :
    ∃ tier, FirstAt present candidates tier dir := by
  induction candidates with
  | nil => exact absurd h (by simp)
  | cons path rest ih =>
    rw [List.find?_cons] at h
    cases hpath : present path with
    | true =>
      rw [hpath] at h
      obtain rfl := Option.some.inj h
      exact ⟨0, rfl, hpath, fun k hk => absurd hk (Nat.not_lt_zero k)⟩
    | false =>
      rw [hpath] at h
      obtain ⟨tier, hcandidate, hfound, hmissing⟩ := ih h
      refine ⟨tier + 1, hcandidate, hfound, fun k hk d hd => ?_⟩
      cases k with
      | zero =>
        obtain rfl := Option.some.inj hd
        exact hpath
      | succ k => exact hmissing k (Nat.lt_of_succ_lt_succ hk) d hd

/-- A hit in some tier is met in that tier at the latest. -/
theorem FirstAt.le (h : FirstAt present candidates tier dir) {k : Nat} {d : String}
    (hd : candidates[k]? = some d) (hfound : present d = true) : tier ≤ k := by
  by_contra hlt
  have hmissing := h.missing k (Nat.lt_of_not_le hlt) d hd
  rw [hfound] at hmissing
  exact absurd hmissing (by simp)

/-- What was found in tiers when the first set of paths existed is found when the second one does,
though maybe in an earlier tier. -/
def KeepsTier (p q : String → Bool) (candidates : List String) (before after : Option String) :
    Prop :=
  ∀ dir, before = some dir → ∃ dir' tier tier', after = some dir' ∧
    FirstAt p candidates tier dir ∧ FirstAt q candidates tier' dir' ∧ tier' ≤ tier

theorem keepsTier_find? (hpq : ∀ path, p path = true → q path = true)
    (candidates : List String) :
    KeepsTier p q candidates (candidates.find? p) (candidates.find? q) := by
  intro dir hdir
  obtain ⟨tier, hfirst⟩ := exists_firstAt_of_find? hdir
  have hq : q dir = true := hpq dir hfirst.found
  obtain ⟨dir', hdir'⟩ : ∃ dir', candidates.find? q = some dir' := by
    rw [← Option.isSome_iff_exists, List.find?_isSome]
    exact ⟨dir, List.mem_of_find?_eq_some hdir, hq⟩
  obtain ⟨tier', hfirst'⟩ := exists_firstAt_of_find? hdir'
  exact ⟨dir', tier, tier', hdir', hfirst, hfirst', hfirst'.le hfirst.candidate hq⟩

end TargetResolution.SearchPath
