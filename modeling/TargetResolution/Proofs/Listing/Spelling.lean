import TargetResolution.Listing
import TargetResolution.Proofs.Path.Canonical

/-!
Listings and spellings. A listing answers alike for all spellings of a location. Main statement: the
normal spelling of a path is canonical, it is that of whatever leads on from it as well, and a
listing gives one answer for a path and its normal spelling and for a path in a directory however
the directory is spelled.
-/

namespace TargetResolution.Listing

open TargetResolution.Path

theorem contains_eq_of_respelled (t : Listing) {p q : String} (h : Respelled p q) :
    t.contains p = t.contains q := by
  rcases h with rfl | ⟨hp, hq, h⟩
  · rfl
  · simp only [contains, ne_eq, hp, hq, normalize_eq_iff.1 h]

/-- Normal spellings are canonical, and canonical spellings are normal; normalizing twice does no
more than normalizing once. A directory can be normalized before the rest is put behind it. So a
listing has a path if it has the normal spelling, and a directory can be respelled in a path. -/
theorem answers_by_normal_spelling :
    (∀ path, IsCanonical (normalize path) ∧ normalize (normalize path) = normalize path ∧
      (normalize path = path ↔ IsCanonical path)) ∧
    (∀ path rest, path ≠ "" →
      normalize (path ++ "/" ++ rest) = normalize (normalize path ++ "/" ++ rest)) ∧
    ∀ t : Listing,
      (∀ path, path ≠ "" → t.contains path = t.contains (normalize path)) ∧
      ∀ directory other rest path path', directory ≠ "" → other ≠ "" →
        normalize directory = normalize other → LeadsOn directory rest path →
        LeadsOn other rest path' → t.contains path = t.contains path' := by
  refine ⟨fun path => ?_, fun path rest hne => ?_, fun t => ⟨fun path hne => ?_, ?_⟩⟩
  · exact ⟨isCanonical_normalize path, normalize_normalize path, normalize_eq_self_iff⟩
  · exact ((respelled_normalize hne).append_slash rest).normalize_eq
  · exact t.contains_eq_of_respelled (respelled_normalize hne)
  · intro directory other rest path path' hdirectory hother hsame hpath hpath'
    have hrespelled : Respelled directory other := Or.inr ⟨hdirectory, hother, hsame⟩
    rw [t.contains_eq_of_respelled hpath.respelled, t.contains_eq_of_respelled hpath'.respelled]
    exact t.contains_eq_of_respelled (hrespelled.append_slash rest)

theorem answers_by_normal_spelling_root :
    let t : Listing := ⟨[⟨true, ["lib"]⟩, ⟨true, []⟩, ⟨false, ["..", "lib"]⟩]⟩
    IsCanonical "../../lib" ∧
      normalize "///opt/../." = "/" ∧
      normalize ("a/../.." ++ "/" ++ "../lib/") = normalize (".." ++ "/" ++ "../lib/") ∧
      t.contains "/lib" = t.contains "//opt/..//./lib" ∧
      t.contains "./x/../../lib" = true := by
  intro t
  obtain ⟨hnormal, happend, hlisting⟩ := answers_by_normal_spelling
  obtain ⟨hcontains, hrespell⟩ := hlisting t
  have hup := happend "a/../.." "../lib/" (by decide)
  have hroot : t.contains "/lib" = t.contains "//opt/..//./lib" :=
    hrespell "/" "//opt/..//." "lib" _ _ (by decide) (by decide) (by decide)
      (Or.inr ⟨"", by decide, by decide⟩) (Or.inl (by decide))
  exact ⟨(hnormal "../../lib").2.2.1 (by decide), by decide, hup, hroot,
    (hcontains "./x/../../lib" (by decide)).trans (by decide)⟩

end TargetResolution.Listing
