import TargetResolution.Path
import TargetResolution.Proofs.Path.NormalForm
import TargetResolution.Text.CharClass

/-!
Respellings of a directory. Two spellings of one location stay two spellings of one location when
the same components are put behind them, whether they are joined one by one or written behind a
separator. Both must name the directory, since the empty text names none.
-/

namespace TargetResolution.Path

open Text

/-! ### What stands behind a separator -/

theorem append_slash_ne_empty (p r : String) : p ++ "/" ++ r ≠ "" := by
  intro h
  have hlist := congrArg String.toList h
  rw [String.toList_append, String.toList_append] at hlist
  simp at hlist

/-- What is put behind a path does not decide whether it is absolute. -/
theorem isAbsolute_append {p : String} (hp : p ≠ "") (r : String) :
    isAbsolute (p ++ r) = isAbsolute p := by
  obtain ⟨c, cs, hcs⟩ := List.exists_cons_of_ne_nil (mt String.toList_eq_nil_iff.1 hp)
  unfold isAbsolute
  rw [String.toList_append, hcs]
  rfl

/-- The location that a path leads to from a location. -/
def Location.descend (l : Location) (path : String) : Location where
  absolute := l.absolute
  segments := ((splitOn '/' path).foldl (follow l.absolute) l.segments.reverse).reverse

theorem Location.ofPath_append {p : String} (hp : p ≠ "") (r : String) :
    ofPath (p ++ "/" ++ r) = (ofPath p).descend r := by
  have habs : isAbsolute (p ++ "/" ++ r) = isAbsolute p := by
    rw [String.append_assoc, isAbsolute_append hp]
  simp only [ofPath, descend, habs, splitOn_append, List.foldl_append, List.reverse_reverse]

/-- A doubled separator is one. -/
theorem Location.ofPath_slash_slash (p r : String) :
    ofPath (p ++ "/" ++ ("/" ++ r)) = ofPath (p ++ "/" ++ r) := by
  have hne : p ++ "/" ≠ "" := by simp
  simp only [ofPath, isAbsolute_append hne, splitOn_append, splitOn_slash_append,
    List.foldl_append, List.foldl_cons, follow_empty]

/-! ### Separators at the end of a path -/

/-- The separators at the start of a text. -/
theorem takeWhile_isSlash (cs : List Char) :
    cs.takeWhile isSlash = List.replicate (cs.takeWhile isSlash).length '/' :=
  List.eq_replicate_of_mem fun c hc => eq_of_beq (List.all_eq_true.1 List.all_takeWhile c hc)

/-- A path is what is left of it and separators. -/
theorem eq_trimEndSlashes_append (p : String) :
    ∃ n, p = trimEndSlashes p ++ String.ofList (List.replicate n '/') := by
  refine ⟨(p.toList.reverse.takeWhile isSlash).length, ?_⟩
  have hsplit := List.takeWhile_append_dropWhile (p := isSlash) (l := p.toList.reverse)
  have hlist : p.toList = (p.toList.reverse.dropWhile isSlash).reverse
      ++ List.replicate (p.toList.reverse.takeWhile isSlash).length '/' := by
    rw [← List.reverse_replicate, ← takeWhile_isSlash, ← List.reverse_append, hsplit,
      List.reverse_reverse]
  rw [← String.toList_inj, String.toList_append, trimEndSlashes, String.toList_ofList,
    String.toList_ofList]
  exact hlist

theorem Location.ofPath_trimEndSlashes_append (p r : String) :
    ofPath (trimEndSlashes p ++ "/" ++ r) = ofPath (p ++ "/" ++ r) := by
  suffices h : ∀ n, ofPath (trimEndSlashes p ++ String.ofList (List.replicate n '/') ++ "/" ++ r) =
      ofPath (trimEndSlashes p ++ "/" ++ r) by
    obtain ⟨n, hn⟩ := eq_trimEndSlashes_append p
    rw [← h n, ← hn]
  intro n
  induction n with
  | zero => rw [List.replicate_zero, String.ofList_nil, String.append_empty]
  | succ n ih =>
    have hassoc : trimEndSlashes p ++ String.ofList (List.replicate (n + 1) '/') ++ "/" ++ r =
        trimEndSlashes p ++ String.ofList (List.replicate n '/') ++ "/" ++ ("/" ++ r) := by
      rw [List.replicate_succ', String.ofList_append]
      simp only [String.append_assoc]
    rw [hassoc, ofPath_slash_slash, ih]

/-! ### Respellings -/

/-- Whether two texts are one text or two spellings of one location, neither of them empty. -/
def Respelled (p q : String) : Prop := p = q ∨ (p ≠ "" ∧ q ≠ "" ∧ normalize p = normalize q)

theorem Respelled.refl (p : String) : Respelled p p := Or.inl rfl

theorem Respelled.normalize_eq {p q : String} (h : Respelled p q) : normalize p = normalize q := by
  rcases h with rfl | ⟨_, _, h⟩
  · rfl
  · exact h

theorem Respelled.eq_empty_iff {p q : String} (h : Respelled p q) : p = "" ↔ q = "" := by
  rcases h with rfl | ⟨hp, hq, _⟩
  · exact Iff.rfl
  · exact ⟨fun h => absurd h hp, fun h => absurd h hq⟩

/-- The same text behind a separator keeps a respelling. -/
theorem Respelled.append_slash {p q : String} (h : Respelled p q) (r : String) :
    Respelled (p ++ "/" ++ r) (q ++ "/" ++ r) := by
  rcases h with rfl | ⟨hp, hq, h⟩
  · exact .refl _
  · refine Or.inr ⟨append_slash_ne_empty p r, append_slash_ne_empty q r, ?_⟩
    rw [normalize_eq_iff] at h ⊢
    rw [Location.ofPath_append hp, Location.ofPath_append hq, h]

/-- The same absolute path behind both keeps a respelling. -/
theorem Respelled.append_absolute {p q : String} (h : Respelled p q) {r : String}
    (hr : isAbsolute r = true) : Respelled (p ++ r) (q ++ r) := by
  obtain ⟨cs, hcs⟩ := isAbsolute_eq_true_iff.1 hr
  have hroot : r = "/" ++ String.ofList cs := by
    rw [← String.toList_inj]
    simp [hcs]
  rw [hroot, ← String.append_assoc, ← String.append_assoc]
  exact h.append_slash _

/-- The same component joined to both keeps a respelling. -/
theorem Respelled.append {p q : String} (h : Respelled p q) (component : String) :
    Respelled (Path.append p component) (Path.append q component) := by
  rcases h with rfl | ⟨hp, hq, h⟩
  · exact .refl _
  · unfold Path.append
    simp only
    by_cases hc : trimSlashes component = ""
    · rw [if_pos hc, if_pos hc]
      exact Or.inr ⟨hp, hq, h⟩
    · rw [if_neg hc, if_neg hc, if_neg hp, if_neg hq]
      refine Or.inr ⟨append_slash_ne_empty _ _, append_slash_ne_empty _ _, ?_⟩
      rw [normalize_eq_iff] at h ⊢
      rw [Location.ofPath_trimEndSlashes_append, Location.ofPath_trimEndSlashes_append,
        Location.ofPath_append hp, Location.ofPath_append hq, h]

theorem Respelled.join {p q : String} (h : Respelled p q) (components : List String) :
    Respelled (Path.join p components) (Path.join q components) := by
  induction components generalizing p q with
  | nil => exact h
  | cons c components ih =>
    rw [join_cons, join_cons]
    exact ih (h.append c)

end TargetResolution.Path
