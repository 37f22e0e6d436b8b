/-!
Lists of texts. A text is made of fields between separators: `fields` cuts it at every separator,
`unfields` joins fields again, and the two are inverse to each other on fields without separators.
Texts are sorted by code points.
-/

namespace TargetResolution.Text

/-- The fields of a text, cut at every separator. There is always at least one field. -/
def fields (sep : Char) : List Char → List (List Char)
  | [] => [[]]
  | c :: cs =>
    if c = sep then [] :: fields sep cs
    else
      match fields sep cs with
      | [] => [[c]]
      | f :: fs => (c :: f) :: fs

/-- The fields with one separator between neighbours. -/
def unfields (sep : Char) : List (List Char) → List Char
  | [] => []
  | [f] => f
  | f :: g :: fs => f ++ sep :: unfields sep (g :: fs)

/-- The fields of a string. -/
def splitOn (sep : Char) (s : String) : List String :=
  (fields sep s.toList).map String.ofList

/-- Strings with one separator between neighbours. -/
def joinWith (sep : Char) (fs : List String) : String :=
  String.ofList (unfields sep (fs.map String.toList))

theorem fields_ne_nil (sep : Char) : ∀ cs : List Char, fields sep cs ≠ []
  | [] => by simp [fields]
  | c :: cs => by
    unfold fields
    split
    · simp
    · split <;> simp

theorem fields_cons_of_ne {sep c : Char} (h : c ≠ sep) (cs : List Char) :
    ∃ f fs, fields sep cs = f :: fs ∧ fields sep (c :: cs) = (c :: f) :: fs := by
  obtain ⟨f, fs, hf⟩ := List.exists_cons_of_ne_nil (fields_ne_nil sep cs)
  exact ⟨f, fs, hf, by simp [fields, h, hf]⟩

theorem unfields_cons_of_ne_nil (sep : Char) (f : List Char) {fs : List (List Char)}
    (h : fs ≠ []) : unfields sep (f :: fs) = f ++ sep :: unfields sep fs := by
  obtain ⟨g, gs, rfl⟩ := List.exists_cons_of_ne_nil h
  rfl

/-- Cutting loses nothing: the fields join to the text. -/
theorem unfields_fields (sep : Char) (cs : List Char) : unfields sep (fields sep cs) = cs := by
  induction cs with
  | nil => rfl
  | cons c cs ih =>
    by_cases h : c = sep
    · subst h
      rw [show fields c (c :: cs) = [] :: fields c cs by simp [fields],
        unfields_cons_of_ne_nil c [] (fields_ne_nil c cs), ih]
      rfl
    · obtain ⟨f, fs, hf, hc⟩ := fields_cons_of_ne h cs
      rw [hc]
      rw [hf] at ih
      cases fs with
      | nil => simpa [unfields] using ih
      | cons g gs => simpa [unfields] using ih

/-- No field holds a separator. -/
theorem sep_not_mem_of_mem_fields {sep : Char} {cs f : List Char} (h : f ∈ fields sep cs) :
    sep ∉ f := by
  induction cs generalizing f with
  | nil => simp [fields] at h; simp [h]
  | cons c cs ih =>
    by_cases hc : c = sep
    · subst hc
      rw [show fields c (c :: cs) = [] :: fields c cs by simp [fields]] at h
      rcases List.mem_cons.1 h with rfl | h
      · simp
      · exact ih h
    · obtain ⟨g, gs, hg, hcs⟩ := fields_cons_of_ne hc cs
      rw [hcs] at h
      rcases List.mem_cons.1 h with rfl | h
      · intro hmem
        rcases List.mem_cons.1 hmem with h' | h'
        · exact hc h'.symm
        · exact ih (by rw [hg]; exact List.mem_cons_self) h'
      · exact ih (by rw [hg]; exact List.mem_cons_of_mem _ h)

theorem fields_of_not_mem {sep : Char} {f : List Char} (h : sep ∉ f) : fields sep f = [f] := by
  induction f with
  | nil => rfl
  | cons c cs ih =>
    have hc : c ≠ sep := fun e => h (e ▸ List.mem_cons_self)
    have hcs : sep ∉ cs := fun e => h (List.mem_cons_of_mem _ e)
    simp [fields, hc, ih hcs]

theorem fields_append {sep : Char} {f : List Char} (h : sep ∉ f) (cs : List Char) :
    fields sep (f ++ sep :: cs) = f :: fields sep cs := by
  induction f with
  | nil => simp [fields]
  | cons c r ih =>
    have hc : c ≠ sep := fun e => h (e ▸ List.mem_cons_self)
    have hr : sep ∉ r := fun e => h (List.mem_cons_of_mem _ e)
    simp [fields, hc, ih hr]

/-- Joined fields are found again when none of them holds a separator. -/
theorem fields_unfields {sep : Char} {fs : List (List Char)} (hne : fs ≠ [])
    (h : ∀ f ∈ fs, sep ∉ f) : fields sep (unfields sep fs) = fs := by
  induction fs with
  | nil => exact absurd rfl hne
  | cons f fs ih =>
    cases fs with
    | nil => simpa [unfields] using fields_of_not_mem (h f List.mem_cons_self)
    | cons g gs =>
      rw [unfields_cons_of_ne_nil sep f (by simp), fields_append (h f List.mem_cons_self),
        ih (by simp) fun x hx => h x (List.mem_cons_of_mem _ hx)]

/-- A text cut at a separator has the fields of its two parts. -/
theorem fields_append_sep (sep : Char) (xs ys : List Char) :
    fields sep (xs ++ sep :: ys) = fields sep xs ++ fields sep ys := by
  induction xs with
  | nil => simp [fields]
  | cons c xs ih =>
    by_cases h : c = sep
    · subst h
      simp [fields, ih]
    · obtain ⟨f, fs, hf, hc⟩ := fields_cons_of_ne h xs
      rw [List.cons_append, hc]
      simp [fields, h, ih, hf]

theorem unfields_append {sep : Char} {fs gs : List (List Char)} (hf : fs ≠ []) (hg : gs ≠ []) :
    unfields sep (fs ++ gs) = unfields sep fs ++ sep :: unfields sep gs := by
  induction fs with
  | nil => exact absurd rfl hf
  | cons f fs ih =>
    cases fs with
    | nil => exact unfields_cons_of_ne_nil sep f hg
    | cons g fs =>
      rw [List.cons_append, unfields_cons_of_ne_nil sep f (by simp), ih (by simp),
        unfields_cons_of_ne_nil sep f (by simp), List.append_assoc, List.cons_append]

/-! ### The fields of strings -/

theorem splitOn_ne_nil (sep : Char) (s : String) : splitOn sep s ≠ [] := by
  unfold splitOn
  rw [ne_eq, List.map_eq_nil_iff]
  exact fields_ne_nil sep s.toList

theorem sep_not_mem_of_mem_splitOn {sep : Char} {s f : String} (h : f ∈ splitOn sep s) :
    sep ∉ f.toList := by
  obtain ⟨cs, hcs, rfl⟩ := List.mem_map.1 h
  rw [String.toList_ofList]
  exact sep_not_mem_of_mem_fields hcs

/-- A string cut at a separator has the fields of its two parts. -/
theorem splitOn_append_sep (sep : Char) (s t : String) :
    splitOn sep (s ++ String.singleton sep ++ t) = splitOn sep s ++ splitOn sep t := by
  unfold splitOn
  rw [String.toList_append, String.toList_append, String.toList_singleton, List.append_assoc,
    List.singleton_append, fields_append_sep, List.map_append]

theorem toList_joinWith (sep : Char) (segments : List String) :
    (joinWith sep segments).toList = unfields sep (segments.map String.toList) := by
  unfold joinWith
  rw [String.toList_ofList]

theorem joinWith_singleton (sep : Char) (s : String) : joinWith sep [s] = s := by
  unfold joinWith
  rw [List.map_singleton, unfields, String.ofList_toList]

theorem joinWith_append {sep : Char} {fs gs : List String} (hf : fs ≠ []) (hg : gs ≠ []) :
    joinWith sep (fs ++ gs) = joinWith sep fs ++ String.singleton sep ++ joinWith sep gs := by
  rw [← String.toList_inj, String.toList_append, String.toList_append, toList_joinWith,
    toList_joinWith, toList_joinWith, String.toList_singleton, List.map_append,
    unfields_append (by simpa using hf) (by simpa using hg), List.append_assoc,
    List.singleton_append]

/-- Cutting loses nothing: the fields of a string join to the string. -/
theorem joinWith_splitOn (sep : Char) (s : String) : joinWith sep (splitOn sep s) = s := by
  unfold joinWith splitOn
  rw [List.map_map, String.toList_comp_ofList, List.map_id, unfields_fields, String.ofList_toList]

/-- Segments joined by separators are found again. -/
theorem splitOn_joinWith {sep : Char} {segments : List String} (hne : segments ≠ [])
    (h : ∀ s ∈ segments, sep ∉ s.toList) : splitOn sep (joinWith sep segments) = segments := by
  unfold splitOn joinWith
  rw [String.toList_ofList, fields_unfields (by simpa using hne)]
  · rw [List.map_map, String.ofList_comp_toList, List.map_id]
  · intro f hf
    obtain ⟨s, hs, rfl⟩ := List.mem_map.1 hf
    exact h s hs

/-! ### Order -/

/-- The texts in ascending order of code points. Equal texts all stay. -/
def sorted (texts : List String) : List String :=
  texts.mergeSort fun a b => decide (a ≤ b)

/-- The texts in ascending order of code points, each of them once. -/
def sortedSet (texts : List String) : List String := sorted texts.eraseDups

theorem sorted_perm (texts : List String) : (sorted texts).Perm texts :=
  List.mergeSort_perm _ _

theorem pairwise_sorted (texts : List String) : (sorted texts).Pairwise (· ≤ ·) := by
  refine (List.pairwise_mergeSort ?_ ?_ texts).imp fun h => of_decide_eq_true h
  · intro r s t hrs hst
    exact decide_eq_true (String.le_trans (of_decide_eq_true hrs) (of_decide_eq_true hst))
  · intro s t
    simpa using String.le_total s t

theorem mem_sorted {s : String} {texts : List String} : s ∈ sorted texts ↔ s ∈ texts :=
  (sorted_perm texts).mem_iff

theorem mem_sortedSet {s : String} {texts : List String} : s ∈ sortedSet texts ↔ s ∈ texts := by
  rw [sortedSet, mem_sorted, List.mem_eraseDups]

end TargetResolution.Text
