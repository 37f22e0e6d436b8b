import TargetResolution.Proofs.Path.Respelling

/-!
Canonical spellings. They are told by their components alone: the root, the dot, names behind the
root, or double dots followed by names. A settled trail is such a list of components, so the
canonical spellings are those of normal locations, and the normal spelling of a path is the one
canonical spelling that stands for it.
-/

namespace TargetResolution.Path

open Text

/-- Whether a segment is a name: one step, and not a step up. -/
def IsName (segment : String) : Prop := IsStep segment ∧ segment ≠ ".."

/-- The canonical spellings. Double dots stand only at the start of a relative one. -/
inductive IsCanonical : String → Prop
  | root : IsCanonical "/"
  | here : IsCanonical "."
  | absolute {names : List String} (hne : names ≠ []) (hnames : ∀ s ∈ names, IsName s) :
    IsCanonical ("/" ++ joinWith '/' names)
  | relative {ups : Nat} {names : List String} (hne : List.replicate ups ".." ++ names ≠ [])
    (hnames : ∀ s ∈ names, IsName s) : IsCanonical (joinWith '/' (List.replicate ups ".." ++ names))

/-! ### Settled trails -/

/-- On an absolute trail there are only names. -/
theorem settled_true_iff {trail : List String} :
    Settled true trail ↔ ∀ s ∈ trail, IsName s := by
  induction trail with
  | nil => simp [Settled]
  | cons s trail ih =>
    rw [Settled, ih, List.forall_mem_cons]
    constructor
    · rintro ⟨hstep, hup, hnames⟩
      exact ⟨⟨hstep, fun h => Bool.false_ne_true (hup h).1.symm⟩, hnames⟩
    · rintro ⟨⟨hstep, hname⟩, hnames⟩
      exact ⟨hstep, fun h => absurd h hname, hnames⟩

theorem settled_replicate (ups : Nat) : Settled false (List.replicate ups "..") := by
  induction ups with
  | zero => trivial
  | succ ups ih =>
    rw [List.replicate_succ]
    exact ⟨isStep_dotdot, fun _ => ⟨rfl, fun _ => List.eq_of_mem_replicate⟩, ih⟩

/-- On a relative trail the double dots come first, which is last in the order of the trail. -/
theorem settled_false_iff {trail : List String} :
    Settled false trail ↔
      ∃ names ups, trail = names ++ List.replicate ups ".." ∧ ∀ s ∈ names, IsName s := by
  constructor
  · intro h
    induction trail with
    | nil => exact ⟨[], 0, rfl, by simp⟩
    | cons s trail ih =>
      obtain ⟨hstep, hup, htrail⟩ := h
      by_cases hs : s = ".."
      · have hdots : trail = List.replicate trail.length ".." :=
          List.eq_replicate_of_mem (hup hs).2
        refine ⟨[], trail.length + 1, ?_, by simp⟩
        rw [List.nil_append, List.replicate_succ, ← hdots, hs]
      · obtain ⟨names, ups, rfl, hnames⟩ := ih htrail
        exact ⟨s :: names, ups, rfl, List.forall_mem_cons.2 ⟨⟨hstep, hs⟩, hnames⟩⟩
  · rintro ⟨names, ups, rfl, hnames⟩
    induction names with
    | nil => exact settled_replicate ups
    | cons s names ih =>
      obtain ⟨⟨hstep, hname⟩, hnames⟩ := List.forall_mem_cons.1 hnames
      exact ⟨hstep, fun h => absurd h hname, ih hnames⟩

/-! ### Normal locations -/

theorem Location.normal_true_iff {segments : List String} :
    (⟨true, segments⟩ : Location).Normal ↔ ∀ s ∈ segments, IsName s := by
  rw [Normal, settled_true_iff]
  simp only [List.mem_reverse]

theorem Location.normal_false_iff {segments : List String} :
    (⟨false, segments⟩ : Location).Normal ↔
      ∃ ups names, segments = List.replicate ups ".." ++ names ∧ ∀ s ∈ names, IsName s := by
  rw [Normal, settled_false_iff]
  constructor
  · rintro ⟨names, ups, hsegments, hnames⟩
    refine ⟨ups, names.reverse, ?_, fun s hs => hnames s (List.mem_reverse.1 hs)⟩
    rw [← List.reverse_reverse segments, hsegments, List.reverse_append, List.reverse_replicate]
  · rintro ⟨ups, names, rfl, hnames⟩
    refine ⟨names.reverse, ups, ?_, fun s hs => hnames s (List.mem_reverse.1 hs)⟩
    rw [List.reverse_append, List.reverse_replicate]

theorem Location.Normal.isCanonical_toPath {l : Location} (h : l.Normal) :
    IsCanonical l.toPath := by
  obtain ⟨absolute, segments⟩ := l
  by_cases hne : segments = []
  · subst hne
    cases absolute with
    | true => exact .root
    | false => exact .here
  · cases absolute with
    | true =>
      rw [toPath, if_pos rfl]
      exact .absolute hne (normal_true_iff.1 h)
    | false =>
      obtain ⟨ups, names, rfl, hnames⟩ := normal_false_iff.1 h
      rw [toPath, if_neg Bool.false_ne_true, if_neg hne]
      exact .relative hne hnames

/-- A canonical spelling is that of a normal location. -/
theorem IsCanonical.exists_normal {path : String} (h : IsCanonical path) :
    ∃ l : Location, l.Normal ∧ l.toPath = path := by
  cases h with
  | root => exact ⟨⟨true, []⟩, trivial, rfl⟩
  | here => exact ⟨⟨false, []⟩, trivial, rfl⟩
  | @absolute names _ hnames =>
    exact ⟨⟨true, names⟩, Location.normal_true_iff.2 hnames, if_pos rfl⟩
  | @relative ups names hne hnames =>
    refine ⟨⟨false, _⟩, Location.normal_false_iff.2 ⟨ups, names, rfl, hnames⟩, ?_⟩
    rw [Location.toPath, if_neg Bool.false_ne_true, if_neg hne]

/-! ### The normal spelling of a path -/

theorem isCanonical_normalize (path : String) : IsCanonical (normalize path) :=
  (normal_ofPath path).isCanonical_toPath

theorem IsCanonical.normalize_eq {path : String} (h : IsCanonical path) :
    normalize path = path := by
  obtain ⟨l, hl, rfl⟩ := h.exists_normal
  rw [normalize, hl.ofPath_toPath]

theorem normalize_normalize (path : String) : normalize (normalize path) = normalize path :=
  (isCanonical_normalize path).normalize_eq

/-- The canonical spellings are those that stand for themselves. -/
theorem normalize_eq_self_iff {path : String} : normalize path = path ↔ IsCanonical path := by
  constructor
  · intro h
    rw [← h]
    exact isCanonical_normalize path
  · exact IsCanonical.normalize_eq

theorem normalize_ne_empty (path : String) : normalize path ≠ "" := by
  intro h
  have hdot := normalize_normalize path
  rw [h] at hdot
  exact absurd hdot (by decide)

theorem respelled_normalize {path : String} (h : path ≠ "") : Respelled path (normalize path) :=
  Or.inr ⟨h, normalize_ne_empty path, (normalize_normalize path).symm⟩

/-! ### Paths in a directory -/

/-- Whether a path leads on from a directory. A separator stands between the two, unless the
directory is spelled with one at its end. -/
def LeadsOn (directory rest path : String) : Prop :=
  path = directory ++ "/" ++ rest ∨ ∃ stem, directory = stem ++ "/" ∧ path = directory ++ rest

theorem LeadsOn.respelled {directory rest path : String} (h : LeadsOn directory rest path) :
    Respelled path (directory ++ "/" ++ rest) := by
  rcases h with rfl | ⟨stem, rfl, rfl⟩
  · exact .refl _
  · refine Or.inr ⟨append_slash_ne_empty stem rest, append_slash_ne_empty _ rest, ?_⟩
    have hassoc : stem ++ "/" ++ "/" ++ rest = stem ++ "/" ++ ("/" ++ rest) := String.append_assoc
    rw [normalize_eq_iff, hassoc, Location.ofPath_slash_slash]

end TargetResolution.Path
