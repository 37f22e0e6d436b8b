import TargetResolution.Proofs.Path.Respelling
import TargetResolution.Proofs.Text.Strip

/-!
Joined components. What joining takes from a component is its core, the text without the slashes
around it, and a component of slashes only is skipped. Main statement: joined components are their
cores behind the base, one separator before each, and the path so spelled leads to the same location
as the base and all components written out with separators between them.
-/

namespace TargetResolution.Path

open Text

/-! ### Slashes around a text -/

/-- Some slashes. -/
def slashes (n : Nat) : String := String.ofList (List.replicate n '/')

/-- Whether a text is made of slashes. -/
def OnlySlashes (s : String) : Prop := ∃ n, s = slashes n

/-- Whether a text neither starts nor ends with a slash. -/
structure IsBare (s : String) : Prop where
  head : s.toList.head? ≠ some '/'
  last : s.toList.getLast? ≠ some '/'

/-- Whether a text is what stands between the slashes around another one. -/
def IsCore (s core : String) : Prop := IsBare core ∧ ∃ m n, s = slashes m ++ core ++ slashes n

theorem slashes_succ (n : Nat) : slashes (n + 1) = "/" ++ slashes n := by
  rw [← String.toList_inj, String.toList_append]
  simp [slashes, List.replicate_succ]

theorem slashes_succ' (n : Nat) : slashes (n + 1) = slashes n ++ "/" := by
  rw [← String.toList_inj, String.toList_append]
  simp [slashes, List.replicate_succ']

theorem isSlash_eq_false_iff {c : Char} : isSlash c = false ↔ c ≠ '/' := by simp [isSlash]

theorem dropWhile_slashes_append (n : Nat) (cs : List Char) :
    (List.replicate n '/' ++ cs).dropWhile isSlash = cs.dropWhile isSlash :=
  List.dropWhile_append_of_pos fun c hc => by rw [List.eq_of_mem_replicate hc]; rfl

theorem trimEnd_append_slashes (n : Nat) (cs : List Char) :
    trimEnd isSlash (cs ++ List.replicate n '/') = trimEnd isSlash cs := by
  rw [trimEnd, List.reverse_append, List.reverse_replicate, dropWhile_slashes_append, ← trimEnd]

theorem isBare_trimSlashes (s : String) : IsBare (trimSlashes s) := by
  constructor
  · intro h
    rw [trimSlashes, String.toList_ofList] at h
    exact isSlash_eq_false_iff.1 (head?_trim h) rfl
  · intro h
    rw [trimSlashes, String.toList_ofList, trim] at h
    exact isSlash_eq_false_iff.1 (getLast?_trimEnd h) rfl

theorem isCore_trimSlashes (s : String) : IsCore s (trimSlashes s) := by
  have hfront : s = slashes (s.toList.takeWhile isSlash).length
      ++ String.ofList (s.toList.dropWhile isSlash) := by
    rw [← String.toList_inj, String.toList_append, slashes, String.toList_ofList,
      String.toList_ofList, ← takeWhile_isSlash, List.takeWhile_append_dropWhile]
  obtain ⟨n, hn⟩ := eq_trimEndSlashes_append (String.ofList (s.toList.dropWhile isSlash))
  have hcore : trimEndSlashes (String.ofList (s.toList.dropWhile isSlash)) = trimSlashes s := by
    rw [trimSlashes, trimEndSlashes, trim, String.toList_ofList]
  rw [hcore, ← slashes] at hn
  refine ⟨isBare_trimSlashes s, (s.toList.takeWhile isSlash).length, n, ?_⟩
  rw [String.append_assoc, ← hn]
  exact hfront

/-- A text has one core. -/
theorem IsCore.trimSlashes_eq {s core : String} (h : IsCore s core) : trimSlashes s = core := by
  obtain ⟨⟨hhead, hlast⟩, m, n, rfl⟩ := h
  have htrim : trim isSlash core.toList = core.toList := by
    rw [trim, dropWhile_eq_self, trimEnd_eq_self]
    · exact fun c hc => isSlash_eq_false_iff.2 fun h => hlast (h ▸ hc)
    · exact fun c hc => isSlash_eq_false_iff.2 fun h => hhead (h ▸ hc)
  have hends : trim isSlash (slashes m ++ core ++ slashes n).toList = trim isSlash core.toList := by
    simp only [slashes, String.toList_append, String.toList_ofList, List.append_assoc]
    rw [trim, dropWhile_slashes_append]
    by_cases hcore : core.toList = []
    · rw [hcore, List.nil_append, ← List.append_nil (List.replicate n '/'),
        dropWhile_slashes_append]
      rfl
    · obtain ⟨c, cs, hc⟩ := List.exists_cons_of_ne_nil hcore
      have hne : isSlash c = false := isSlash_eq_false_iff.2 fun h => hhead (by simp [hc, h])
      rw [hc, List.cons_append, List.dropWhile_cons_of_neg (by simp [hne]), ← List.cons_append,
        trimEnd_append_slashes, trim, List.dropWhile_cons_of_neg (by simp [hne])]
  rw [trimSlashes, hends, htrim, String.ofList_toList]

theorem IsBare.trimSlashes_eq {s : String} (h : IsBare s) : trimSlashes s = s :=
  IsCore.trimSlashes_eq ⟨h, 0, 0, by simp [slashes]⟩

theorem trimSlashes_eq_empty_iff {s : String} : trimSlashes s = "" ↔ OnlySlashes s := by
  constructor
  · intro h
    obtain ⟨-, m, n, hs⟩ := isCore_trimSlashes s
    refine ⟨m + n, ?_⟩
    rw [hs, h, String.append_empty, slashes, slashes, slashes, ← List.replicate_append_replicate,
      String.ofList_append]
  · rintro ⟨n, rfl⟩
    exact IsCore.trimSlashes_eq ⟨⟨by simp, by simp⟩, n, 0, by simp [slashes]⟩

/-! ### The closed form -/

/-- The cores of components, those without one skipped. -/
def cores (components : List String) : List String :=
  (components.map trimSlashes).filter (· ≠ "")

/-- What stands before the cores: the base with one separator behind it, unless it is empty. -/
def lead (base : String) : String := if base = "" then "" else trimEndSlashes base ++ "/"

theorem cores_cons_of_empty {c : String} (h : trimSlashes c = "") (cs : List String) :
    cores (c :: cs) = cores cs := by
  simp [cores, h]

theorem cores_cons {c : String} (h : trimSlashes c ≠ "") (cs : List String) :
    cores (c :: cs) = trimSlashes c :: cores cs := by
  simp [cores, h]

/-- A text without slashes around it is its own core. -/
theorem IsBare.cores_cons {s : String} (h : IsBare s) (hne : s ≠ "") (cs : List String) :
    cores (s :: cs) = s :: cores cs := by
  simp [cores, h.trimSlashes_eq, hne]

theorem cores_append (cs ds : List String) : cores (cs ++ ds) = cores cs ++ cores ds := by
  simp [cores]

theorem cores_eq_nil_iff {cs : List String} : cores cs = [] ↔ ∀ c ∈ cs, OnlySlashes c := by
  simp [cores, trimSlashes_eq_empty_iff]

theorem append_eq_lead {base c : String} (h : trimSlashes c ≠ "") :
    append base c = lead base ++ trimSlashes c := by
  by_cases hbase : base = "" <;> simp [append, lead, h, hbase]

/-- A separator comes next behind a core, and none is lost before it. -/
theorem lead_append {core : String} (hne : core ≠ "") (hbare : IsBare core) (s : String) :
    lead (s ++ core) = s ++ core ++ "/" := by
  have hcore : core.toList ≠ [] := mt String.toList_eq_nil_iff.1 hne
  have hsum : s ++ core ≠ "" := by
    rw [ne_eq, ← String.toList_eq_nil_iff, String.toList_append]
    simp [hne]
  have hend : trimEndSlashes (s ++ core) = s ++ core := by
    rw [trimEndSlashes, trimEnd_eq_self, String.ofList_toList]
    intro c hc
    rw [String.toList_append, List.getLast?_append_of_ne_nil _ hcore] at hc
    exact isSlash_eq_false_iff.2 fun h => hbare.last (h ▸ hc)
  rw [lead, if_neg hsum, hend]

theorem joinWith_cons {fs : List String} (f : String) (h : fs ≠ []) :
    joinWith '/' (f :: fs) = f ++ "/" ++ joinWith '/' fs := by
  have hsplit : joinWith '/' ([f] ++ fs) = joinWith '/' [f] ++ "/" ++ joinWith '/' fs :=
    joinWith_append (List.cons_ne_nil f []) h
  rwa [joinWith_singleton] at hsplit

/-- Joined components are the base and the cores behind it, unless there are none. -/
theorem join_eq (base : String) (components : List String) :
    join base components = if cores components = [] then base
      else lead base ++ joinWith '/' (cores components) := by
  -- For every base at once: each component makes a new one, which ends in a core.
  induction components generalizing base with
  | nil => rfl
  | cons c components ih =>
    rw [join_cons, ih]
    by_cases hc : trimSlashes c = ""
    · rw [cores_cons_of_empty hc, append]
      simp [hc]
    · rw [cores_cons hc, if_neg (List.cons_ne_nil _ _), append_eq_lead hc]
      by_cases hcs : cores components = []
      · rw [if_pos hcs, hcs, joinWith_singleton]
      · rw [if_neg hcs, lead_append hc (isBare_trimSlashes c), joinWith_cons _ hcs]
        simp only [String.append_assoc]

/-! ### Where joined components lead -/

namespace Location

theorem descend_slash (l : Location) (path : String) :
    l.descend ("/" ++ path) = l.descend path := by
  simp only [descend, splitOn_slash_append, List.foldl_cons, follow_empty]

theorem descend_append_slash (l : Location) (path : String) :
    l.descend (path ++ "/") = l.descend path := by
  have hsplit : splitOn '/' (path ++ "/") = splitOn '/' path ++ [""] := by
    rw [← String.append_empty (s := path ++ "/"), splitOn_append]
    rfl
  simp only [descend, hsplit, List.foldl_append, List.foldl_cons, List.foldl_nil, follow_empty]

theorem descend_slashes_append (l : Location) (n : Nat) (path : String) :
    l.descend (slashes n ++ path) = l.descend path := by
  induction n with
  | zero => rw [slashes, List.replicate_zero, String.ofList_nil, String.empty_append]
  | succ n ih => rw [slashes_succ, String.append_assoc, descend_slash, ih]

theorem descend_append_slashes (l : Location) (path : String) (n : Nat) :
    l.descend (path ++ slashes n) = l.descend path := by
  induction n with
  | zero => rw [slashes, List.replicate_zero, String.ofList_nil, String.append_empty]
  | succ n ih => rw [slashes_succ', ← String.append_assoc, descend_append_slash, ih]

/-- The slashes around a component lead nowhere. -/
theorem descend_trimSlashes (l : Location) (c : String) :
    l.descend (trimSlashes c) = l.descend c := by
  obtain ⟨-, m, n, hc⟩ := isCore_trimSlashes c
  rw [hc, descend_append_slashes, descend_slashes_append, ← hc]

theorem descend_empty (l : Location) : l.descend "" = l := by
  have hsame : (⟨l.absolute, l.segments.reverse.reverse⟩ : Location) = l := by
    rw [List.reverse_reverse]
  exact hsame

/-- A joined component leads where it leads when it is written behind a separator. -/
theorem ofPath_pathAppend {base : String} (hbase : base ≠ "") (c : String) :
    ofPath (append base c) = ofPath (base ++ "/" ++ c) := by
  rw [ofPath_append hbase, ← descend_trimSlashes]
  by_cases hc : trimSlashes c = ""
  · rw [hc, descend_empty, append]
    simp [hc]
  · rw [append_eq_lead hc, lead, if_neg hbase, ofPath_trimEndSlashes_append, ofPath_append hbase]

end Location

theorem append_ne_empty {base : String} (hbase : base ≠ "") (c : String) : append base c ≠ "" := by
  by_cases hc : trimSlashes c = ""
  · simpa [append, hc] using hbase
  · rw [append_eq_lead hc, lead, if_neg hbase]
    exact append_slash_ne_empty _ _

theorem normalize_join {base : String} (hbase : base ≠ "") (components : List String) :
    normalize (join base components) = normalize (joinWith '/' (base :: components)) := by
  induction components generalizing base with
  | nil => rw [join_nil, joinWith_singleton]
  | cons c components ih =>
    have happend : Respelled (append base c) (base ++ "/" ++ c) :=
      Or.inr ⟨append_ne_empty hbase c, append_slash_ne_empty base c,
        normalize_eq_iff.2 (Location.ofPath_pathAppend hbase c)⟩
    rw [join_cons, ih (append_ne_empty hbase c)]
    cases components with
    | nil =>
      rw [joinWith_singleton, joinWith_cons _ (by simp), joinWith_singleton]
      exact happend.normalize_eq
    | cons d components =>
      have hcomponents : d :: components ≠ [] := List.cons_ne_nil d components
      rw [joinWith_cons _ hcomponents, joinWith_cons _ (List.cons_ne_nil c _),
        joinWith_cons c hcomponents, ← String.append_assoc, ← String.append_assoc]
      exact (happend.append_slash _).normalize_eq

/-- Components of slashes only change nothing. Otherwise the cores of the others, which are all that
stands between the slashes around them, are put behind the base: as they are if it is empty, behind
the root if it is made of slashes, and else behind what is left of it without the slashes at its
end, always with one separator before each. From a base that is not empty this leads where the base
and all components lead when they are written out. -/
theorem join_collapses_separators (base : String) (components : List String) :
    (∀ c ∈ components, IsCore c (trimSlashes c)) ∧
    (∃ n, base = trimEndSlashes base ++ slashes n ∧
      (trimEndSlashes base).toList.getLast? ≠ some '/') ∧
    ((∀ c ∈ components, OnlySlashes c) → join base components = base) ∧
    ((∃ c ∈ components, ¬OnlySlashes c) →
      (base = "" → join base components = joinWith '/' (cores components)) ∧
      (base ≠ "" →
        join base components = trimEndSlashes base ++ "/" ++ joinWith '/' (cores components)) ∧
      (base ≠ "" → OnlySlashes base →
        join base components = "/" ++ joinWith '/' (cores components))) ∧
    (base ≠ "" →
      normalize (join base components) = normalize (joinWith '/' (base :: components))) := by
  refine ⟨fun c _ => isCore_trimSlashes c, ?_, ?_, ?_, fun hbase => normalize_join hbase _⟩
  · obtain ⟨n, hn⟩ := eq_trimEndSlashes_append base
    refine ⟨n, hn, fun h => ?_⟩
    rw [trimEndSlashes, String.toList_ofList] at h
    exact isSlash_eq_false_iff.1 (getLast?_trimEnd h) rfl
  · intro hall
    rw [join_eq, if_pos (cores_eq_nil_iff.2 hall)]
  · rintro ⟨c, hc, hcore⟩
    have hcores : cores components ≠ [] := fun h => hcore (cores_eq_nil_iff.1 h c hc)
    rw [join_eq, if_neg hcores]
    refine ⟨fun hbase => ?_, fun hbase => ?_, fun hbase hslashes => ?_⟩
    · rw [lead, if_pos hbase, String.empty_append]
    · rw [lead, if_neg hbase]
    · obtain ⟨n, rfl⟩ := hslashes
      have hroot : trimEndSlashes (slashes n) = "" := by
        have hdrop := trimEnd_append_slashes n []
        rw [List.nil_append] at hdrop
        rw [trimEndSlashes, slashes, String.toList_ofList, hdrop]
        rfl
      rw [lead, if_neg hbase, hroot, String.empty_append]

theorem join_collapses_separators_root :
    join "//" ["lib//", "", "/", "//../c++/"] = "/" ++ "lib/../c++" ∧
      join "" ["/lib/", "c++"] = "lib/c++" ∧
      join "/res/" ["", "//"] = "/res/" ∧
      normalize (join "//" ["lib//", "", "/", "//../c++/"]) =
        normalize "///lib////////../c++/" := by
  obtain ⟨-, -, -, hroot, hleads⟩ :=
    join_collapses_separators "//" ["lib//", "", "/", "//../c++/"]
  obtain ⟨-, -, -, hempty, -⟩ := join_collapses_separators "" ["/lib/", "c++"]
  obtain ⟨-, -, hslashes, -, -⟩ := join_collapses_separators "/res/" ["", "//"]
  have hlib : ¬OnlySlashes "lib//" := mt trimSlashes_eq_empty_iff.2 (by decide)
  have hname : ¬OnlySlashes "c++" := mt trimSlashes_eq_empty_iff.2 (by decide)
  have hcores : joinWith '/' (cores ["lib//", "", "/", "//../c++/"]) = "lib/../c++" := by decide
  have hpair : joinWith '/' (cores ["/lib/", "c++"]) = "lib/c++" := by decide
  have hplain : joinWith '/' ["//", "lib//", "", "/", "//../c++/"] = "///lib////////../c++/" := by
    decide
  rw [hcores] at hroot
  rw [hpair] at hempty
  rw [hplain] at hleads
  refine ⟨?_, ?_, hslashes ?_, hleads (by decide)⟩
  · exact (hroot ⟨_, List.mem_cons_self, hlib⟩).2.2 (by decide) ⟨2, by decide⟩
  · exact (hempty ⟨"c++", by decide, hname⟩).1 rfl
  · intro c hc
    exact trimSlashes_eq_empty_iff.1 (by revert c; decide)

/-- An empty base names no directory, and a separator behind it would name the root. -/
example :
    normalize (join "" ["/lib"]) = "lib" ∧ normalize (joinWith '/' ["", "/lib"]) = "/lib" := by
  decide

end TargetResolution.Path
