import TargetResolution.Listing.Document
import TargetResolution.Proofs.Listing.Closure
import TargetResolution.Proofs.Result
import TargetResolution.Proofs.Search.Run
import TargetResolution.Value.Basic

/-!
The shape that documents of listings must have: a mapping that has null or a list of texts under the
key of the paths, none of them empty. Main statement: a document of this shape yields the listing of
its paths and any other is refused, except that every void value under the key, be it false, zero or
an empty text or mapping, is taken for an empty list.
-/

namespace TargetResolution.Listing

open TargetResolution.Path

/-- Whether a value lists some paths. Null lists none, and a list of pairs can only be one of texts
if it is empty. -/
inductive Lists : Value → List String → Prop
  | null : Lists .null []
  | texts (paths : List String) : Lists (.list (paths.map .str)) paths
  | noPairs : Lists (.pairs []) []

/-- Whether a document has the documented shape and lists some paths. -/
def Documents (d : Value) (paths : List String) : Prop :=
  ∃ entries v, d = .map entries ∧ Value.entry? pathsKey entries = some v ∧ Lists v paths ∧
    ∀ p ∈ paths, p ≠ ""

/-- The void values that are neither null nor a list. -/
inductive IsOtherVoid : Value → Prop
  | notTrue : IsOtherVoid (.bool false)
  | zero : IsOtherVoid (.int 0)
  | floatZero (x : Float) (h : (x == 0.0) = true) : IsOtherVoid (.float x)
  | noText : IsOtherVoid (.str "")
  | noEntries : IsOtherVoid (.map [])
  | noOctets : IsOtherVoid (.octets [])
  | noMembers : IsOtherVoid (.set [])

/-- Whether a document has such a value where its paths should stand. -/
def HoldsOtherVoid (d : Value) : Prop :=
  ∃ entries v, d = .map entries ∧ Value.entry? pathsKey entries = some v ∧ IsOtherVoid v

/-! ### Values under the key -/

theorem Lists.not_isOtherVoid {v : Value} {paths : List String} (h : Lists v paths) :
    ¬IsOtherVoid v := by
  cases h <;> rintro ⟨⟩

theorem isVoid_of_isOtherVoid {v : Value} (h : IsOtherVoid v) : v.isVoid = true := by
  cases h with
  | floatZero x h => exact h
  | _ => rfl

/-- A void value is taken for an empty list, whatever it is. -/
theorem isVoid_iff {v : Value} : v.isVoid = true ↔ Lists v [] ∨ IsOtherVoid v := by
  constructor
  · intro h
    cases v with
    | null => exact .inl .null
    | bool b =>
      obtain rfl : b = false := by simpa [Value.isVoid] using h
      exact .inr .notTrue
    | int n =>
      obtain rfl : n = 0 := by simpa [Value.isVoid] using h
      exact .inr .zero
    | float x => exact .inr (.floatZero x h)
    | str s =>
      obtain rfl : s = "" := by simpa [Value.isVoid] using h
      exact .inr .noText
    | list items =>
      obtain rfl : items = [] := List.isEmpty_iff.1 h
      exact .inl (.texts [])
    | map entries =>
      obtain rfl : entries = [] := List.isEmpty_iff.1 h
      exact .inr .noEntries
    | octets bytes =>
      obtain rfl : bytes = [] := List.isEmpty_iff.1 h
      exact .inr .noOctets
    | set members =>
      obtain rfl : members = [] := List.isEmpty_iff.1 h
      exact .inr .noMembers
    | pairs entries =>
      obtain rfl : entries = [] := List.isEmpty_iff.1 h
      exact .inl .noPairs
    | date | moment | listAgain | mapAgain => cases h
  · rintro (h | h)
    · cases h <;> rfl
    · exact isVoid_of_isOtherVoid h

/-- A void value is told from null and from lists by its kind. -/
theorem isOtherVoid_iff {v : Value} :
    IsOtherVoid v ↔ v.isVoid = true ∧ v.kindName ≠ "NoneType" ∧ v.kindName ≠ "list" := by
  constructor
  · intro h
    refine ⟨isVoid_of_isOtherVoid h, ?_⟩
    cases h <;> simp [Value.kindName]
  · rintro ⟨hvoid, hnull, hlist⟩
    refine (isVoid_iff.1 hvoid).resolve_left fun h => ?_
    cases h with
    | null => exact hnull rfl
    | texts | noPairs => exact hlist rfl

instance : DecidablePred IsOtherVoid := fun _ => decidable_of_iff' _ isOtherVoid_iff

instance : DecidablePred HoldsOtherVoid
  | .map entries =>
    decidable_of_iff (((Value.entry? pathsKey entries).any fun v => decide (IsOtherVoid v)) = true)
      (by simp [HoldsOtherVoid, Option.any_eq_true])
  | .null | .bool _ | .int _ | .float _ | .str _ | .list _ | .date _ | .moment _ | .octets _
  | .set _ | .pairs _ | .listAgain | .mapAgain => .isFalse (by rintro ⟨_, _, ⟨⟩, _⟩)

theorem lists_list_iff {items : List Value} {paths : List String} :
    Lists (.list items) paths ↔ items = paths.map .str := by
  constructor
  · rintro ⟨⟩
    rfl
  · rintro rfl
    exact .texts paths

/-- The paths that are read from a value are those that it lists, or none if it is void. -/
theorem pathsUnder_eq_ok_iff {v : Value} {paths : List String} :
    pathsUnder v = .ok paths ↔ Lists v paths ∨ (IsOtherVoid v ∧ paths = []) := by
  unfold pathsUnder
  by_cases hvoid : v.isVoid = true
  · rw [if_pos hvoid, Except.ok.injEq]
    constructor
    · rintro rfl
      exact (isVoid_iff.1 hvoid).imp_right fun h => ⟨h, rfl⟩
    · rintro (h | ⟨-, rfl⟩)
      · cases h with
        | texts => exact (List.map_eq_nil_iff.1 (List.isEmpty_iff.1 hvoid)).symm
        | _ => rfl
      · rfl
  · have hother : ¬IsOtherVoid v := mt isVoid_of_isOtherVoid hvoid
    rw [if_neg hvoid, or_iff_left fun h => hother h.1]
    cases v with
    | list items =>
      rw [lists_list_iff, ← Value.texts?_eq_some_iff]
      cases h : Value.texts? items <;> simp [h]
    | null => exact absurd rfl hvoid
    | pairs entries =>
      refine iff_of_false (by simp) ?_
      rintro ⟨⟩
      exact hvoid rfl
    | _ =>
      refine iff_of_false (by simp) ?_
      rintro ⟨⟩

/-! ### Documents -/

/-- The paths that are read from a document. -/
theorem pathsOf_eq_ok_iff {d : Value} {paths : List String} :
    pathsOf d = .ok paths ↔ ∃ entries v, d = .map entries ∧
      Value.entry? pathsKey entries = some v ∧ (Lists v paths ∨ (IsOtherVoid v ∧ paths = [])) := by
  constructor
  · intro h
    cases d with
    | map entries =>
      cases hv : Value.entry? pathsKey entries with
      | none => simp [pathsOf, hv] at h
      | some v =>
        simp only [pathsOf, hv] at h
        exact ⟨entries, v, rfl, hv, pathsUnder_eq_ok_iff.1 h⟩
    | _ => cases h
  · rintro ⟨entries, v, rfl, hv, h⟩
    simp only [pathsOf, hv]
    exact pathsUnder_eq_ok_iff.2 h

/-- Paths make a listing if none of them is empty. -/
theorem ofPaths?_eq_none_iff {paths : List String} : ofPaths? paths = none ↔ "" ∈ paths := by
  suffices h : ∀ t : Listing, paths.foldlM add? t = none ↔ "" ∈ paths from h {}
  induction paths with
  | nil => intro t; simp
  | cons p paths ih =>
    intro t
    rw [List.foldlM_cons, List.mem_cons]
    by_cases hp : p = ""
    · subst hp
      simp [add?]
    · have hadd : add? t p = some (t.add p) := if_neg hp
      rw [hadd, or_iff_right (Ne.symm hp)]
      exact ih (t.add p)

section Load

variable {file : String} {state : FileState} {d : Value}

theorem answer_load (hd : Document.load .listing file state = .ok d) (present : String → Bool) :
    (load file state).answer present =
      match pathsOf d with
      | .error fault => .error (.shape file fault)
      | .ok paths => (ofPaths? paths).elim (.error .emptyPath) .ok := by
  unfold load
  rw [hd]
  cases hpaths : pathsOf d with
  | error fault => simp only [hpaths, Search.answer_done]
  | ok paths =>
    simp only [hpaths, Search.answer_note, Search.answer_done]
    cases ofPaths? paths <;> rfl

theorem Documents.not_holdsOtherVoid {paths : List String} (h : Documents d paths) :
    ¬HoldsOtherVoid d := by
  obtain ⟨entries, v, rfl, hv, hlists, -⟩ := h
  rintro ⟨entries', v', hmap, hv', hother⟩
  obtain rfl := Value.map.inj hmap
  obtain rfl := Option.some.inj (hv.symm.trans hv')
  exact hlists.not_isOtherVoid hother

theorem Documents.pathsOf_eq {paths : List String} (h : Documents d paths) :
    pathsOf d = .ok paths := by
  obtain ⟨entries, v, rfl, hv, hlists, -⟩ := h
  exact pathsOf_eq_ok_iff.2 ⟨entries, v, rfl, hv, .inl hlists⟩

theorem HoldsOtherVoid.pathsOf_eq (h : HoldsOtherVoid d) : pathsOf d = .ok [] := by
  obtain ⟨entries, v, rfl, hv, hother⟩ := h
  exact pathsOf_eq_ok_iff.2 ⟨entries, v, rfl, hv, .inr ⟨hother, rfl⟩⟩

/-- Paths that are read from a document without being documented come from another void value, or
one of them is empty. -/
theorem documents_of_pathsOf {paths : List String} (h : pathsOf d = .ok paths)
    (hother : ¬HoldsOtherVoid d) (hne : "" ∉ paths) : Documents d paths := by
  obtain ⟨entries, v, rfl, hv, hlists | ⟨hvoid, -⟩⟩ := pathsOf_eq_ok_iff.1 h
  · exact ⟨entries, v, rfl, hv, hlists, fun p hp heq => hne (heq ▸ hp)⟩
  · exact absurd ⟨entries, v, rfl, hv, hvoid⟩ hother

/-- A document yields a listing exactly if it has the documented shape, unless a void value that is
neither null nor a list stands under the key, which is taken for an empty list. The listing of a
documented document holds the normal spellings of its paths and their ancestors, and whatever has
neither shape nor such a value is refused, by the shape or for an empty path. -/
theorem load_keeps_to_shape_iff (hd : Document.load .listing file state = .ok d)
    (present : String → Bool) :
    let result := (load file state).answer present
    (((∃ t, result = .ok t) ↔ ∃ paths, Documents d paths) ↔ ¬HoldsOtherVoid d) ∧
    (HoldsOtherVoid d → result = .ok {}) ∧
    (∀ paths, Documents d paths → ∃ t, result = .ok t ∧
      ∀ s, s ∈ t.paths ↔ ∃ p ∈ paths, s = normalize p ∨ IsAncestor s (normalize p)) ∧
    ((¬∃ paths, Documents d paths) → ¬HoldsOtherVoid d →
      ∃ error ∈ [.shape file .noPaths, .shape file .pathsNotTexts, .emptyPath],
        result = .error error) := by
  intro result
  have hresult : result = _ := answer_load hd present
  have hvoid : HoldsOtherVoid d → result = .ok {} := by
    intro h
    rw [hresult, h.pathsOf_eq]
    rfl
  have hdocumented : ∀ paths, Documents d paths → ∃ t, result = .ok t ∧
      ∀ s, s ∈ t.paths ↔ ∃ p ∈ paths, s = normalize p ∨ IsAncestor s (normalize p) := by
    intro paths h
    obtain ⟨-, -, -, -, -, hne⟩ := id h
    have hlisting : ofPaths? paths = some (paths.foldl add {}) := foldlM_add?_eq paths hne {}
    refine ⟨paths.foldl add {}, ?_, mem_paths_foldl_add paths⟩
    simp only [hresult, h.pathsOf_eq, hlisting, Option.elim_some]
  have hrefused : (¬∃ paths, Documents d paths) → ¬HoldsOtherVoid d →
      ∃ error ∈ [.shape file .noPaths, .shape file .pathsNotTexts, .emptyPath],
        result = .error error := by
    intro hnot hother
    rw [hresult]
    cases hpaths : pathsOf d with
    | error fault => cases fault <;> simp
    | ok paths =>
      have hempty : "" ∈ paths := Classical.byContradiction fun hne =>
        hnot ⟨paths, documents_of_pathsOf hpaths hother hne⟩
      simp [ofPaths?_eq_none_iff.2 hempty]
  refine ⟨⟨fun hshape hother => ?_, fun hother => ⟨?_, ?_⟩⟩, hvoid, hdocumented, hrefused⟩
  · obtain ⟨paths, h⟩ := hshape.1 ⟨{}, hvoid hother⟩
    exact h.not_holdsOtherVoid hother
  · rintro ⟨t, ht⟩
    refine Classical.byContradiction fun hnot => ?_
    obtain ⟨error, -, herror⟩ := hrefused hnot hother
    rw [herror] at ht
    cases ht
  · rintro ⟨paths, h⟩
    obtain ⟨t, ht, -⟩ := hdocumented paths h
    exact ⟨t, ht⟩

theorem load_keeps_to_shape_flow :
    let state : FileState := .text "paths: [/opt/../srv//x]\n"
    ∃ d, Document.load .listing "fs.yaml" state = .ok d ∧ ¬HoldsOtherVoid d ∧
      ∃ t, (load "fs.yaml" state).answer (fun _ => false) = .ok t ∧ "/srv/x" ∈ t.paths ∧
        "/srv" ∈ t.paths := by
  intro state
  obtain ⟨d, hd, hread⟩ : ∃ d, Document.load .listing "fs.yaml" state = .ok d ∧
      decide (¬HoldsOtherVoid d ∧ (pathsOf d).toOption = some ["/opt/../srv//x"]) = true :=
    exists_of_any_toOption (by decide +kernel)
  obtain ⟨hother, hpaths⟩ := of_decide_eq_true hread
  have hdocuments : Documents d ["/opt/../srv//x"] :=
    documents_of_pathsOf (eq_ok_of_toOption_eq_some hpaths) hother (by decide)
  obtain ⟨-, -, hlisting, -⟩ := load_keeps_to_shape_iff hd fun _ => false
  obtain ⟨t, ht, hmem⟩ := hlisting _ hdocuments
  refine ⟨d, hd, hother, t, ht, (hmem _).2 ?_, (hmem _).2 ?_⟩
  · exact ⟨_, List.mem_singleton_self _, .inl (by decide +kernel)⟩
  · exact ⟨_, List.mem_singleton_self _, .inr (.inr ⟨by decide, "x", by decide +kernel⟩)⟩

/-- False in place of the paths is no list of texts, and yet it is taken for an empty one. -/
theorem false_for_paths_not_refused :
    let state : FileState := .text "paths: false\n"
    ∃ d, Document.load .listing "fs.yaml" state = .ok d ∧ (¬∃ paths, Documents d paths) ∧
      (load "fs.yaml" state).answer (fun _ => false) = .ok {} := by
  intro state
  obtain ⟨d, hd, hread⟩ : ∃ d, Document.load .listing "fs.yaml" state = .ok d ∧
      decide (HoldsOtherVoid d) = true :=
    exists_of_any_toOption (by decide +kernel)
  have hvoid : HoldsOtherVoid d := of_decide_eq_true hread
  refine ⟨d, hd, ?_, ?_⟩
  · rintro ⟨paths, h⟩
    exact h.not_holdsOtherVoid hvoid
  · rw [answer_load hd, hvoid.pathsOf_eq]
    rfl

end Load

end TargetResolution.Listing
