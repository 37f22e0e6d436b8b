import Mathlib.Data.List.Induction
import TargetResolution.Proofs.Path.NormalForm

/-!
Locations that hold other locations, and the same thing read off the spelling. A location is held by
itself and by what holds its parent. On normal spellings the proper holders are the component
prefixes: of an absolute path down to the root, of a relative path the non-empty ones only.
-/

namespace TargetResolution.Path

open Text

/-- Whether a text is a proper ancestor of a normal spelling: the root of an absolute one, or what
stands before a separator. -/
def IsAncestor (text spelling : String) : Prop :=
  (text = "/" ∧ isAbsolute spelling = true ∧ spelling ≠ "/")
    ∨ (text ≠ "" ∧ ∃ rest, spelling = text ++ "/" ++ rest)

/-- Whether the first location is the second one or a directory that holds it. -/
inductive Location.Holds : Location → Location → Prop
  | self (l : Location) : Holds l l
  | above {m p l : Location} (hp : l.parent? = some p) (hm : Holds m p) : Holds m l

namespace Location

theorem holds_iff {m l : Location} :
    m.Holds l ↔ m = l ∨ ∃ p, l.parent? = some p ∧ m.Holds p := by
  constructor
  · intro h
    cases h with
    | self => exact Or.inl rfl
    | above hp hm => exact Or.inr ⟨_, hp, hm⟩
  · rintro (rfl | ⟨p, hp, hm⟩)
    · exact .self m
    · exact .above hp hm

theorem Holds.trans {k m l : Location} (h₁ : k.Holds m) (h₂ : m.Holds l) : k.Holds l := by
  induction h₂ with
  | self => exact h₁
  | above hp _ ih => exact .above hp ih

/-- The parent of a location with a last segment. -/
theorem parent?_concat (absolute : Bool) (segments : List String) (s : String) :
    (⟨absolute, segments ++ [s]⟩ : Location).parent? =
      if absolute = false ∧ segments = [] then none else some ⟨absolute, segments⟩ := by
  have hdrop : (segments ++ [s]).dropLast = segments := List.dropLast_concat
  cases absolute with
  | true =>
    rw [if_neg (by simp)]
    cases hs : segments ++ [s] with
    | nil => simp at hs
    | cons a rest =>
      rw [hs] at hdrop
      rw [← hdrop]
      simp only [parent?]
  | false =>
    cases segments with
    | nil => rfl
    | cons a rest =>
      rw [if_neg (by simp)]
      cases hs : rest ++ [s] with
      | nil => simp at hs
      | cons b rest' =>
        rw [List.cons_append, hs] at hdrop ⊢
        rw [← hdrop]
        rfl

theorem parent?_nil (absolute : Bool) : (⟨absolute, []⟩ : Location).parent? = none := by
  cases absolute <;> rfl

/-- A proper holder has a proper prefix of the segments, which is not empty if it is relative. -/
theorem Holds.exists_append {m l : Location} (h : m.Holds l) (hne : m ≠ l) :
    m.absolute = l.absolute ∧ (l.absolute = false → m.segments ≠ []) ∧
      ∃ rest, rest ≠ [] ∧ l.segments = m.segments ++ rest := by
  induction h with
  | self => exact absurd rfl hne
  | @above p l hp hm ih =>
    obtain ⟨absolute, segments⟩ := l
    rcases List.eq_nil_or_concat segments with rfl | ⟨init, last, rfl⟩
    · rw [parent?_nil] at hp
      exact absurd hp (by simp)
    · rw [List.concat_eq_append] at hp ⊢
      rw [parent?_concat] at hp
      split at hp
      · exact absurd hp (by simp)
      · next hrel =>
        obtain rfl := Option.some.inj hp
        by_cases hmp : m = ⟨absolute, init⟩
        · subst hmp
          exact ⟨rfl, fun ha hi => hrel ⟨ha, hi⟩, [last], by simp, rfl⟩
        · obtain ⟨habs, hnil, rest, _, hseg⟩ := ih hmp
          refine ⟨habs, hnil, rest ++ [last], by simp, ?_⟩
          simp only at hseg
          rw [hseg, List.append_assoc]

/-- Every such prefix holds the location. -/
theorem holds_append {absolute : Bool} {segments : List String}
    (hrel : absolute = false → segments ≠ []) (rest : List String) :
    (⟨absolute, segments⟩ : Location).Holds ⟨absolute, segments ++ rest⟩ := by
  induction rest using List.reverseRecOn with
  | nil =>
    rw [List.append_nil]
    exact .self _
  | append_singleton rest last ih =>
    refine .above ?_ ih
    rw [← List.append_assoc, parent?_concat, if_neg]
    rintro ⟨ha, happ⟩
    exact hrel ha (List.append_eq_nil_iff.1 happ).1

theorem Holds.normal {m l : Location} (h : m.Holds l) (hl : l.Normal) : m.Normal := by
  by_cases hne : m = l
  · rw [hne]
    exact hl
  · obtain ⟨habs, _, rest, _, hseg⟩ := h.exists_append hne
    unfold Normal at hl ⊢
    rw [hseg, List.reverse_append] at hl
    rw [habs]
    exact settled_of_append hl

/-! ### Normal spellings -/

theorem Normal.isAbsolute_toPath {l : Location} (h : l.Normal) :
    isAbsolute l.toPath = l.absolute :=
  congrArg Location.absolute h.ofPath_toPath

/-- Normal segments under a spelling that has something before a separator are cut there. -/
theorem Normal.exists_of_toPath_eq {l : Location} (h : l.Normal) {text rest : String}
    (hne : text ≠ "") (htext : l.toPath = text ++ "/" ++ rest) :
    ∃ segments, segments ≠ [] ∧ l.segments = segments ++ splitOn '/' rest ∧
      (⟨l.absolute, segments⟩ : Location).toPath = text := by
  have hcut : splitOn '/' l.toPath = splitOn '/' text ++ splitOn '/' rest := by
    rw [htext, splitOn_append]
  have hsep : ∀ s ∈ l.segments, '/' ∉ s.toList := fun s hs => (h.isStep hs).2.2
  obtain ⟨absolute, segments⟩ := l
  cases absolute with
  | true =>
    simp only [toPath, if_true, splitOn_slash_append] at hcut
    obtain ⟨first, more, hmore⟩ := List.exists_cons_of_ne_nil (splitOn_ne_nil '/' text)
    have hjoin := joinWith_splitOn '/' text
    rw [hmore, List.cons_append] at hcut
    obtain ⟨hfirst, hrest⟩ := List.cons.inj hcut
    rw [hmore, ← hfirst] at hjoin
    have hmore_ne : more ≠ [] := by
      rintro rfl
      rw [joinWith_singleton] at hjoin
      exact hne hjoin.symm
    have hsegments : segments ≠ [] := by
      rintro rfl
      rw [show splitOn '/' (joinWith '/' []) = [""] from rfl] at hrest
      have := congrArg List.length hrest
      rw [List.length_append, List.length_singleton] at this
      have h₁ := List.length_pos_iff.2 hmore_ne
      have h₂ := List.length_pos_iff.2 (splitOn_ne_nil '/' rest)
      omega
    rw [splitOn_joinWith hsegments hsep] at hrest
    refine ⟨more, hmore_ne, hrest, ?_⟩
    rw [toPath, if_pos rfl, ← hjoin, ← List.singleton_append, joinWith_append (by simp) hmore_ne]
    rfl
  | false =>
    have hsegments : segments ≠ [] := by
      rintro rfl
      have := congrArg List.length hcut
      rw [List.length_append] at this
      have h₁ := List.length_pos_iff.2 (splitOn_ne_nil '/' text)
      have h₂ := List.length_pos_iff.2 (splitOn_ne_nil '/' rest)
      rw [show splitOn '/' (toPath ⟨false, []⟩) = ["."] from by decide] at this
      rw [List.length_singleton] at this
      omega
    simp only [toPath, Bool.false_eq_true, if_false, if_neg hsegments,
      splitOn_joinWith hsegments hsep] at hcut
    refine ⟨splitOn '/' text, splitOn_ne_nil '/' text, hcut, ?_⟩
    rw [toPath, if_neg (by simp), if_neg (splitOn_ne_nil '/' text), joinWith_splitOn]

theorem toPath_append {absolute : Bool} {segments rest : List String} (hs : segments ≠ [])
    (hr : rest ≠ []) :
    (⟨absolute, segments ++ rest⟩ : Location).toPath =
      (⟨absolute, segments⟩ : Location).toPath ++ "/" ++ joinWith '/' rest := by
  have hjoin : joinWith '/' (segments ++ rest) = joinWith '/' segments ++ "/" ++ joinWith '/' rest :=
    joinWith_append hs hr
  cases absolute with
  | true => simp only [toPath, if_true, hjoin, String.append_assoc]
  | false => simp [toPath, hs, hjoin]

/-- What stands before a separator, or the root, spells a proper holder. -/
theorem Normal.exists_holds_of_isAncestor {l : Location} (h : l.Normal) {text : String}
    (ha : IsAncestor text l.toPath) : ∃ m : Location, m ≠ l ∧ m.Holds l ∧ m.toPath = text := by
  rcases ha with ⟨rfl, habs, hroot⟩ | ⟨hne, rest, htext⟩
  · rw [h.isAbsolute_toPath] at habs
    obtain ⟨absolute, segments⟩ := l
    simp only at habs
    subst habs
    refine ⟨⟨true, []⟩, ?_, holds_append (by simp) segments, rfl⟩
    intro heq
    rw [← heq] at hroot
    exact hroot rfl
  · obtain ⟨segments, hsegments, happ, htoPath⟩ := h.exists_of_toPath_eq hne htext
    obtain ⟨absolute, all⟩ := l
    simp only at happ htoPath
    subst happ
    refine ⟨⟨absolute, segments⟩, ?_, holds_append (fun _ => hsegments) _, htoPath⟩
    intro heq
    have hlen := congrArg (fun k : Location => k.segments.length) heq
    simp only [List.length_append] at hlen
    have := List.length_pos_iff.2 (splitOn_ne_nil '/' rest)
    omega

/-- A proper holder is spelled by the root or by what stands before a separator. -/
theorem Holds.isAncestor_toPath {m l : Location} (hm : m.Holds l) (hne : m ≠ l) (h : l.Normal) :
    IsAncestor m.toPath l.toPath := by
  have hnormal := hm.normal h
  obtain ⟨habs, hrel, rest, hrest, hseg⟩ := hm.exists_append hne
  by_cases hnil : m.segments = []
  · have htrue : l.absolute = true := by
      by_contra hfalse
      exact hrel (by simpa using hfalse) hnil
    have hroot : m = ⟨true, []⟩ := by
      obtain ⟨absolute, segments⟩ := m
      simp only at habs hnil
      rw [habs, htrue, hnil]
    subst hroot
    refine Or.inl ⟨rfl, by rw [h.isAbsolute_toPath, htrue], ?_⟩
    intro heq
    exact hne (hnormal.toPath_inj h heq.symm)
  · refine Or.inr ⟨?_, joinWith '/' rest, ?_⟩
    · intro hempty
      have := hnormal.ofPath_toPath
      rw [hempty] at this
      exact hnil (congrArg Location.segments this).symm
    · obtain ⟨absolute, segments⟩ := m
      obtain ⟨absolute', segments'⟩ := l
      simp only at habs hseg hnil
      subst habs hseg
      exact toPath_append hnil hrest

/-- The ancestors that the normal spelling of a location shows are its proper holders. -/
theorem Normal.isAncestor_toPath_iff {l : Location} (h : l.Normal) (text : String) :
    IsAncestor text l.toPath ↔ ∃ m : Location, m ≠ l ∧ m.Holds l ∧ m.toPath = text := by
  constructor
  · exact h.exists_holds_of_isAncestor
  · rintro ⟨m, hne, hm, rfl⟩
    exact hm.isAncestor_toPath hne h

/-- Among normal locations, holding is spelled as equality or ancestry. -/
theorem Normal.holds_iff_toPath {m l : Location} (hm : m.Normal) (hl : l.Normal) :
    m.Holds l ↔ m.toPath = l.toPath ∨ IsAncestor m.toPath l.toPath := by
  constructor
  · intro h
    by_cases hne : m = l
    · exact Or.inl (congrArg toPath hne)
    · exact Or.inr ((hl.isAncestor_toPath_iff m.toPath).2 ⟨m, hne, h, rfl⟩)
  · rintro (heq | hanc)
    · rw [hm.toPath_inj hl heq]
      exact .self l
    · obtain ⟨k, _, hk, htoPath⟩ := (hl.isAncestor_toPath_iff m.toPath).1 hanc
      rw [← (hk.normal hl).toPath_inj hm htoPath]
      exact hk

end Location

end TargetResolution.Path
