import Mathlib.Data.List.Basic
import TargetResolution.Text.CharClass
import TargetResolution.Text.Lists

/-!
Stripped texts. A text is its own stripped form exactly when neither its first nor its last
character is blank. So joined fields are stripped or not by the outer edges of the first and the
last field, whatever stands between them.
-/

namespace TargetResolution.Text

variable {p : Char → Bool}

/-! ### Trimming -/

theorem dropWhile_eq_self {cs : List Char} (h : ∀ c, cs.head? = some c → p c = false) :
    cs.dropWhile p = cs := by
  cases cs with
  | nil => rfl
  | cons c cs => rw [List.dropWhile_cons_of_neg (by simp [h c rfl])]

theorem not_of_head?_dropWhile {cs : List Char} {c : Char}
    (h : (cs.dropWhile p).head? = some c) : p c = false := by
  induction cs with
  | nil => exact absurd h (by simp)
  | cons d cs ih =>
    cases hd : p d with
    | true =>
      rw [List.dropWhile_cons_of_pos hd] at h
      exact ih h
    | false =>
      rw [List.dropWhile_cons_of_neg (by simp [hd])] at h
      obtain rfl := Option.some.inj h
      exact hd

theorem getLast?_trimEnd {cs : List Char} {c : Char} (h : (trimEnd p cs).getLast? = some c) :
    p c = false := by
  rw [trimEnd, List.getLast?_reverse] at h
  exact not_of_head?_dropWhile h

theorem trimEnd_eq_self {cs : List Char} (h : ∀ c, cs.getLast? = some c → p c = false) :
    trimEnd p cs = cs := by
  rw [trimEnd, dropWhile_eq_self, List.reverse_reverse]
  intro c hc
  rw [List.head?_reverse] at hc
  exact h c hc

/-- What is trimmed at the end is a part of the text from its first character on. -/
theorem trimEnd_prefix (cs : List Char) : trimEnd p cs <+: cs := by
  rw [trimEnd, ← List.reverse_suffix, List.reverse_reverse]
  exact List.dropWhile_suffix p

theorem head?_trim {cs : List Char} {c : Char} (h : (trim p cs).head? = some c) : p c = false := by
  obtain ⟨rest, hrest⟩ := trimEnd_prefix (p := p) (cs.dropWhile p)
  have hhead : (cs.dropWhile p).head? = some c := by
    rw [← hrest, List.head?_append, ← trim, h]
    rfl
  exact not_of_head?_dropWhile hhead

/-! ### Stripped texts -/

/-- Whether a text neither starts nor ends with a blank. -/
structure IsStripped (s : String) : Prop where
  head : ∀ c, s.toList.head? = some c → isBlank c = false
  last : ∀ c, s.toList.getLast? = some c → isBlank c = false

theorem isStripped_strip (s : String) : IsStripped (strip s) := by
  constructor
  · intro c hc
    rw [strip, String.toList_ofList] at hc
    exact head?_trim hc
  · intro c hc
    rw [strip, String.toList_ofList, trim] at hc
    exact getLast?_trimEnd hc

theorem IsStripped.strip_eq {s : String} (h : IsStripped s) : strip s = s := by
  rw [strip, trim, dropWhile_eq_self h.head, trimEnd_eq_self h.last, String.ofList_toList]

/-! ### Joined fields -/

theorem head?_joinWith (sep : Char) {f : String} (hf : f ≠ "") (fs : List String) :
    (joinWith sep (f :: fs)).toList.head? = f.toList.head? := by
  obtain ⟨c, cs, hc⟩ := List.exists_cons_of_ne_nil (mt String.toList_eq_nil_iff.1 hf)
  rw [toList_joinWith, List.map_cons, hc]
  cases fs <;> rfl

theorem getLast?_joinWith (sep : Char) {fs : List String} {f : String} (hf : f ≠ "")
    (h : fs.getLast? = some f) : (joinWith sep fs).toList.getLast? = f.toList.getLast? := by
  obtain ⟨gs, rfl⟩ := List.getLast?_eq_some_iff.1 h
  by_cases hgs : gs = []
  · rw [hgs, List.nil_append, joinWith_singleton]
  · rw [joinWith_append hgs (by simp), joinWith_singleton, String.toList_append,
      List.getLast?_append_of_ne_nil _ (mt String.toList_eq_nil_iff.1 hf)]

/-- Joined fields are stripped if the first one starts and the last one ends with no blank. -/
theorem isStripped_joinWith_iff (sep : Char) {f g : String} {fs : List String} (hf : f ≠ "")
    (hg : g ≠ "") (hlast : (f :: fs).getLast? = some g) :
    IsStripped (joinWith sep (f :: fs)) ↔
      (∀ c, f.toList.head? = some c → isBlank c = false) ∧
        ∀ c, g.toList.getLast? = some c → isBlank c = false := by
  rw [← head?_joinWith sep hf fs, ← getLast?_joinWith sep hg hlast]
  exact ⟨fun h => ⟨h.head, h.last⟩, fun h => ⟨h.1, h.2⟩⟩

/-- Fields between others with the same first and the same last one are stripped alike. -/
theorem IsStripped.joinWith {sep : Char} {f g : String} {fs gs : List String}
    (h : IsStripped (joinWith sep (f :: fs))) (hf : f ≠ "") (hg : g ≠ "")
    (hfs : fs.getLast? = some g) (hgs : gs.getLast? = some g) :
    IsStripped (Text.joinWith sep (f :: gs)) := by
  have hlast : ∀ hs : List String, hs.getLast? = some g → (f :: hs).getLast? = some g := by
    intro hs hhs
    rw [List.getLast?_cons, hhs]
    rfl
  rw [isStripped_joinWith_iff sep hf hg (hlast fs hfs)] at h
  exact (isStripped_joinWith_iff sep hf hg (hlast gs hgs)).2 h

end TargetResolution.Text
