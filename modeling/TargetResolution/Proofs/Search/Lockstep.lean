import Mathlib.Data.List.Forall2
import TargetResolution.Proofs.Search.Run

/-!
Searches in lockstep: they ask related questions one after the other, go on in lockstep whatever the
answer is, and end with related answers. Their notes may differ. Where related questions have the
same answer, both runs get the same answers and come to related ends.
-/

namespace TargetResolution

namespace Search

variable {ν α β γ δ : Type} {R : String → String → Prop}

/-- Two searches that ask related questions and give related answers. -/
inductive Lockstep (R : String → String → Prop) (Q : α → β → Prop) :
    Search ν α → Search ν β → Prop
  | done {a : α} {b : β} (h : Q a b) : Lockstep R Q (.done a) (.done b)
  | probe {p q : String} {next : Bool → Search ν α} {next' : Bool → Search ν β} (hp : R p q)
      (h : ∀ found, Lockstep R Q (next found) (next' found)) :
      Lockstep R Q (.probe p next) (.probe q next')
  | note {m n : ν} {next : Search ν α} {next' : Search ν β} (h : Lockstep R Q next next') :
      Lockstep R Q (.note m next) (.note n next')

namespace Lockstep

theorem refl (hR : ∀ p, R p p) (s : Search ν α) : Lockstep R Eq s s := by
  induction s with
  | done a => exact .done rfl
  | probe path next ih => exact .probe (hR path) ih
  | note entry next ih => exact .note ih

/-- Searches in lockstep go on in lockstep when related answers lead to such. -/
theorem andThen {Q : α → β → Prop} {P : γ → δ → Prop} {s : Search ν α} {t : Search ν β}
    {f : α → Search ν γ} {g : β → Search ν δ} (h : Lockstep R Q s t)
    (hk : ∀ a b, Q a b → Lockstep R P (f a) (g b)) : Lockstep R P (s.andThen f) (t.andThen g) := by
  induction h with
  | done hab => exact hk _ _ hab
  | probe hp _ ih => exact .probe hp ih
  | note _ ih => exact .note ih

/-- The runs of searches in lockstep, where related questions have the same answer. -/
theorem run {Q : α → β → Prop} {s : Search ν α} {t : Search ν β} (h : Lockstep R Q s t)
    {present : String → Bool} (hR : ∀ p q, R p q → present p = present q) :
    Q (s.answer present) (t.answer present) ∧
      List.Forall₂ R (s.queries present) (t.queries present) := by
  induction h with
  | done hab => exact ⟨hab, .nil⟩
  | @probe p q next next' hp _ ih =>
    obtain ⟨hanswer, hqueries⟩ := ih (present p)
    rw [answer_probe, answer_probe, queries_probe, queries_probe, ← hR p q hp]
    exact ⟨hanswer, .cons hp hqueries⟩
  | note _ ih => exact ih

end Lockstep

/-- Related lists have one image under a function that does not tell related members apart. -/
theorem map_eq_of_forall₂ {f : String → γ} (hf : ∀ p q, R p q → f p = f q) {l m : List String}
    (h : List.Forall₂ R l m) : l.map f = m.map f := by
  induction h with
  | nil => rfl
  | cons hpq _ ih => rw [List.map_cons, List.map_cons, hf _ _ hpq, ih]

end Search

namespace SearchPath

variable {R : String → String → Prop}

theorem lockstep_existing {l m : List String} (h : List.Forall₂ R l m) :
    Search.Lockstep R (List.Forall₂ R) (existing l) (existing m) := by
  induction h with
  | nil => exact .done .nil
  | @cons p q l m hpq _ ih =>
    refine Search.Lockstep.andThen (Q := Eq) ?_ ?_
    · refine .probe hpq fun found => ?_
      cases found with
      | true => exact .done rfl
      | false => exact .note (.done rfl)
    · rintro found _ rfl
      refine ih.andThen fun more more' hmore => .done ?_
      cases found with
      | true => exact .cons hpq hmore
      | false => exact hmore

theorem lockstep_first? {l m : List String} (h : List.Forall₂ R l m) :
    Search.Lockstep R (Option.Rel R) (first? l) (first? m) := by
  induction h with
  | nil => exact .done .none
  | cons hpq _ ih =>
    refine .probe hpq fun found => ?_
    cases found with
    | true => exact .note (.done (.some hpq))
    | false => exact ih

end SearchPath

end TargetResolution
