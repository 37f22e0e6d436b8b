import Mathlib.Data.Prod.Lex
import Mathlib.Order.BooleanAlgebra.Basic
import TargetResolution.Multilib

/-!
Selection of multilibs. The scan keeps the best variant so far and gives it up only for a better
one, so what it has seen always splits at the first variant of the highest rank. Main statement: the
selected variant is the first of the highest rank among those that fit, and the plain one if none
fits; so variants that do not fit are of no account, and the order of a catalog decides between
variants of one rank only.
-/

namespace TargetResolution.Multilib

/-! ### Ranks -/

/-- What variants are compared by: the priority, then whether anything is asked for. -/
def rank (m : Multilib) : Int ×ₗ Bool := toLex (m.priority, !m.isDefault)

theorem beats_iff_rank_lt (later earlier : Multilib) :
    later.beats earlier = true ↔ earlier.rank < later.rank := by
  unfold beats rank
  rw [Prod.Lex.toLex_lt_toLex, Bool.or_eq_true, decide_eq_true_iff]
  refine or_congr_right ?_
  rw [eq_comm (a := earlier.priority)]
  cases later.isDefault <;> cases earlier.isDefault <;> simp

theorem fits_iff {m : Multilib} {flags : FlagSet} :
    m.fits flags = true ↔ ∀ p ∈ m.required, p ∈ flags.predicates := by
  simp [fits, FlagSet.holds]

theorem not_fits_iff {m : Multilib} {flags : FlagSet} :
    m.fits flags = false ↔ ∃ p ∈ m.required, p ∉ flags.predicates := by
  rw [← Bool.not_eq_true, fits_iff]
  simp

/-! ### The scan -/

/-- One step of the scan: the better one of the best variant so far and the next one. -/
def better (best m : Multilib) : Multilib := if m.beats best then m else best

/-- Whether a variant is the first of the highest rank in a list. -/
def IsFirstBest (ms : List Multilib) (m : Multilib) : Prop :=
  ∃ before after, ms = before ++ m :: after ∧
    (∀ v ∈ before, v.rank < m.rank) ∧ ∀ v ∈ after, v.rank ≤ m.rank

namespace IsFirstBest

variable {ms : List Multilib} {m : Multilib}

theorem singleton (m : Multilib) : IsFirstBest [m] m := ⟨[], [], rfl, by simp, by simp⟩

theorem mem (h : IsFirstBest ms m) : m ∈ ms := by
  obtain ⟨before, after, rfl, -, -⟩ := h
  simp

theorem rank_le (h : IsFirstBest ms m) : ∀ v ∈ ms, v.rank ≤ m.rank := by
  obtain ⟨before, after, rfl, hbefore, hafter⟩ := h
  intro v hv
  rcases List.mem_append.1 hv with hv | hv
  · exact (hbefore v hv).le
  · rcases List.mem_cons.1 hv with rfl | hv
    · exact le_refl _
    · exact hafter v hv

/-- A variant behind the list is preferred exactly if it ranks higher than all of the list. -/
theorem step (h : IsFirstBest ms m) (next : Multilib) :
    IsFirstBest (ms ++ [next]) (better m next) := by
  unfold better
  split
  next hbeats =>
    have hlt : m.rank < next.rank := (beats_iff_rank_lt next m).1 hbeats
    exact ⟨ms, [], rfl, fun v hv => (h.rank_le v hv).trans_lt hlt, by simp⟩
  next hbeats =>
    have hle : next.rank ≤ m.rank := not_lt.1 (mt (beats_iff_rank_lt next m).2 hbeats)
    obtain ⟨before, after, rfl, hbefore, hafter⟩ := h
    refine ⟨before, after ++ [next], by simp, hbefore, fun v hv => ?_⟩
    rcases List.mem_append.1 hv with hv | hv
    · exact hafter v hv
    · obtain rfl := List.mem_singleton.1 hv
      exact hle

/-- The scan of further variants keeps the first best one of all that were seen. -/
theorem foldl (h : IsFirstBest ms m) (rest : List Multilib) :
    IsFirstBest (ms ++ rest) (rest.foldl better m) := by
  induction rest generalizing ms m with
  | nil => simpa using h
  | cons next rest ih =>
    have hrest := ih (h.step next)
    rwa [List.append_assoc] at hrest

/-- A variant that no later one outranks is the next one that outranks all between them. -/
theorem eq_of_append {n : Multilib} {after middle after' : List Multilib}
    (hsplit : m :: after = middle ++ n :: after') (hafter : ∀ v ∈ after, v.rank ≤ m.rank)
    (hmiddle : ∀ v ∈ middle, v.rank < n.rank) : m = n := by
  cases middle with
  | nil => exact (List.cons.inj hsplit).1
  | cons x middle =>
    -- Here `m` stands before `n`, so each of the two would outrank the other.
    obtain ⟨rfl, rfl⟩ := List.cons.inj hsplit
    have hle : n.rank ≤ m.rank := hafter n (by simp)
    have hlt : m.rank < n.rank := hmiddle m (by simp)
    exact absurd hle (not_le.2 hlt)

/-- A list has one first best variant at most. -/
theorem unique {n : Multilib} (hm : IsFirstBest ms m) (hn : IsFirstBest ms n) : m = n := by
  obtain ⟨before, after, hsplit, hbefore, hafter⟩ := hm
  obtain ⟨before', after', hsplit', hbefore', hafter'⟩ := hn
  -- One of the two stands before the other or in the same place.
  rcases List.append_eq_append_iff.1 (hsplit.symm.trans hsplit') with
    ⟨middle, rfl, htail⟩ | ⟨middle, rfl, htail⟩
  · exact eq_of_append htail hafter fun v hv => hbefore' v (List.mem_append_right _ hv)
  · exact (eq_of_append htail hafter' fun v hv => hbefore v (List.mem_append_right _ hv)).symm

end IsFirstBest

/-- If any variant fits, the first best one of those that fit is selected. -/
theorem isFirstBest_select {variants : List Multilib} {flags : FlagSet}
    (h : compatible variants flags ≠ []) :
    IsFirstBest (compatible variants flags) (select variants flags) := by
  unfold select
  cases hfit : compatible variants flags with
  | nil => exact absurd hfit h
  | cons first rest => exact (IsFirstBest.singleton first).foldl rest

theorem select_of_compatible_nil {variants : List Multilib} {flags : FlagSet}
    (h : compatible variants flags = []) : select variants flags = plain := by
  unfold select
  rw [h]

/-! ### Winners in a catalog -/

/-- Whether a variant wins in a catalog: it fits, those before it that fit have a lower rank, and
those behind it that fit have no higher one. -/
def Wins (variants : List Multilib) (flags : FlagSet) (m : Multilib) : Prop :=
  ∃ before after, variants = before ++ m :: after ∧ m.fits flags = true ∧
    (∀ v ∈ before, v.fits flags = true → v.rank < m.rank) ∧
    ∀ v ∈ after, v.fits flags = true → v.rank ≤ m.rank

section Catalog

variable {variants : List Multilib} {flags : FlagSet} {m : Multilib}

theorem mem_compatible : m ∈ compatible variants flags ↔ m ∈ variants ∧ m.fits flags = true :=
  List.mem_filter

theorem compatible_eq_nil_iff :
    compatible variants flags = [] ↔ ∀ v ∈ variants, v.fits flags = false := by
  simp [compatible]

/-- To win in a catalog is to be the first best one of those that fit. -/
theorem wins_iff : Wins variants flags m ↔ IsFirstBest (compatible variants flags) m := by
  constructor
  · rintro ⟨before, after, rfl, hm, hbefore, hafter⟩
    refine ⟨compatible before flags, compatible after flags, ?_, fun v hv => ?_, fun v hv => ?_⟩
    · simp [compatible, hm]
    · exact hbefore v (mem_compatible.1 hv).1 (mem_compatible.1 hv).2
    · exact hafter v (mem_compatible.1 hv).1 (mem_compatible.1 hv).2
  · rintro ⟨before, after, hsplit, hbefore, hafter⟩
    obtain ⟨first, last, rfl, rfl, hlast⟩ := List.filter_eq_append_iff.1 hsplit
    obtain ⟨skipped, last, rfl, hskipped, hm, rfl⟩ := List.filter_eq_cons_iff.1 hlast
    refine ⟨first ++ skipped, last, by simp, hm, fun v hv hfits => ?_, fun v hv hfits => ?_⟩
    · rcases List.mem_append.1 hv with hv | hv
      · exact hbefore v (mem_compatible.2 ⟨hv, hfits⟩)
      · exact absurd hfits (hskipped v hv)
    · exact hafter v (mem_compatible.2 ⟨hv, hfits⟩)

theorem Wins.mem_compatible (h : Wins variants flags m) : m ∈ compatible variants flags :=
  (wins_iff.1 h).mem

/-- A variant that wins is the one that is selected. -/
theorem Wins.select_eq (h : Wins variants flags m) : select variants flags = m :=
  (isFirstBest_select (List.ne_nil_of_mem h.mem_compatible)).unique (wins_iff.1 h)

theorem wins_select (h : ∃ v ∈ variants, v.fits flags = true) :
    Wins variants flags (select variants flags) := by
  obtain ⟨v, hv, hfits⟩ := h
  exact wins_iff.2 (isFirstBest_select (List.ne_nil_of_mem (mem_compatible.2 ⟨hv, hfits⟩)))

/-- Only the variants that fit are looked at. -/
theorem select_congr {others : List Multilib}
    (h : compatible variants flags = compatible others flags) :
    select variants flags = select others flags := by
  unfold select
  rw [h]

/-- Variants that do not fit can stand anywhere. -/
theorem select_insert {extra : List Multilib} (hextra : ∀ v ∈ extra, v.fits flags = false)
    (before after : List Multilib) :
    select (before ++ extra ++ after) flags = select (before ++ after) flags := by
  have hnone : extra.filter (·.fits flags) = [] := by simpa using hextra
  refine select_congr ?_
  simp only [compatible, List.filter_append, hnone, List.append_nil]

/-- What is selected from a catalog ranks no higher than what is selected from the same variants in
another order. -/
theorem rank_select_le_of_perm {others : List Multilib} (h : variants.Perm others)
    (hfit : ∃ v ∈ variants, v.fits flags = true) :
    (select variants flags).rank ≤ (select others flags).rank := by
  obtain ⟨hmem, hfits⟩ := mem_compatible.1 (wins_select hfit).mem_compatible
  have hmem' : select variants flags ∈ compatible others flags :=
    mem_compatible.2 ⟨h.subset hmem, hfits⟩
  exact (isFirstBest_select (List.ne_nil_of_mem hmem')).rank_le _ hmem'

/-- Another order of a catalog can only lead to another variant of the same rank. -/
theorem select_of_perm {others : List Multilib} (h : variants.Perm others) :
    select others flags = select variants flags ∨
      (select variants flags ∈ compatible variants flags ∧
        select others flags ∈ compatible variants flags ∧
        (select others flags).rank = (select variants flags).rank) := by
  by_cases hfit : ∃ v ∈ variants, v.fits flags = true
  · have hfit' : ∃ v ∈ others, v.fits flags = true := by
      obtain ⟨v, hv, hfits⟩ := hfit
      exact ⟨v, h.subset hv, hfits⟩
    obtain ⟨hmem', hfits'⟩ := mem_compatible.1 (wins_select hfit').mem_compatible
    refine .inr ⟨(wins_select hfit).mem_compatible,
      mem_compatible.2 ⟨h.symm.subset hmem', hfits'⟩, le_antisymm ?_ ?_⟩
    · exact rank_select_le_of_perm h.symm hfit'
    · exact rank_select_le_of_perm h hfit
  · have hnone : ∀ v ∈ variants, v.fits flags = false := by simpa using hfit
    have hnone' : ∀ v ∈ others, v.fits flags = false :=
      fun v hv => hnone v (h.symm.subset hv)
    left
    rw [select_of_compatible_nil (compatible_eq_nil_iff.2 hnone),
      select_of_compatible_nil (compatible_eq_nil_iff.2 hnone')]

end Catalog

/-- The plain variant is selected exactly if no variant fits or the plain one wins; if any variant
fits, the one that wins is selected. Variants that do not fit can be inserted or left out anywhere.
In another order of the catalog another variant is selected only if both fit and have one rank. -/
theorem select_first_of_highest_rank (variants : List Multilib) (flags : FlagSet) :
    let selected := select variants flags
    (selected = plain ↔
      (∀ v ∈ variants, ∃ p ∈ v.required, p ∉ flags.predicates) ∨ Wins variants flags plain) ∧
    ((∃ v ∈ variants, ∀ p ∈ v.required, p ∈ flags.predicates) → Wins variants flags selected) ∧
    (∀ before extra after, variants = before ++ after →
      (∀ v ∈ extra, ∃ p ∈ v.required, p ∉ flags.predicates) →
        select (before ++ extra ++ after) flags = selected) ∧
    ∀ others, variants.Perm others →
      select others flags = selected ∨
        (selected ∈ compatible variants flags ∧ select others flags ∈ compatible variants flags ∧
          (select others flags).rank = selected.rank) := by
  intro selected
  simp only [← fits_iff, ← not_fits_iff]
  refine ⟨⟨fun hplain => ?_, ?_⟩, wins_select, ?_, fun others => select_of_perm⟩
  · by_cases hfit : ∃ v ∈ variants, v.fits flags = true
    · exact .inr (hplain ▸ wins_select hfit)
    · exact .inl (by simpa using hfit)
  · rintro (hnone | hwins)
    · exact select_of_compatible_nil (compatible_eq_nil_iff.2 hnone)
    · exact hwins.select_eq
  · rintro before extra after rfl hextra
    exact select_insert hextra before after

theorem select_first_of_highest_rank_tied :
    let first : Multilib := ⟨"first", ["x"], -1⟩
    let second : Multilib := ⟨"second", ["x", "y"], -1⟩
    let higher : Multilib := ⟨"higher", ["z"], 7⟩
    let default : Multilib := ⟨"default", [], -1⟩
    let flags : FlagSet := ⟨["x", "y"]⟩
    Wins [default, first, second] flags first ∧
      select [default, first, second] flags = first ∧
      select ([default] ++ [higher] ++ [first, second]) flags = first ∧
      select [second, default, first] flags = second ∧ second.rank = first.rank := by
  intro first second higher default flags
  have hselected : select [default, first, second] flags = first := by decide
  obtain ⟨-, hwins, hinsert, hperm⟩ := select_first_of_highest_rank [default, first, second] flags
  rw [hselected] at hwins hinsert hperm
  have hswapped : select [second, default, first] flags = second := by decide
  refine ⟨hwins (by decide), hselected, hinsert [default] [higher] _ rfl (by decide), hswapped, ?_⟩
  rcases hperm [second, default, first] (by decide) with hsame | ⟨-, -, hrank⟩
  · rw [hswapped] at hsame
    exact absurd hsame (by decide)
  · rwa [hswapped] at hrank

end TargetResolution.Multilib
