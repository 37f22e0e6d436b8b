import TargetResolution.Proofs.Environment.Mapping

/-!
Overriding values. An environment is the one that its own mapping describes, so overriding it means
to go on with the overriding entries, each of which is a value that is given on the command line.
-/

namespace TargetResolution.Environment

/-- What is given for a field on the command line. A switch that is off gives nothing. -/
def Overrides.value? (o : Overrides) : Field → Option Value
  | .sysroot => o.sysroot
  | .installedDir => o.installedDir
  | .resourceDir => o.resourceDir
  | .driverDir => o.driverDir
  | .includeDirs => o.includeDirs
  | .cxxMode => if o.cxxMode then some (.bool true) else none
  | .buildId => if o.buildId then some (.bool true) else none

/-! ### Mappings of environments -/

theorem known_toMapping (e : Environment) : Known e.toMapping := by
  intro x hx
  simp only [toMapping, List.mem_cons, List.not_mem_nil, or_false] at hx
  rcases hx with rfl | rfl | rfl | rfl | rfl | rfl | rfl <;> exact ⟨_, Field.ofKey?_key _⟩

/-- An environment is described by its mapping. -/
theorem foldlM_toMapping (e : Environment) : e.toMapping.foldlM setEntry {} = .ok e := by
  simp [toMapping, setEntry, Field.ofKey?_key, set, pathOf, Value.hasLongInteger, Value.text,
    boolOf, includeDirsOf, Value.texts?_map_str, Except.map, bind, Except.bind, pure, Except.pure]

theorem ofMapping_toMapping (e : Environment) : ofMapping e.toMapping = .ok e := by
  rw [ofMapping_of_known e.known_toMapping, foldlM_toMapping]

/-! ### Overriding entries -/

/-- The fields in the order in which they are overridden. -/
def overrideOrder : List Field :=
  [.sysroot, .installedDir, .resourceDir, .driverDir, .includeDirs, .cxxMode, .buildId]

theorem mem_overrideOrder (f : Field) : f ∈ overrideOrder := by
  cases f <;> decide

/-- The overriding entries are the values that are given, under the keys of their fields. -/
theorem Overrides.entries_eq (o : Overrides) :
    o.entries = overrideOrder.filterMap fun f => (o.value? f).map fun v => (.str f.key, v) := rfl

theorem Overrides.mem_entries {o : Overrides} {x : Value × Value} :
    x ∈ o.entries ↔ ∃ f v, o.value? f = some v ∧ (.str f.key, v) = x := by
  simp only [entries_eq, List.mem_filterMap, mem_overrideOrder, true_and, Option.map_eq_some_iff]

/-- A field is given no other value than the one under its own key. -/
theorem given?_filterMap (value? : Field → Option Value) {order : List Field} (h : order.Nodup)
    (f : Field) :
    given? f (order.filterMap fun g => (value? g).map fun v => (.str g.key, v)) =
      if f ∈ order then (value? f).filter fun v => !v.isNull else none := by
  induction order with
  | nil => rfl
  | cons g order ih =>
    obtain ⟨hg, hrest⟩ := List.nodup_cons.1 h
    have ih := ih hrest
    by_cases hfg : f = g
    · subst hfg
      rw [if_neg hg] at ih
      rw [if_pos List.mem_cons_self, List.filterMap_cons]
      cases hv : value? f with
      | none => simpa using ih
      | some v => simp [given?, ih, Field.ofKey?_key, Option.filter]
    · have hmem : f ∈ g :: order ↔ f ∈ order := by simp [hfg]
      simp only [hmem]
      rw [← ih, List.filterMap_cons]
      cases hv : value? g with
      | none => rfl
      | some v => simp [given?, Field.ofKey?_key, Ne.symm hfg]

theorem Overrides.given?_entries (o : Overrides) (f : Field) :
    given? f o.entries = (o.value? f).filter fun v => !v.isNull := by
  rw [entries_eq, given?_filterMap o.value? (by decide), if_pos (mem_overrideOrder f)]

/-- Overriding goes on from the environment. -/
theorem override_eq (base : Environment) (o : Overrides) :
    base.override o = o.entries.foldlM setEntry base := by
  have hknown : Known (base.toMapping ++ o.entries) := by
    intro x hx
    rcases List.mem_append.1 hx with hx | hx
    · exact base.known_toMapping x hx
    · obtain ⟨f, v, -, rfl⟩ := Overrides.mem_entries.1 hx
      exact ⟨f, Field.ofKey?_key f⟩
  rw [override, ofMapping_of_known hknown, List.foldlM_append, foldlM_toMapping]
  rfl

/-- Overrides that agree on the resource directory lead to the same one, and those that say nothing
else are accepted whenever others are. -/
theorem override_resourceDir {base e : Environment} {o : Overrides} (h : base.override o = .ok e) :
    ∃ e', base.override { resourceDir := o.resourceDir } = .ok e' ∧
      e'.resourceDir = e.resourceDir := by
  rw [override_eq] at h
  obtain ⟨htaken, hfollows⟩ := follows_of_foldlM h
  have hsame : given? .resourceDir (Overrides.entries { resourceDir := o.resourceDir }) =
      given? .resourceDir o.entries := by
    rw [Overrides.given?_entries, Overrides.given?_entries]
    rfl
  have htaken' : ∀ x ∈ Overrides.entries { resourceDir := o.resourceDir }, Taken x := by
    intro x hx
    obtain ⟨f, v, hv, rfl⟩ := Overrides.mem_entries.1 hx
    refine htaken _ (Overrides.mem_entries.2 ⟨f, v, ?_, rfl⟩)
    cases f with
    | resourceDir => exact hv
    | _ => cases hv
  obtain ⟨e', he'⟩ := foldlM_of_taken htaken' base
  refine ⟨e', by rw [override_eq, he'], ?_⟩
  have hfollows' := (follows_of_foldlM he').2
  cases hg : given? .resourceDir o.entries with
  | none =>
    exact Value.str.inj ((hfollows'.kept _ (hsame.trans hg)).trans (hfollows.kept _ hg).symm)
  | some v =>
    have hread := hfollows'.read _ v (hsame.trans hg)
    exact Value.str.inj (Except.ok.inj (hread.symm.trans (hfollows.read _ v hg)))

end TargetResolution.Environment
