import TargetResolution.Environment
import TargetResolution.Proofs.Result
import TargetResolution.Value.Basic

/-!
Environments from mappings. Each entry sets the field of its key and no other, so what a field ends
up with is decided by the last value that it is given, and an environment is found exactly if every
value can be read for its field. Otherwise the first value that cannot be read decides the error.
-/

namespace TargetResolution

/-- Whether a value is null, which leaves every field as it is. -/
def Value.isNull : Value → Bool
  | .null => true
  | _ => false

/-- The truth value, if the value is one. -/
def Value.bool? : Value → Option Bool
  | .bool b => some b
  | _ => none

namespace Environment

/-- What a field of an environment holds, as plain data. -/
def holds (e : Environment) : Field → Value
  | .sysroot => .str e.sysroot
  | .installedDir => .str e.installedDir
  | .resourceDir => .str e.resourceDir
  | .driverDir => .str e.driverDir
  | .cxxMode => .bool e.cxxMode
  | .buildId => .bool e.buildId
  | .includeDirs => .list (e.includeDirs.map .str)

/-- What a field holds when it is given a value, or why it cannot be given that value. -/
def Field.read (f : Field) (v : Value) : Except Error Value :=
  match f with
  | .sysroot | .installedDir | .resourceDir | .driverDir => (pathOf v).map .str
  | .cxxMode | .buildId => (boolOf f v).map .bool
  | .includeDirs => (includeDirsOf v).map fun dirs => .list (dirs.map .str)

/-- The last value that the entries of a mapping give to a field. -/
def given? (f : Field) : List (Value × Value) → Option Value
  | [] => none
  | (key, v) :: rest =>
    (given? f rest).or (if Field.ofKey? key = some f ∧ v.isNull = false then some v else none)

/-- Whether the value of an entry can be read for its field, if there is one. -/
def Taken (x : Value × Value) : Prop :=
  ∀ f, Field.ofKey? x.1 = some f → x.2.isNull = false → ∃ w, f.read x.2 = .ok w

/-- Whether the second environment differs from the first one only in fields that the entries give a
value, and holds there what is read from the last one. -/
structure Follows (e e' : Environment) (entries : List (Value × Value)) : Prop where
  kept : ∀ f, given? f entries = none → e'.holds f = e.holds f
  read : ∀ f v, given? f entries = some v → f.read v = .ok (e'.holds f)

/-! ### Fields -/

theorem Field.ofKey?_key (f : Field) : Field.ofKey? (.str f.key) = some f := by
  cases f <;> decide +kernel

theorem includeDirs_of_holds {e : Environment} {dirs : List String}
    (h : e.holds .includeDirs = .list (dirs.map .str)) : e.includeDirs = dirs := by
  have htexts := congrArg Value.texts? (Value.list.inj h)
  rw [Value.texts?_map_str, Value.texts?_map_str] at htexts
  exact Option.some.inj htexts

/-- An environment is what its fields hold. -/
theorem eq_of_holds {e e' : Environment} (h : ∀ f, e.holds f = e'.holds f) : e = e' := by
  obtain ⟨sysroot, installedDir, resourceDir, driverDir, cxxMode, buildId, includeDirs⟩ := e
  obtain ⟨sysroot', installedDir', resourceDir', driverDir', cxxMode', buildId', includeDirs'⟩ := e'
  obtain rfl := Value.str.inj (h .sysroot)
  obtain rfl := Value.str.inj (h .installedDir)
  obtain rfl := Value.str.inj (h .resourceDir)
  obtain rfl := Value.str.inj (h .driverDir)
  obtain rfl := Value.bool.inj (h .cxxMode)
  obtain rfl := Value.bool.inj (h .buildId)
  obtain rfl : includeDirs = includeDirs' := includeDirs_of_holds (h .includeDirs)
  rfl

/-- Setting a field changes what it holds, and nothing else. -/
theorem holds_of_set {e e' : Environment} {f : Field} {v : Value} (h : e.set f v = .ok e') :
    f.read v = .ok (e'.holds f) ∧ ∀ g, g ≠ f → e'.holds g = e.holds g := by
  cases f with
  | sysroot | installedDir | resourceDir | driverDir | cxxMode | buildId | includeDirs =>
    rw [set] at h
    obtain ⟨a, ha, rfl⟩ := exists_of_map_eq_ok h
    refine ⟨by rw [Field.read, ha]; rfl, fun g hg => ?_⟩
    cases g <;> first | rfl | exact absurd rfl hg

theorem set_eq_error_iff {e : Environment} {f : Field} {v : Value} {error : Error} :
    e.set f v = .error error ↔ f.read v = .error error := by
  cases f with
  | sysroot | installedDir | resourceDir | driverDir =>
    rw [set, Field.read]
    cases pathOf v <;> simp [Except.map]
  | cxxMode | buildId =>
    rw [set, Field.read]
    cases boolOf _ v <;> simp [Except.map]
  | includeDirs =>
    rw [set, Field.read]
    cases includeDirsOf v <;> simp [Except.map]

theorem set_of_read {f : Field} {v w : Value} (h : f.read v = .ok w) (e : Environment) :
    ∃ e', e.set f v = .ok e' := by
  cases hset : e.set f v with
  | ok e' => exact ⟨e', rfl⟩
  | error error =>
    rw [set_eq_error_iff, h] at hset
    cases hset

/-! ### One entry -/

section Entry

variable {e : Environment} {key v : Value}

/-- An entry of no field, and one with null, leave the environment as it is. -/
theorem setEntry_of_idle (h : Field.ofKey? key = none ∨ v.isNull = true) :
    setEntry e (key, v) = .ok e := by
  cases v with
  | null => rfl
  | _ => simp [setEntry, h.resolve_right Bool.false_ne_true]

theorem setEntry_of_field {f : Field} (hf : Field.ofKey? key = some f) (hv : v.isNull = false) :
    setEntry e (key, v) = e.set f v := by
  cases v with
  | null => cases hv
  | _ => simp [setEntry, hf]

/-- Every entry leaves the environment as it is or sets a field. -/
theorem setEntry_cases (x : Value × Value) :
    (Field.ofKey? x.1 = none ∨ x.2.isNull = true) ∨
      ∃ f, Field.ofKey? x.1 = some f ∧ x.2.isNull = false := by
  cases hf : Field.ofKey? x.1 with
  | none => exact Or.inl (Or.inl rfl)
  | some f =>
    cases hv : x.2.isNull with
    | true => exact Or.inl (Or.inr rfl)
    | false => exact Or.inr ⟨f, rfl, rfl⟩

end Entry

/-! ### Mappings -/

section Mapping

variable {e e' : Environment} {entries : List (Value × Value)} {error : Error}

theorem Taken.of_idle {x : Value × Value} (h : Field.ofKey? x.1 = none ∨ x.2.isNull = true) :
    Taken x := by
  intro f hf hv
  rcases h with h | h
  · rw [h] at hf
    cases hf
  · rw [h] at hv
    cases hv

/-- What an environment follows settles it. -/
theorem Follows.unique {e₁ e₂ : Environment} (h₁ : Follows e e₁ entries)
    (h₂ : Follows e e₂ entries) : e₁ = e₂ := by
  refine eq_of_holds fun f => ?_
  cases hg : given? f entries with
  | none => exact (h₁.kept f hg).trans (h₂.kept f hg).symm
  | some v => exact Except.ok.inj ((h₁.read f v hg).symm.trans (h₂.read f v hg))

/-- One entry is followed. -/
theorem follows_of_setEntry {x : Value × Value} (h : setEntry e x = .ok e') : Follows e e' [x] := by
  obtain ⟨key, v⟩ := x
  rcases setEntry_cases (key, v) with hidle | ⟨g, hkey, hv⟩
  · have hnone : ∀ f, given? f [(key, v)] = none := by
      intro f
      rw [given?, given?, Option.none_or, if_neg]
      rintro ⟨hkey, hv⟩
      simp [hkey, hv] at hidle
    rw [setEntry_of_idle hidle] at h
    obtain rfl := Except.ok.inj h
    exact ⟨fun _ _ => rfl, fun f w hw => absurd ((hnone f).symm.trans hw) (by simp)⟩
  · have hgiven : ∀ f, given? f [(key, v)] = if g = f then some v else none := by
      intro f
      rw [given?, given?, Option.none_or, hkey]
      simp [hv]
    rw [setEntry_of_field hkey hv] at h
    obtain ⟨hread, hframe⟩ := holds_of_set h
    refine ⟨fun f hf => hframe f ?_, fun f w hw => ?_⟩
    · rintro rfl
      rw [hgiven, if_pos rfl] at hf
      cases hf
    · rw [hgiven] at hw
      split at hw
      next hgf =>
        obtain rfl := Option.some.inj hw
        rw [← hgf]
        exact hread
      next => cases hw

theorem given?_append (f : Field) (xs ys : List (Value × Value)) :
    given? f (xs ++ ys) = (given? f ys).or (given? f xs) := by
  induction xs with
  | nil => rw [List.nil_append, given?, Option.or_none]
  | cons x xs ih => rw [List.cons_append, given?, ih, given?, Option.or_assoc]

/-- What comes behind is followed first. -/
theorem Follows.append {next : Environment} {xs ys : List (Value × Value)} (hx : Follows e next xs)
    (hy : Follows next e' ys) : Follows e e' (xs ++ ys) := by
  refine ⟨fun f hf => ?_, fun f v hv => ?_⟩
  · rw [given?_append, Option.or_eq_none_iff] at hf
    exact (hy.kept f hf.1).trans (hx.kept f hf.2)
  · rw [given?_append] at hv
    cases hg : given? f ys with
    | some w =>
      rw [hg] at hv
      obtain rfl := Option.some.inj hv
      exact hy.read f w hg
    | none =>
      rw [hg, Option.none_or] at hv
      rw [hy.kept f hg]
      exact hx.read f v hv

theorem taken_of_setEntry {x : Value × Value} (h : setEntry e x = .ok e') : Taken x := by
  rcases setEntry_cases x with hidle | ⟨g, hkey, hv⟩
  · exact .of_idle hidle
  · rw [setEntry_of_field hkey hv] at h
    intro f hf _
    obtain rfl : g = f := Option.some.inj (hkey.symm.trans hf)
    exact ⟨_, (holds_of_set h).1⟩

theorem exists_of_taken {x : Value × Value} (h : Taken x) (e : Environment) :
    ∃ e', setEntry e x = .ok e' := by
  rcases setEntry_cases x with hidle | ⟨f, hkey, hv⟩
  · exact ⟨e, setEntry_of_idle hidle⟩
  · obtain ⟨w, hread⟩ := h f hkey hv
    rw [setEntry_of_field hkey hv]
    exact set_of_read hread e

/-- Entries that go through were all taken, and the environment follows what they give last. -/
theorem follows_of_foldlM (h : entries.foldlM setEntry e = .ok e') :
    (∀ x ∈ entries, Taken x) ∧ Follows e e' entries := by
  induction entries generalizing e with
  | nil =>
    obtain rfl := Except.ok.inj h
    exact ⟨by simp, fun _ _ => rfl, fun _ _ h => by cases h⟩
  | cons x entries ih =>
    rw [List.foldlM_cons] at h
    obtain ⟨next, hx, hrest⟩ := exists_of_bind_eq_ok h
    obtain ⟨htaken, hfollows⟩ := ih hrest
    exact ⟨List.forall_mem_cons.2 ⟨taken_of_setEntry hx, htaken⟩,
      (follows_of_setEntry hx).append hfollows⟩

theorem foldlM_of_taken (h : ∀ x ∈ entries, Taken x) (e : Environment) :
    ∃ e', entries.foldlM setEntry e = .ok e' := by
  induction entries generalizing e with
  | nil => exact ⟨e, rfl⟩
  | cons x entries ih =>
    obtain ⟨hx, hrest⟩ := List.forall_mem_cons.1 h
    obtain ⟨next, hnext⟩ := exists_of_taken hx e
    rw [List.foldlM_cons, hnext]
    exact ih hrest next

theorem foldlM_setEntry_eq_ok_iff :
    entries.foldlM setEntry e = .ok e' ↔
      (∀ x ∈ entries, Taken x) ∧ Follows e e' entries := by
  constructor
  · exact follows_of_foldlM
  · rintro ⟨htaken, hfollows⟩
    obtain ⟨found, hfound⟩ := foldlM_of_taken htaken e
    rw [hfound, (follows_of_foldlM hfound).2.unique hfollows]

/-- Entries that do not go through end at the first one whose value cannot be read. -/
theorem foldlM_setEntry_eq_error_iff :
    entries.foldlM setEntry e = .error error ↔
      ∃ before key v after f, entries = before ++ (key, v) :: after ∧ (∀ x ∈ before, Taken x) ∧
        Field.ofKey? key = some f ∧ v.isNull = false ∧ f.read v = .error error := by
  constructor
  · intro h
    induction entries generalizing e with
    | nil => cases h
    | cons x entries ih =>
      rw [List.foldlM_cons] at h
      cases hx : setEntry e x with
      | ok next =>
        rw [hx] at h
        obtain ⟨before, key, v, after, f, rfl, hbefore, hfield⟩ := ih h
        exact ⟨x :: before, key, v, after, f, rfl,
          List.forall_mem_cons.2 ⟨taken_of_setEntry hx, hbefore⟩, hfield⟩
      | error found =>
        rw [hx] at h
        obtain rfl : found = error := Except.error.inj h
        rcases setEntry_cases x with hidle | ⟨f, hkey, hv⟩
        · rw [setEntry_of_idle hidle] at hx
          cases hx
        · rw [setEntry_of_field hkey hv, set_eq_error_iff] at hx
          exact ⟨[], x.1, x.2, entries, f, rfl, by simp, hkey, hv, hx⟩
  · rintro ⟨before, key, v, after, f, rfl, hbefore, hkey, hv, hread⟩
    obtain ⟨next, hnext⟩ := foldlM_of_taken hbefore e
    rw [List.foldlM_append, hnext]
    show List.foldlM setEntry next ((key, v) :: after) = _
    rw [List.foldlM_cons, setEntry_of_field hkey hv, set_eq_error_iff.2 hread]
    rfl

/-- Whether all keys of a mapping are keys of fields. -/
def Known (entries : List (Value × Value)) : Prop :=
  ∀ x ∈ entries, ∃ f, Field.ofKey? x.1 = some f

theorem ofMapping_of_known (h : Known entries) :
    ofMapping entries = entries.foldlM setEntry {} := by
  have hnone : (entries.map (·.1)).filter (fun k => (Field.ofKey? k).isNone) = [] := by
    rw [List.filter_eq_nil_iff]
    intro k hk
    obtain ⟨x, hx, rfl⟩ := List.mem_map.1 hk
    obtain ⟨f, hf⟩ := h x hx
    simp [hf]
  unfold ofMapping
  simp only [hnone]
  rfl

theorem ofMapping_of_not_known (h : ¬Known entries) :
    ∃ keys, (∀ k ∈ keys, k ∈ entries.map (·.1)) ∧
      ofMapping entries = .error (unknownKeysError keys) := by
  refine ⟨(entries.map (·.1)).filter fun k => (Field.ofKey? k).isNone,
    fun k hk => (List.mem_filter.1 hk).1, ?_⟩
  unfold ofMapping
  simp only
  rw [if_neg]
  intro hempty
  refine h fun x hx => Option.ne_none_iff_exists'.1 fun hnone => ?_
  have := List.filter_eq_nil_iff.1 (List.isEmpty_iff.1 hempty) x.1 (List.mem_map_of_mem hx)
  simp [hnone] at this

theorem ofMapping_eq_ok_iff :
    ofMapping entries = .ok e ↔
      Known entries ∧ (∀ x ∈ entries, Taken x) ∧ Follows {} e entries := by
  by_cases hknown : Known entries
  · rw [ofMapping_of_known hknown, foldlM_setEntry_eq_ok_iff]
    exact (and_iff_right hknown).symm
  · obtain ⟨keys, -, herror⟩ := ofMapping_of_not_known hknown
    rw [herror]
    exact iff_of_false (by simp) fun h => hknown h.1

/-! ### What the fields come to -/

/-- The fields that hold paths. -/
def pathFields : List Field := [.sysroot, .installedDir, .resourceDir, .driverDir]

/-- The fields that hold a truth value. -/
def switchFields : List Field := [.cxxMode, .buildId]

/-- The text that the entries of a mapping give for a path. -/
def textIn (entries : List (Value × Value)) (f : Field) : Option String :=
  (given? f entries).map Value.text

/-- The truth value that they give for a switch. -/
def switchIn (entries : List (Value × Value)) (f : Field) : Option Bool :=
  (given? f entries).bind Value.bool?

/-- The directories that they give. -/
def dirsIn (entries : List (Value × Value)) : Option (List String) :=
  (given? .includeDirs entries).bind fun v => (includeDirsOf v).toOption

theorem read_path {f : Field} (hf : f ∈ pathFields) (v : Value) :
    f.read v = if v.hasLongInteger then .error .integerTooLong else .ok (.str v.text) := by
  have hread : f.read v = (pathOf v).map .str := by
    cases f with
    | cxxMode | buildId | includeDirs => exact absurd hf (by decide)
    | _ => rfl
  rw [hread, pathOf]
  split <;> rfl

theorem boolOf_eq (f : Field) (v : Value) :
    boolOf f v = match v.bool? with
      | some b => .ok b
      | none => .error (.notBoolean f) := by
  cases v <;> rfl

theorem read_switch {f : Field} (hf : f ∈ switchFields) (v : Value) :
    f.read v = (boolOf f v).map .bool := by
  cases f with
  | cxxMode | buildId => rfl
  | _ => exact absurd hf (by decide)

/-- A path is the text of what it is given, and empty if it is given nothing. -/
theorem Follows.path (h : Follows {} e entries) {f : Field} (hf : f ∈ pathFields) :
    e.holds f = .str ((textIn entries f).getD "") := by
  unfold textIn
  cases hg : given? f entries with
  | none =>
    rw [h.kept f hg]
    cases f with
    | cxxMode | buildId | includeDirs => exact absurd hf (by decide)
    | _ => rfl
  | some v =>
    have hread := h.read f v hg
    rw [read_path hf] at hread
    split at hread
    · cases hread
    · exact (Except.ok.inj hread).symm

/-- A switch is what it is given, and off if it is given nothing. -/
theorem Follows.switch (h : Follows {} e entries) {f : Field} (hf : f ∈ switchFields) :
    e.holds f = .bool ((switchIn entries f).getD false) := by
  unfold switchIn
  cases hg : given? f entries with
  | none =>
    rw [h.kept f hg]
    cases f with
    | cxxMode | buildId => rfl
    | _ => exact absurd hf (by decide)
  | some v =>
    have hread := h.read f v hg
    rw [read_switch hf, boolOf_eq] at hread
    rw [Option.bind_some]
    cases hb : v.bool? with
    | none =>
      rw [hb] at hread
      cases hread
    | some b =>
      rw [hb] at hread
      exact (Except.ok.inj hread).symm

/-- The include directories are those that are given, and none if nothing is given. -/
theorem Follows.includeDirs (h : Follows {} e entries) :
    e.includeDirs = (dirsIn entries).getD [] := by
  unfold dirsIn
  cases hg : given? .includeDirs entries with
  | none => exact includeDirs_of_holds (h.kept .includeDirs hg)
  | some v =>
    obtain ⟨dirs, hdirs, hholds⟩ := exists_of_map_eq_ok (h.read .includeDirs v hg)
    rw [Option.bind_some, hdirs]
    exact includeDirs_of_holds hholds.symm

end Mapping

end Environment

end TargetResolution
