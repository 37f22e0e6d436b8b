import TargetResolution.Proofs.Environment.Mapping

/-!
The shape that mappings of environments must have. Every key is that of a field; a switch is given a
truth value, the include directories are given a list of texts, and a path may be given anything.
Main statement: a mapping of plain data is taken if it has this shape and refused if it has not,
unless the include directories are given a number or a truth value, or a path is given a whole
number that is too long to be written, where reading fails in another way, or the include
directories are given a mapping, the keys of which are taken.
-/

namespace TargetResolution

/-- Whether a value is of one of the common kinds of plain data. -/
def Value.IsPlain : Value → Prop
  | .null | .bool _ | .int _ | .float _ | .str _ | .list _ | .map _ => True
  | _ => False

namespace Environment

/-- Whether an error is a complaint about the shape of a mapping. The others come from values that
are read as if they had that shape. -/
def Error.IsRefusal : Error → Prop
  | .unknownKeys _ | .notBoolean _ | .includeDirsNotPaths => True
  | _ => False

namespace Field

/-- Whether a field may be given a value. -/
def Admits (f : Field) (v : Value) : Prop :=
  match f with
  | .sysroot | .installedDir | .resourceDir | .driverDir => True
  | .cxxMode | .buildId => ∃ b, v = .bool b
  | .includeDirs => ∃ dirs : List String, v = .list (dirs.map .str)

/-- Whether reading a value fails without a complaint about its shape: directories that are no
collection, and paths that cannot be written. -/
def Stumbles (f : Field) (v : Value) : Prop :=
  match f with
  | .sysroot | .installedDir | .resourceDir | .driverDir => v.hasLongInteger = true
  | .cxxMode | .buildId => False
  | .includeDirs => (∃ b, v = .bool b) ∨ (∃ n, v = .int n) ∨ ∃ x, v = .float x

/-- Whether a mapping is taken for the list of its keys. -/
def Overreads (f : Field) (v : Value) : Prop :=
  f = .includeDirs ∧
    ∃ (entries : List (Value × Value)) (dirs : List String),
      v = .map entries ∧ entries.map (·.1) = dirs.map .str

/-- Whether a field takes a value. -/
def Accepts (f : Field) (v : Value) : Prop := (f.Admits v ∧ ¬f.Stumbles v) ∨ f.Overreads v

/-- Whether a result of reading a value is what its shape lets one expect. -/
def Foresees (f : Field) (v : Value) : Except Error Value → Prop
  | .ok _ => f.Accepts v ∧ ¬f.Stumbles v
  | .error error => ¬f.Accepts v ∧ (error.IsRefusal ↔ ¬f.Stumbles v)

end Field

/-- Whether a mapping has the documented shape. -/
def Documented (entries : List (Value × Value)) : Prop :=
  Known entries ∧
    ∀ x ∈ entries, ∀ f, Field.ofKey? x.1 = some f → x.2.isNull = false → f.Admits x.2

/-- Whether an entry of a mapping goes through. -/
def Passes (x : Value × Value) : Prop :=
  ∀ f, Field.ofKey? x.1 = some f → x.2.isNull = false → f.Accepts x.2

/-- Whether a field stumbles over a value and all entries before it go through. -/
def Stumbles (entries : List (Value × Value)) : Prop :=
  ∃ before key v after f, entries = before ++ (key, v) :: after ∧ (∀ x ∈ before, Passes x) ∧
    Field.ofKey? key = some f ∧ f.Stumbles v

/-- Whether all entries go through, one of them as a mapping that is taken for a list. -/
def Overreads (entries : List (Value × Value)) : Prop :=
  (∀ x ∈ entries, Passes x) ∧ ∃ x ∈ entries, ∃ f, Field.ofKey? x.1 = some f ∧ f.Overreads x.2

/-! ### Values -/

theorem Field.not_stumbles_null (f : Field) : ¬f.Stumbles .null := by
  cases f <;> simp [Stumbles, Value.hasLongInteger]

theorem Field.not_admits_of_overreads {f : Field} {v : Value} (h : f.Overreads v) :
    ¬f.Admits v := by
  obtain ⟨rfl, entries, dirs, rfl, -⟩ := h
  simp [Admits]

theorem foresees_path {f : Field} (hf : f ∈ pathFields) (v : Value) : f.Foresees v (f.read v) := by
  have hadmits : f.Admits v := by
    cases f with
    | cxxMode | buildId | includeDirs => exact absurd hf (by decide)
    | _ => trivial
  have hstumbles : f.Stumbles v ↔ v.hasLongInteger = true := by
    cases f with
    | cxxMode | buildId | includeDirs => exact absurd hf (by decide)
    | _ => rfl
  have hoverreads : ¬f.Overreads v := fun h => Field.not_admits_of_overreads h hadmits
  rw [read_path hf]
  split
  next hlong =>
    have := hstumbles.2 hlong
    simp [Field.Foresees, Field.Accepts, Error.IsRefusal, this, hoverreads]
  next hshort =>
    have := mt hstumbles.1 hshort
    exact ⟨Or.inl ⟨hadmits, this⟩, this⟩

theorem foresees_switch {f : Field} (hf : f ∈ switchFields) (v : Value) :
    f.Foresees v (f.read v) := by
  have hadmits : f.Admits v ↔ ∃ b, v = .bool b := by
    cases f with
    | cxxMode | buildId => rfl
    | _ => exact absurd hf (by decide)
  have hstumbles : ¬f.Stumbles v := by
    cases f with
    | cxxMode | buildId => exact id
    | _ => exact absurd hf (by decide)
  have hoverreads : ¬f.Overreads v := by
    rintro ⟨rfl, -⟩
    exact absurd hf (by decide)
  rw [read_switch hf]
  cases v with
  | bool b => exact ⟨Or.inl ⟨hadmits.2 ⟨b, rfl⟩, hstumbles⟩, hstumbles⟩
  | _ =>
    refine ⟨?_, iff_of_true trivial hstumbles⟩
    rintro (⟨h, -⟩ | h)
    · obtain ⟨b, hb⟩ := hadmits.1 h
      cases hb
    · exact hoverreads h

theorem includeDirsOf_items (items : List Value) :
    includeDirsOf (.list items) =
      (Value.texts? items).elim (.error .includeDirsNotPaths) .ok := by
  cases h : Value.texts? items <;> simp [includeDirsOf, h]

theorem includeDirsOf_keys (entries : List (Value × Value)) :
    includeDirsOf (.map entries) =
      (Value.texts? (entries.map (·.1))).elim (.error .includeDirsNotPaths) .ok := by
  cases h : Value.texts? (entries.map (·.1)) <;> simp [includeDirsOf, h]

theorem foresees_includeDirs {v : Value} (hplain : v.IsPlain) (hv : v.isNull = false) :
    Field.includeDirs.Foresees v (Field.includeDirs.read v) := by
  cases v with
  | null => cases hv
  | bool | int | float | str =>
    simp [Field.read, includeDirsOf, Except.map, Field.Foresees, Field.Accepts, Field.Admits,
      Field.Stumbles, Field.Overreads, Error.IsRefusal]
  | list items =>
    have hstumbles : ¬Field.includeDirs.Stumbles (.list items) := by simp [Field.Stumbles]
    rw [Field.read, includeDirsOf_items]
    cases htexts : Value.texts? items with
    | some dirs =>
      exact ⟨Or.inl ⟨⟨dirs, by rw [Value.texts?_eq_some_iff.1 htexts]⟩, hstumbles⟩, hstumbles⟩
    | none =>
      refine ⟨?_, iff_of_true trivial hstumbles⟩
      rintro (⟨⟨dirs, hdirs⟩, -⟩ | ⟨-, _, _, hmap, -⟩)
      · rw [Value.texts?_eq_some_iff.2 (Value.list.inj hdirs)] at htexts
        cases htexts
      · cases hmap
  | map entries =>
    have hstumbles : ¬Field.includeDirs.Stumbles (.map entries) := by simp [Field.Stumbles]
    rw [Field.read, includeDirsOf_keys]
    cases htexts : Value.texts? (entries.map (·.1)) with
    | some dirs =>
      exact ⟨Or.inr ⟨rfl, entries, dirs, rfl, Value.texts?_eq_some_iff.1 htexts⟩, hstumbles⟩
    | none =>
      refine ⟨?_, iff_of_true trivial hstumbles⟩
      rintro (⟨⟨_, hlist⟩, -⟩ | ⟨-, _, dirs, hmap, hdirs⟩)
      · cases hlist
      · rw [← Value.map.inj hmap, ← Value.texts?_eq_some_iff] at hdirs
        rw [hdirs] at htexts
        cases htexts
  | _ => exact absurd hplain id

/-- Reading a value of plain data comes out as its shape lets one expect. -/
theorem Field.foresees (f : Field) {v : Value} (hplain : v.IsPlain) (hv : v.isNull = false) :
    f.Foresees v (f.read v) := by
  cases f with
  | sysroot | installedDir | resourceDir | driverDir => exact foresees_path (by decide) v
  | cxxMode | buildId => exact foresees_switch (by decide) v
  | includeDirs => exact foresees_includeDirs hplain hv

section Field

variable {f : Field} {v : Value} (hplain : v.IsPlain) (hv : v.isNull = false)
include hplain hv

theorem Field.exists_read_iff : (∃ w, f.read v = .ok w) ↔ f.Accepts v := by
  have hforesees := f.foresees hplain hv
  cases hread : f.read v with
  | ok w =>
    rw [hread] at hforesees
    exact iff_of_true ⟨w, rfl⟩ hforesees.1
  | error error =>
    rw [hread] at hforesees
    exact iff_of_false (by simp) hforesees.1

theorem Field.isRefusal_iff {error : Error} (hread : f.read v = .error error) :
    error.IsRefusal ↔ ¬f.Stumbles v := by
  have hforesees := f.foresees hplain hv
  rw [hread] at hforesees
  exact hforesees.2

theorem Field.exists_error_of_stumbles (h : f.Stumbles v) :
    ∃ error, f.read v = .error error ∧ ¬error.IsRefusal := by
  have hforesees := f.foresees hplain hv
  cases hread : f.read v with
  | ok w =>
    rw [hread] at hforesees
    exact absurd h hforesees.2
  | error error =>
    exact ⟨error, rfl, fun hrefusal => (isRefusal_iff hplain hv hread).1 hrefusal h⟩

end Field

/-! ### Mappings -/

theorem exists_eq_map_str {items : List Value} (h : ∀ v ∈ items, ∃ s, v = .str s) :
    ∃ texts : List String, items = texts.map .str := by
  induction items with
  | nil => exact ⟨[], rfl⟩
  | cons v items ih =>
    obtain ⟨⟨s, rfl⟩, hrest⟩ := List.forall_mem_cons.1 h
    obtain ⟨texts, rfl⟩ := ih hrest
    exact ⟨s :: texts, rfl⟩

section Mapping

variable {entries : List (Value × Value)}

theorem taken_iff_passes {x : Value × Value} (hplain : x.2.IsPlain) : Taken x ↔ Passes x :=
  forall_congr' fun _ => imp_congr_right fun _ => forall_congr' fun hv =>
    Field.exists_read_iff hplain hv

/-- Unknown keys that are texts are complained about. -/
theorem isRefusal_of_not_known (hkeys : ∀ x ∈ entries, ∃ key, x.1 = .str key)
    (h : ¬Known entries) : ∃ error, ofMapping entries = .error error ∧ error.IsRefusal := by
  obtain ⟨keys, hmem, herror⟩ := ofMapping_of_not_known h
  have htexts : ∀ k ∈ keys, ∃ key, k = .str key := by
    intro k hk
    obtain ⟨x, hx, rfl⟩ := List.mem_map.1 (hmem k hk)
    exact hkeys x hx
  obtain ⟨names, rfl⟩ := exists_eq_map_str htexts
  refine ⟨_, herror, ?_⟩
  unfold unknownKeysError
  rw [Value.texts?_map_str]
  trivial

/-- If all keys are known, an error comes from the first entry that does not go through. -/
theorem ofMapping_eq_error_iff (hplain : ∀ x ∈ entries, x.2.IsPlain) (hknown : Known entries)
    {error : Error} :
    ofMapping entries = .error error ↔
      ∃ before key v after f, entries = before ++ (key, v) :: after ∧ (∀ x ∈ before, Passes x) ∧
        Field.ofKey? key = some f ∧ v.isNull = false ∧ f.read v = .error error := by
  rw [ofMapping_of_known hknown, foldlM_setEntry_eq_error_iff]
  refine exists_congr fun before => exists_congr fun key => exists_congr fun v =>
    exists_congr fun after => exists_congr fun f => and_congr_right fun hsplit => ?_
  refine and_congr_left fun _ => forall₂_congr fun x hx => taken_iff_passes (hplain x ?_)
  rw [hsplit]
  exact List.mem_append_left _ hx

/-- A mapping yields an environment exactly if all entries go through. -/
theorem exists_ofMapping_iff (hplain : ∀ x ∈ entries, x.2.IsPlain) :
    (∃ e, ofMapping entries = .ok e) ↔ Known entries ∧ ∀ x ∈ entries, Passes x := by
  have hpasses : (∀ x ∈ entries, Taken x) ↔ ∀ x ∈ entries, Passes x :=
    forall₂_congr fun x hx => taken_iff_passes (hplain x hx)
  rw [← hpasses]
  constructor
  · rintro ⟨e, he⟩
    obtain ⟨hknown, htaken, -⟩ := ofMapping_eq_ok_iff.1 he
    exact ⟨hknown, htaken⟩
  · rintro ⟨hknown, htaken⟩
    rw [ofMapping_of_known hknown]
    exact foldlM_of_taken htaken {}

/-- An error is no complaint about the shape exactly if a field stumbles. -/
theorem exists_not_isRefusal_iff (hkeys : ∀ x ∈ entries, ∃ key, x.1 = .str key)
    (hplain : ∀ x ∈ entries, x.2.IsPlain) :
    (∃ error, ofMapping entries = .error error ∧ ¬error.IsRefusal) ↔
      Known entries ∧ Stumbles entries := by
  by_cases hknown : Known entries
  · rw [and_iff_right hknown]
    constructor
    · rintro ⟨error, herror, hother⟩
      obtain ⟨before, key, v, after, f, hsplit, hbefore, hkey, hv, hread⟩ :=
        (ofMapping_eq_error_iff hplain hknown).1 herror
      have hplain' := hplain (key, v) (by simp [hsplit])
      rw [Field.isRefusal_iff hplain' hv hread, Classical.not_not] at hother
      exact ⟨before, key, v, after, f, hsplit, hbefore, hkey, hother⟩
    · rintro ⟨before, key, v, after, f, hsplit, hbefore, hkey, hstumbles⟩
      have hv : v.isNull = false := by
        cases v <;> first | rfl | exact absurd hstumbles f.not_stumbles_null
      have hplain' := hplain (key, v) (by simp [hsplit])
      obtain ⟨error, hread, hother⟩ := Field.exists_error_of_stumbles hplain' hv hstumbles
      exact ⟨error, (ofMapping_eq_error_iff hplain hknown).2
        ⟨before, key, v, after, f, hsplit, hbefore, hkey, hv, hread⟩, hother⟩
  -- unknown keys are complained about before any value is looked at
  · obtain ⟨error, herror, hrefusal⟩ := isRefusal_of_not_known hkeys hknown
    refine iff_of_false ?_ fun h => hknown h.1
    rintro ⟨error', herror', hother⟩
    obtain rfl := Except.error.inj (herror.symm.trans herror')
    exact hother hrefusal

theorem foldlM_setEntry_filter (e : Environment) :
    (entries.filter fun x => !x.2.isNull).foldlM setEntry e = entries.foldlM setEntry e := by
  induction entries generalizing e with
  | nil => rfl
  | cons x entries ih =>
    cases hx : x.2.isNull with
    | true =>
      rw [List.filter_cons_of_neg (by simp [hx]), ih, List.foldlM_cons,
        setEntry_of_idle (Or.inr hx)]
      rfl
    | false =>
      rw [List.filter_cons_of_pos (by simp [hx]), List.foldlM_cons, List.foldlM_cons]
      exact bind_congr ih

/-- Entries with null make no difference. -/
theorem ofMapping_filter (h : Known entries) :
    ofMapping (entries.filter fun x => !x.2.isNull) = ofMapping entries := by
  rw [ofMapping_of_known h, ofMapping_of_known fun x hx => h x (List.mem_filter.1 hx).1]
  exact foldlM_setEntry_filter {}

/-- A documented mapping goes through unless a field stumbles, and what goes through is documented
unless a mapping is taken for a list. -/
theorem exists_ofMapping_iff_documented (hplain : ∀ x ∈ entries, x.2.IsPlain)
    (hstumbles : ¬(Known entries ∧ Stumbles entries))
    (hoverreads : ¬(Known entries ∧ Overreads entries)) :
    (∃ e, ofMapping entries = .ok e) ↔ Documented entries := by
  constructor
  · intro hok
    obtain ⟨hknown, hpasses⟩ := (exists_ofMapping_iff hplain).1 hok
    refine ⟨hknown, fun x hx f hf hv => ?_⟩
    rcases hpasses x hx f hf hv with ⟨hadmits, -⟩ | hover
    · exact hadmits
    · exact absurd ⟨hknown, hpasses, x, hx, f, hf, hover⟩ hoverreads
  · rintro ⟨hknown, hadmits⟩
    cases hresult : ofMapping entries with
    | ok e => exact ⟨e, rfl⟩
    | error error =>
      obtain ⟨before, key, v, after, f, hsplit, hbefore, hkey, hv, hread⟩ :=
        (ofMapping_eq_error_iff hplain hknown).1 hresult
      have hmem : (key, v) ∈ entries := by simp [hsplit]
      have haccepts : ¬f.Accepts v := by
        rw [← Field.exists_read_iff (hplain _ hmem) hv, hread]
        simp
      have hadmits' := hadmits _ hmem f hkey hv
      -- the value may be given and is not accepted, which leaves only stumbling
      refine absurd ⟨hknown, before, key, v, after, f, hsplit, hbefore, hkey, ?_⟩ hstumbles
      exact Classical.byContradiction fun hfine => haccepts (Or.inl ⟨hadmits', hfine⟩)

/-- A mapping from texts to plain data yields an environment exactly if it is documented, and is
refused if not, unless a field stumbles or a mapping is taken for a list, and then one of the two
fails. A mapping goes through exactly if all entries do, and ends without a refusal exactly if a
field stumbles. Null stands for nothing, and what the environment holds is what the mapping
gives. -/
theorem ofMapping_keeps_to_shape_iff (hkeys : ∀ x ∈ entries, ∃ key, x.1 = .str key)
    (hplain : ∀ x ∈ entries, x.2.IsPlain) :
    ((((∃ e, ofMapping entries = .ok e) ↔ Documented entries) ∧
        ∀ error, ofMapping entries = .error error → error.IsRefusal) ↔
      ¬(Known entries ∧ (Stumbles entries ∨ Overreads entries))) ∧
    ((∃ e, ofMapping entries = .ok e) ↔ Known entries ∧ ∀ x ∈ entries, Passes x) ∧
    ((∃ error, ofMapping entries = .error error ∧ ¬error.IsRefusal) ↔
      Known entries ∧ Stumbles entries) ∧
    (Known entries → ofMapping (entries.filter fun x => !x.2.isNull) = ofMapping entries) ∧
    ∀ e, ofMapping entries = .ok e →
      (∀ f ∈ pathFields, e.holds f = .str ((textIn entries f).getD "")) ∧
      (∀ f ∈ switchFields, e.holds f = .bool ((switchIn entries f).getD false)) ∧
      e.includeDirs = (dirsIn entries).getD [] := by
  have hok := exists_ofMapping_iff hplain
  have hother := exists_not_isRefusal_iff hkeys hplain
  refine ⟨⟨?_, fun hfine => ⟨?_, fun error herror => ?_⟩⟩, hok, hother, ofMapping_filter,
    fun e he => ?_⟩
  · rintro ⟨hshape, hrefused⟩ ⟨hknown, hstumbles | hoverreads⟩
    · obtain ⟨error, herror, hnot⟩ := hother.2 ⟨hknown, hstumbles⟩
      exact hnot (hrefused error herror)
    · obtain ⟨-, hadmits⟩ := hshape.1 (hok.2 ⟨hknown, hoverreads.1⟩)
      obtain ⟨-, x, hx, f, hf, hover⟩ := hoverreads
      refine Field.not_admits_of_overreads hover (hadmits x hx f hf ?_)
      obtain ⟨-, _, _, hv, -⟩ := hover
      rw [hv]
      rfl
  · exact exists_ofMapping_iff_documented hplain (fun h => hfine ⟨h.1, Or.inl h.2⟩)
      fun h => hfine ⟨h.1, Or.inr h.2⟩
  · refine Classical.byContradiction fun hnot => ?_
    obtain ⟨hknown, hstumbles⟩ := hother.1 ⟨error, herror, hnot⟩
    exact hfine ⟨hknown, Or.inl hstumbles⟩
  · obtain ⟨-, -, hfollows⟩ := ofMapping_eq_ok_iff.1 he
    exact ⟨fun f hf => hfollows.path hf, fun f hf => hfollows.switch hf, hfollows.includeDirs⟩

theorem ofMapping_keeps_to_shape_mixed :
    let entries : List (Value × Value) :=
      [(.str "sysroot_override", .list [.int 1, .str "a"]), (.str "cxx_mode", .null),
        (.str "enable_linker_build_id", .bool true), (.str "c_include_dirs", .list [.str "/i"])]
    let e : Environment := { sysroot := "[1, 'a']", buildId := true, includeDirs := ["/i"] }
    Documented entries ∧ ¬(Known entries ∧ (Stumbles entries ∨ Overreads entries)) ∧
      ofMapping entries = .ok e ∧ ofMapping (entries.eraseIdx 1) = .ok e := by
  intro entries e
  have he : ofMapping entries = .ok e := eq_ok_of_toOption_eq_some (by decide +kernel)
  have hdocumented : Documented entries := by
    refine ⟨(ofMapping_eq_ok_iff.1 he).1, fun x hx f hf hv => ?_⟩
    simp only [entries, List.mem_cons, List.not_mem_nil, or_false] at hx
    rcases hx with rfl | rfl | rfl | rfl
    · obtain rfl : Field.sysroot = f := Option.some.inj hf
      trivial
    · cases hv
    · obtain rfl : Field.buildId = f := Option.some.inj hf
      exact ⟨true, rfl⟩
    · obtain rfl : Field.includeDirs = f := Option.some.inj hf
      exact ⟨["/i"], rfl⟩
  obtain ⟨hshape, -, -, hnull, -⟩ :=
    @ofMapping_keeps_to_shape_iff entries (by simp [entries])
      (by simp [entries, Value.IsPlain])
  refine ⟨hdocumented, hshape.1 ⟨iff_of_true ⟨e, he⟩ hdocumented, ?_⟩, he, ?_⟩
  · simp [he]
  · exact (hnull hdocumented.1).trans he

theorem number_for_include_dirs_not_refused :
    let entries : List (Value × Value) := [(.str "c_include_dirs", .int 5)]
    ¬Documented entries ∧ ofMapping entries = .error (.includeDirsNotCollection "int") ∧
      ¬∀ error, ofMapping entries = .error error → error.IsRefusal := by
  intro entries
  have herror : ofMapping entries = .error (.includeDirsNotCollection "int") := rfl
  refine ⟨?_, herror, fun h => h _ herror⟩
  rintro ⟨-, hadmits⟩
  obtain ⟨dirs, hdirs⟩ := hadmits _ (List.mem_singleton_self _) .includeDirs rfl rfl
  cases hdirs

end Mapping

end Environment

end TargetResolution
