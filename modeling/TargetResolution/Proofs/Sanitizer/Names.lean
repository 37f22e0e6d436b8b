import Mathlib.Data.List.Nodup
import TargetResolution.Sanitizer

/-!
The names of sanitizer sets. Each sanitizer has a bit and a spelling of its own, and a set is known
by its bits, hence by its names. Main statement: the names of a set are the spellings of its
sanitizers, each once and in ascending order, so that sets are combined as their names are and are
found again from them.
-/

namespace TargetResolution

open Text

namespace Sanitizer

/-! ### Bits and spellings -/

theorem mem_all (s : Sanitizer) : s ∈ all := by cases s <;> decide

theorem Group.mem_all (g : Group) : g ∈ Group.all := by cases g <;> decide

theorem nodup_all : all.Nodup := by decide +kernel

theorem index_lt (s : Sanitizer) : s.index < 51 := List.idxOf_lt_length_of_mem (mem_all s)

theorem index_injective : Function.Injective index := by
  intro s t h
  exact (List.idxOf_inj (mem_all s)).1 h

/-- Every bit is that of a sanitizer. -/
theorem exists_index_eq {i : Nat} (h : i < 51) : ∃ s : Sanitizer, s.index = i :=
  ⟨all[i], nodup_all.idxOf_getElem i h⟩

/-- All spellings differ, those of the groups too. -/
theorem nodup_spellings : (all.map spelling ++ Group.all.map Group.spelling).Nodup := by
  decide +kernel

theorem spelling_injective : Function.Injective spelling := by
  intro s t h
  exact List.inj_on_of_nodup_map nodup_spellings.of_append_left (mem_all s) (mem_all t) h

theorem Group.spelling_ne (g : Group) (s : Sanitizer) : g.spelling ≠ s.spelling := by
  intro h
  have hs : s.spelling ∈ Sanitizer.all.map Sanitizer.spelling :=
    List.mem_map_of_mem (Sanitizer.mem_all s)
  have hg : g.spelling ∈ Group.all.map Group.spelling := List.mem_map_of_mem g.mem_all
  exact List.disjoint_of_nodup_append nodup_spellings hs (h ▸ hg)

end Sanitizer

namespace SanitizerSet

variable {a b : SanitizerSet} {s : Sanitizer} {n : String}

/-! ### Sets by their members -/

@[simp] theorem has_union : (a.union b).has s = (a.has s || b.has s) := by simp [has, union]

@[simp] theorem has_inter : (a.inter b).has s = (a.has s && b.has s) := by simp [has, inter]

@[simp] theorem has_diff : (a.diff b).has s = (a.has s && !b.has s) := by
  simp [has, diff, s.index_lt]

@[simp] theorem has_single {t : Sanitizer} : (single t).has s = decide (t = s) := by
  rw [has, single, ← BitVec.twoPow_eq, BitVec.getLsbD_twoPow]
  simp [t.index_lt, Sanitizer.index_injective.eq_iff]

/-- Sets with the same members are the same. -/
theorem eq_of_has_eq (h : ∀ s, a.has s = b.has s) : a = b := by
  obtain ⟨x⟩ := a
  obtain ⟨y⟩ := b
  refine congrArg mk (BitVec.eq_of_getLsbD_eq fun i hi => ?_)
  obtain ⟨s, rfl⟩ := Sanitizer.exists_index_eq hi
  exact h s

theorem has_foldl_union (members : List Sanitizer) (a : SanitizerSet) (s : Sanitizer) :
    (members.foldl (fun a t => a.union (single t)) a).has s =
      (a.has s || decide (s ∈ members)) := by
  induction members generalizing a with
  | nil => simp
  | cons t members ih =>
    rw [List.foldl_cons, ih, has_union, has_single]
    simp [eq_comm, Bool.or_assoc]

theorem has_ofList (members : List Sanitizer) : (ofList members).has s = decide (s ∈ members) := by
  rw [ofList, has_foldl_union]
  simp [has, empty]

/-! ### Names -/

theorem mem_names : n ∈ a.names ↔ ∃ s, a.has s = true ∧ s.spelling = n := by
  simp [names, mem_sorted, toList, Sanitizer.mem_all]

@[simp] theorem spelling_mem_names : s.spelling ∈ a.names ↔ a.has s = true := by
  rw [mem_names]
  constructor
  · rintro ⟨t, ht, hspelling⟩
    rwa [← Sanitizer.spelling_injective hspelling]
  · exact fun h => ⟨s, h, rfl⟩

/-- A text that no sanitizer is spelled like is a name in no set. -/
theorem spelling_or_not_mem (n : String) :
    (∃ s : Sanitizer, s.spelling = n) ∨ ∀ a : SanitizerSet, n ∉ a.names := by
  refine or_iff_not_imp_left.2 fun hn a h => ?_
  obtain ⟨s, -, hs⟩ := mem_names.1 h
  exact hn ⟨s, hs⟩

theorem nodup_names (a : SanitizerSet) : a.names.Nodup := by
  rw [names, (sorted_perm _).nodup_iff]
  exact (Sanitizer.nodup_all.filter _).map Sanitizer.spelling_injective

/-- The names ascend strictly, since none occurs twice. -/
theorem pairwise_names (a : SanitizerSet) : a.names.Pairwise (· < ·) := by
  have hdistinct := (pairwise_sorted (a.toList.map Sanitizer.spelling)).and a.nodup_names
  exact hdistinct.imp fun h => Std.lt_of_le_of_ne h.1 h.2

/-- The set of the sanitizers with some spellings. -/
def ofNames (names : List String) : SanitizerSet :=
  ofList (Sanitizer.all.filter fun s => s.spelling ∈ names)

theorem ofNames_names (a : SanitizerSet) : ofNames a.names = a := by
  refine eq_of_has_eq fun s => ?_
  simp [ofNames, has_ofList, Sanitizer.mem_all, spelling_mem_names]

theorem names_injective : Function.Injective names :=
  Function.LeftInverse.injective ofNames_names

/-! ### Members of the enumeration -/

/-- What has a name of its own: a sanitizer or a group. -/
inductive Member where
  | sanitizer (s : Sanitizer)
  | group (g : Sanitizer.Group)
  deriving DecidableEq, Repr

namespace Member

/-- All members: the sanitizers in the order of their bits, and the groups behind them. -/
def all : List Member := Sanitizer.all.map .sanitizer ++ Sanitizer.Group.all.map .group

/-- The name of a member in capitals. -/
def capitalName : Member → String
  | .sanitizer s => Sanitizer.capitals s.spelling
  | .group g => Sanitizer.capitals g.spelling

/-- The set of a member. -/
def mask : Member → SanitizerSet
  | .sanitizer s => .single s
  | .group g => .ofGroup g

/-- A character of a name in capitals as options spell it. -/
def smallOf (c : Char) : Char := if c = '_' then '-' else c.toLower

/-- The name of a member in small letters, with dashes between its words. -/
def spelling (m : Member) : String := m.capitalName.map smallOf

/-- Whether a character occurs in spellings: a dash, or a small letter of the Latin script. -/
def isSmall (c : Char) : Bool := c == '-' || (0x61 ≤ c.toNat && c.toNat ≤ 0x7A)

theorem smallOf_capital {c : Char} (h : isSmall c = true) :
    smallOf (if c = '-' then '_' else c.toUpper) = c := by
  by_cases hdash : c = '-'
  · rw [if_pos hdash, hdash]
    rfl
  · have hletters : ∀ k < 26, smallOf (Char.ofNat (0x61 + k)).toUpper = Char.ofNat (0x61 + k) := by
      decide
    have hbounds : 0x61 ≤ c.toNat ∧ c.toNat ≤ 0x7A := by simpa [isSmall, hdash] using h
    have hc : Char.ofNat (0x61 + (c.toNat - 0x61)) = c := by
      rw [Nat.add_sub_cancel' hbounds.1, Char.ofNat_toNat]
    have hletter := hletters (c.toNat - 0x61) (by omega)
    rw [if_neg hdash]
    rwa [hc] at hletter

/-- Spellings come back when they are put into capitals and made small again. -/
theorem spelling_sanitizer (s : Sanitizer) : (sanitizer s).spelling = s.spelling := by
  have hall : ∀ s ∈ Sanitizer.all, s.spelling.toList.all isSmall = true := by decide +kernel
  have hsmall := List.all_eq_true.1 (hall s s.mem_all)
  rw [spelling, capitalName, Sanitizer.capitals, ← String.toList_inj, String.toList_map,
    String.toList_map, List.map_map]
  exact (List.map_congr_left fun c hc => smallOf_capital (hsmall c hc)).trans (List.map_id _)

end Member

/-- Whether a word is not zero and loses its only bit when it is met with the word before it. -/
def isSingle (a : SanitizerSet) : Bool :=
  a.bits.toNat != 0 && a.bits.toNat &&& (a.bits.toNat - 1) == 0

/-- The members whose word has one bit. -/
def Member.singles : List Member := Member.all.filter fun m => m.mask.isSingle

/-- Whether two sets have a sanitizer in common. -/
def meets (a b : SanitizerSet) : Bool := a.bits &&& b.bits != 0

/-- The words of one bit are those of the single sanitizers. -/
theorem isSingle_iff : a.isSingle = true ↔ ∃ s, a = single s := by
  have hpower : a.isSingle = true ↔ a.bits.toNat.isPowerOfTwo := by
    rw [← Nat.ne_zero_and_sub_one_eq_zero_iff_isPowerOfTwo]
    simp [isSingle]
  have htoNat : ∀ s : Sanitizer, (single s).bits.toNat = 2 ^ s.index := by
    intro s
    rw [single, ← BitVec.twoPow_eq, BitVec.toNat_twoPow_of_lt s.index_lt]
  rw [hpower]
  constructor
  · rintro ⟨i, hi⟩
    have hbound : 2 ^ i < 2 ^ 51 := hi ▸ a.bits.isLt
    obtain ⟨s, rfl⟩ := Sanitizer.exists_index_eq ((Nat.pow_lt_pow_iff_right (by decide)).1 hbound)
    refine ⟨s, ?_⟩
    obtain ⟨x⟩ := a
    exact congrArg mk (BitVec.eq_of_toNat_eq (hi.trans (htoNat s).symm))
  · rintro ⟨s, rfl⟩
    exact ⟨s.index, htoNat s⟩

theorem meets_single : (single s).meets a = a.has s := by
  have hne : BitVec.twoPow 51 s.index ≠ 0#51 := by
    intro h
    have hbit := congrArg (fun x => x.getLsbD s.index) h
    simp [s.index_lt] at hbit
  rw [meets, has, single, ← BitVec.twoPow_eq, BitVec.twoPow_and]
  cases a.bits.getLsbD s.index <;> simp [hne]

theorem not_isSingle_ofGroup (g : Sanitizer.Group) : (ofGroup g).isSingle = false := by
  cases g <;> decide +kernel

/-- No group is single, and every sanitizer is. -/
theorem Member.singles_eq : Member.singles = Sanitizer.all.map .sanitizer := by
  rw [singles, all, List.filter_append, List.filter_eq_self.2, List.filter_eq_nil_iff.2,
    List.append_nil]
  · intro m hm
    obtain ⟨g, -, rfl⟩ := List.mem_map.1 hm
    simp [mask, not_isSingle_ofGroup]
  · intro m hm
    obtain ⟨s, -, rfl⟩ := List.mem_map.1 hm
    exact isSingle_iff.2 ⟨s, rfl⟩

theorem names_eq (a : SanitizerSet) :
    a.names = sorted ((Member.singles.filter fun m => m.mask.meets a).map Member.spelling) := by
  have hmeets : (fun m : Member => m.mask.meets a) ∘ Member.sanitizer = a.has :=
    funext fun s => meets_single
  have hspelling : Member.spelling ∘ Member.sanitizer = Sanitizer.spelling :=
    funext Member.spelling_sanitizer
  rw [Member.singles_eq, List.filter_map, List.map_map, hmeets, hspelling, names, toList]

/-- The names of a set are those of the members of one bit that meet it. They ascend strictly, they
are the spellings of its sanitizers, and no group is among them. Union, intersection and difference
of sets are those of their names, and a set is found again from its names, so that no other set has
the same ones. -/
theorem names_reflect_sets (a b : SanitizerSet) :
    a.names = sorted ((Member.singles.filter fun m => m.mask.meets a).map Member.spelling) ∧
    a.names.Pairwise (· < ·) ∧
    (∀ n, n ∈ a.names ↔ ∃ s, a.has s = true ∧ s.spelling = n) ∧
    (∀ g : Sanitizer.Group, g.spelling ∉ a.names) ∧
    (∀ n, n ∈ (a.union b).names ↔ n ∈ a.names ∨ n ∈ b.names) ∧
    (∀ n, n ∈ (a.inter b).names ↔ n ∈ a.names ∧ n ∈ b.names) ∧
    (∀ n, n ∈ (a.diff b).names ↔ n ∈ a.names ∧ n ∉ b.names) ∧
    ofNames a.names = a ∧
    (a.names = b.names ↔ a = b) := by
  refine ⟨names_eq a, pairwise_names a, fun n => mem_names, ?_, ?_, ?_, ?_, ofNames_names a,
    names_injective.eq_iff⟩
  · intro g hg
    obtain ⟨s, -, hs⟩ := mem_names.1 hg
    exact g.spelling_ne s hs.symm
  · intro n
    rcases spelling_or_not_mem n with ⟨s, rfl⟩ | hn
    · simp
    · simp [hn]
  · intro n
    rcases spelling_or_not_mem n with ⟨s, rfl⟩ | hn
    · simp
    · simp [hn]
  · intro n
    rcases spelling_or_not_mem n with ⟨s, rfl⟩ | hn
    · simp
    · simp [hn]

end SanitizerSet

end TargetResolution
