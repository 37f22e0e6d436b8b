import TargetResolution.Proofs.Search.Run
import TargetResolution.Proofs.Text.Numeral
import TargetResolution.Resolution.SearchPath

/-!
The library directories of versions. The directory at a level shows the numbers of the version up to
that level, between one beginning and one end that all directories share. Main statement: two such
directories are the same only at the same level and for the same numbers, so a search finds each
directory once, the more specific before the less specific, and none of another version unless its
numbers are shown alike.
-/

namespace TargetResolution

open Text

namespace Version

/-- The numbers of a version that a library directory shows. The first level shows all three, each
further level one less. -/
def shownAt (v : Version) (level : Nat) : List Int := [v.major, v.minor, v.micro].take (3 - level)

theorem length_shownAt (v : Version) (level : Nat) : (v.shownAt level).length = 3 - level := by
  simp [shownAt]

/-- Only the same version shows the same numbers at the first level. -/
theorem shownAt_zero_inj {v w : Version} (h : v.shownAt 0 = w.shownAt 0) : v = w := by
  obtain ⟨major, minor, micro⟩ := v
  obtain ⟨major', minor', micro'⟩ := w
  simpa [shownAt] using h

end Version

namespace Sysroot

/-! ### Directories by level -/

/-- What a library directory shows of a version, between the directory of the target and the suffix
of a multilib. -/
def versionPart : List Int → String
  | [] => ""
  | n :: ns => "/" ++ joinWith '.' ((n :: ns).map toString)

theorem versionPart_inj {ns ms : List Int} (h : versionPart ns = versionPart ms) : ns = ms := by
  cases ns with
  | nil =>
    cases ms with
    | nil => rfl
    | cons m ms => simp [versionPart] at h
  | cons n ns =>
    cases ms with
    | nil => simp [versionPart] at h
    | cons m ms =>
      exact joinWith_toString_inj (by simp) (by simp) ((String.append_right_inj "/").1 h)

variable (s : Sysroot) (suffix : String)

/-- The library directory that shows some numbers. -/
def libraryDirOf (numbers : List Int) : String := s.libraryDir ++ versionPart numbers ++ suffix

theorem libraryDirOf_inj {ns ms : List Int}
    (h : s.libraryDirOf suffix ns = s.libraryDirOf suffix ms) : ns = ms := by
  have hmiddle := (String.append_left_inj suffix).1 h
  exact versionPart_inj ((String.append_right_inj s.libraryDir).1 hmiddle)

/-- The directories of a version are those of its levels. -/
theorem libraryCandidates_eq (v : Version) :
    s.libraryCandidates v suffix =
      (List.range 4).map fun level => s.libraryDirOf suffix (v.shownAt level) := by
  have hthree : ∀ a b c : String, joinWith '.' [a, b, c] = a ++ "." ++ b ++ "." ++ c := by
    intro a b c
    rw [← String.toList_inj, toList_joinWith]
    simp [unfields]
  have htwo : ∀ a b : String, joinWith '.' [a, b] = a ++ "." ++ b := by
    intro a b
    rw [← String.toList_inj, toList_joinWith]
    simp [unfields]
  simp [libraryCandidates, libraryDirOf, List.range, List.range.loop, Version.shownAt, versionPart,
    hthree, htwo, joinWith_singleton, String.append_assoc]

variable {s suffix}

theorem getElem?_libraryCandidates_eq_some_iff {v : Version} {level : Nat} {d : String} :
    (s.libraryCandidates v suffix)[level]? = some d ↔
      level < 4 ∧ s.libraryDirOf suffix (v.shownAt level) = d := by
  rw [libraryCandidates_eq, List.getElem?_map, Option.map_eq_some_iff]
  constructor
  · rintro ⟨k, hk, rfl⟩
    obtain ⟨hlt, rfl⟩ := List.getElem?_eq_some_iff.1 hk
    rw [List.length_range] at hlt
    rw [List.getElem_range]
    exact ⟨hlt, rfl⟩
  · rintro ⟨hlt, rfl⟩
    exact ⟨level, List.getElem?_range hlt, rfl⟩

/-- Directories of two versions are the same exactly at one level that shows both alike. -/
theorem getElem?_libraryCandidates_eq_iff (v w : Version) (i j : Fin 4) :
    (s.libraryCandidates v suffix)[i.val]? = (s.libraryCandidates w suffix)[j.val]? ↔
      i = j ∧ v.shownAt i = w.shownAt i := by
  have hi : (s.libraryCandidates v suffix)[i.val]? = some (s.libraryDirOf suffix (v.shownAt i)) :=
    getElem?_libraryCandidates_eq_some_iff.2 ⟨i.isLt, rfl⟩
  have hj : (s.libraryCandidates w suffix)[j.val]? = some (s.libraryDirOf suffix (w.shownAt j)) :=
    getElem?_libraryCandidates_eq_some_iff.2 ⟨j.isLt, rfl⟩
  rw [hi, hj, Option.some_inj]
  constructor
  · intro h
    have hshown := s.libraryDirOf_inj suffix h
    have hlength := congrArg List.length hshown
    rw [Version.length_shownAt, Version.length_shownAt] at hlength
    obtain rfl : i = j := by omega
    exact ⟨rfl, hshown⟩
  · rintro ⟨rfl, hshown⟩
    rw [hshown]

/-- Whether a library directory shows more numbers of a version than another one. -/
def IsMoreSpecific (s : Sysroot) (suffix d e : String) : Prop :=
  ∃ ns ms, s.libraryDirOf suffix ns = d ∧ s.libraryDirOf suffix ms = e ∧ ms.length < ns.length

theorem IsMoreSpecific.ne {d e : String} (h : s.IsMoreSpecific suffix d e) : d ≠ e := by
  obtain ⟨ns, ms, rfl, rfl, hlength⟩ := h
  intro heq
  rw [s.libraryDirOf_inj suffix heq] at hlength
  exact Nat.lt_irrefl _ hlength

/-- The directories of a version stand from the most to the least specific. -/
theorem pairwise_libraryCandidates (v : Version) :
    (s.libraryCandidates v suffix).Pairwise (s.IsMoreSpecific suffix) := by
  rw [libraryCandidates_eq, List.pairwise_map]
  refine List.Pairwise.imp_of_mem ?_ (List.pairwise_lt_range (n := 4))
  intro i j _ hj hlt
  refine ⟨_, _, rfl, rfl, ?_⟩
  rw [Version.length_shownAt, Version.length_shownAt]
  have := List.mem_range.1 hj
  omega

/-- Two library directories of versions are the same exactly if they stand at the same level and the
versions agree in the numbers that this level shows. So the directories of a version are distinct,
and a search finds the existing ones among them once each, every one more specific than those behind
it. If another version has one of them too, it has it at the same level and agrees in the numbers
shown there, which are not all three. -/
theorem library_directories_by_level (s : Sysroot) (suffix : String) :
    (∀ v w : Version, ∀ i j : Fin 4,
      (s.libraryCandidates v suffix)[i.val]? = (s.libraryCandidates w suffix)[j.val]? ↔
        i = j ∧ v.shownAt i = w.shownAt i) ∧
    ∀ v : Version,
      (s.libraryCandidates v suffix).length = 4 ∧ (s.libraryCandidates v suffix).Nodup ∧
      ∀ present : String → Bool,
        let dirs := (SearchPath.existing (s.libraryCandidates v suffix)).answer present
        (∀ d, d ∈ dirs ↔ d ∈ s.libraryCandidates v suffix ∧ present d = true) ∧
        dirs.Nodup ∧ dirs.Pairwise (s.IsMoreSpecific suffix) ∧
        ∀ (w : Version) (j : Nat) (d : String), d ∈ dirs →
          (s.libraryCandidates w suffix)[j]? = some d →
            (s.libraryCandidates v suffix)[j]? = some d ∧ v.shownAt j = w.shownAt j ∧
              (v ≠ w → 0 < j) := by
  refine ⟨getElem?_libraryCandidates_eq_iff, fun v => ?_⟩
  have hspecific : (s.libraryCandidates v suffix).Pairwise (s.IsMoreSpecific suffix) :=
    pairwise_libraryCandidates v
  have hnodup : (s.libraryCandidates v suffix).Nodup := hspecific.imp IsMoreSpecific.ne
  refine ⟨rfl, hnodup, fun present => ?_⟩
  rw [SearchPath.answer_existing]
  refine ⟨fun d => List.mem_filter, hnodup.filter _, hspecific.filter _, ?_⟩
  intro w j d hd hw
  obtain ⟨hj, -⟩ := getElem?_libraryCandidates_eq_some_iff.1 hw
  obtain ⟨i, hi⟩ := List.mem_iff_getElem?.1 (List.mem_filter.1 hd).1
  obtain ⟨hi', -⟩ := getElem?_libraryCandidates_eq_some_iff.1 hi
  obtain ⟨hlevel, hshown⟩ :=
    (getElem?_libraryCandidates_eq_iff v w ⟨i, hi'⟩ ⟨j, hj⟩).1 (hi.trans hw.symm)
  obtain rfl : i = j := congrArg Fin.val hlevel
  refine ⟨hi, hshown, fun hne => Nat.pos_of_ne_zero ?_⟩
  rintro rfl
  exact hne (Version.shownAt_zero_inj hshown)

theorem library_directories_by_level_shared_minor :
    let s : Sysroot := ⟨"/s", "arm-linux-ohos"⟩
    let dirs := (SearchPath.existing (s.libraryCandidates ⟨9, 2, 1⟩ "/a7_soft")).answer
      fun d => d ≠ "/s/usr/lib/arm-linux-ohos/9/a7_soft"
    (s.libraryCandidates ⟨9, 2, 1⟩ "/a7_soft")[1]? =
        (s.libraryCandidates ⟨9, 2, 10⟩ "/a7_soft")[1]? ∧
      (s.libraryCandidates ⟨1, 23, 4⟩ "/a7_soft")[0]? ≠
        (s.libraryCandidates ⟨12, 3, 4⟩ "/a7_soft")[0]? ∧
      dirs.Nodup ∧ "/s/usr/lib/arm-linux-ohos/9.2/a7_soft" ∈ dirs ∧
      ∀ j, (s.libraryCandidates ⟨9, 2, 10⟩ "/a7_soft")[j]? =
        some "/s/usr/lib/arm-linux-ohos/9.2/a7_soft" → 0 < j := by
  intro s dirs
  obtain ⟨hsame, hversion⟩ := library_directories_by_level s "/a7_soft"
  obtain ⟨-, -, hsearch⟩ := hversion ⟨9, 2, 1⟩
  obtain ⟨hmem, hnodup, -, hother⟩ := hsearch fun d => d ≠ "/s/usr/lib/arm-linux-ohos/9/a7_soft"
  have hshared : "/s/usr/lib/arm-linux-ohos/9.2/a7_soft" ∈ dirs :=
    (hmem _).2 ⟨by decide +kernel, by decide⟩
  refine ⟨(hsame _ _ 1 1).2 (by decide), ?_, hnodup, hshared, fun j hj => ?_⟩
  · exact mt (hsame _ _ 0 0).1 (by decide)
  · exact (hother _ j _ hshared hj).2.2 (by decide)

end Sysroot

end TargetResolution
