import TargetResolution.Proofs.Resolution.Questions
import TargetResolution.Proofs.Text.Numeral
import TargetResolution.Proofs.Triple.Places

/-!
Environments of triples. An environment is cut into a name and the numbers of a version in one way
at most, and into none if it is no name with dotted decimal numbers behind it. Main statement: what
is read from an accepted text are the name and the first three numbers, and every name and version
that is written as an environment is read back and heads the library directories.
-/

namespace TargetResolution

open Text

/-- A text that is a name of letters and underscores with nothing or dotted decimal numbers behind
it. -/
structure IsEnvironment (environment name : String) (numbers : List String) : Prop where
  split : environment = name ++ joinWith '.' numbers
  name_chars : ∀ c ∈ name.toList, isNameChar c = true
  digits : ∀ n ∈ numbers, n ≠ "" ∧ ∀ c ∈ n.toList, isDecimalDigit c = true

instance (environment name : String) (numbers : List String) :
    Decidable (IsEnvironment environment name numbers) :=
  decidable_of_iff (environment = name ++ joinWith '.' numbers ∧
      name.toList.all isNameChar = true ∧
      numbers.all (fun n => n != "" && n.toList.all isDecimalDigit) = true) <| by
    simp only [List.all_eq_true, Bool.and_eq_true, bne_iff_ne]
    exact ⟨fun ⟨hsplit, hname, hdigits⟩ => ⟨hsplit, hname, hdigits⟩,
      fun h => ⟨h.split, h.name_chars, h.digits⟩⟩

namespace IsEnvironment

variable {environment name : String} {numbers : List String}

theorem isVersioned (h : IsEnvironment environment name numbers) (hne : numbers ≠ []) :
    IsVersioned environment.toList name.toList (numbers.map String.toList) where
  split := by rw [h.split, String.toList_append, toList_joinWith]
  name_chars := h.name_chars
  ne_nil := by simpa using hne
  digits := by
    intro n hn
    obtain ⟨s, hs, rfl⟩ := List.mem_map.1 hn
    obtain ⟨hempty, hdigits⟩ := h.digits s hs
    exact ⟨mt String.toList_eq_nil_iff.1 hempty, hdigits⟩

/-- An environment is cut where its numbers start. -/
theorem splitVersion_eq (h : IsEnvironment environment name numbers) :
    splitVersion environment.toList = (name.toList, (joinWith '.' numbers).toList) := by
  by_cases hne : numbers = []
  · subst hne
    have hname : environment.toList = name.toList := by
      rw [h.split, joinWith]
      simp [unfields]
    have hrest : name.toList.dropWhile isNameChar = [] := List.dropWhile_eq_nil_iff.2 h.name_chars
    rw [hname, splitVersion, hrest, List.takeWhile_eq_self_iff.2 h.name_chars]
    rfl
  · rw [(h.isVersioned hne).splitVersion_eq, toList_joinWith]

/-- An environment has no other numbers. -/
theorem numbers_eq (h : IsEnvironment environment name numbers) {name' : List Char}
    {numbers' : List (List Char)} (h' : IsVersioned environment.toList name' numbers') :
    numbers' = numbers.map String.toList := by
  have hrest : unfields '.' numbers' = unfields '.' (numbers.map String.toList) := by
    rw [← toList_joinWith]
    exact congrArg Prod.snd (h'.splitVersion_eq.symm.trans h.splitVersion_eq)
  by_cases hne : numbers = []
  · obtain ⟨c, rest, hcons, -⟩ := h'.exists_version_eq_cons
    rw [hrest, hne] at hcons
    cases hcons
  · rw [← h'.fields_version, hrest, (h.isVersioned hne).fields_version]

end IsEnvironment

/-- What is cut off a text are the numbers of an environment, unless the text is left as it is. -/
theorem isEnvironment_of_splitVersion (environment : String) :
    (∃ name numbers, IsEnvironment environment name numbers) ∨
      splitVersion environment.toList = (environment.toList, []) := by
  by_cases hversion : (splitVersion environment.toList).2 = []
  · right
    have happend := splitVersion_append environment.toList
    rw [hversion, List.append_nil] at happend
    exact Prod.ext happend hversion
  · left
    have h := isVersioned_of_splitVersion hversion
    refine ⟨String.ofList (splitVersion environment.toList).1,
      (fields '.' (splitVersion environment.toList).2).map String.ofList, ?_, ?_, ?_⟩
    · rw [← String.toList_inj, String.toList_append, String.toList_ofList, toList_joinWith,
        List.map_map, String.toList_comp_ofList, List.map_id]
      exact h.split
    · rw [String.toList_ofList]
      exact h.name_chars
    · intro n hn
      obtain ⟨cs, hcs, rfl⟩ := List.mem_map.1 hn
      obtain ⟨hempty, hdigits⟩ := h.digits cs hcs
      rw [String.toList_ofList]
      exact ⟨fun heq => hempty (by simpa using congrArg String.toList heq), hdigits⟩

namespace Version

/-- The version that is read from an environment is that of its numbers. -/
theorem ofEnvironment_eq_ok {environment name : String} {numbers : List String} {v : Version}
    (h : IsEnvironment environment name numbers) (hv : ofEnvironment environment = .ok v) :
    v = ofNumbers (numbers.map String.toList) := by
  by_cases hne : numbers = []
  · subst hne
    rw [ofEnvironment, h.splitVersion_eq, joinWith] at hv
    exact (Except.ok.inj hv).symm
  · obtain ⟨c, rest, hcons, -⟩ := (h.isVersioned hne).exists_version_eq_cons
    rw [ofEnvironment, (h.isVersioned hne).splitVersion_eq, hcons, if_neg (by simp), ← hcons] at hv
    rw [(ofDotted_eq_ok hv).2, (h.isVersioned hne).fields_version]

theorem ofEnvironment_of_unsplit {environment : String}
    (h : splitVersion environment.toList = (environment.toList, [])) :
    ofEnvironment environment = .ok zero := by
  rw [ofEnvironment, h]
  rfl

/-- A version none of whose first three numbers is too long is read. -/
theorem exists_ofEnvironment_eq_ok {environment name : String} {numbers : List String}
    (h : IsEnvironment environment name numbers) (hlength : ∀ n ∈ numbers, n.length ≤ 4300) :
    ∃ v, ofEnvironment environment = .ok v := by
  cases hv : ofEnvironment environment with
  | ok v => exact ⟨v, rfl⟩
  | error digits =>
    obtain ⟨name', numbers', hversioned, n, hn, hlong⟩ :=
      (ofEnvironment_eq_error_iff environment).1 ⟨digits, hv⟩
    rw [h.numbers_eq hversioned] at hn
    obtain ⟨s, hs, rfl⟩ := List.mem_map.1 (List.mem_of_mem_take hn)
    rw [String.length_toList] at hlong
    exact absurd (hlength s hs) (Nat.not_le_of_lt hlong)

/-! ### Versions that are written -/

/-- A version of three naturals as it is written. -/
def written (major minor micro : Nat) : String :=
  toString major ++ "." ++ toString minor ++ "." ++ toString micro

theorem written_eq_joinWith (major minor micro : Nat) :
    written major minor micro = joinWith '.' [toString major, toString minor, toString micro] := by
  rw [← String.toList_inj, toList_joinWith]
  simp [written, unfields]

theorem ofNumbers_toString (major minor micro : Nat) :
    ofNumbers ([toString major, toString minor, toString micro].map String.toList) =
      ⟨major, minor, micro⟩ := by
  show (⟨decimalValue (toString major).toList, decimalValue (toString minor).toList,
    decimalValue (toString micro).toList⟩ : Version) = _
  rw [decimalValue_toString, decimalValue_toString, decimalValue_toString]

theorem isEnvironment_written {name : String} (hname : ∀ c ∈ name.toList, isNameChar c = true)
    (major minor micro : Nat) :
    IsEnvironment (name ++ written major minor micro) name
      [toString major, toString minor, toString micro] where
  split := by rw [written_eq_joinWith]
  name_chars := hname
  digits := by
    have hnumber : ∀ n : Nat, toString n ≠ "" ∧
        ∀ c ∈ (toString n).toList, isDecimalDigit c = true := fun n =>
      ⟨toString_ne_empty n, fun c hc => isDecimalDigit_of_isDigit (isDigit_of_mem_toString hc)⟩
    simp only [List.forall_mem_cons, List.not_mem_nil, false_implies, implies_true, and_true]
    exact ⟨hnumber major, hnumber minor, hnumber micro⟩

/-- A version is written with digits and dots. -/
theorem mem_written {major minor micro : Nat} {c : Char}
    (h : c ∈ (written major minor micro).toList) : c.isDigit = true ∨ c = '.' := by
  simp only [written, String.toList_append, List.mem_append] at h
  rcases h with (((h | h) | h) | h) | h
  · exact .inl (isDigit_of_mem_toString h)
  · exact .inr (by simpa using h)
  · exact .inl (isDigit_of_mem_toString h)
  · exact .inr (by simpa using h)
  · exact .inl (isDigit_of_mem_toString h)

/-- A version that is written ends with a digit. -/
theorem isDigit_of_getLast?_written {name : String} {major minor micro : Nat} {c : Char}
    (h : (name ++ written major minor micro).toList.getLast? = some c) : c.isDigit = true := by
  have hne : (toString micro).toList ≠ [] := mt String.toList_eq_nil_iff.1 (toString_ne_empty micro)
  rw [written, ← String.append_assoc, String.toList_append,
    List.getLast?_append_of_ne_nil _ hne] at h
  exact isDigit_of_mem_toString (List.mem_of_getLast? h)

end Version

namespace Triple

/-- Whether a text can stand in front of an environment: not empty, without hyphens and blanks. -/
def IsPlainPart (part : String) : Prop :=
  part ≠ "" ∧ ∀ c ∈ part.toList, c ≠ '-' ∧ isBlank c = false

instance (part : String) : Decidable (IsPlainPart part) :=
  decidable_of_iff (part ≠ "" ∧ part.toList.all (fun c => c != '-' && !isBlank c) = true) <| by
    simp [IsPlainPart]

section Written

variable {architecture vendor system name : String} (harchitecture : IsPlainPart architecture)
  (hvendor : IsPlainPart vendor) (hsystem : IsPlainPart system)
  (hname : ∀ c ∈ name.toList, isNameChar c = true) (major minor micro : Nat)

/-- A text with all its components. -/
def written (architecture vendor system environment : String) : String :=
  architecture ++ "-" ++ vendor ++ "-" ++ system ++ "-" ++ environment

theorem written_eq_joinWith (architecture vendor system environment : String) :
    written architecture vendor system environment =
      joinWith '-' [architecture, vendor, system, environment] := by
  rw [← String.toList_inj, toList_joinWith]
  simp [written, unfields]

include harchitecture hvendor hsystem hname

/-- The components of a text that ends in a version are those that it was written with. -/
theorem components_written :
    components (written architecture vendor system (name ++ Version.written major minor micro)) =
      [architecture, vendor, system, name ++ Version.written major minor micro] := by
  have hnonempty : name ++ Version.written major minor micro ≠ "" := by
    intro h
    have hversion := (String.append_eq_empty_iff.1 h).2
    simp [Version.written] at hversion
  have hhyphen : '-' ∉ (name ++ Version.written major minor micro).toList := by
    rw [String.toList_append, List.mem_append]
    rintro (h | h)
    · exact absurd (hname '-' h) (by decide)
    · exact absurd (Version.mem_written h) (by decide)
  rw [written_eq_joinWith]
  refine components_joinWith (by simp) ?_ ((isStripped_joinWith_iff '-' harchitecture.1
    hnonempty rfl).2 ⟨fun c hc => (harchitecture.2 c (List.mem_of_head? hc)).2,
      fun c hc => isBlank_of_isDigit (Version.isDigit_of_getLast?_written hc)⟩)
  have hplain : ∀ {part : String}, IsPlainPart part → '-' ∉ part.toList :=
    fun hpart hmem => (hpart.2 '-' hmem).1 rfl
  simp only [List.forall_mem_cons, List.not_mem_nil, false_implies, implies_true, and_true]
  exact ⟨hplain harchitecture, hplain hvendor, hplain hsystem, hhyphen⟩

/-- A text that ends in a version is read as it was written. -/
theorem parse_written (hlength : ∀ n ∈ [major, minor, micro], (toString n).length ≤ 4300) :
    ∃ t, parse (written architecture vendor system (name ++ Version.written major minor micro)) =
        .ok t ∧
      t.architectureName = architecture ∧ t.vendor = vendor ∧ t.systemPart = system ∧
      t.environment = name ∧ t.version = ⟨major, minor, micro⟩ := by
  have henvironment := Version.isEnvironment_written hname major minor micro
  obtain ⟨v, hv⟩ := Version.exists_ofEnvironment_eq_ok henvironment
    (by simpa using hlength)
  have hversion : v = ⟨major, minor, micro⟩ := by
    rw [Version.ofEnvironment_eq_ok henvironment hv, Version.ofNumbers_toString]
  have hplaces : arrange [vendor, system, name ++ Version.written major minor micro] =
      (vendor, system, name ++ Version.written major minor micro) := by
    show (vendor, system, joinWith '-' [_]) = _
    rw [joinWith_singleton]
  have hcomponents := components_written harchitecture hvendor hsystem hname major minor micro
  refine ⟨_, parse_of_places hcomponents harchitecture.1 hplaces hsystem.1 (hversion ▸ hv), rfl,
    if_neg hvendor.1, rfl, ?_, rfl⟩
  show String.ofList (splitVersion _).1 = name
  rw [henvironment.splitVersion_eq, String.ofList_toList]

end Written

end Triple

/-- The first library directory is that of the whole version. -/
theorem Sysroot.head?_libraryCandidates (layout : Sysroot) (major minor micro : Nat)
    (suffix : String) :
    (layout.libraryCandidates ⟨major, minor, micro⟩ suffix).head? =
      some (layout.libraryDir ++ "/" ++ Version.written major minor micro ++ suffix) := by
  simp only [libraryCandidates, Version.written, List.head?_cons, String.append_assoc]
  rfl

theorem Agenda.mem_questions_of_mem_library {a : Agenda} {present : String → Bool} {d : String}
    (h : d ∈ a.library) : d ∈ a.questions present := by
  simp [questions, h]

/-- The library directories of a configuration are searched from the most specific version on. -/
theorem library_of_resolve {text : String} {t : Triple} (accepted : Triple.parse text = .ok t)
    {tokens : List String} {e : Environment} {s : Search Note Configuration}
    (hs : resolve text tokens e = .ok s) (present : String → Bool) :
    let c := s.answer present
    let layout : Sysroot := ⟨c.sysroot, c.multiarch⟩
    let candidates := layout.libraryCandidates t.version c.multilib.suffix
    c.libraryDirs = candidates.filter present ∧ ∀ d ∈ candidates, d ∈ s.queries present := by
  obtain ⟨hanswer, hqueries⟩ := run_of_resolve accepted hs present
  rw [Toolchain.queries_eq_questions] at hqueries
  rw [hanswer, hqueries]
  have hfound := Toolchain.foundIn_configured present t (.ofTokens tokens) e Multilib.catalog
  exact ⟨hfound.libraryDirs, fun d hd => Agenda.mem_questions_of_mem_library hd⟩

open Triple in
/-- The environment of an accepted text is read in one of two ways. If it is a name of letters and
underscores with nothing or dotted decimal numbers behind it, then it is cut into the two and the
first three numbers are the version, missing ones being zero; else it is a name as a whole and the
version is zero. So a name and three naturals that are written behind plain components are read
back, and the version heads the library directories under the multilib, which are searched first. -/
theorem environment_cut_or_kept :
    (∀ text t, parse text = .ok t →
      let e := environmentComponent (components text)
      (∀ name numbers, IsEnvironment e name numbers →
        t.environment = name ∧ t.environment ++ joinWith '.' numbers = e ∧
          t.version = Version.ofNumbers (numbers.map String.toList)) ∧
      ((∀ name numbers, ¬IsEnvironment e name numbers) →
        t.environment = e ∧ t.version = ⟨0, 0, 0⟩)) ∧
    ∀ architecture vendor system name : String, ∀ major minor micro : Nat,
      IsPlainPart architecture → IsPlainPart vendor → IsPlainPart system →
      (∀ c ∈ name.toList, isNameChar c = true) →
      (∀ n ∈ [major, minor, micro], (toString n).length ≤ 4300) →
      let version := toString major ++ "." ++ toString minor ++ "." ++ toString micro
      let text := architecture ++ "-" ++ vendor ++ "-" ++ system ++ "-" ++ (name ++ version)
      ∃ t, parse text = .ok t ∧ t.architectureName = architecture ∧ t.vendor = vendor ∧
        t.systemPart = system ∧ t.environment = name ∧ t.version = ⟨major, minor, micro⟩ ∧
        ∀ tokens e, ∃ s, resolve text tokens e = .ok s ∧ ∀ present : String → Bool,
          let c := s.answer present
          let layout : Sysroot := ⟨c.sysroot, c.multiarch⟩
          let candidates := layout.libraryCandidates t.version c.multilib.suffix
          candidates.head? = some (layout.libraryDir ++ "/" ++ version ++ c.multilib.suffix) ∧
            c.libraryDirs = candidates.filter present ∧
            ∀ d ∈ candidates, d ∈ s.queries present := by
  refine ⟨fun text t accepted => ?_, ?_⟩
  · obtain ⟨hname, hversion⟩ := environment_of_parse accepted
    refine ⟨fun name numbers h => ?_, fun hnone => ?_⟩
    · rw [h.splitVersion_eq, String.ofList_toList] at hname
      exact ⟨hname, by rw [hname, ← h.split], Version.ofEnvironment_eq_ok h hversion⟩
    · obtain ⟨name, numbers, h⟩ | hkept := isEnvironment_of_splitVersion _
      · exact absurd h (hnone name numbers)
      · rw [hkept, String.ofList_toList] at hname
        rw [Version.ofEnvironment_of_unsplit hkept] at hversion
        exact ⟨hname, (Except.ok.inj hversion).symm⟩
  · intro architecture vendor system name major minor micro ha hv hsystem hname hlength version text
    obtain ⟨t, accepted, harchitecture, hvendor, hpart, henvironment, hversion⟩ :=
      parse_written ha hv hsystem hname major minor micro hlength
    refine ⟨t, accepted, harchitecture, hvendor, hpart, henvironment, hversion, ?_⟩
    intro tokens e
    obtain ⟨s, hs, -⟩ := resolve_of_parse accepted tokens e
    refine ⟨s, hs, fun present => ⟨?_, library_of_resolve accepted hs present⟩⟩
    rw [hversion]
    exact Sysroot.head?_libraryCandidates _ major minor micro _

theorem environment_cut_or_kept_ohos :
    (∃ t, Triple.parse "armv7a-linux-ohos9.02" = .ok t ∧ t.environment = "ohos" ∧
      t.version = ⟨9, 2, 0⟩) ∧
    (∃ t, Triple.parse "armv7a-linux-ohos9x" = .ok t ∧ t.environment = "ohos9x" ∧
      t.version = ⟨0, 0, 0⟩) ∧
    ∃ t s, Triple.parse "armv7a-acme-linux-ohos9.2.10" = .ok t ∧ t.environment = "ohos" ∧
      t.version = ⟨9, 2, 10⟩ ∧ resolve "armv7a-acme-linux-ohos9.2.10" [] {} = .ok s ∧
      ∃ (layout : Sysroot) (m : Multilib),
        layout.libraryDir ++ "/" ++ "9.2.10" ++ m.suffix ∈ s.queries fun _ => false := by
  obtain ⟨hread, hwritten⟩ := environment_cut_or_kept
  refine ⟨?_, ?_, ?_⟩
  · obtain ⟨t, accepted⟩ : ∃ t, Triple.parse "armv7a-linux-ohos9.02" = .ok t := ⟨_, rfl⟩
    have hcut : IsEnvironment
        (Triple.environmentComponent (Triple.components "armv7a-linux-ohos9.02"))
        "ohos" ["9", "02"] := by decide +kernel
    obtain ⟨hname, -, hversion⟩ := (hread _ t accepted).1 _ _ hcut
    exact ⟨t, accepted, hname, hversion.trans (by decide +kernel)⟩
  · obtain ⟨t, accepted⟩ : ∃ t, Triple.parse "armv7a-linux-ohos9x" = .ok t := ⟨_, rfl⟩
    have hcomponent : Triple.environmentComponent (Triple.components "armv7a-linux-ohos9x") =
        "ohos9x" := by decide +kernel
    have hnone : ∀ name numbers, ¬IsEnvironment "ohos9x" name numbers := by
      intro name numbers h
      have hsplit : splitVersion "ohos9x".toList = ("ohos9x".toList, []) := by decide +kernel
      have hname : "ohos9x".toList = name.toList :=
        congrArg Prod.fst (hsplit.symm.trans h.splitVersion_eq)
      exact absurd (h.name_chars '9' (hname ▸ by decide)) (by decide)
    have hkept := (hread _ t accepted).2
    rw [hcomponent] at hkept
    exact ⟨t, accepted, hkept hnone⟩
  · obtain ⟨t, accepted, -, -, -, hname, hversion, hsearch⟩ :=
      hwritten "armv7a" "acme" "linux" "ohos" 9 2 10 (by decide +kernel) (by decide +kernel)
        (by decide +kernel) (List.all_eq_true.1 (by decide +kernel)) (by decide +kernel)
    obtain ⟨s, hs, hfirst⟩ := hsearch [] {}
    obtain ⟨hhead, -, hqueries⟩ := hfirst fun _ => false
    exact ⟨t, s, accepted, hname, hversion, hs, _, _, hqueries _ (List.mem_of_head? hhead)⟩

end TargetResolution
