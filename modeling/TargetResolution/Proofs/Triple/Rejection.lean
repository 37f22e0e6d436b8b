import TargetResolution.Proofs.Resolution.Outcome
import TargetResolution.Proofs.Triple.Version

/-!
The targets that are rejected. Which reason is given depends on the components of the text alone:
on how many there are, on which of them are empty, and on whether the second one names a known
system. What is not rejected is resolved for all options, environments and listings.
-/

namespace TargetResolution

open Text

namespace Triple

/-- The components of a text: what its hyphens separate, without the blanks at its two ends. Sealed,
so that a match on them is not taken into the characters of the text. -/
@[irreducible]
def components (text : String) : List String := splitOn '-' (strip text)

theorem components_ne_nil (text : String) : components text ≠ [] := by
  rw [components]
  exact splitOn_ne_nil _ _

/-- Whether components lack an architecture or anything behind it. -/
def IsTooShort (components : List String) : Prop :=
  components.length = 1 ∨ components.head? = some ""

/-- Whether the component of the operating system is empty. Of three components the second one is
the system if it names a known one. -/
def LacksSystem : List String → Prop
  | [_, system] => system = ""
  | [_, second, third] => systemName second ∉ ["linux", "liteos", "none"] ∧ third = ""
  | _ :: _ :: system :: _ :: _ => system = ""
  | _ => False

/-- The operating system among components, empty if it is missing. -/
def systemComponent : List String → String
  | [_, system] => system
  | [_, second, third] => if systemName second ∈ ["linux", "liteos", "none"] then second else third
  | _ :: _ :: system :: _ :: _ => system
  | _ => ""

/-- The environment among components, empty if it is left out. -/
def environmentComponent : List String → String
  | [_, second, third] => if systemName second ∈ ["linux", "liteos", "none"] then third else ""
  | _ :: _ :: _ :: environment => joinWith '-' environment
  | _ => ""

/-- Whether a text is rejected as no triple, for this reason. -/
def Rejects (text reason : String) : Prop :=
  ∃ fault, parse text = .error (.invalid text fault) ∧ fault.reason = reason

/-! ### The names of operating systems -/

/-- A component that is a name of letters and underscores with digits and dots behind it, and maybe
a line feed at its end. -/
structure IsNumberedName (component name numbers : String) : Prop where
  split : component = name ++ numbers ∨ component = name ++ numbers ++ "\n"
  ne_empty : name ≠ ""
  name_chars : ∀ c ∈ name.toList, isNameChar c = true
  numbers_chars : ∀ c ∈ numbers.toList, isDecimalDigit c = true ∨ c = '.'

/-- A line feed is no part of a numbered name. -/
theorem IsNumberedName.withoutFinalBreak_eq {component name numbers : String}
    (h : IsNumberedName component name numbers) :
    withoutFinalBreak component.toList = name.toList ++ numbers.toList := by
  have hbreak : '\n' ∉ name.toList ++ numbers.toList := by
    intro hmem
    rcases List.mem_append.1 hmem with hmem | hmem
    · exact absurd (h.name_chars _ hmem) (by decide)
    · exact absurd (h.numbers_chars _ hmem) (by decide)
  unfold withoutFinalBreak
  rcases h.split with rfl | rfl
  · rw [String.toList_append, if_neg fun hlast => hbreak (List.mem_of_getLast? hlast)]
  · rw [String.toList_append, String.toList_append]
    exact (if_pos List.getLast?_concat).trans List.dropLast_concat

/-- The numbers behind the name of a system are left out. -/
theorem systemName_of_isNumberedName {component name numbers : String}
    (h : IsNumberedName component name numbers) : systemName component = lower name := by
  have hstop : ∀ c ∈ numbers.toList, isNameChar c = false := by
    intro c hc
    rcases h.numbers_chars c hc with hdigit | rfl
    · exact not_isNameChar_of_isDecimalDigit hdigit
    · decide
  have htake : (withoutFinalBreak component.toList).takeWhile isNameChar = name.toList := by
    rw [h.withoutFinalBreak_eq, List.takeWhile_append_of_pos h.name_chars,
      List.takeWhile_eq_nil_iff.2 fun hpos => by simp [hstop], List.append_nil]
  have hdrop : (withoutFinalBreak component.toList).dropWhile isNameChar = numbers.toList := by
    rw [h.withoutFinalBreak_eq, List.dropWhile_append_of_pos h.name_chars,
      List.dropWhile_eq_self_iff.2 fun hpos => by simp [hstop]]
  have hnumbered : (!name.toList.isEmpty &&
      numbers.toList.all fun c => isDecimalDigit c || c == '.') = true := by
    simpa [h.ne_empty] using h.numbers_chars
  simp only [systemName, htake, hdrop, hnumbered, if_true, String.ofList_toList]

/-- Without such a name, a component is the name of a system as a whole. -/
theorem systemName_of_not_isNumberedName {component : String}
    (h : ∀ name numbers, ¬IsNumberedName component name numbers) :
    systemName component = lower component := by
  refine if_neg fun hnumbered => ?_
  rw [Bool.and_eq_true, List.all_eq_true] at hnumbered
  obtain ⟨hletters, hrest⟩ := hnumbered
  refine h (.ofList ((withoutFinalBreak component.toList).takeWhile isNameChar))
    (.ofList ((withoutFinalBreak component.toList).dropWhile isNameChar)) ⟨?_, ?_, ?_, ?_⟩
  · rw [← String.ofList_append, List.takeWhile_append_dropWhile]
    refine (eq_withoutFinalBreak_or component.toList).imp (fun hsame => ?_) fun hsame => ?_
    · rw [← hsame, String.ofList_toList]
    · rw [← String.toList_inj, String.toList_append, String.toList_ofList]
      exact hsame
  · simpa using hletters
  · rw [String.toList_ofList]
    exact fun c hc => List.mem_takeWhile_imp hc
  · rw [String.toList_ofList]
    exact fun c hc => by simpa using hrest c hc

example : systemName "Linux_4.19\n" = "linux_" ∧ systemName "Linux4x" = "linux4x" := by
  decide +kernel

/-! ### The places of the components -/

theorem systemName_empty_not_mem : systemName "" ∉ knownSystems := by decide

section Arrange

variable (architecture : String) {parts : List String}

theorem arrange_system_eq_empty_iff (h : parts ≠ []) :
    (arrange parts).2.1 = "" ↔ LacksSystem (architecture :: parts) := by
  match parts, h with
  | [_], _ => rfl
  | [a, b], _ =>
    by_cases hknown : systemName a ∈ knownSystems
    · have ha : a ≠ "" := fun h => systemName_empty_not_mem (h ▸ hknown)
      rw [arrange, if_pos hknown]
      exact ⟨fun h => absurd h ha, fun h => absurd hknown h.1⟩
    · rw [arrange, if_neg hknown]
      exact ⟨fun h => ⟨hknown, h⟩, fun h => h.2⟩
  | _ :: _ :: _ :: _, _ => rfl

/-- The places behind the architecture and the vendor hold the system and the environment. -/
theorem arrange_eq (h : parts ≠ []) :
    (arrange parts).2 =
      (systemComponent (architecture :: parts), environmentComponent (architecture :: parts)) := by
  match parts, h with
  | [_], _ => rfl
  | [a, b], _ =>
    by_cases hknown : systemName a ∈ knownSystems
    · rw [arrange, if_pos hknown]
      exact (Prod.ext (if_pos hknown) (if_pos hknown)).symm
    · rw [arrange, if_neg hknown]
      exact (Prod.ext (if_neg hknown) (if_neg hknown)).symm
  | _ :: _ :: _ :: _, _ => rfl

theorem arrange_system (h : parts ≠ []) :
    (arrange parts).2.1 = systemComponent (architecture :: parts) :=
  congrArg Prod.fst (arrange_eq architecture h)

theorem arrange_environment (h : parts ≠ []) :
    (arrange parts).2.2 = environmentComponent (architecture :: parts) :=
  congrArg Prod.snd (arrange_eq architecture h)

end Arrange

/-! ### The outcomes of reading a text -/

/-- The triple of an architecture, of vendor, system and environment as they are written, and of the
version of the environment. -/
def assemble (text architectureName : String) (places : String × String × String)
    (version : Version) : Triple where
  text := text
  architecture := Architecture.parse architectureName
  architectureName := architectureName
  vendor := if places.1 = "" then "unknown" else places.1
  system := systemName places.2.1
  environment := String.ofList (splitVersion places.2.2.toList).1
  version := version
  family := LibcFamily.ofTarget (systemName places.2.1)
    (String.ofList (splitVersion places.2.2.toList).1)
  systemPart := places.2.1
  environmentPart := places.2.2

@[simp] theorem assemble_version (text architectureName : String)
    (places : String × String × String) (version : Version) :
    (assemble text architectureName places version).version = version := rfl

section Parse

variable {text : String}

theorem parse_of_blank (h : strip text = "") : parse text = .error (.invalid text .empty) := by
  simp [parse, h]

theorem parse_of_isTooShort (hs : strip text ≠ "") (h : IsTooShort (components text)) :
    parse text = .error (.invalid text .noSystem) := by
  unfold IsTooShort components at h
  unfold parse
  simp only [hs, if_false]
  match hc : splitOn '-' (strip text) with
  | [] | [_] => rfl
  | architecture :: part :: parts =>
    have ha : architecture = "" := by simpa [hc] using h
    simp [ha]

theorem exists_components_eq_cons (h : ¬IsTooShort (components text)) :
    ∃ architecture part parts, components text = architecture :: part :: parts ∧
      architecture ≠ "" := by
  match hc : components text with
  | [] => exact absurd hc (components_ne_nil text)
  | [_] => exact absurd (.inl rfl) (hc ▸ h)
  | architecture :: part :: parts =>
    refine ⟨architecture, part, parts, rfl, fun ha => h (.inr ?_)⟩
    rw [hc, ha, List.head?_cons]

/-- Behind an architecture, the empty system is looked at first and the version last. -/
theorem parse_of_components {architecture part : String} {parts : List String}
    (hs : strip text ≠ "") (hc : components text = architecture :: part :: parts)
    (ha : architecture ≠ "") :
    parse text =
      if (arrange (part :: parts)).2.1 = "" then .error (.invalid text .missingSystem)
      else ((Version.ofEnvironment (arrange (part :: parts)).2.2).mapError .versionTooLong).map
        (assemble text architecture (arrange (part :: parts))) := by
  unfold components at hc
  generalize hplaces : arrange (part :: parts) = places
  obtain ⟨vendor, system, environment⟩ := places
  by_cases hsystem : system = ""
  · simp only [parse, hs, hc, ha, hplaces, hsystem, if_false, if_true]
  · rw [if_neg hsystem]
    cases hv : Version.ofEnvironment environment
    all_goals
      rw [Version.ofEnvironment] at hv
      simp only [parse, hs, hc, ha, hplaces, hsystem, hv, if_false]
      rfl

theorem parse_of_lacksSystem (hs : strip text ≠ "") (hshort : ¬IsTooShort (components text))
    (h : LacksSystem (components text)) : parse text = .error (.invalid text .missingSystem) := by
  obtain ⟨architecture, part, parts, hc, ha⟩ := exists_components_eq_cons hshort
  rw [hc, ← arrange_system_eq_empty_iff architecture (by simp)] at h
  rw [parse_of_components hs hc ha, if_pos h]

/-- Once no component is missing, only the version can be at fault. -/
theorem parse_of_complete (hs : strip text ≠ "") (hshort : ¬IsTooShort (components text))
    (h : ¬LacksSystem (components text)) :
    ∃ architecture places, parse text =
      ((Version.ofEnvironment (environmentComponent (components text))).mapError
        .versionTooLong).map (assemble text architecture places) := by
  obtain ⟨architecture, part, parts, hc, ha⟩ := exists_components_eq_cons hshort
  rw [hc, ← arrange_system_eq_empty_iff architecture (by simp)] at h
  rw [hc, ← arrange_environment architecture (by simp)]
  exact ⟨architecture, _, by rw [parse_of_components hs hc ha, if_neg h]⟩

/-- Exactly one of five things is the matter with a text, the last of them nothing. -/
theorem parse_cases (text : String) :
    let c := components text
    (strip text = "" ∧ parse text = .error (.invalid text .empty)) ∨
    (strip text ≠ "" ∧ IsTooShort c ∧ parse text = .error (.invalid text .noSystem)) ∨
    (strip text ≠ "" ∧ ¬IsTooShort c ∧ LacksSystem c ∧
      parse text = .error (.invalid text .missingSystem)) ∨
    (strip text ≠ "" ∧ ¬IsTooShort c ∧ ¬LacksSystem c ∧
      Version.IsOverlong (environmentComponent c) ∧
      ∃ digits, parse text = .error (.versionTooLong digits)) ∨
    (strip text ≠ "" ∧ ¬IsTooShort c ∧ ¬LacksSystem c ∧
      ¬Version.IsOverlong (environmentComponent c) ∧
      ∃ t, parse text = .ok t ∧ t.version.IsPrintable) := by
  intro c
  by_cases hs : strip text = ""
  · exact .inl ⟨hs, parse_of_blank hs⟩
  refine .inr ?_
  by_cases hshort : IsTooShort c
  · exact .inl ⟨hs, hshort, parse_of_isTooShort hs hshort⟩
  refine .inr ?_
  by_cases hsystem : LacksSystem c
  · exact .inl ⟨hs, hshort, hsystem, parse_of_lacksSystem hs hshort hsystem⟩
  refine .inr ?_
  obtain ⟨architecture, places, hparse⟩ := parse_of_complete hs hshort hsystem
  change _ = ((Version.ofEnvironment (environmentComponent c)).mapError _).map _ at hparse
  have hoverlong := Version.ofEnvironment_eq_error_iff (environmentComponent c)
  cases hv : Version.ofEnvironment (environmentComponent c) with
  | error digits =>
    rw [hv] at hparse hoverlong
    exact .inl ⟨hs, hshort, hsystem, hoverlong.1 ⟨digits, rfl⟩, digits, hparse⟩
  | ok version =>
    rw [hv] at hparse hoverlong
    refine .inr ⟨hs, hshort, hsystem, fun h => ?_, assemble text architecture places version,
      hparse, ?_⟩
    · obtain ⟨digits, h⟩ := hoverlong.2 h
      exact absurd h (by simp)
    · rw [assemble_version]
      exact Version.isPrintable_of_ofEnvironment hv

end Parse

theorem isTooShort_of_blank {text : String} (h : strip text = "") :
    IsTooShort (components text) := by
  left
  rw [components, h]
  rfl

end Triple

/-- A resolution fails exactly if its target is no triple, and with the same error. -/
theorem resolve_eq_error_iff (text : String) (tokens : List String) (e : Environment)
    (error : Triple.Error) :
    resolve text tokens e = .error error ↔ Triple.parse text = .error error := by
  unfold resolve
  cases Triple.parse text <;> simp [Except.map]

open Triple in
/-- Reading a target has exactly five outcomes, told apart by its components, and a resolution fails
exactly if reading its target does, whatever the options, the environment and the listing. The
version of a target that is accepted has no number that is too long to be written into a path. -/
theorem resolve_rejects_exactly (text : String) :
    let c := components text
    (∀ tokens e,
      (∀ error, resolve text tokens e = .error error ↔ parse text = .error error) ∧
      ∀ t, parse text = .ok t → ∃ s, resolve text tokens e = .ok s ∧
        ∀ listing : Listing, (s.answer listing.contains).triple = t) ∧
    (Rejects text "empty triple" ↔ strip text = "") ∧
    (Rejects text "expected at least 'arch-os'" ↔ strip text ≠ "" ∧ IsTooShort c) ∧
    (Rejects text "missing operating system" ↔ ¬IsTooShort c ∧ LacksSystem c) ∧
    ((∃ digits, parse text = .error (.versionTooLong digits)) ↔
      strip text ≠ "" ∧ ¬IsTooShort c ∧ ¬LacksSystem c ∧
        Version.IsOverlong (environmentComponent c)) ∧
    ((∃ t, parse text = .ok t) ↔
      strip text ≠ "" ∧ ¬IsTooShort c ∧ ¬LacksSystem c ∧
        ¬Version.IsOverlong (environmentComponent c)) ∧
    ∀ t, parse text = .ok t → t.version.IsPrintable := by
  intro c
  refine ⟨fun tokens e => ⟨resolve_eq_error_iff text tokens e, fun t ht => ?_⟩, ?_⟩
  · obtain ⟨s, hs, hanswer⟩ := resolve_of_parse ht tokens e
    exact ⟨s, hs, fun listing => by rw [(hanswer listing.contains).1]; rfl⟩
  -- In each case the error that is given and the conditions that hold decide all equivalences.
  rcases parse_cases text with ⟨hs, h⟩ | ⟨hs, hshort, h⟩ | ⟨hs, hshort, hsystem, h⟩ |
    ⟨hs, hshort, hsystem, hversion, digits, h⟩ | ⟨hs, hshort, hsystem, hversion, t, h, hprint⟩
  · have hshort := isTooShort_of_blank hs
    simp [Rejects, h, hs, Fault.reason, c, hshort]
  · simp [Rejects, h, hs, Fault.reason, c, hshort]
  · simp [Rejects, h, hs, Fault.reason, c, hshort, hsystem]
  · simp [Rejects, h, hs, c, hshort, hsystem, hversion]
  · simp [Rejects, h, hs, c, hshort, hsystem, hversion, hprint]

/-- Behind a known system the environment may be empty, behind a vendor the system may not. -/
example : (Triple.parse "arm-linux-").toOption.map Triple.system = some "linux" ∧
    Triple.parse "arm-acme-" = .error (.invalid "arm-acme-" .missingSystem) :=
  ⟨by decide +kernel, rfl⟩

end TargetResolution
