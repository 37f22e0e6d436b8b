import TargetResolution.Proofs.Triple.Normalized

/-!
What a triple says, told by the components of its text: the architecture is the first one, and the
others are the operating system and the environment according to their number. The C library family
is bionic for the one environment `ohos`, with or without a version, and no system but LiteOS
changes that.
-/

namespace TargetResolution

open Text

/-- A target is of the bionic family if its system is not LiteOS and its environment is `ohos`. -/
theorem LibcFamily.ofTarget_eq_bionic_iff (system environment : String) :
    ofTarget system environment = .bionic ↔ system ≠ "liteos" ∧ environment = "ohos" := by
  unfold ofTarget
  by_cases hsystem : system = "liteos"
  · simp [hsystem]
  by_cases henvironment : environment = "ohos"
  · subst henvironment
    rw [if_neg hsystem]
    exact ⟨fun _ => ⟨hsystem, rfl⟩, fun _ => by decide⟩
  · rw [if_neg hsystem]
    split
    · simp [henvironment]
    · simp [henvironment]

/-- A name and the version behind it make up the text. -/
theorem splitVersion_append (cs : List Char) : (splitVersion cs).1 ++ (splitVersion cs).2 = cs := by
  unfold splitVersion
  simp only
  split
  · exact List.takeWhile_append_dropWhile
  · exact List.append_nil cs

/-- The texts whose name is this one: the name alone, or with a version behind it. -/
theorem fst_splitVersion_eq_iff {cs name : List Char} (hname : ∀ c ∈ name, isNameChar c = true) :
    (splitVersion cs).1 = name ↔ cs = name ∨ ∃ numbers, IsVersioned cs name numbers := by
  constructor
  · rintro rfl
    by_cases hversion : (splitVersion cs).2 = []
    · left
      have happend := splitVersion_append cs
      rw [hversion, List.append_nil] at happend
      exact happend.symm
    · exact .inr ⟨_, isVersioned_of_splitVersion hversion⟩
  · rintro (rfl | ⟨numbers, hversioned⟩)
    · have hrest : cs.dropWhile isNameChar = [] := List.dropWhile_eq_nil_iff.2 hname
      simp [splitVersion, hrest, List.takeWhile_eq_self_iff.2 hname]
    · rw [hversioned.splitVersion_eq]

namespace Triple

/-- Whether components name the bionic environment: a system that is not LiteOS, and `ohos` with
nothing or dotted decimal numbers behind it. -/
def NamesBionic (components : List String) : Prop :=
  systemName (systemComponent components) ≠ "liteos" ∧
    (environmentComponent components = "ohos" ∨
      ∃ numbers, IsVersioned (environmentComponent components).toList "ohos".toList numbers)

section Accepted

variable {text : String} {t : Triple} (accepted : parse text = .ok t)
include accepted

theorem architectureName_of_parse : t.architectureName = (components text).headD "" := by
  obtain ⟨architecture, part, parts, version, hc, -, -, -, rfl⟩ :=
    exists_assemble_of_parse accepted
  rw [hc]
  rfl

theorem architecture_of_parse :
    t.architecture = Architecture.parse ((components text).headD "") := by
  obtain ⟨architecture, part, parts, version, hc, -, -, -, rfl⟩ :=
    exists_assemble_of_parse accepted
  rw [hc]
  rfl

/-- The environment of an accepted text is the name in its component, and the version could be
read. -/
theorem environment_of_parse :
    t.environment = String.ofList (splitVersion (environmentComponent (components text)).toList).1 ∧
      Version.ofEnvironment (environmentComponent (components text)) = .ok t.version := by
  obtain ⟨architecture, part, parts, version, hc, -, -, hversion, rfl⟩ :=
    exists_assemble_of_parse accepted
  rw [hc, ← arrange_environment architecture (List.cons_ne_nil part parts)]
  exact ⟨rfl, hversion⟩

/-- The family of an accepted text is read off its components. -/
theorem family_of_parse : t.family = .bionic ↔ NamesBionic (components text) := by
  obtain ⟨architecture, part, parts, version, hc, -, -, -, rfl⟩ :=
    exists_assemble_of_parse accepted
  have hsystem := arrange_system architecture (List.cons_ne_nil part parts)
  have henvironment := arrange_environment architecture (List.cons_ne_nil part parts)
  have hname : ∀ c ∈ "ohos".toList, isNameChar c = true := List.all_eq_true.1 (by decide)
  unfold NamesBionic
  rw [hc, ← hsystem, ← henvironment]
  refine (LibcFamily.ofTarget_eq_bionic_iff _ _).trans (and_congr_right fun _ => ?_)
  rw [← String.toList_inj, String.toList_ofList, fst_splitVersion_eq_iff hname, String.toList_inj]

end Accepted

end Triple

end TargetResolution
