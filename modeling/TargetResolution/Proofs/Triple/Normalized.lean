import TargetResolution.Proofs.Result
import TargetResolution.Proofs.Text.Strip
import TargetResolution.Proofs.Triple.Rejection

/-!
Normalized triples. The normalized spelling of a target has the components of the target, and a
vendor where the target leaves it out, so that it is read by another rule. Main statement: a target
none of whose components is empty has the same parts as its normalized spelling.
-/

namespace TargetResolution

open Text

namespace Triple

/-- The parts behind an architecture, with the vendor that they leave out. -/
def withVendor : List String → List String
  | [system] => ["unknown", system]
  | [a, b] => if systemName a ∈ knownSystems then ["unknown", a, b] else [a, b]
  | parts => parts

theorem systemName_unknown_not_mem : systemName "unknown" ∉ knownSystems := by decide

/-- The vendor that is left out is the one that stands for none. -/
theorem arrange_withVendor (parts : List String) : arrange (withVendor parts) = arrange parts := by
  match parts with
  | [] => rfl
  | [system] => simp [withVendor, arrange, systemName_unknown_not_mem]
  | [a, b] =>
    by_cases hknown : systemName a ∈ knownSystems
    · rw [withVendor, if_pos hknown, arrange, if_pos hknown, arrange, joinWith_singleton]
      simp
    · rw [withVendor, if_neg hknown]
  | _ :: _ :: _ :: _ => rfl

theorem getLast?_withVendor (parts : List String) :
    (withVendor parts).getLast? = parts.getLast? := by
  unfold withVendor
  split
  · rfl
  · split <;> rfl
  · rfl

theorem mem_withVendor {parts : List String} {part : String} (h : part ∈ withVendor parts) :
    part = "unknown" ∨ part ∈ parts := by
  unfold withVendor at h
  split at h
  · simpa using h
  · split at h
    · simpa using h
    · exact .inr h
  · exact .inr h

/-! ### The normalized spelling -/

/-- Fields of which the last ones are joined already are joined alike. -/
theorem joinWith_concat_joinWith (sep : Char) {fs gs : List String} (hf : fs ≠ [])
    (hg : gs ≠ []) : joinWith sep (fs ++ [joinWith sep gs]) = joinWith sep (fs ++ gs) := by
  rw [joinWith_append hf (by simp), joinWith_singleton, ← joinWith_append hf hg]

theorem joinWith_ne_empty (sep : Char) {f : String} (hf : f ≠ "") (fs : List String) :
    joinWith sep (f :: fs) ≠ "" := by
  intro h
  have hhead := head?_joinWith sep hf fs
  rw [h] at hhead
  exact hf (String.toList_eq_nil_iff.1 (List.head?_eq_none_iff.1 hhead.symm))

/-- The normalized spelling joins the components with their vendor. -/
theorem normalized_assemble (text architecture : String) {parts : List String} (version : Version)
    (hne : parts ≠ []) (hparts : ∀ part ∈ parts, part ≠ "") :
    (assemble text architecture (arrange parts) version).normalized =
      joinWith '-' (architecture :: withVendor parts) := by
  match parts, hne with
  | [system], _ =>
    have hsystem : system ≠ "" := hparts system (by simp)
    simp [normalized, assemble, arrange, withVendor, hsystem]
  | [a, b], _ =>
    have ha : a ≠ "" := hparts a (by simp)
    have hb : b ≠ "" := hparts b (by simp)
    by_cases hknown : systemName a ∈ knownSystems
    · simp [normalized, assemble, arrange, withVendor, hknown, ha, hb]
    · simp [normalized, assemble, arrange, withVendor, hknown, ha, hb]
  | vendor :: system :: part :: rest, _ =>
    have hvendor : vendor ≠ "" := hparts vendor (by simp)
    have hsystem : system ≠ "" := hparts system (by simp)
    have henvironment : joinWith '-' (part :: rest) ≠ "" :=
      joinWith_ne_empty '-' (hparts part (by simp)) rest
    have hjoin := joinWith_concat_joinWith '-' (List.cons_ne_nil architecture [vendor, system])
      (List.cons_ne_nil part rest)
    simpa [normalized, assemble, arrange, withVendor, hvendor, hsystem, henvironment] using hjoin

section Components

variable {text : String} {t : Triple}

/-- What the components of an accepted text are, and what is made of them. -/
theorem exists_assemble_of_parse (h : parse text = .ok t) :
    ∃ architecture part parts version, components text = architecture :: part :: parts ∧
      architecture ≠ "" ∧ (arrange (part :: parts)).2.1 ≠ "" ∧
      Version.ofEnvironment (arrange (part :: parts)).2.2 = .ok version ∧
      t = assemble text architecture (arrange (part :: parts)) version := by
  have hs : strip text ≠ "" := by
    intro hs
    rw [parse_of_blank hs] at h
    exact absurd h (by simp)
  have hshort : ¬IsTooShort (components text) := by
    intro hshort
    rw [parse_of_isTooShort hs hshort] at h
    exact absurd h (by simp)
  obtain ⟨architecture, part, parts, hc, ha⟩ := exists_components_eq_cons hshort
  rw [parse_of_components hs hc ha] at h
  split at h
  · exact absurd h (by simp)
  · rename_i hsystem
    obtain ⟨version, hversion, hassembled⟩ := exists_of_map_eq_ok h
    exact ⟨architecture, part, parts, version, hc, ha, hsystem, eq_ok_of_mapError_eq_ok hversion,
      hassembled.symm⟩

theorem sep_not_mem_of_mem_components {part : String} (h : part ∈ components text) :
    '-' ∉ part.toList := by
  rw [components] at h
  exact sep_not_mem_of_mem_splitOn h

/-- Components that are joined are found again, unless blanks at the ends are lost. -/
theorem components_joinWith {parts : List String} (hne : parts ≠ [])
    (hparts : ∀ part ∈ parts, '-' ∉ part.toList) (hstripped : IsStripped (joinWith '-' parts)) :
    components (joinWith '-' parts) = parts := by
  rw [components, hstripped.strip_eq, splitOn_joinWith hne hparts]

/-- Joined with their vendor, the components of a text are found again. -/
theorem components_withVendor {architecture : String} {parts : List String}
    (hc : components text = architecture :: parts) (hne : parts ≠ [])
    (full : ∀ part ∈ components text, part ≠ "") :
    components (joinWith '-' (architecture :: withVendor parts)) =
      architecture :: withVendor parts := by
  obtain ⟨last, hlast⟩ := Option.ne_none_iff_exists'.1 (mt List.getLast?_eq_none_iff.1 hne)
  have hmem : ∀ part ∈ parts, part ∈ components text := by
    intro part hpart
    rw [hc]
    exact List.mem_cons_of_mem _ hpart
  have harchitecture : architecture ∈ components text := by
    rw [hc]
    exact List.mem_cons_self
  have hstripped : IsStripped (joinWith '-' (architecture :: parts)) := by
    rw [← hc, components, joinWith_splitOn]
    exact isStripped_strip text
  refine components_joinWith (List.cons_ne_nil _ _) (fun part hpart => ?_)
    (hstripped.joinWith (full _ harchitecture) (full _ (hmem _ (List.mem_of_getLast? hlast)))
      hlast (by rw [getLast?_withVendor, hlast]))
  rcases List.mem_cons.1 hpart with rfl | hpart
  · exact sep_not_mem_of_mem_components harchitecture
  · rcases mem_withVendor hpart with rfl | hpart
    · decide
    · exact sep_not_mem_of_mem_components (hmem part hpart)

end Components

/-- Reading depends on the components only, and on them only through their places. -/
theorem parse_of_places {text architecture part : String} {parts : List String}
    {places : String × String × String} {version : Version}
    (hc : components text = architecture :: part :: parts) (ha : architecture ≠ "")
    (hplaces : arrange (part :: parts) = places) (hsystem : places.2.1 ≠ "")
    (hversion : Version.ofEnvironment places.2.2 = .ok version) :
    parse text = .ok (assemble text architecture places version) := by
  have hs : strip text ≠ "" := by
    intro hs
    have hshort := isTooShort_of_blank hs
    rw [hc] at hshort
    exact hshort.elim (by simp) (by simp [ha])
  rw [parse_of_components hs hc ha, hplaces, if_neg hsystem, hversion]
  rfl

/-- A target with no empty component is read again from its normalized spelling: it has the same
parts, so nothing but the text differs, and the same normalized spelling. -/
theorem parse_normalized {text : String} {t : Triple} (accepted : parse text = .ok t)
    (full : ∀ component ∈ components text, component ≠ "") :
    ∃ u, parse t.normalized = .ok u ∧ u = { t with text := t.normalized } ∧
      u.normalized = t.normalized := by
  obtain ⟨architecture, part, parts, version, hc, ha, hsystem, hversion, rfl⟩ :=
    exists_assemble_of_parse accepted
  have hnormalized := normalized_assemble text architecture version (List.cons_ne_nil part parts)
    fun p hp => full p (hc ▸ List.mem_cons_of_mem _ hp)
  have hcomponents := components_withVendor hc (List.cons_ne_nil part parts) full
  rw [← hnormalized] at hcomponents
  obtain ⟨first, rest, hrest⟩ : ∃ first rest, withVendor (part :: parts) = first :: rest := by
    refine List.exists_cons_of_ne_nil fun h => ?_
    have hlast := getLast?_withVendor (part :: parts)
    rw [h] at hlast
    exact absurd hlast.symm (by simp)
  rw [hrest] at hcomponents
  refine ⟨_, parse_of_places hcomponents ha ?_ hsystem hversion, rfl, rfl⟩
  rw [← hrest, arrange_withVendor]

theorem parse_normalized_vendor_added :
    ∃ t u, parse " armv7a-linux-ohos9.2\n" = .ok t ∧
      (∀ component ∈ components " armv7a-linux-ohos9.2\n", component ≠ "") ∧
      t.normalized = "armv7a-unknown-linux-ohos9.2" ∧
      parse "armv7a-unknown-linux-ohos9.2" = .ok u ∧ u = { t with text := u.text } := by
  have accepted : parse " armv7a-linux-ohos9.2\n" = .ok _ := rfl
  have full : ∀ component ∈ components " armv7a-linux-ohos9.2\n", component ≠ "" := by
    rw [components]
    decide +kernel
  obtain ⟨u, hu, hparts, -⟩ := parse_normalized accepted full
  exact ⟨_, u, accepted, full, rfl, hu, by rw [hparts]⟩

/-- With an empty component, the normalized spelling can be another target. -/
example : (parse "arm-linux-x-").toOption.map (·.system) = some "x" ∧
    (parse "arm-linux-x-").toOption.map (·.normalized) = some "arm-linux-x" ∧
    (parse "arm-linux-x").toOption.map (·.system) = some "linux" := by
  decide +kernel

end Triple

end TargetResolution
