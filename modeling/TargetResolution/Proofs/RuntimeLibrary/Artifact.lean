import TargetResolution.Multilib
import TargetResolution.Proofs.Path.Joining
import TargetResolution.RuntimeLibrary

/-!
The paths of runtime artifacts. The file name of an artifact starts and ends with a letter, so that
joining keeps all of it, and the two letters tell its kind. Main statement: artifacts under one
resource directory have one path only if they are the same artifact for the same target and suffix.
-/

namespace TargetResolution

open Text TargetResolution.Path

namespace ArtifactKind

/-! ### File names -/

/-- The first and the last character of the file names of a kind. -/
def edges : ArtifactKind → Char × Char
  | .object => ('c', 'o')
  | .static => ('l', 'a')
  | .shared => ('l', 'o')

theorem edges_injective : Function.Injective edges := by
  intro k k'
  cases k <;> cases k' <;> decide

theorem head?_fileName (kind : ArtifactKind) (component : String) :
    (kind.fileName component).toList.head? = some kind.edges.1 := by
  cases kind <;> simp [fileName, start, extension, edges]

theorem getLast?_fileName (kind : ArtifactKind) (component : String) :
    (kind.fileName component).toList.getLast? = some kind.edges.2 := by
  have hne : kind.extension.toList ≠ [] := by cases kind <;> simp [extension]
  rw [fileName, String.toList_append, List.getLast?_append_of_ne_nil _ hne]
  cases kind <;> simp [extension, edges]

theorem isBare_fileName (kind : ArtifactKind) (component : String) :
    IsBare (kind.fileName component) := by
  constructor
  · rw [head?_fileName]
    cases kind <;> decide
  · rw [getLast?_fileName]
    cases kind <;> decide

/-- The edges of a file name tell the kind, whatever the component ends in. -/
theorem fileName_inj {k k' : ArtifactKind} {c c' : String} :
    k.fileName c = k'.fileName c' ↔ c = c' ∧ k = k' := by
  constructor
  · intro h
    have hhead := congrArg (fun s : String => s.toList.head?) h
    have hlast := congrArg (fun s : String => s.toList.getLast?) h
    simp only [head?_fileName, getLast?_fileName, Option.some_inj] at hhead hlast
    obtain rfl : k = k' := edges_injective (Prod.ext hhead hlast)
    have hfront := (String.append_left_inj k.extension).1 h
    exact ⟨(String.append_right_inj (k.start ++ "clang_rt.")).1 hfront, rfl⟩
  · rintro ⟨rfl, rfl⟩
    rfl

end ArtifactKind

namespace RuntimeLibrary

/-! ### Directories -/

/-- Whether a text is the name of one directory. -/
def IsDirectoryName (s : String) : Prop := s ≠ "" ∧ '/' ∉ s.toList

/-- Whether a text is a directory suffix: none, or one directory behind a separator. -/
def IsSuffix (s : String) : Prop := s = "" ∨ ∃ name, IsDirectoryName name ∧ s = "/" ++ name

/-- The directories of a target's artifacts, from the resource directory on. -/
def directories (target suffix : String) : List String := cores ["lib", target, suffix]

theorem isSuffix_suffix {m : Multilib} (h : '/' ∉ m.name.toList) : IsSuffix m.suffix := by
  by_cases hname : m.name = ""
  · exact .inl (if_pos hname)
  · exact .inr ⟨m.name, ⟨hname, h⟩, if_neg hname⟩

theorem IsDirectoryName.isBare {s : String} (h : IsDirectoryName s) : IsBare s :=
  ⟨fun hhead => h.2 (List.mem_of_head? hhead), fun hlast => h.2 (List.mem_of_getLast? hlast)⟩

theorem IsDirectoryName.cores_cons {s : String} (h : IsDirectoryName s) (cs : List String) :
    cores (s :: cs) = s :: cores cs :=
  h.isBare.cores_cons h.1 cs

theorem cores_empty : cores [""] = [] := by decide

theorem IsDirectoryName.cores_suffix {name : String} (h : IsDirectoryName name) :
    cores ["/" ++ name] = [name] := by
  have hcore : trimSlashes ("/" ++ name) = name :=
    IsCore.trimSlashes_eq ⟨h.isBare, 1, 0, by simp [slashes]⟩
  rw [Path.cores_cons (by rw [hcore]; exact h.1), hcore]
  rfl

theorem cores_suffix_inj {s s' : String} (hs : IsSuffix s) (hs' : IsSuffix s')
    (h : cores [s] = cores [s']) : s = s' := by
  rcases hs with rfl | ⟨name, hname, rfl⟩ <;> rcases hs' with rfl | ⟨name', hname', rfl⟩
  · rfl
  · rw [cores_empty, hname'.cores_suffix] at h
    cases h
  · rw [cores_empty, hname.cores_suffix] at h
    cases h
  · rw [hname.cores_suffix, hname'.cores_suffix] at h
    rw [List.singleton_inj.1 h]

theorem isDirectoryName_lib : IsDirectoryName "lib" := ⟨by decide, by decide⟩

theorem directories_ne_nil (target suffix : String) : directories target suffix ≠ [] := by
  rw [directories, isDirectoryName_lib.cores_cons]
  exact List.cons_ne_nil _ _

theorem directories_eq {target : String} (h : IsDirectoryName target) (suffix : String) :
    directories target suffix = "lib" :: target :: cores [suffix] := by
  rw [directories, isDirectoryName_lib.cores_cons, h.cores_cons]

theorem slash_not_mem_directories {target suffix : String} (ht : IsDirectoryName target)
    (hs : IsSuffix suffix) : ∀ d ∈ directories target suffix, '/' ∉ d.toList := by
  rw [directories_eq ht]
  rcases hs with rfl | ⟨name, hname, rfl⟩
  · simpa [cores_empty] using ht.2
  · simpa [hname.cores_suffix] using ⟨ht.2, hname.2⟩

/-- The directories of artifacts tell the target and the suffix. -/
theorem directories_inj {target target' suffix suffix' : String} (ht : IsDirectoryName target)
    (ht' : IsDirectoryName target') (hs : IsSuffix suffix) (hs' : IsSuffix suffix')
    (h : directories target suffix = directories target' suffix') :
    target = target' ∧ suffix = suffix' := by
  rw [directories_eq ht, directories_eq ht'] at h
  obtain ⟨htarget, hsuffix⟩ := List.cons.inj (List.cons.inj h).2
  exact ⟨htarget, cores_suffix_inj hs hs' hsuffix⟩

/-! ### Paths -/

/-- The path of an artifact is its file name behind the directories of its target. -/
theorem artifactPath_eq (dir target suffix component : String) (kind : ArtifactKind) :
    artifactPath dir target suffix component kind =
      lead dir ++ joinWith '/' (directories target suffix ++ [kind.fileName component]) := by
  have hne : kind.fileName component ≠ "" := by
    intro h
    have hhead := kind.head?_fileName component
    simp [h] at hhead
  have hfile : cores ["lib", target, suffix, kind.fileName component] =
      directories target suffix ++ [kind.fileName component] := by
    have hcut := cores_append ["lib", target, suffix] [kind.fileName component]
    rw [(kind.isBare_fileName component).cores_cons hne] at hcut
    exact hcut
  rw [artifactPath, join_eq, hfile, if_neg (by simp)]

theorem slash_not_mem_fileName {component : String} (h : '/' ∉ component.toList)
    (kind : ArtifactKind) : '/' ∉ (kind.fileName component).toList := by
  cases kind <;> simpa [ArtifactKind.fileName, ArtifactKind.start, ArtifactKind.extension] using h

/-- Under one resource directory, artifacts for two targets with a suffix each have one path only if
target, suffix, component and kind are the same. For one target and suffix, whatever they are,
component and kind are told by the path even if the component holds separators. -/
theorem artifactPath_eq_iff (dir : String) :
    (∀ target target' suffix suffix' component component' : String, ∀ kind kind' : ArtifactKind,
      IsDirectoryName target → IsDirectoryName target' → IsSuffix suffix → IsSuffix suffix' →
      '/' ∉ component.toList → '/' ∉ component'.toList →
      (artifactPath dir target suffix component kind =
          artifactPath dir target' suffix' component' kind' ↔
        target = target' ∧ suffix = suffix' ∧ component = component' ∧ kind = kind')) ∧
    ∀ target suffix component component' : String, ∀ kind kind' : ArtifactKind,
      artifactPath dir target suffix component kind =
          artifactPath dir target suffix component' kind' ↔
        component = component' ∧ kind = kind' := by
  refine ⟨?_, ?_⟩
  · intro target target' suffix suffix' component component' kind kind' ht ht' hs hs' hc hc'
    constructor
    · intro h
      rw [artifactPath_eq, artifactPath_eq] at h
      -- No name on the way holds a separator, so the path is cut into the names again.
      have hnames := congrArg (splitOn '/') ((String.append_right_inj (lead dir)).1 h)
      rw [splitOn_joinWith (by simp), splitOn_joinWith (by simp)] at hnames
      · obtain ⟨hdirs, hfile⟩ := List.append_inj' hnames rfl
        obtain ⟨htarget, hsuffix⟩ := directories_inj ht ht' hs hs' hdirs
        exact ⟨htarget, hsuffix, ArtifactKind.fileName_inj.1 (List.singleton_inj.1 hfile)⟩
      · rw [List.forall_mem_append, List.forall_mem_singleton]
        exact ⟨slash_not_mem_directories ht' hs', slash_not_mem_fileName hc' kind'⟩
      · rw [List.forall_mem_append, List.forall_mem_singleton]
        exact ⟨slash_not_mem_directories ht hs, slash_not_mem_fileName hc kind⟩
    · rintro ⟨rfl, rfl, rfl, rfl⟩
      rfl
  · intro target suffix component component' kind kind'
    have hdirs := directories_ne_nil target suffix
    rw [artifactPath_eq, artifactPath_eq, joinWith_append hdirs (by simp),
      joinWith_append hdirs (by simp), joinWith_singleton, joinWith_singleton,
      String.append_right_inj, String.append_right_inj, ArtifactKind.fileName_inj]

theorem artifactPath_eq_iff_lookalikes :
    let variant : Multilib := ⟨"a7_soft", ["mcpu=cortex-a7", "mfloat-abi=soft"], 1⟩
    variant ∈ Multilib.catalog ∧
      artifactPath "/res" "arm-linux-ohos" variant.suffix "asan" .shared ≠
        artifactPath "/res" "arm-linux-ohos" "" "asan" .shared ∧
      artifactPath "/res" "arm-linux-ohos" variant.suffix "asan.so" .static ≠
        artifactPath "/res" "arm-linux-ohos" variant.suffix "asan" .shared ∧
      artifactPath "/res" "arm/linux" "" "a7_soft/libclang_rt.asan.so" .static ≠
        artifactPath "/res" "arm/linux" "" "a7_soft/libclang_rt.asan" .shared := by
  intro variant
  obtain ⟨hall, hfixed⟩ := artifactPath_eq_iff "/res"
  have htarget : IsDirectoryName "arm-linux-ohos" := ⟨by decide, by decide⟩
  have hvariant : IsSuffix variant.suffix := isSuffix_suffix (by decide)
  have hdiffer := hall _ _ _ _ "asan" "asan" .shared .shared htarget htarget hvariant (.inl rfl)
    (by decide) (by decide)
  have hkinds := hall _ _ _ _ "asan.so" "asan" .static .shared htarget htarget hvariant hvariant
    (by decide) (by decide)
  exact ⟨by decide, mt hdiffer.1 (by decide), mt hkinds.1 (by decide),
    mt (hfixed _ _ _ _ _ _).1 (by decide)⟩

end RuntimeLibrary

end TargetResolution
