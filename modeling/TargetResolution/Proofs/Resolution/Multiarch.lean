import TargetResolution.Proofs.Resolution.Loader

/-!
Multiarch names. A name of the table is read as a target whose name it is again, and a text without
an entry is its own name, so no more is left to canonicalize in a multiarch name. Main statement:
this, and on the ARM architectures with a name for the musl family the name and the loader of a
configuration agree on the family.
-/

namespace TargetResolution

open Triple (parse)

/-- Whether a text is accepted and is the multiarch name of its own target. -/
def IsMultiarch (name : String) : Prop := ∃ t, parse name = .ok t ∧ t.multiarch = name

theorem isMultiarch_iff (name : String) :
    IsMultiarch name ↔ (parse name).toOption.map Triple.multiarch = some name := by
  unfold IsMultiarch
  cases parse name <;> simp [Except.toOption]

instance (name : String) : Decidable (IsMultiarch name) :=
  decidable_of_iff _ (isMultiarch_iff name).symm

namespace MultiarchEntry

variable {a : Architecture} {e : MultiarchEntry}

/-- All names of an entry. -/
def names (e : MultiarchEntry) : List String :=
  e.liteos.toList ++ [e.ohos] ++ if e.takesMusl then [e.ohos ++ "musl"] else []

theorem name_mem_names (e : MultiarchEntry) (liteos musl : Bool) :
    e.name liteos musl ∈ e.names := by
  obtain ⟨_ | _, ohos, takesMusl⟩ := e <;> cases liteos <;> cases takesMusl <;> cases musl <;>
    simp [name, names]

/-- The table holds nothing but multiarch names. -/
theorem isMultiarch_of_mem_names (h : of? a = some e) : ∀ name ∈ e.names, IsMultiarch name := by
  cases a <;> cases h <;> decide +kernel

/-- Without LiteOS, the names of 32-bit and 64-bit ARM tell the families apart. -/
theorem endsIn_ohosmusl_iff (ha : a ∈ [.arm, .thumb, .aarch64]) :
    ∃ e, of? a = some e ∧
      ∀ musl, "ohosmusl".toList <:+ (e.name false musl).toList ↔ musl = true := by
  simp only [List.mem_cons, List.not_mem_nil, or_false] at ha
  rcases ha with rfl | rfl | rfl <;> exact ⟨_, rfl, by decide +kernel⟩

end MultiarchEntry

namespace Triple

variable {t : Triple}

theorem multiarch_of_entry {e : MultiarchEntry} (h : MultiarchEntry.of? t.architecture = some e) :
    t.multiarch = e.name t.isLiteos t.isMusl := by
  rw [multiarch, h]

theorem multiarch_of_unmapped (h : MultiarchEntry.of? t.architecture = none) :
    t.multiarch = t.text := by
  rw [multiarch, h]

/-- The multiarch name of an accepted text is one of the table, or the text itself. -/
theorem isMultiarch_multiarch {text : String} (accepted : parse text = .ok t) :
    IsMultiarch t.multiarch := by
  cases h : MultiarchEntry.of? t.architecture with
  | none =>
    have hself : t.multiarch = text := (multiarch_of_unmapped h).trans (text_of_parse accepted)
    exact ⟨t, hself ▸ accepted, rfl⟩
  | some e =>
    rw [multiarch_of_entry h]
    exact MultiarchEntry.isMultiarch_of_mem_names h _ (e.name_mem_names _ _)

/-- The loader is a musl loader for the musl family only. -/
theorem loader_isMusl_iff (abi : FloatAbi) :
    (∃ name, t.loader abi = "/lib/ld-musl-" ++ name ++ ".so.1") ↔ t.isMusl = true := by
  have hmusl : t.isMusl = true ↔ t.family ≠ .bionic := by
    unfold isMusl
    cases t.family <;> decide
  rw [hmusl]
  constructor
  · rintro ⟨name, hname⟩ hbionic
    have hsystem : muslLoader name "" = t.loader abi := by
      rw [hname, muslLoader, String.append_empty]
    refine muslLoader_ne name "" (t.loader abi) ?_ hsystem
    rw [loader_of_bionic hbionic]
    cases t.architecture.is64Bit <;> simp
  · intro hfamily
    let mark := if t.architecture.isArm ∧ abi = .hard then "hf" else ""
    have hjoin : muslLoader t.loaderArchitecture mark =
        "/lib/ld-musl-" ++ (t.loaderArchitecture ++ mark) ++ ".so.1" := by
      simp only [muslLoader, String.append_assoc]
    exact ⟨_, (loader_of_musl hfamily abi).trans hjoin⟩

end Triple

/-- The multiarch name of a configuration is that of the target. -/
theorem multiarch_of_resolve {text : String} {t : Triple} (accepted : parse text = .ok t)
    {tokens : List String} {e : Environment} {s : Search Note Configuration}
    (hs : resolve text tokens e = .ok s) (present : String → Bool) :
    (s.answer present).multiarch = t.multiarch := by
  rw [(run_of_resolve accepted hs present).1]
  rfl

/-- The multiarch name of every accepted text is itself accepted and has the same multiarch name.
On 32-bit and 64-bit ARM without LiteOS, the name under which a configuration is searched ends in
the mark of the musl family exactly if its loader is a musl loader, for all options and
environments. And two accepted texts with one architecture of the table, one family, and LiteOS
in both or none of them have one multiarch name. -/
theorem multiarch_canonical {text : String} {t : Triple} (accepted : parse text = .ok t) :
    (∃ u, parse t.multiarch = .ok u ∧ u.multiarch = t.multiarch) ∧
    (t.architecture ∈ [.arm, .thumb, .aarch64] → t.system ≠ "liteos" →
      ∀ tokens e, ∃ s, resolve text tokens e = .ok s ∧ ∀ present : String → Bool,
        let c := s.answer present
        c.multiarch = t.multiarch ∧
          ("ohosmusl".toList <:+ c.multiarch.toList ↔
            ∃ name, c.loader = "/lib/ld-musl-" ++ name ++ ".so.1")) ∧
    (MultiarchEntry.of? t.architecture ≠ none →
      ∀ text' t', parse text' = .ok t' → t'.architecture = t.architecture →
        (t'.system = "liteos" ↔ t.system = "liteos") → t'.family = t.family →
        t'.multiarch = t.multiarch) := by
  refine ⟨Triple.isMultiarch_multiarch accepted, fun harm hsystem tokens e => ?_, ?_⟩
  · obtain ⟨s, hs, -⟩ := resolve_of_parse accepted tokens e
    obtain ⟨entry, hentry, hends⟩ := MultiarchEntry.endsIn_ohosmusl_iff harm
    have hliteos : t.isLiteos = false := by simpa [Triple.isLiteos] using hsystem
    refine ⟨s, hs, fun present => ⟨multiarch_of_resolve accepted hs present, ?_⟩⟩
    rw [multiarch_of_resolve accepted hs, loader_of_resolve accepted hs, Triple.loader_isMusl_iff,
      Triple.multiarch_of_entry hentry, hliteos]
    exact hends t.isMusl
  · intro hmapped text' t' _ harchitecture hsystem hfamily
    obtain ⟨entry, hentry⟩ := Option.ne_none_iff_exists'.1 hmapped
    have hliteos : t'.isLiteos = t.isLiteos := by simp [Triple.isLiteos, hsystem]
    rw [Triple.multiarch_of_entry (harchitecture ▸ hentry), Triple.multiarch_of_entry hentry,
      hliteos, Triple.isMusl, Triple.isMusl, hfamily]

theorem multiarch_canonical_thumb :
    ∃ t t' s, parse "thumbv7-acme-linux-ohosmusl9.2" = .ok t ∧ parse "thumb-none" = .ok t' ∧
      t.multiarch = "arm-linux-ohosmusl" ∧ t'.multiarch = "arm-linux-ohosmusl" ∧
      (∃ u, parse "arm-linux-ohosmusl" = .ok u ∧ u.multiarch = "arm-linux-ohosmusl") ∧
      resolve "thumbv7-acme-linux-ohosmusl9.2" ["-mhard-float"] {} = .ok s ∧
      ∃ name, (s.answer fun _ => false).loader = "/lib/ld-musl-" ++ name ++ ".so.1" := by
  obtain ⟨t, accepted, harch, hsystem, hfamily, hname⟩ :
      ∃ t, parse "thumbv7-acme-linux-ohosmusl9.2" = .ok t ∧ t.architecture = .thumb ∧
        t.system = "linux" ∧ t.family = .musl ∧ t.multiarch = "arm-linux-ohosmusl" :=
    ⟨_, rfl, rfl, rfl, rfl, rfl⟩
  obtain ⟨t', accepted', harch', hsystem', hfamily'⟩ :
      ∃ t, parse "thumb-none" = .ok t ∧ t.architecture = .thumb ∧ t.system = "none" ∧
        t.family = .musl :=
    ⟨_, rfl, rfl, rfl, rfl⟩
  obtain ⟨hagain, hloader, hsame⟩ := multiarch_canonical accepted
  obtain ⟨s, hs, hfound⟩ := hloader (by simp [harch]) (by simp [hsystem]) ["-mhard-float"] {}
  obtain ⟨hmultiarch, hends⟩ := hfound fun _ => false
  have hname' : t'.multiarch = t.multiarch :=
    hsame (by rw [harch]; decide) _ t' accepted' (harch'.trans harch.symm)
      (by rw [hsystem', hsystem]; decide) (hfamily'.trans hfamily.symm)
  rw [hname] at hagain hname' hmultiarch
  rw [hmultiarch] at hends
  exact ⟨t, t', s, accepted, accepted', hname, hname', hagain, hs, hends.1 (by decide)⟩

end TargetResolution
