import TargetResolution.Proofs.Search.Run
import TargetResolution.Resolution.Toolchain

/-!
Resolutions and their records. The questions of a resolution depend on the answers to earlier ones:
a sysroot that is found moves all later candidates, and a tier that is met ends its chain. Main
statement: the record of a resolution still accounts for all that it takes from the listing, so any
listing that answers the recorded questions alike is resolved alike, and so is the record itself
when it stands in for the listing.
-/

namespace TargetResolution

/-- A listing that gives the recorded answers to the recorded questions leads to the same record,
the same events and the same configuration. The recorded hits alone lead there too, as if nothing
else existed. -/
theorem resolve_determined_by_record {target : String} {triple : Triple}
    (accepted : Triple.parse target = .ok triple) (tokens : List String) (e : Environment)
    (t : Listing) :
    ∃ s c record, resolve target tokens e = .ok s ∧ Recorder.recorded t s {} = (c, record) ∧
      (∀ u : Listing, (∀ path ∈ record.queries, u.contains path = t.contains path) →
        Recorder.recorded u s {} = (c, record) ∧ s.events u.contains = s.events t.contains) ∧
      let replayed : String → Bool := fun path => decide (path ∈ record.hits)
      s.answer replayed = c ∧ s.queries replayed = record.queries ∧
        s.hits replayed = record.hits := by
  obtain ⟨s, hs⟩ : ∃ s, resolve target tokens e = .ok s := ⟨_, by rw [resolve, accepted]; rfl⟩
  have hrecorded := Recorder.recorded_eq t s {}
  simp only [List.nil_append] at hrecorded
  refine ⟨s, _, _, hs, hrecorded, fun u hu => ⟨?_, ?_⟩, ?_⟩
  · rw [Recorder.recorded_congr s {} hu, hrecorded]
  · exact (Search.run_congr s hu).2
  · have hreplayed : ∀ path ∈ s.queries t.contains,
        decide (path ∈ s.hits t.contains) = t.contains path := fun _ hpath =>
      Search.decide_mem_hits t.contains hpath
    exact ⟨(Search.run_congr s hreplayed).1, Search.queries_congr s hreplayed⟩

theorem resolve_determined_by_record_bundled :
    let t : Listing := ⟨[⟨true, ["opt", "sysroot"]⟩]⟩
    let u : Listing := ⟨[⟨true, ["srv"]⟩, ⟨true, ["opt", "sysroot"]⟩]⟩
    ∃ triple s c record, Triple.parse "arm-linux-ohos" = .ok triple ∧
      resolve "arm-linux-ohos" [] { installedDir := "/opt/llvm/bin" } = .ok s ∧
      Recorder.recorded t s {} = (c, record) ∧
      (∀ path ∈ record.queries, u.contains path = t.contains path) ∧
      Recorder.recorded u s {} = (c, record) := by
  intro t u
  have accepted : Triple.parse "arm-linux-ohos" = .ok _ := rfl
  have hs : resolve "arm-linux-ohos" [] { installedDir := "/opt/llvm/bin" } = .ok _ := rfl
  obtain ⟨s, c, record, hs', hrecorded, hsame, -⟩ :=
    resolve_determined_by_record accepted [] { installedDir := "/opt/llvm/bin" } t
  obtain rfl := Except.ok.inj (hs.symm.trans hs')
  have hagree : ∀ path ∈ record.queries, u.contains path = t.contains path := by
    obtain rfl : _ = record := congrArg Prod.snd hrecorded
    decide +kernel
  exact ⟨_, _, c, record, accepted, hs, hrecorded, hagree, (hsame u hagree).1⟩

end TargetResolution
