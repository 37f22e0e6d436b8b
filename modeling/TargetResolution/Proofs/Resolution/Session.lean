import Mathlib.Data.List.Basic
import TargetResolution.Proofs.Listing.Growth
import TargetResolution.Proofs.Resolution.Outcome
import TargetResolution.Resolution.Session

/-!
What a session answers after any history of questions and additions. A step never changes the
resolution, and the listing only grows. So all that was found keeps its answer, and what is looked up
again keeps the directories that it had. The look-up of the file paths is the odd one: only the
runtime directory of the architecture is looked up, between directories that stay as they were found.
-/

namespace TargetResolution

/-! ### Look-ups -/

/-- A list of directories as it is looked up: candidates of which the existing ones are taken, and
what stands before and behind them without being looked up. -/
structure LookUp where
  front : List String := []
  candidates : List String := []
  back : List String := []

namespace LookUp

variable (k : LookUp) {present p q : String → Bool}

/-- The directories of a look-up when exactly the paths of a predicate exist. -/
def dirs (present : String → Bool) : List String :=
  k.front ++ k.candidates.filter present ++ k.back

theorem sublist_dirs (hpq : ∀ path, p path = true → q path = true) :
    (k.dirs p).Sublist (k.dirs q) :=
  ((List.Sublist.refl k.front).append (List.monotone_filter_right k.candidates hpq)).append
    (List.Sublist.refl k.back)

theorem present_of_mem_dirs (hfront : ∀ d ∈ k.front, present d = true)
    (hback : ∀ d ∈ k.back, present d = true) {d : String} (hd : d ∈ k.dirs present) :
    present d = true := by
  rw [dirs, List.mem_append, List.mem_append] at hd
  rcases hd with (hd | hd) | hd
  · exact hfront d hd
  · exact (List.mem_filter.1 hd).2
  · exact hback d hd

end LookUp

namespace Toolchain

/-- The look-up that a question leads to, if it leads to one. -/
def lookUp (t : Toolchain) : Question → LookUp
  | .includeDirs => { candidates := t.includeCandidates }
  | .cxxIncludeDirs => { candidates := t.cxxIncludeCandidates }
  | .filePaths =>
    { front := t.cxxModeDirs, candidates := [t.architectureDir], back := t.libraryDirs }
  | _ => {}

variable (present : String → Bool) (triple : Triple) (options : OptionList) (e : Environment)
  (variants : List Multilib)

theorem present_of_mem_cxxModeDirs {d : String}
    (h : d ∈ (found present triple options e variants).cxxModeDirs) : present d = true := by
  unfold cxxModeDirs at h
  split at h
  · exact List.find?_some (Option.mem_toList.1 h)
  · exact absurd h (by simp)

theorem present_of_mem_libraryDirs {d : String}
    (h : d ∈ (found present triple options e variants).libraryDirs) : present d = true :=
  (List.mem_filter.1 h).2

/-- What a look-up takes over without looking was found to exist. -/
theorem present_of_mem_lookUp (q : Question) :
    (∀ d ∈ ((found present triple options e variants).lookUp q).front, present d = true) ∧
      ∀ d ∈ ((found present triple options e variants).lookUp q).back, present d = true := by
  cases q with
  | filePaths =>
    exact ⟨fun _ => present_of_mem_cxxModeDirs present triple options e variants,
      fun _ => present_of_mem_libraryDirs present triple options e variants⟩
  | _ => simp [lookUp]

end Toolchain

/-! ### Answers -/

/-- What a configuration holds in answer to a question. -/
def Configuration.answer (c : Configuration) : Question → Answer
  | .multilib => .multilib c.multilib
  | .sysroot => .text c.sysroot
  | .libraryDirs => .list c.libraryDirs
  | .runtimeDir => .directory c.runtimeDir
  | .standardLibraryDir => .directory c.standardLibraryDir
  | .loader => .text c.loader
  | .linkerFlags => .list c.linkerFlags
  | .sanitizers => .sanitizers c.sanitizers
  | .artifactPath component kindName => c.artifactAnswer component kindName
  | .configuration => .configuration c
  | .includeDirs => .list c.includeDirs
  | .cxxIncludeDirs => .list c.cxxIncludeDirs
  | .filePaths => .list c.filePaths

namespace Resolution

variable (r : Resolution) {q : Question}

/-- The answer to a question that is looked up. -/
theorem answer_ask (h : q.looksUp = true) (present : String → Bool) :
    (r.ask q).answer present = .list ((r.toolchain.lookUp q).dirs present) := by
  cases q with
  | includeDirs =>
    rw [ask, Search.answer_andThen, Toolchain.answer_includeDirs]
    simp [Toolchain.lookUp, LookUp.dirs]
  | cxxIncludeDirs =>
    rw [ask, Search.answer_andThen, Toolchain.answer_cxxIncludeDirs]
    simp [Toolchain.lookUp, LookUp.dirs]
  | filePaths =>
    rw [ask, Search.answer_andThen, Toolchain.answer_filePaths]
    rfl
  | _ => exact absurd h (by simp [Question.looksUp])

/-- The questions that such a look-up leads to. -/
theorem queries_ask (h : q.looksUp = true) (present : String → Bool) :
    (r.ask q).queries present = (r.toolchain.lookUp q).candidates := by
  cases q with
  | includeDirs =>
    rw [ask, Search.queries_andThen, Toolchain.queries_includeDirs, Search.queries_done,
      List.append_nil]
    rfl
  | cxxIncludeDirs =>
    rw [ask, Search.queries_andThen, Toolchain.queries_cxxIncludeDirs, Search.queries_done,
      List.append_nil]
    rfl
  | filePaths =>
    rw [ask, Search.queries_andThen, Toolchain.queries_filePaths, Search.queries_done,
      List.append_nil]
    rfl
  | _ => exact absurd h (by simp [Question.looksUp])

/-- Every other question is answered without a look-up. -/
theorem ask_eq_done (h : q.looksUp = false) : ∃ a, r.ask q = .done a := by
  cases q with
  | includeDirs | cxxIncludeDirs | filePaths => exact absurd h (by simp [Question.looksUp])
  | _ => exact ⟨_, rfl⟩

/-- As long as the same paths exist, the configuration answers for the toolchain. -/
theorem answer_ask_found (present : String → Bool) (triple : Triple) (options : OptionList)
    (e : Environment) (variants : List Multilib) (q : Question) :
    ((found present triple options e variants).ask q).answer present =
      (found present triple options e variants).configuration.answer q := by
  cases q with
  | includeDirs =>
    rw [ask, Search.answer_andThen, Toolchain.answer_includeDirs]
    rfl
  | cxxIncludeDirs =>
    rw [ask, Search.answer_andThen, Toolchain.answer_cxxIncludeDirs]
    rfl
  | filePaths =>
    rw [ask, Search.answer_andThen, Toolchain.answer_filePaths]
    rfl
  | _ => rfl

end Resolution

namespace Session

/-! ### Steps and histories -/

/-- The paths that some steps add. -/
def added (steps : List Step) : List String :=
  steps.filterMap fun
    | .add path => if path = "" then none else some path
    | .ask _ => none

variable (s : Session)

theorem resolution_step (x : Step) : (s.step x).1.resolution = s.resolution := by
  cases x with
  | add path =>
    rw [step]
    split <;> rfl
  | ask q => rfl

theorem listing_step (x : Step) :
    (s.step x).1.listing = (added [x]).foldl Listing.add s.listing := by
  cases x with
  | add path => by_cases hpath : path = "" <;> simp [step, Listing.add?, added, hpath]
  | ask q => rfl

theorem resolution_after (steps : List Step) : (s.after steps).resolution = s.resolution := by
  induction steps generalizing s with
  | nil => rfl
  | cons x steps ih =>
    rw [after, List.foldl_cons, ← after, ih, resolution_step]

/-- The listing after some steps has what they added, and nothing else is changed. -/
theorem listing_after (steps : List Step) :
    (s.after steps).listing = (added steps).foldl Listing.add s.listing := by
  induction steps generalizing s with
  | nil => rfl
  | cons x steps ih =>
    have hadded : added (x :: steps) = added [x] ++ added steps :=
      List.filterMap_append (l := [x])
    rw [after, List.foldl_cons, ← after, ih, listing_step, hadded, List.foldl_append]

section

variable (triple : Triple) (options : OptionList) (e : Environment) (variants : List Multilib)
  (t : Listing)

theorem resolution_start :
    (start triple options e variants t).resolution =
      .found t.contains triple options e variants :=
  Resolution.answer_search t.contains triple options e variants

/-- What is looked up again was looked up when the session started. -/
theorem mem_queries_start {q : Question} (h : q.looksUp = true) {path : String}
    (hpath : path ∈
      ((start triple options e variants t).resolution.toolchain.lookUp q).candidates) :
    path ∈ (start triple options e variants t).record.queries := by
  rw [resolution_start] at hpath
  show path ∈ (Resolution.search triple options e variants).queries t.contains
  simp only [Resolution.search, Search.andThen_eq_bind, Search.queries_andThen,
    Toolchain.answer_search, Toolchain.queries_configure, List.mem_append]
  refine Or.inr (Or.inl ?_)
  cases q with
  | includeDirs => exact Or.inl (Or.inl hpath)
  | cxxIncludeDirs => exact Or.inl (Or.inr hpath)
  | filePaths => exact Or.inr hpath
  | _ => exact absurd h (by simp [Question.looksUp])

end

/-- The step of a question that is not looked up leaves everything as it is. -/
theorem step_ask_of_done {s : Session} {q : Question} {a : Answer} (h : s.resolution.ask q = .done a) :
    s.step (.ask q) = (s, .answered a) := by
  simp [step, queries, hits, answer, h, Search.hits_eq_filter]

theorem step_ask_of_looksUp (s : Session) {q : Question} (h : q.looksUp = true) :
    (s.step (.ask q)).2 =
        .answered (.list ((s.resolution.toolchain.lookUp q).dirs s.listing.contains)) ∧
      (s.step (.ask q)).1.record.queries =
        s.record.queries ++ (s.resolution.toolchain.lookUp q).candidates := by
  constructor
  · simp only [step, answer, Resolution.answer_ask s.resolution h]
  · simp only [step, queries, Resolution.queries_ask s.resolution h]

/-- After any history of questions and additions, the listing has what was added. What was found is
answered as it was at first, from the configuration, without a look-up. The three questions that are
looked up ask for the same candidates again: they keep the directories that they had, in order, have
only directories that exist now, and nothing changes unless a new path was added. -/
theorem answers_after_history (triple : Triple) (options : OptionList) (e : Environment)
    (variants : List Multilib) (t : Listing) (history : List Step) :
    let first := start triple options e variants t
    let now := first.after history
    let c := first.resolution.configuration
    now.listing = (added history).foldl Listing.add t ∧
      (∀ q, q.looksUp = false →
        first.answer q = c.answer q ∧ now.step (.ask q) = (now, .answered (first.answer q))) ∧
      ∀ q, q.looksUp = true →
        let k := first.resolution.toolchain.lookUp q
        first.answer q = .list (k.dirs t.contains) ∧ c.answer q = .list (k.dirs t.contains) ∧
        (now.step (.ask q)).2 = .answered (.list (k.dirs now.listing.contains)) ∧
        (now.step (.ask q)).1.record.queries = now.record.queries ++ k.candidates ∧
        (∀ path ∈ k.candidates, path ∈ first.record.queries) ∧
        (k.dirs t.contains).Sublist (k.dirs now.listing.contains) ∧
        (∀ d ∈ k.dirs now.listing.contains, now.listing.contains d = true) ∧
        ((∀ path ∈ added history, t.contains path = true) →
          k.dirs now.listing.contains = k.dirs t.contains) := by
  intro first now c
  have hfirst : first.resolution = .found t.contains triple options e variants :=
    resolution_start triple options e variants t
  have hnow : now.resolution = first.resolution := first.resolution_after history
  have hlisting : now.listing = (added history).foldl Listing.add t := first.listing_after history
  have hwithin : t.IsWithin now.listing := by
    rw [hlisting]
    exact Listing.isWithin_foldl_add _ t
  have hconfiguration : ∀ q, first.answer q = c.answer q := by
    intro q
    show (first.resolution.ask q).answer t.contains = first.resolution.configuration.answer q
    rw [hfirst]
    exact Resolution.answer_ask_found t.contains triple options e variants q
  refine ⟨hlisting, fun q hq => ⟨hconfiguration q, ?_⟩, fun q hq => ?_⟩
  · obtain ⟨a, ha⟩ := first.resolution.ask_eq_done hq
    have hanswer : first.answer q = a := by rw [answer, ha, Search.answer_done]
    rw [hanswer]
    exact step_ask_of_done (hnow ▸ ha)
  · obtain ⟨hreply, hrecord⟩ := step_ask_of_looksUp now hq
    have hanswer : first.answer q = .list ((first.resolution.toolchain.lookUp q).dirs t.contains) :=
      first.resolution.answer_ask hq t.contains
    obtain ⟨hfront, hback⟩ := Toolchain.present_of_mem_lookUp t.contains triple options e variants q
    rw [hnow] at hreply hrecord
    refine ⟨hanswer, hconfiguration q ▸ hanswer, hreply, hrecord,
      fun _ => mem_queries_start triple options e variants t hq, LookUp.sublist_dirs _ hwithin, ?_, ?_⟩
    · intro d hd
      rw [hfirst] at hd
      exact LookUp.present_of_mem_dirs _ (fun d hd => hwithin d (hfront d hd))
        (fun d hd => hwithin d (hback d hd)) hd
    · intro hpresent
      rw [hlisting, Listing.foldl_add_eq_self hpresent]

theorem answers_after_history_runtime_added :
    let triple : Triple :=
      { text := "aarch64-linux-ohos", architecture := .aarch64, architectureName := "aarch64"
        vendor := "unknown", system := "linux", environment := "ohos", version := .zero
        family := .bionic, systemPart := "linux", environmentPart := "ohos" }
    let first := start triple (.ofTokens []) { resourceDir := "/res" } Multilib.catalog {}
    let now := first.after
      [.add "/res/lib/linux/aarch64", .ask .filePaths, .add "/usr/lib/aarch64-linux-ohos"]
    let k := first.resolution.toolchain.lookUp .filePaths
    now.step (.ask .libraryDirs) = (now, .answered (.list [])) ∧
      first.answer .filePaths = .list (k.dirs ({} : Listing).contains) ∧
      (now.step (.ask .filePaths)).2 = .answered (.list (k.dirs now.listing.contains)) ∧
      k.dirs ({} : Listing).contains = [] ∧
      k.dirs now.listing.contains = ["/res/lib/linux/aarch64"] := by
  intro triple first now k
  obtain ⟨-, hfound, hlooked⟩ := answers_after_history triple (.ofTokens [])
    { resourceDir := "/res" } Multilib.catalog {}
    [.add "/res/lib/linux/aarch64", .ask .filePaths, .add "/usr/lib/aarch64-linux-ohos"]
  obtain ⟨-, hlibrary⟩ := hfound .libraryDirs rfl
  obtain ⟨hfirst, -, hreply, -⟩ := hlooked .filePaths rfl
  have hnone : first.answer .libraryDirs = .list [] ∧ first.answer .filePaths = .list [] := by
    decide +kernel
  have hone : (now.step (.ask .filePaths)).2 = .answered (.list ["/res/lib/linux/aarch64"]) := by
    decide +kernel
  refine ⟨?_, hfirst, hreply, ?_, ?_⟩
  · rw [← hnone.1]
    exact hlibrary
  · exact Answer.list.inj (hfirst.symm.trans hnone.2)
  · exact Answer.list.inj (Reply.answered.inj (hreply.symm.trans hone))

end Session

end TargetResolution
