import TargetResolution.Proofs.CommandLine.Agreement
import TargetResolution.Proofs.Recorder.History

/-!
The probes that the resolving command reports. The command keeps a record of its questions and looks
the label of each one up among the hits. Main statement: the record of any history of questions,
additions and resets holds what was asked since the last reset and which of it was answered with
yes, and without additions the labels are the answers. So each line that the command reports for a
probe shows how this very probe was answered.
-/

namespace TargetResolution

namespace Search

variable {ν α : Type} (present : String → Bool)

/-- The questions of a run, each with its answer. -/
def trail (s : Search ν α) : List (String × Bool) :=
  (s.events present).filterMap fun
    | .probed path found => some (path, found)
    | .noted _ => none

theorem trail_eq (s : Search ν α) :
    s.trail present = (s.queries present).map fun path => (path, present path) := by
  induction s with
  | done a => rfl
  | probe path next ih =>
    rw [queries_probe, List.map_cons, ← ih (present path)]
    rfl
  | note entry next ih => exact ih

/-- A search that answers with its own questions answers with those of its run. -/
theorem trail_traced (s : Search ν α) : (s.traced.answer present).2 = s.trail present := by
  induction s with
  | done a => rfl
  | probe path next ih =>
    rw [traced, answer_probe, answer_andThen, answer_done, ih (present path)]
    rfl
  | note entry next ih => exact ih

end Search

/-! ### Reports -/

namespace Report

theorem eq_of_textKeys {entries : List (Value × Value)} {texts : List (String × Value)}
    (h : textKeys entries = .ok texts) : entries = texts.map fun x => (.str x.1, x.2) := by
  induction entries generalizing texts with
  | nil =>
    obtain rfl := Except.ok.inj h
    rfl
  | cons x entries ih =>
    obtain ⟨key, v⟩ := x
    cases key with
    | str key =>
      obtain ⟨rest, hrest, rfl⟩ := exists_of_map_eq_ok h
      rw [List.map_cons, ← ih hrest]
    | _ => cases h

/-- The lines of a list end with one for each item. -/
theorem exists_entryLines (width : Nat) (key : String) (items : List String) :
    ∃ front, entryLines width key (Configuration.textList items) =
      front ++ items.map fun item => blanksOf (width + 3) ++ item := by
  have hshown : (items.map Value.str).map Value.text = items := by
    rw [List.map_map]
    exact List.map_id'' (fun _ => rfl) items
  rw [Configuration.textList, entryLines, hshown]
  cases items with
  | nil => exact ⟨_, (List.append_nil _).symm⟩
  | cons item items => exact ⟨[padTo width key ++ " :"], rfl⟩

/-- In the text form, a list at the end of a report has one line for each item. -/
theorem exists_lines_of_render {entries : List (Value × Value)} {key text : String}
    {items : List String}
    (h : render .text (entries ++ [(.str key, Configuration.textList items)]) = .ok text) :
    ∃ front width,
      text = "\n".intercalate (front ++ items.map fun item => blanksOf width ++ item) := by
  obtain ⟨texts, htexts, rfl⟩ := exists_of_map_eq_ok (eq_ok_of_mapError_eq_ok h)
  obtain ⟨earlier, last, rfl, -, hlast⟩ := List.append_eq_map_iff.1 (eq_of_textKeys htexts)
  obtain ⟨⟨key', v⟩, rfl, hentry⟩ := List.map_eq_singleton_iff.1 hlast
  obtain ⟨-, rfl⟩ := Prod.mk.inj hentry
  let width := keyWidth ((earlier ++ [(key', Configuration.textList items)]).map (·.1))
  obtain ⟨front, hfront⟩ := exists_entryLines width key' items
  refine ⟨earlier.flatMap (fun x => entryLines width x.1 x.2) ++ front, width + 3, ?_⟩
  rw [List.append_assoc, ← hfront, textForm, List.flatMap_append, List.flatMap_singleton]

end Report

namespace CommandLine

variable {present : String → Bool} {files : String → FileState}

/-- The resolving command answers only if it has an environment, a listing or none, and a target
that is accepted. -/
theorem ResolveRequest.exists_search_of_ok {r : ResolveRequest} {a : Answer}
    (h : (r.search files).answer present = .ok a) :
    ∃ e listing s,
      (Environment.gather files r.environmentFile r.overrides).answer present = .ok e ∧
        (listingOf files r.listingFile).answer present = .ok listing ∧
        resolveGiven r.target r.driverOptions e = .ok s := by
  obtain ⟨e, he, h⟩ := Search.ok_of_answer_ifOk present h
  obtain ⟨listing, hlisting, h⟩ := Search.ok_of_answer_ifOk present h
  rw [Search.answer_mapError] at he hlisting
  rw [Search.answer_note] at h
  cases hs : resolveGiven r.target r.driverOptions e with
  | error failure =>
    rw [hs] at h
    cases h
  | ok s =>
    exact ⟨e, listing, s, eq_ok_of_mapError_eq_ok he, eq_ok_of_mapError_eq_ok hlisting, hs⟩

theorem exists_text_of_reportAnswer {r : ResolveRequest} {c : Configuration}
    {trail : List (String × Bool)} {a : Answer} (h : reportAnswer r c trail = .ok a) :
    ∃ text, Report.renderNamed r.format (reportEntries c r.trace trail) = .ok text ∧
      a.output = text ++ "\n" := by
  unfold reportAnswer at h
  split at h
  next text htext =>
    obtain rfl := Except.ok.inj h
    exact ⟨text, htext, rfl⟩
  next => cases h

open Recorder in
/-- For any history of questions, additions and resets, the record holds the questions since the
last reset in order, and as hits those of them that the listing answered with yes when they were
asked. A path that exists never ceases to, and without additions each label shows how its question
was answered. A resolving command that is asked for its probes answers with a report that ends in
one entry or line for each question of its run, which shows how this question was answered. -/
theorem probe_lines_show_answers :
    (∀ steps : List Step, ∃ before recent, steps = before ++ recent ∧ .reset ∉ recent ∧
      ∀ x ∈ before.getLast?, x = .reset) ∧
    (∀ (t : Listing) (before recent : List Step), .reset ∉ recent →
      (∀ x ∈ before.getLast?, x = .reset) →
      let now := after (t, {}) (before ++ recent)
      let trail := answers (after (t, {}) before).1 recent
      now.2.queries = asked recent ∧ trail.map (·.1) = asked recent ∧
      (∀ earlier path later, recent = earlier ++ .query path :: later →
        trail[(asked earlier).length]? =
          some (path, (after (t, {}) (before ++ earlier)).1.contains path)) ∧
      now.2.hits = (trail.filter (·.2)).map (·.1) ∧ now.2.hits.Sublist now.2.queries ∧
      (∀ path more, now.1.contains path = true → (after now more).1.contains path = true) ∧
      (added recent = [] → now.2.labels = trail.map fun x => answerLine x.1 x.2)) ∧
    (∀ p q, answerLine p true ≠ answerLine q false) ∧
    ∀ (r : ResolveRequest) (files : String → FileState) (present : String → Bool) (a : Answer),
      r.trace = true → ((Command.resolve r).search files).answer present = .ok a →
      ∃ e listing s text,
        (Environment.gather files r.environmentFile r.overrides).answer present = .ok e ∧
        (listingOf files r.listingFile).answer present = .ok listing ∧
        resolveGiven r.target r.driverOptions e = .ok s ∧
        let inside := presentIn present listing
        let lines := (s.trail inside).map fun x => answerLine x.1 x.2
        (s.trail inside).map (·.1) = s.queries inside ∧
        (∀ x ∈ s.trail inside, x.2 = inside x.1) ∧
        (∀ t, listing = some t → s.trail inside = answers t ((s.queries inside).map .query)) ∧
        Report.renderNamed r.format ((s.answer inside).entries ++
          [(.str probesKey, Configuration.textList lines)]) = .ok text ∧
        a.output = text ++ "\n" ∧
        (r.format = Report.Format.text.name → ∃ front width,
          text = "\n".intercalate (front ++ lines.map fun l => Report.blanksOf width ++ l)) := by
  refine ⟨exists_last_reset, ?_, answerLine_ne, ?_⟩
  · intro t before recent hrecent hbefore now trail
    have hrecord : now.2 = ofTrail trail := record_since_reset hrecent hbefore t
    have htrail : trail.map (·.1) = asked recent := map_answers _ recent
    rw [hrecord, ofTrail_eq]
    refine ⟨htrail, htrail, ?_, rfl, (List.filter_sublist).map _, fun path more => ?_,
      fun hnone => ?_⟩
    · rintro earlier path later rfl
      rw [show after (t, {}) (before ++ earlier) = after (after (t, {}) before) earlier from
        List.foldl_append, listing_after (after (t, {}) before) earlier]
      exact getElem?_answers _ earlier path later
    · exact isWithin_after now more path
    · rw [← ofTrail_eq]
      exact labels_ofTrail fun x hx => answer_of_mem_answers hnone hx
  · intro r files present a htrace ha
    obtain ⟨e, listing, s, he, hlisting, hs⟩ := r.exists_search_of_ok ha
    have hanswer : reportAnswer r _ _ = .ok a := (r.answer_search he hlisting hs).symm.trans ha
    obtain ⟨text, htext, houtput⟩ := exists_text_of_reportAnswer hanswer
    have hfound : ∀ x ∈ s.trail (presentIn present listing),
        x.2 = presentIn present listing x.1 := by
      intro x hx
      rw [Search.trail_eq] at hx
      obtain ⟨path, -, rfl⟩ := List.mem_map.1 hx
      rfl
    rw [reportEntries, htrace, if_pos rfl, Search.trail_traced, labels_ofTrail hfound] at htext
    refine ⟨e, listing, s, text, he, hlisting, hs, ?_, hfound, ?_, htext, houtput,
      fun hformat => ?_⟩
    · rw [Search.trail_eq, List.map_map]
      exact List.map_id'' (fun _ => rfl) _
    · rintro t rfl
      rw [answers_queries, Search.trail_eq]
      rfl
    · have hname : Report.Format.ofName? Report.Format.text.name = some .text := by decide
      rw [hformat, Report.renderNamed, hname] at htext
      exact Report.exists_lines_of_render htext

open Recorder in
theorem probe_lines_show_answers_listed :
    let recent : List Step := [.query "/a", .add "/a//b", .query "/a"]
    let now := after ({}, {}) ([.query "/a", .reset] ++ recent)
    let r : ResolveRequest := {
      target := .text "aarch64-linux-ohos", driverOptions := [], environmentFile := none,
      overrides := {}, listingFile := some "fs.yaml", trace := true, format := "text" }
    let files : String → FileState := fun _ => .text "paths: [/usr/lib/aarch64-linux-ohos]\n"
    now.2.queries = ["/a", "/a"] ∧ now.2.hits = ["/a"] ∧
      ∃ a s t, ((Command.resolve r).search files).answer (fun _ => true) = .ok a ∧
        resolveGiven r.target r.driverOptions {} = .ok s ∧
        (listingOf files r.listingFile).answer (fun _ => true) = .ok (some t) ∧
        s.trail t.contains = answers t ((s.queries t.contains).map .query) ∧
        ∃ front width, a.output = "\n".intercalate (front ++ (s.trail t.contains).map fun x =>
          Report.blanksOf width ++ answerLine x.1 x.2) ++ "\n" := by
  intro recent now r files
  obtain ⟨-, hrecord, -, hreport⟩ := probe_lines_show_answers
  obtain ⟨hqueries, -, -, hhits, -⟩ :=
    hrecord {} [.query "/a", .reset] recent (by decide) (by simp)
  obtain ⟨a, ha⟩ : ∃ a, ((Command.resolve r).search files).answer (fun _ => true) = .ok a :=
    exists_of_isOk (by decide +kernel)
  obtain ⟨e, listing, s, text, he, hlisting, hs, -, -, htrail, -, houtput, hlines⟩ :=
    hreport r files (fun _ => true) a rfl ha
  have hempty : (Environment.gather files r.environmentFile r.overrides).answer (fun _ => true) =
      .ok {} := rfl
  obtain rfl := Except.ok.inj (he.symm.trans hempty)
  obtain ⟨t, -, ht⟩ := Search.ok_of_answer_ifOk (fun _ => true) hlisting
  obtain rfl := Except.ok.inj ht
  obtain ⟨front, width, rfl⟩ := hlines rfl
  refine ⟨hqueries, hhits.trans (by decide +kernel), a, s, t, ha, hs, hlisting, htrail t rfl,
    front, width, ?_⟩
  rw [houtput, List.map_map]
  rfl

end CommandLine

end TargetResolution
