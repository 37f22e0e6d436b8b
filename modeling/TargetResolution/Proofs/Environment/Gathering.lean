import TargetResolution.CommandLine.Invocation
import TargetResolution.Environment.Document
import TargetResolution.Proofs.Environment.Override
import TargetResolution.Proofs.Search.Run

/-!
Environments that are gathered from a file and the command line. Main statement: a field has the
value of the command line if there is one, else that of the file, else its default; a switch is on
if it is on in one of the two. Whatever the command line gives, it is taken.
-/

namespace TargetResolution

namespace Environment

/-- What a command line gives for an environment: texts, where they are given, and switches. -/
structure Given where
  sysroot : Option String := none
  installedDir : Option String := none
  resourceDir : Option String := none
  driverDir : Option String := none
  includeDirs : Option (List String) := none
  cxxMode : Bool := false
  buildId : Bool := false
  deriving DecidableEq

/-- The text that is given for a path. -/
def Given.text? (g : Given) : Field → Option String
  | .sysroot => g.sysroot
  | .installedDir => g.installedDir
  | .resourceDir => g.resourceDir
  | .driverDir => g.driverDir
  | _ => none

/-- The overriding values that are given. -/
def Given.overrides (g : Given) : Overrides where
  sysroot := g.sysroot.map .str
  installedDir := g.installedDir.map .str
  resourceDir := g.resourceDir.map .str
  driverDir := g.driverDir.map .str
  includeDirs := g.includeDirs.map fun dirs => .list (dirs.map .str)
  cxxMode := g.cxxMode
  buildId := g.buildId

/-- Whether a mapping is what the file holds, if one is named. Without a file it is empty. -/
def FileHolds (files : String → FileState) : Option String → List (Value × Value) → Prop
  | none, entries => entries = []
  | some file, entries =>
    ∃ v, Document.load .environment file (files file) = .ok v ∧ entriesOf? v = some entries

/-! ### What is given is taken -/

theorem includeDirsOf_list (dirs : List String) :
    includeDirsOf (.list (dirs.map .str)) = .ok dirs := by
  simp only [includeDirsOf, Value.texts?_map_str]

/-- A value of the command line is a text for a path, a list of texts for the include directories or
a switch that is on. -/
theorem Given.value?_cases (g : Given) {f : Field} {v : Value}
    (h : g.overrides.value? f = some v) :
    v.isNull = false ∧ ∃ w, f.read v = .ok w := by
  cases f with
  | sysroot | installedDir | resourceDir | driverDir =>
    obtain ⟨s, -, rfl⟩ := Option.map_eq_some_iff.1 h
    exact ⟨rfl, .str s, rfl⟩
  | includeDirs =>
    obtain ⟨dirs, -, rfl⟩ := Option.map_eq_some_iff.1 h
    exact ⟨rfl, _, by rw [Field.read, includeDirsOf_list]; rfl⟩
  | cxxMode | buildId =>
    obtain ⟨-, hv⟩ := Option.ite_none_right_eq_some.1 h
    obtain rfl := Option.some.inj hv
    exact ⟨rfl, .bool true, rfl⟩

theorem Given.taken_entries (g : Given) : ∀ x ∈ g.overrides.entries, Taken x := by
  intro x hx
  obtain ⟨f, v, hv, rfl⟩ := Overrides.mem_entries.1 hx
  intro f' hf' _
  rw [Field.ofKey?_key] at hf'
  obtain rfl := Option.some.inj hf'
  exact (g.value?_cases hv).2

theorem Given.given?_entries (g : Given) (f : Field) :
    given? f g.overrides.entries = g.overrides.value? f := by
  rw [Overrides.given?_entries]
  cases hv : g.overrides.value? f with
  | none => rfl
  | some v => simp [Option.filter, (g.value?_cases hv).1]

end Environment

namespace CommandLine

/-- The options that give something for an environment. -/
def environmentValueOptions : List OptionSpec :=
  [sysrootOption, installedDirOption, resourceDirOption, driverDirOption, includeDirOption]

variable {r : Reading} {o : OptionSpec}

theorem Reading.value?_eq (h : .nothing ∉ r.arguments o) :
    r.value? o = ((r.argument? o).bind Argument.text?).map .str := by
  unfold value?
  cases ha : r.argument? o with
  | none => rfl
  | some a =>
    cases a with
    | text s => rfl
    | nothing => exact absurd (List.mem_of_getLast? ha) h

theorem Reading.map_value_arguments (h : .nothing ∉ r.arguments o) :
    (r.arguments o).map Argument.value = ((r.arguments o).map Argument.shown).map .str := by
  rw [List.map_map]
  refine List.map_congr_left fun a ha => ?_
  cases a with
  | text s => rfl
  | nothing => exact absurd ha h

/-- What a reading gives for an environment: the last text of each path, all include directories,
and the switches. -/
def Reading.given (r : Reading) : Environment.Given where
  sysroot := (r.argument? sysrootOption).bind Argument.text?
  installedDir := (r.argument? installedDirOption).bind Argument.text?
  resourceDir := (r.argument? resourceDirOption).bind Argument.text?
  driverDir := (r.argument? driverDirOption).bind Argument.text?
  includeDirs :=
    if r.uses (.option includeDirOption) then
      some ((r.arguments includeDirOption).map Argument.shown)
    else none
  cxxMode := r.isOn cxxOption
  buildId := r.isOn buildIdOption

/-- With a text wherever one is asked for, the overriding values are those that are given. -/
theorem Reading.overrides_eq_given (h : ∀ o ∈ environmentValueOptions, .nothing ∉ r.arguments o) :
    r.overrides = r.given.overrides := by
  rw [overrides, value?_eq (h _ (by decide)), value?_eq (h _ (by decide)),
    value?_eq (h _ (by decide)), value?_eq (h _ (by decide)),
    map_value_arguments (h _ (by decide))]
  simp only [given, Environment.Given.overrides]
  split <;> rfl

end CommandLine

namespace Environment

/-! ### Both sources -/

theorem answer_gather {files : String → FileState} {file : Option String}
    {entries : List (Value × Value)} {base : Environment} (hfile : FileHolds files file entries)
    (hbase : ofMapping entries = .ok base) (o : Overrides) (present : String → Bool) :
    (gather files file o).answer present = (base.override o).mapError .entries := by
  unfold gather
  rw [Search.answer_ifOk]
  cases file with
  | none =>
    obtain rfl : entries = [] := hfile
    obtain rfl : {} = base := Except.ok.inj hbase
    rfl
  | some file =>
    obtain ⟨v, hv, hentries⟩ := hfile
    simp only [load, hv, hentries, hbase]
    rfl

/-- Behind a mapping that is taken, all that the command line gives is taken as well, and both are
followed. -/
theorem exists_override {entries : List (Value × Value)} {base : Environment}
    (hbase : ofMapping entries = .ok base) (g : Given) :
    ∃ e, base.override g.overrides = .ok e ∧ Follows {} e (entries ++ g.overrides.entries) := by
  obtain ⟨e, he⟩ := foldlM_of_taken g.taken_entries base
  obtain ⟨-, -, hfollows⟩ := ofMapping_eq_ok_iff.1 hbase
  refine ⟨e, by rw [override_eq, he], ?_⟩
  exact hfollows.append (follows_of_foldlM he).2

theorem textIn_append (entries : List (Value × Value)) (g : Given) {f : Field}
    (hf : f ∈ pathFields) :
    textIn (entries ++ g.overrides.entries) f = (g.text? f).or (textIn entries f) := by
  have htext : (g.overrides.value? f).map Value.text = g.text? f := by
    cases f with
    | sysroot | installedDir | resourceDir | driverDir =>
      exact (Option.map_map ..).trans Option.map_id'
    | _ => exact absurd hf (by decide)
  rw [textIn, given?_append, g.given?_entries, Option.map_or, htext]
  rfl

theorem dirsIn_append (entries : List (Value × Value)) (g : Given) :
    dirsIn (entries ++ g.overrides.entries) = g.includeDirs.or (dirsIn entries) := by
  have hvalue : g.overrides.value? .includeDirs =
      g.includeDirs.map fun dirs => .list (dirs.map .str) := rfl
  rw [dirsIn, given?_append, g.given?_entries, hvalue]
  cases g.includeDirs with
  | none => rfl
  | some dirs =>
    rw [Option.map_some, Option.some_or, Option.bind_some, includeDirsOf_list]
    rfl

theorem switchIn_append (entries : List (Value × Value)) (g : Given) {f : Field} {on : Bool}
    (hvalue : g.overrides.value? f = if on then some (.bool true) else none) :
    (switchIn (entries ++ g.overrides.entries) f).getD false =
      (on || (switchIn entries f).getD false) := by
  rw [switchIn, given?_append, g.given?_entries, hvalue]
  cases on <;> rfl

/-- Whatever a command line gives, and whether it names no file or one with a mapping that is taken,
an environment is gathered. Each path and the include directories are those of the command line,
else those of the file, else empty; each switch is on if it is on in one of the two. A command line
with a text wherever one is asked for gives the last text of each path, all its include directories
and its switches. The mapping of every environment leads back to it. -/
theorem gather_prefers_command_line {files : String → FileState} {file : Option String}
    {entries : List (Value × Value)} {base : Environment} (hfile : FileHolds files file entries)
    (accepted : ofMapping entries = .ok base) (g : Given) (present : String → Bool) :
    (∃ e, (gather files file g.overrides).answer present = .ok e ∧
      e.sysroot = (g.sysroot.or (textIn entries .sysroot)).getD "" ∧
      e.installedDir = (g.installedDir.or (textIn entries .installedDir)).getD "" ∧
      e.resourceDir = (g.resourceDir.or (textIn entries .resourceDir)).getD "" ∧
      e.driverDir = (g.driverDir.or (textIn entries .driverDir)).getD "" ∧
      e.includeDirs = (g.includeDirs.or (dirsIn entries)).getD [] ∧
      e.cxxMode = (g.cxxMode || (switchIn entries .cxxMode).getD false) ∧
      e.buildId = (g.buildId || (switchIn entries .buildId).getD false)) ∧
    (∀ r : CommandLine.Reading,
      (∀ o ∈ CommandLine.environmentValueOptions, .nothing ∉ r.arguments o) →
        r.overrides = r.given.overrides) ∧
    ∀ e : Environment, ofMapping e.toMapping = .ok e := by
  obtain ⟨e, he, hfollows⟩ := exists_override accepted g
  have hpath : ∀ f ∈ pathFields,
      e.holds f = .str (((g.text? f).or (textIn entries f)).getD "") := by
    intro f hf
    rw [hfollows.path hf, textIn_append entries g hf]
  have hswitch : ∀ f ∈ switchFields, ∀ on : Bool,
      g.overrides.value? f = (if on then some (.bool true) else none) →
        e.holds f = .bool (on || (switchIn entries f).getD false) := by
    intro f hf on hvalue
    rw [hfollows.switch hf, switchIn_append entries g hvalue]
  refine ⟨⟨e, ?_, ?_, ?_, ?_, ?_, ?_, ?_, ?_⟩, fun r => r.overrides_eq_given, ofMapping_toMapping⟩
  · rw [answer_gather hfile accepted, he, mapError_ok]
  · exact Value.str.inj (hpath .sysroot (by decide))
  · exact Value.str.inj (hpath .installedDir (by decide))
  · exact Value.str.inj (hpath .resourceDir (by decide))
  · exact Value.str.inj (hpath .driverDir (by decide))
  · rw [hfollows.includeDirs, dirsIn_append]
  · exact Value.bool.inj (hswitch .cxxMode (by decide) g.cxxMode rfl)
  · exact Value.bool.inj (hswitch .buildId (by decide) g.buildId rfl)

theorem gather_prefers_command_line_empty_text :
    let files : String → FileState := fun _ =>
      .text "sysroot_override: /y\nresource_dir: 3\ndriver_dir: null\ncxx_mode: on\n"
    let tokens := ["--target", "arm-linux-ohos", "--sysroot", "/x", "--sysroot", "",
      "--c-include-dir", "/c", "--build-id", "--c-include-dir=/c", "--", "-O2"]
    ∃ r entries base, (CommandLine.grammarOf .resolve).read tokens = .ok r ∧
      FileHolds files (some "env.yaml") entries ∧ ofMapping entries = .ok base ∧
      ∃ e, (gather files (some "env.yaml") r.overrides).answer (fun _ => false) = .ok e ∧
        e.sysroot = "" ∧ e.resourceDir = "3" ∧ e.driverDir = "" ∧ e.includeDirs = ["/c", "/c"] ∧
        e.cxxMode = true ∧ e.buildId = true := by
  intro files tokens
  let g : Given := { sysroot := some "", includeDirs := some ["/c", "/c"], buildId := true }
  have hgiven : ((CommandLine.grammarOf .resolve).read tokens).toOption.map (fun r =>
      (r.given, decide (∀ o ∈ CommandLine.environmentValueOptions, .nothing ∉ r.arguments o))) =
      some (g, true) := by decide +kernel
  obtain ⟨r, hr, hg⟩ := Option.map_eq_some_iff.1 hgiven
  obtain ⟨hg, htexts⟩ := Prod.mk.inj hg
  have hread : ((Document.load .environment "env.yaml" (files "env.yaml")).toOption.bind
      entriesOf?).map (fun entries => ((ofMapping entries).toOption,
        textIn entries .resourceDir, textIn entries .driverDir, switchIn entries .cxxMode)) =
      some (some { sysroot := "/y", resourceDir := "3", cxxMode := true },
        some "3", none, some true) := by decide +kernel
  obtain ⟨entries, hentries, hfacts⟩ := Option.map_eq_some_iff.1 hread
  obtain ⟨v, hv, hmap⟩ := Option.bind_eq_some_iff.1 hentries
  have hload := eq_ok_of_toOption_eq_some hv
  simp only [Prod.mk.injEq] at hfacts
  obtain ⟨haccepted, hresource, hdriver, hswitch⟩ := hfacts
  have haccepted := eq_ok_of_toOption_eq_some haccepted
  have hfile : FileHolds files (some "env.yaml") entries := ⟨v, hload, hmap⟩
  obtain ⟨⟨e, he, hsysroot, -, hresource', hdriver', hdirs, hcxx, hbuildId⟩, hoverrides, -⟩ :=
    gather_prefers_command_line hfile haccepted g fun _ => false
  rw [← hg, ← hoverrides r (of_decide_eq_true htexts)] at he
  rw [hresource] at hresource'
  rw [hdriver] at hdriver'
  rw [hswitch] at hcxx
  exact ⟨r, entries, _, eq_ok_of_toOption_eq_some hr, hfile, haccepted, e, he, hsysroot, hresource',
    hdriver', hdirs, hcxx, hbuildId⟩

end Environment

end TargetResolution
