import TargetResolution.Proofs.OptionList.Consulted
import TargetResolution.Proofs.Search.Run
import TargetResolution.Resolution.Toolchain

/-!
Resolutions and the options that they consult. Two lists of options that answer the questions of a
resolution alike lead to one and the same search. Only the options that a toolchain keeps differ,
and it answers from them alike. A list and the plain list of its consulted options are such a pair,
so a resolution depends on the consulted options only.
-/

namespace TargetResolution

open OptionList

/-- Lists of options that answer the questions of a resolution alike. -/
structure OptionList.Alike (l m : OptionList) : Prop where
  floatAbi : l.floatAbi = m.floatAbi
  flags : ∀ abi, FlagSet.ofOptions l abi = FlagSet.ofOptions m abi
  runtime : RuntimeLibrary.checkRuntime l = RuntimeLibrary.checkRuntime m
  standardLibrary : RuntimeLibrary.checkStandardLibrary l = RuntimeLibrary.checkStandardLibrary m
  sysroot : l.lastValue? "--sysroot=" = m.lastValue? "--sysroot="
  headers : l.has ["-nostdinc"] = m.has ["-nostdinc"]
  builtinHeaders : l.has ["-nobuiltininc"] = m.has ["-nobuiltininc"]
  systemHeaders : l.has ["-nostdlibinc"] = m.has ["-nostdlibinc"]
  cxxHeaders : l.has ["-nostdlibinc", "-nostdinc++"] = m.has ["-nostdlibinc", "-nostdinc++"]
  compilerOptions : LinkPolicy.compilerOptions l = LinkPolicy.compilerOptions m
  profileLinkArguments : ∀ runtime,
    LinkPolicy.profileLinkArguments l runtime = LinkPolicy.profileLinkArguments m runtime

/-- The consulted options of some tokens answer for all of them. -/
theorem OptionList.alike_consultedOnly (tokens : List String) :
    Alike (consultedOnly tokens) (ofTokens tokens) where
  floatAbi := floatAbi_consultedOnly tokens
  flags := (agreeOn_consultedOnly tokens).flags_eq (by decide) (by decide)
  runtime := checkChoice_consultedOnly tokens (by decide) (by decide) _ _
  standardLibrary := checkChoice_consultedOnly tokens (by decide) (by decide) _ _
  sysroot := (agreeOn_consultedOnly tokens).lastValue?_eq (by decide)
  headers := (agreeOn_consultedOnly tokens).has_eq (by decide)
  builtinHeaders := (agreeOn_consultedOnly tokens).has_eq (by decide)
  systemHeaders := (agreeOn_consultedOnly tokens).has_eq (by decide)
  cxxHeaders := (agreeOn_consultedOnly tokens).has_eq (by decide)
  compilerOptions := (agreeOn_consultedOnly tokens).compilerOptions_eq (by decide)
  profileLinkArguments := (agreeOn_consultedOnly tokens).profileLinkArguments_eq (by decide)
    (by decide) (by decide) (by decide)

/-- Three searches one after another, put together either way. -/
theorem Search.andThen_assoc {ν α β γ : Type} (s : Search ν α) (f : α → Search ν β)
    (g : β → Search ν γ) : (s.andThen f).andThen g = s.andThen fun a => (f a).andThen g := by
  induction s with
  | done a => rfl
  | probe path next ih => simp only [andThen, ih]
  | note entry next ih => simp only [andThen, ih]

namespace Toolchain

variable {l m : OptionList}

/-- A toolchain that answers from other options. -/
def withOptions (t : Toolchain) (l : OptionList) : Toolchain := { t with options := l }

theorem forcedSysroot_eq_of_alike (h : Alike l m) (e : Environment) :
    forcedSysroot l e = forcedSysroot m e := by
  unfold forcedSysroot
  rw [h.sysroot]

/-- What is found for lists that answer alike differs in the options that are kept only. -/
theorem search_eq_of_alike (h : Alike l m) (triple : Triple) (e : Environment)
    (variants : List Multilib) :
    search triple m e variants =
      (search triple l e variants).andThen fun t => .done (t.withOptions m) := by
  unfold search
  simp only [h.floatAbi, h.flags, h.runtime, h.standardLibrary, forcedSysroot_eq_of_alike h,
    Search.andThen_eq_bind, Search.pure_eq_done, Search.andThen_assoc, Search.andThen]
  rfl

theorem includeDirs_withOptions (h : Alike l m) (t : Toolchain) :
    (t.withOptions l).includeDirs = (t.withOptions m).includeDirs := by
  unfold includeDirs builtinIncludeCandidates
  simp only [withOptions, h.headers, h.builtinHeaders, h.systemHeaders]
  rfl

theorem cxxIncludeDirs_withOptions (h : Alike l m) (t : Toolchain) :
    (t.withOptions l).cxxIncludeDirs = (t.withOptions m).cxxIncludeDirs := by
  unfold cxxIncludeDirs
  simp only [withOptions, h.cxxHeaders]
  rfl

theorem profileLinkArguments_withOptions (h : Alike l m) (t : Toolchain) :
    (t.withOptions l).profileLinkArguments = (t.withOptions m).profileLinkArguments :=
  h.profileLinkArguments _

/-- The options that a toolchain keeps are not in its configuration. -/
theorem configure_withOptions (h : Alike l m) (t : Toolchain) :
    (t.withOptions l).configure = (t.withOptions m).configure := by
  unfold configure
  rw [includeDirs_withOptions h, cxxIncludeDirs_withOptions h, profileLinkArguments_withOptions h]
  simp only [withOptions, h.compilerOptions]
  rfl

end Toolchain

/-- The run for a list, told by what is found for one that answers alike. -/
theorem resolution_eq_of_alike {l m : OptionList} (h : Alike l m) (triple : Triple)
    (e : Environment) (variants : List Multilib) :
    (Resolution.search triple m e variants).andThen (fun r => .done r.configuration) =
      (Toolchain.search triple l e variants).andThen fun t =>
        (t.withOptions l).configure.andThen fun c =>
          .note (.resolved triple.text t.multilib.displayName t.sysroot t.libraryDirs.length)
            (.done c) := by
  unfold Resolution.search
  simp only [Toolchain.search_eq_of_alike h, Search.andThen_eq_bind, Search.pure_eq_done,
    Search.andThen_assoc, Search.andThen, Toolchain.configure_withOptions h]
  rfl

/-- Tokens with the same consulted options are resolved by the same search. -/
theorem resolve_eq_of_consulted {a b : List String} (h : consulted a = consulted b)
    (target : String) (e : Environment) : resolve target a e = resolve target b e := by
  have hsame : consultedOnly a = consultedOnly b := by
    unfold consultedOnly
    rw [h]
  unfold resolve
  congr 1
  funext triple
  rw [resolution_eq_of_alike (alike_consultedOnly a), hsame,
    ← resolution_eq_of_alike (alike_consultedOnly b)]

/-- Tokens that write no consulted option, and do not take the token behind them as a value, can be
left out. -/
theorem resolve_skip {xs us ys : List String} (hx : dangles xs = false)
    (hu : dangles us = false ∨ ys = []) (hus : ∀ o ∈ scan us, o.name ∉ consultedNames)
    (target : String) (e : Environment) :
    resolve target (xs ++ us ++ ys) e = resolve target (xs ++ ys) e :=
  resolve_eq_of_consulted (consulted_skip hx hu ((consulted_eq_nil_iff us).2 hus)) target e

/-- A name and its value can be one token or two. -/
theorem resolve_pair {name : String} (h : name ∈ DriverOption.separateValueNames) (value : String)
    {xs : List String} (hx : dangles xs = false) (ys : List String) (target : String)
    (e : Environment) :
    resolve target (xs ++ name :: value :: ys) e =
      resolve target (xs ++ (name ++ "=" ++ value) :: ys) e :=
  resolve_eq_of_consulted (consulted_pair h value hx ys) target e

theorem mem_separateValueNames_of_target : ∀ name ∈ ["--target", "-target"],
    name ∈ DriverOption.separateValueNames ∧ name ++ "=" ∉ consultedNames := by decide

/-- A target among the options is left out, whatever its value is. -/
theorem resolve_target {name : String} (h : name ∈ ["--target", "-target"]) (value : String)
    {xs : List String} (hx : dangles xs = false) (ys : List String) (target : String)
    (e : Environment) :
    resolve target (xs ++ name :: value :: ys) e = resolve target (xs ++ ys) e := by
  obtain ⟨hseparate, hunknown⟩ := mem_separateValueNames_of_target name h
  have hdangles : dangles [name, value] = false := by
    rw [dangles, if_pos hseparate]
    rfl
  rw [List.append_cons, List.append_cons, List.append_assoc xs]
  refine resolve_skip hx (Or.inl hdangles) ?_ target e
  intro o ho
  rw [scan_pair hseparate] at ho
  obtain rfl := List.mem_singleton.1 ho
  exact hunknown

/-- Accepted targets are resolved by the same search, with the same questions, notes, diagnostics
and configuration, whenever the consulted options have the same names and values in order. So other
options and targets among the options do not matter, nor does it whether a sysroot is one token or
two; and what stands behind a name that takes its value from there is its value and no option. -/
theorem resolve_depends_on_consulted {target : String} {triple : Triple}
    (accepted : Triple.parse target = .ok triple) (e : Environment) :
    (∀ a b, consulted a = consulted b →
        ∃ s, resolve target a e = .ok s ∧ resolve target b e = .ok s) ∧
      ∀ xs ys, dangles xs = false →
        (∀ us, (dangles us = false ∨ ys = []) → (∀ o ∈ scan us, o.name ∉ consultedNames) →
            resolve target (xs ++ us ++ ys) e = resolve target (xs ++ ys) e) ∧
          (∀ name ∈ ["--target", "-target"], ∀ value,
            resolve target (xs ++ name :: value :: ys) e = resolve target (xs ++ ys) e ∧
              resolve target (xs ++ (name ++ "=" ++ value) :: ys) e =
                resolve target (xs ++ ys) e) ∧
          (∀ path, resolve target (xs ++ "--sysroot" :: path :: ys) e =
            resolve target (xs ++ ("--sysroot=" ++ path) :: ys) e) ∧
          ∀ name ∈ DriverOption.separateValueNames, ∀ value,
            scan (xs ++ name :: value :: ys) = scan xs ++ .ofPair name value :: scan ys := by
  refine ⟨?_, fun xs ys hx => ⟨?_, ?_, ?_, ?_⟩⟩
  · intro a b hab
    refine ⟨_, by rw [resolve, accepted]; rfl, ?_⟩
    rw [← resolve_eq_of_consulted hab, resolve, accepted]
    rfl
  · intro us hu hus
    exact resolve_skip hx hu hus target e
  · intro name hname value
    have hpair := resolve_pair (mem_separateValueNames_of_target name hname).1 value hx ys target e
    have htarget := resolve_target hname value hx ys target e
    exact ⟨htarget, hpair.symm.trans htarget⟩
  · intro path
    exact resolve_pair (by decide) path hx ys target e
  · intro name hname value
    rw [scan_append hx, scan_pair hname]

theorem resolve_depends_on_consulted_nostdinc :
    ∃ triple s, Triple.parse "arm-linux-ohos" = .ok triple ∧
      resolve "arm-linux-ohos" ["-O2", "--sysroot", "-nostdinc", "-mcpu=x"] {} = .ok s ∧
      resolve "arm-linux-ohos" ["--sysroot=-nostdinc", "-mcpu=x"] {} = .ok s ∧
      resolve "arm-linux-ohos" ["-mcpu=x", "--target", "-nostdinc", "-g"] {} =
        resolve "arm-linux-ohos" ["-mcpu=x", "-g"] {} := by
  have accepted : Triple.parse "arm-linux-ohos" = .ok _ := rfl
  obtain ⟨hsame, hparts⟩ := resolve_depends_on_consulted accepted {}
  obtain ⟨s, h₁, h₂⟩ := hsame ["-O2", "--sysroot", "-nostdinc", "-mcpu=x"]
    ["--sysroot=-nostdinc", "-mcpu=x"] (by decide)
  obtain ⟨_, htarget, _⟩ := hparts ["-mcpu=x"] ["-g"] (by decide)
  exact ⟨_, s, accepted, h₁, h₂, (htarget "--target" (by decide) "-nostdinc").1⟩

end TargetResolution
