import Mathlib.Data.List.Forall2
import TargetResolution.Proofs.OptionList.Consulted
import TargetResolution.Text.Lists

/-!
How options are written. Scanning cuts the tokens into groups of one or two, one group for each
option, and nothing is lost or read twice. An option is the same whether its value stands in its own
token or behind an equals sign. Main statement: the texts of the options make up the tokens, and
options that are all written as one token mean the same.
-/

namespace TargetResolution

open Text

/-! ### Joined groups -/

/-- Groups that are joined one by one and then with each other are joined like their members. -/
theorem Text.joinWith_flatten (sep : Char) {groups : List (List String)}
    (hne : ∀ group ∈ groups, group ≠ []) :
    joinWith sep (groups.map (joinWith sep)) = joinWith sep groups.flatten := by
  induction groups with
  | nil => rfl
  | cons group groups ih =>
    have hgroup : group ≠ [] := hne group List.mem_cons_self
    have hrest : ∀ g ∈ groups, g ≠ [] := fun g hg => hne g (List.mem_cons_of_mem _ hg)
    rw [List.map_cons, List.flatten_cons]
    cases groups with
    | nil => rw [List.map_nil, List.flatten_nil, List.append_nil, joinWith_singleton]
    | cons next groups =>
      have hnext : (next :: groups).flatten ≠ [] := by
        rw [List.flatten_cons]
        exact List.append_ne_nil_of_left_ne_nil (hrest next List.mem_cons_self) _
      rw [← List.singleton_append, joinWith_append (by simp) (by simp), joinWith_singleton,
        ih hrest, joinWith_append hgroup hnext]

namespace DriverOption

/-- Whether a group of tokens writes an option: one token that is its name with its value, or a name
that takes its value separately and the value. -/
def WrittenBy (o : DriverOption) : List String → Prop
  | [token] => token = o.name ++ o.value
  | [name, value] => name ∈ separateValueNames ∧ o.name = name ++ "=" ∧ o.value = value
  | _ => False

/-- An option in one token. -/
def joined (o : DriverOption) : String := o.name ++ o.value

theorem WrittenBy.ne_nil {o : DriverOption} {group : List String} (h : o.WrittenBy group) :
    group ≠ [] := by
  rintro rfl
  exact h

/-- No option takes no token. -/
theorem ne_nil_of_writtenBy {os : List DriverOption} {groups : List (List String)}
    (h : List.Forall₂ WrittenBy os groups) : ∀ group ∈ groups, group ≠ [] := by
  induction h with
  | nil => simp
  | cons hwritten _ ih =>
    intro group hgroup
    rcases List.mem_cons.1 hgroup with rfl | hgroup
    · exact hwritten.ne_nil
    · exact ih group hgroup

theorem text_ofPair (name value : String) :
    (ofPair name value).text = joinWith ' ' [name, value] := by
  have hspelling : name ++ " " ++ value ≠ "" := by
    intro h
    simpa using congrArg String.toList h
  have hjoin : joinWith ' ' ([name] ++ [value]) = name ++ " " ++ value := by
    rw [joinWith_append (by simp) (by simp), joinWith_singleton, joinWith_singleton]
    rfl
  exact (if_neg hspelling).trans hjoin.symm

end DriverOption

namespace OptionList

/-- The tokens of a list in groups, one for each option that is scanned, with its text. -/
theorem exists_groups (tokens : List String) :
    ∃ groups : List (List String), groups.flatten = tokens ∧
      List.Forall₂ (fun o group => o.WrittenBy group ∧ o.text = joinWith ' ' group) (scan tokens)
        groups := by
  have hsingle : ∀ token, (DriverOption.ofToken token).WrittenBy [token] ∧
      (DriverOption.ofToken token).text = joinWith ' ' [token] := fun token =>
    ⟨(DriverOption.name_append_value_ofToken token).symm,
      (DriverOption.text_ofToken token).trans (joinWith_singleton ' ' token).symm⟩
  fun_induction scan tokens with
  | case1 => exact ⟨[], rfl, .nil⟩
  | case2 token => exact ⟨[[token]], rfl, .cons (hsingle token) .nil⟩
  | case3 token value rest hsep ih =>
    obtain ⟨groups, hflatten, hwritten⟩ := ih
    refine ⟨[token, value] :: groups, by rw [List.flatten_cons, hflatten]; rfl, .cons ?_ hwritten⟩
    exact ⟨⟨hsep, rfl, rfl⟩, DriverOption.text_ofPair token value⟩
  | case4 token value rest hsep ih =>
    obtain ⟨groups, hflatten, hwritten⟩ := ih
    exact ⟨[token] :: groups, by rw [List.flatten_cons, hflatten]; rfl,
      .cons (hsingle token) hwritten⟩

/-- The options that are written by joined ones mean the same: a joined name and value is not read
as a name that waits, unless it is such a name and stands last. -/
theorem meanings_joined (tokens : List String) :
    (scan ((scan tokens).map DriverOption.joined)).map meaning = (scan tokens).map meaning := by
  fun_induction scan tokens with
  | case1 => rfl
  | case2 token =>
    rw [List.map_singleton, DriverOption.joined, DriverOption.name_append_value_ofToken, scan]
  | case3 token value rest hsep ih =>
    have hpair := meanings_pair hsep value (show dangles [] = false from rfl)
      ((scan rest).map DriverOption.joined)
    rw [List.nil_append, List.nil_append, scan_pair hsep, List.map_cons, ih] at hpair
    exact hpair.symm
  | case4 token value rest hsep ih =>
    rw [List.map_cons, DriverOption.joined, DriverOption.name_append_value_ofToken, scan_cons hsep,
      List.map_cons, List.map_cons, ih]

/-- Scanning loses and repeats nothing: the texts of the options are the tokens, with one blank
between neighbours, and each option takes one token that is its name with its value, or a name and
the next token, until all are taken. All options written as one token mean the same, and so does a
list in which a name with its value behind it is written as one token, wherever it stands. -/
theorem scan_takes_all_tokens (tokens : List String) :
    joinWith ' ' ((scan tokens).map DriverOption.text) = joinWith ' ' tokens ∧
    (∃ groups : List (List String), groups.flatten = tokens ∧
      List.Forall₂ DriverOption.WrittenBy (scan tokens) groups) ∧
    (scan ((scan tokens).map DriverOption.joined)).map meaning = (scan tokens).map meaning ∧
    ∀ front name value behind, tokens = front ++ name :: value :: behind → dangles front = false →
      name ∈ DriverOption.separateValueNames →
      (scan (front ++ (name ++ "=" ++ value) :: behind)).map meaning =
        (scan tokens).map meaning := by
  obtain ⟨groups, hflatten, hgroups⟩ := exists_groups tokens
  have hwritten : List.Forall₂ DriverOption.WrittenBy (scan tokens) groups :=
    hgroups.imp fun _ _ h => h.1
  have htext : (scan tokens).map DriverOption.text = groups.map (joinWith ' ') := by
    rw [← List.forall₂_eq_eq_eq, List.forall₂_map_left_iff, List.forall₂_map_right_iff]
    exact hgroups.imp fun _ _ h => h.2
  refine ⟨?_, ⟨groups, hflatten, hwritten⟩, meanings_joined tokens, ?_⟩
  · rw [htext, joinWith_flatten ' ' (DriverOption.ne_nil_of_writtenBy hwritten), hflatten]
  · rintro front name value behind rfl hfront hname
    exact (meanings_pair hname value hfront behind).symm

theorem scan_takes_all_tokens_empty_value :
    let front := ["--sysroot", "-target", "-x=a=b", ""]
    let tokens := front ++ "--target" :: "" :: ["-target"]
    dangles front = false ∧
      joinWith ' ' ((scan tokens).map DriverOption.text) =
        "--sysroot -target -x=a=b  --target  -target" ∧
      (scan tokens).map DriverOption.joined =
        ["--sysroot=-target", "-x=a=b", "", "--target=", "-target"] ∧
      (scan (front ++ ["--target=", "-target"])).map meaning = (scan tokens).map meaning := by
  intro front tokens
  have hfront : dangles front = false := by decide
  obtain ⟨htext, -, -, hpair⟩ := scan_takes_all_tokens tokens
  exact ⟨hfront, htext.trans (by decide), by decide,
    hpair front "--target" "" ["-target"] rfl hfront (by decide)⟩

end OptionList

end TargetResolution
