import TargetResolution.Proofs.OptionList.Choice
import TargetResolution.Proofs.OptionList.Consulted

/-!
Amending options. The tokens in which an option to report was written last are rewritten with the
value that is used for it. Tokens that are values of other options are never touched, and all
questions about other options are answered as before.
-/

namespace TargetResolution

open Diagnostic (Kind)

/-! ### The last element of a list that satisfies a predicate -/

/-- The list with the last element that satisfies a predicate mapped. -/
def mapLast {α : Type} (p : α → Bool) (f : α → α) : List α → List α
  | [] => []
  | a :: l => if l.any p then a :: mapLast p f l else if p a then f a :: l else a :: l

section MapLast

variable {α : Type} {p q : α → Bool} {f : α → α}

theorem mapLast_of_any_eq_false {l : List α} (h : l.any p = false) : mapLast p f l = l := by
  cases l with
  | nil => rfl
  | cons a l =>
    rw [List.any_cons, Bool.or_eq_false_iff] at h
    simp [mapLast, h.1, h.2]

/-- An element that does not satisfy the predicate is kept. -/
theorem mapLast_cons_of_neg {a : α} (h : p a = false) (l : List α) :
    mapLast p f (a :: l) = a :: mapLast p f l := by
  rw [mapLast]
  cases hl : l.any p with
  | true => rfl
  | false => simp [h, mapLast_of_any_eq_false hl]

theorem find?_reverse_cons (a : α) (l : List α) :
    (a :: l).reverse.find? q = (l.reverse.find? q).or (if q a then some a else none) := by
  rw [List.reverse_cons, List.find?_append, List.find?_singleton]

/-- What is searched for from the end among other elements is found as before. -/
theorem find?_reverse_mapLast_of_other (h : ∀ a, p a = true → q a = false ∧ q (f a) = false)
    (l : List α) : (mapLast p f l).reverse.find? q = l.reverse.find? q := by
  induction l with
  | nil => rfl
  | cons a l ih =>
    rw [mapLast]
    split
    · rw [find?_reverse_cons, find?_reverse_cons, ih]
    · split
      next ha =>
        obtain ⟨hq, hq'⟩ := h a ha
        simp [hq, hq']
      next => rfl

/-- The element that is found from the end is found mapped. -/
theorem find?_reverse_mapLast (hpq : ∀ a, p a = true → q a = true ∧ q (f a) = true) {l : List α}
    {o : α} (h : l.reverse.find? q = some o) (ho : p o = true) :
    (mapLast p f l).reverse.find? q = some (f o) := by
  induction l with
  | nil => cases h
  | cons a l ih =>
    rw [find?_reverse_cons] at h
    cases hl : l.reverse.find? q with
    | some o' =>
      rw [hl] at h
      obtain rfl := Option.some.inj h
      have hany : l.any p = true :=
        List.any_eq_true.2 ⟨o', List.mem_reverse.1 (List.mem_of_find?_eq_some hl), ho⟩
      rw [mapLast, if_pos hany, find?_reverse_cons, ih hl]
      rfl
    | none =>
      have hany : l.any p = false := by
        rw [Bool.eq_false_iff, Ne, List.any_eq_true]
        rintro ⟨x, hx, hpx⟩
        exact List.find?_eq_none.1 hl x (List.mem_reverse.2 hx) (hpq x hpx).1
      rw [hl, Option.none_or] at h
      split at h
      · obtain rfl := Option.some.inj h
        rw [mapLast, if_neg (by simp [hany]), if_pos ho, find?_reverse_cons, hl,
          if_pos (hpq _ ho).2]
        rfl
      · cases h

end MapLast

namespace OptionList

/-! ### Tokens -/

/-- A token with another value, if it writes an option with one of the names. -/
def amendToken (names : List String) (value token : String) : String :=
  if (DriverOption.ofToken token).name ∈ names then (DriverOption.ofToken token).name ++ value
  else token

/-- The tokens with another value in the last option with one of the names. -/
def amendLast (names : List String) (value : String) : List String → List String
  | [] => []
  | [token] => [amendToken names value token]
  | token :: next :: rest =>
    if token ∈ DriverOption.separateValueNames then token :: next :: amendLast names value rest
    else if (scan (next :: rest)).any fun o => decide (o.name ∈ names) then
      token :: amendLast names value (next :: rest)
    else amendToken names value token :: next :: rest

/-- The tokens with the last option of a choice amended, if it is one to report. -/
def amend (tokens : List String) (k : Kind) : List String :=
  if ((ofTokens tokens).offending? k).isSome then amendLast k.valueNames k.fallback tokens
  else tokens

/-- The tokens with all options amended that are reported. -/
def corrected (tokens : List String) : List String := Kind.all.foldl amend tokens

example :
    corrected ["-rtlib=x", "-mfloat-abi=y", "--target", "--rtlib=z", "--stdlib=libc++", "-rtlib="] =
      ["-rtlib=x", "-mfloat-abi=soft", "--target", "--rtlib=z", "--stdlib=libc++",
        "-rtlib=compiler-rt"] := by
  decide +kernel

variable {names : List String}

/-- The options that amended tokens write. -/
theorem scan_amendLast (hnames : ∀ n ∈ names, DriverOption.IsValued n) (value : String)
    (tokens : List String) :
    scan (amendLast names value tokens) =
      mapLast (fun o => decide (o.name ∈ names)) (fun o => .ofToken (o.name ++ value))
        (scan tokens) := by
  have hseparate : ∀ token ∈ DriverOption.separateValueNames, token ++ "=" ∉ names :=
    fun token htoken hmem => (hnames _ hmem).ne_separate token htoken rfl
  have hamended : ∀ token, token ∉ DriverOption.separateValueNames →
      amendToken names value token ∉ DriverOption.separateValueNames := by
    intro token htoken
    unfold amendToken
    split
    next hname => exact (hnames _ hname).not_mem_separate value
    next => exact htoken
  fun_induction amendLast names value tokens with
  | case1 => rfl
  | case2 token =>
    simp only [scan, mapLast, List.any_nil, Bool.false_eq_true, if_false, decide_eq_true_eq,
      amendToken]
    split <;> rfl
  | case3 token next rest hsep ih =>
    rw [scan_pair hsep, scan_pair hsep, ih, mapLast_cons_of_neg]
    exact decide_eq_false (hseparate token hsep)
  | case4 token next rest hsep hlater ih =>
    rw [scan_cons hsep, scan_cons hsep, ih, mapLast, if_pos hlater]
  | case5 token next rest hsep hlater =>
    rw [scan_cons hsep, scan_cons (hamended token hsep), mapLast, if_neg hlater]
    simp only [amendToken, decide_eq_true_eq]
    split <;> rfl

/-! ### What an amendment changes -/

variable {tokens : List String} {k : Kind}

theorem amend_of_offending?_eq_none (h : (ofTokens tokens).offending? k = none) :
    amend tokens k = tokens := by
  rw [amend, h]
  rfl

theorem scan_amend_of_offending? {o : DriverOption}
    (h : (ofTokens tokens).offending? k = some o) :
    scan (amend tokens k) =
      mapLast (fun o => decide (o.name ∈ k.valueNames)) (fun o => .ofToken (o.name ++ k.fallback))
        (scan tokens) := by
  rw [amend, h, Option.isSome_some, if_pos rfl, scan_amendLast k.isValued]

/-- The last option with a name of no value that is checked is the same. -/
theorem last?_amend_of_other {names : List String} (h : ∀ n ∈ names, n ∉ k.valueNames) :
    (ofTokens (amend tokens k)).last? names = (ofTokens tokens).last? names := by
  cases ho : (ofTokens tokens).offending? k with
  | none => rw [amend_of_offending?_eq_none ho]
  | some o =>
    unfold last? ofTokens
    simp only [scan_amend_of_offending? ho]
    refine find?_reverse_mapLast_of_other (fun a ha => ?_) _
    have hname : a.name ∈ k.valueNames := of_decide_eq_true ha
    have hother : a.name ∉ names := fun hmem => h _ hmem hname
    rw [DriverOption.ofToken_valued_name (k.isValued _ hname)]
    exact ⟨decide_eq_false hother, decide_eq_false hother⟩

/-- The option that was to be reported has the value that is used for it. -/
theorem last?_amend_of_offending? {o : DriverOption}
    (h : (ofTokens tokens).offending? k = some o) :
    (ofTokens (amend tokens k)).last? k.names = some (.ofToken (o.name ++ k.fallback)) := by
  obtain ⟨hlast, ho⟩ := offending?_eq_some_iff.1 h
  unfold last? ofTokens
  simp only [scan_amend_of_offending? h]
  refine find?_reverse_mapLast (fun a ha => ?_) hlast (decide_eq_true ho.1)
  have hname : a.name ∈ k.valueNames := of_decide_eq_true ha
  have hmem := k.mem_names_of_valueNames _ hname
  rw [DriverOption.ofToken_valued_name (k.isValued _ hname)]
  exact ⟨decide_eq_true hmem, decide_eq_true hmem⟩

theorem disjoint_names {j : Kind} (h : j ≠ k) : ∀ n ∈ j.names, n ∉ k.valueNames := by
  revert h
  cases j <;> cases k <;> decide

/-- Nothing is to be reported about a choice that was amended, nor about one that was fine. -/
theorem offending?_amend_eq_none {j : Kind}
    (h : j = k ∨ (ofTokens tokens).offending? j = none) :
    (ofTokens (amend tokens k)).offending? j = none := by
  by_cases hjk : j = k
  · subst hjk
    cases ho : (ofTokens tokens).offending? j with
    | none => rw [amend_of_offending?_eq_none ho, ho]
    | some o =>
      have hname := (offending?_eq_some_iff.1 ho).2.1
      rw [offending?, last?_amend_of_offending? ho,
        DriverOption.ofToken_valued_name (j.isValued _ hname), Option.filter_some]
      simp [Kind.Offends, j.fallback_mem_accepted]
  · rw [offending?, last?_amend_of_other (disjoint_names hjk)]
    exact h.resolve_left hjk

/-! ### What an amendment leaves -/

/-- The names of consulted options that make no choice with a value that is checked. -/
def otherNames : List String :=
  consultedNames.filter fun n => decide (∀ k ∈ Kind.all, n ∉ k.valueNames)

/-- Lists that answer the questions of a resolution alike, up to what is reported. -/
structure AlikeUpToReports (l m : OptionList) : Prop where
  floatAbi : l.floatAbi.1 = m.floatAbi.1
  others : AgreeOn l m otherNames

theorem AlikeUpToReports.refl (l : OptionList) : AlikeUpToReports l l := ⟨rfl, fun _ _ => rfl⟩

theorem AlikeUpToReports.trans {l m n : OptionList} (h : AlikeUpToReports l m)
    (h' : AlikeUpToReports m n) : AlikeUpToReports l n :=
  ⟨h.floatAbi.trans h'.floatAbi, fun names hn => (h.others names hn).trans (h'.others names hn)⟩

theorem floatAbi_congr {l m : OptionList}
    (h : l.last? Kind.floatAbi.names = m.last? Kind.floatAbi.names) : l.floatAbi = m.floatAbi := by
  cases hm : m.last? Kind.floatAbi.names with
  | none => rw [floatAbi_of_last?_none (h.trans hm), floatAbi_of_last?_none hm]
  | some o => rw [floatAbi_of_last? (h.trans hm), floatAbi_of_last? hm]

/-- The float ABI that is used for one that is reported is the one that is asked for instead. -/
theorem floatAbi_amend (tokens : List String) (k : Kind) :
    (ofTokens (amend tokens k)).floatAbi.1 = (ofTokens tokens).floatAbi.1 := by
  by_cases hk : Kind.floatAbi = k
  · subst hk
    cases ho : (ofTokens tokens).offending? .floatAbi with
    | none => rw [amend_of_offending?_eq_none ho]
    | some o =>
      have hname : o.name = "-mfloat-abi=" :=
        List.mem_singleton.1 (offending?_eq_some_iff.1 ho).2.1
      have hlast := last?_amend_of_offending? ho
      rw [hname] at hlast
      rw [floatAbi_of_last? hlast, (floatAbi_eq _).2 o ho]
      decide +kernel
  · rw [floatAbi_congr (last?_amend_of_other (disjoint_names hk))]

theorem alike_amend (tokens : List String) (k : Kind) :
    AlikeUpToReports (ofTokens (amend tokens k)) (ofTokens tokens) where
  floatAbi := floatAbi_amend tokens k
  others := fun names hnames => by
    rw [last?_amend_of_other fun n hn => ?_]
    exact of_decide_eq_true (List.mem_filter.1 (hnames n hn)).2 k k.mem_all

/-- All choices amended: nothing is to be reported any more, and all else is answered as before. -/
theorem alike_corrected (tokens : List String) :
    AlikeUpToReports (ofTokens (corrected tokens)) (ofTokens tokens) ∧
      ∀ k : Kind, (ofTokens (corrected tokens)).offending? k = none := by
  have hfold : ∀ (ks : List Kind) (tokens : List String),
      AlikeUpToReports (ofTokens (ks.foldl amend tokens)) (ofTokens tokens) ∧
        ∀ j : Kind, (j ∈ ks ∨ (ofTokens tokens).offending? j = none) →
          (ofTokens (ks.foldl amend tokens)).offending? j = none := by
    intro ks
    induction ks with
    | nil => exact fun tokens => ⟨.refl _, fun j h => h.resolve_left (List.not_mem_nil)⟩
    | cons k ks ih =>
      intro tokens
      obtain ⟨halike, hnone⟩ := ih (amend tokens k)
      refine ⟨halike.trans (alike_amend tokens k), fun j h => hnone j ?_⟩
      rcases h with h | h
      · rcases List.mem_cons.1 h with rfl | h
        · exact .inr (offending?_amend_eq_none (.inl rfl))
        · exact .inl h
      · exact .inr (offending?_amend_eq_none (.inr h))
  obtain ⟨halike, hnone⟩ := hfold Kind.all tokens
  exact ⟨halike, fun k => hnone k (.inl k.mem_all)⟩

end OptionList

end TargetResolution
