import TargetResolution.OptionList

/-!
How tokens are scanned into options. A list that does not end in a name waiting for its value is
scanned on its own, whatever comes behind it; a name that takes its value from the next token takes
whatever stands there. The name and the value of an option say how it was written, separate values
apart.
-/

namespace TargetResolution

namespace DriverOption

/-- A token is what stands before its first equals sign, the sign, and the rest. -/
theorem takeWhile_append_cons_drop {cs : List Char} (h : '=' ∈ cs) :
    cs.takeWhile (· != '=') ++ '=' :: (cs.dropWhile (· != '=')).drop 1 = cs := by
  induction cs with
  | nil => exact absurd h (by simp)
  | cons c cs ih =>
    by_cases hc : c = '='
    · subst hc
      simp
    · have hmem : '=' ∈ cs := by
        rcases List.mem_cons.1 h with h | h
        · exact absurd h.symm hc
        · exact h
      simpa [hc] using ih hmem

theorem ofToken_valued {token : String} (h : token.toList.head? = some '-' ∧ '=' ∈ token.toList) :
    ofToken token =
      { name := String.ofList (token.toList.takeWhile (· != '=') ++ ['=']),
        value := String.ofList ((token.toList.dropWhile (· != '=')).drop 1),
        spelling := token } :=
  if_pos h

theorem ofToken_plain {token : String}
    (h : ¬(token.toList.head? = some '-' ∧ '=' ∈ token.toList)) :
    ofToken token = { name := token, spelling := token } :=
  if_neg h

/-- The name and the value of an option make up the token that wrote it. -/
theorem name_append_value_ofToken (token : String) :
    (ofToken token).name ++ (ofToken token).value = token := by
  by_cases h : token.toList.head? = some '-' ∧ '=' ∈ token.toList
  · rw [ofToken_valued h, ← String.toList_inj, String.toList_append]
    simp only [String.toList_ofList, List.append_assoc, List.singleton_append]
    exact takeWhile_append_cons_drop h.2
  · rw [ofToken_plain h]
    exact String.append_empty

theorem text_ofToken (token : String) : (ofToken token).text = token := by
  have hspelling : (ofToken token).spelling = token := by
    by_cases h : token.toList.head? = some '-' ∧ '=' ∈ token.toList
    · rw [ofToken_valued h]
    · rw [ofToken_plain h]
  unfold text
  rw [hspelling, name_append_value_ofToken, ite_self]

/-- A token with a dash, a name and a value behind an equals sign. -/
theorem ofToken_joined {name : String} (hdash : name.toList.head? = some '-')
    (hname : '=' ∉ name.toList) (value : String) :
    ofToken (name ++ "=" ++ value) =
      { name := name ++ "=", value := value, spelling := name ++ "=" ++ value } := by
  have hlist : (name ++ "=" ++ value).toList = name.toList ++ '=' :: value.toList := by simp
  have hpos : ∀ c ∈ name.toList, (c != '=') = true := by
    intro c hc
    rw [bne_iff_ne]
    rintro rfl
    exact hname hc
  rw [ofToken_valued, hlist, List.takeWhile_append_of_pos hpos, List.dropWhile_append_of_pos hpos]
  · simp
  · rw [hlist]
    refine ⟨?_, by simp⟩
    rw [List.head?_append, hdash]
    rfl

end DriverOption

namespace OptionList

/-- Whether the last token is a name that waits for its value. -/
def dangles : List String → Bool
  | [] => false
  | [token] => decide (token ∈ DriverOption.separateValueNames)
  | token :: value :: rest =>
    if token ∈ DriverOption.separateValueNames then dangles rest else dangles (value :: rest)

theorem scan_cons {token : String} (h : token ∉ DriverOption.separateValueNames)
    (rest : List String) : scan (token :: rest) = .ofToken token :: scan rest := by
  cases rest with
  | nil => rfl
  | cons value rest => rw [scan, if_neg h]

theorem scan_pair {name : String} (h : name ∈ DriverOption.separateValueNames) (value : String)
    (rest : List String) : scan (name :: value :: rest) = .ofPair name value :: scan rest := by
  rw [scan, if_pos h]

/-- Tokens that are no names of separate values are scanned one by one. -/
theorem scan_eq_map {tokens : List String}
    (h : ∀ token ∈ tokens, token ∉ DriverOption.separateValueNames) :
    scan tokens = tokens.map .ofToken := by
  induction tokens with
  | nil => rfl
  | cons token tokens ih =>
    obtain ⟨htoken, hrest⟩ := List.forall_mem_cons.1 h
    rw [scan_cons htoken, ih hrest, List.map_cons]

/-- Tokens behind a list that does not end in a waiting name are scanned on their own. -/
theorem scan_append {xs : List String} (h : dangles xs = false) (ys : List String) :
    scan (xs ++ ys) = scan xs ++ scan ys := by
  fun_induction dangles xs with
  | case1 => rfl
  | case2 token => exact scan_cons (by simpa using h) ys
  | case3 token value rest hsep ih =>
    rw [List.cons_append, List.cons_append, scan_pair hsep, scan_pair hsep, ih h, List.cons_append]
  | case4 token value rest hsep ih =>
    rw [List.cons_append, scan_cons hsep, scan_cons hsep, ih h, List.cons_append]

/-- Behind a list that does not end in a waiting name, the end of the tokens alone decides. -/
theorem dangles_append {xs : List String} (h : dangles xs = false) (ys : List String) :
    dangles (xs ++ ys) = dangles ys := by
  fun_induction dangles xs with
  | case1 => rfl
  | case2 token =>
    have htoken : token ∉ DriverOption.separateValueNames := by simpa using h
    cases ys with
    | nil => exact h
    | cons y ys => exact if_neg htoken
  | case3 token value rest hsep ih =>
    rw [List.cons_append, List.cons_append, dangles, if_pos hsep, ih h]
  | case4 token value rest hsep ih =>
    rw [List.cons_append, List.cons_append, dangles, if_neg hsep]
    exact ih h

/-- A name waits exactly if it stands last, behind tokens that leave none waiting. -/
theorem dangles_eq_true_iff (xs : List String) :
    dangles xs = true ↔
      ∃ ys, ∃ name ∈ DriverOption.separateValueNames, xs = ys ++ [name] ∧ dangles ys = false := by
  constructor
  · intro h
    fun_induction dangles xs with
    | case1 => cases h
    | case2 token => exact ⟨[], token, by simpa using h, rfl, rfl⟩
    | case3 token value rest hsep ih =>
      obtain ⟨ys, name, hname, rfl, hys⟩ := ih h
      exact ⟨token :: value :: ys, name, hname, rfl, by rw [dangles, if_pos hsep, hys]⟩
    | case4 token value rest hsep ih =>
      obtain ⟨ys, name, hname, hrest, hys⟩ := ih h
      refine ⟨token :: ys, name, hname, by rw [hrest, List.cons_append], ?_⟩
      have htoken : dangles [token] = false := decide_eq_false hsep
      rw [← List.singleton_append, dangles_append htoken, hys]
  · rintro ⟨ys, name, hname, rfl, hys⟩
    rw [dangles_append hys]
    exact decide_eq_true hname

/-- Tokens are scanned on their own exactly if no name in front of them waits for the first one. -/
theorem scan_append_eq_iff (xs ys : List String) :
    scan (xs ++ ys) = scan xs ++ scan ys ↔ dangles xs = false ∨ ys = [] := by
  constructor
  · intro h
    cases hxs : dangles xs with
    | false => exact .inl rfl
    | true =>
      cases ys with
      | nil => exact .inr rfl
      | cons value ys =>
        obtain ⟨zs, name, hname, rfl, hzs⟩ := (dangles_eq_true_iff xs).1 hxs
        rw [List.append_assoc, scan_append hzs, scan_append hzs, List.append_assoc,
          List.singleton_append, scan_pair hname] at h
        -- The name takes its value on the left and stands alone on the right.
        have hoption : DriverOption.ofPair name value = .ofToken name :=
          (List.cons.inj (List.append_cancel_left h)).1
        have hplain : ∀ n ∈ DriverOption.separateValueNames,
            (DriverOption.ofToken n).name ≠ n ++ "=" := by decide
        exact absurd (congrArg DriverOption.name hoption).symm (hplain name hname)
  · rintro (h | rfl)
    · exact scan_append h ys
    · rw [List.append_nil, scan, List.append_nil]

/-- An option with another name than those of separate values was written by one token. -/
theorem exists_token_of_mem_scan {tokens : List String} {o : DriverOption} (h : o ∈ scan tokens)
    (hname : ∀ n ∈ DriverOption.separateValueNames, o.name ≠ n ++ "=") :
    ∃ token ∈ tokens, o = .ofToken token := by
  fun_induction scan tokens with
  | case1 => exact absurd h (by simp)
  | case2 token => exact ⟨token, List.mem_singleton_self token, List.mem_singleton.1 h⟩
  | case3 token value rest hsep ih =>
    rcases List.mem_cons.1 h with rfl | h
    · exact absurd rfl (hname token hsep)
    · obtain ⟨found, hmem, heq⟩ := ih h
      exact ⟨found, List.mem_cons_of_mem _ (List.mem_cons_of_mem _ hmem), heq⟩
  | case4 token value rest hsep ih =>
    rcases List.mem_cons.1 h with rfl | h
    · exact ⟨token, List.mem_cons_self, rfl⟩
    · obtain ⟨found, hmem, heq⟩ := ih h
      exact ⟨found, List.mem_cons_of_mem _ hmem, heq⟩

/-- Such an option was written as name and value. -/
theorem text_of_mem_scan {tokens : List String} {o : DriverOption} (h : o ∈ scan tokens)
    (hname : ∀ n ∈ DriverOption.separateValueNames, o.name ≠ n ++ "=") :
    o.text = o.name ++ o.value := by
  obtain ⟨token, -, rfl⟩ := exists_token_of_mem_scan h hname
  rw [DriverOption.text_ofToken, DriverOption.name_append_value_ofToken]

end OptionList

end TargetResolution
