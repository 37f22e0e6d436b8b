import TargetResolution.Proofs.Diagnostic.Template

/-!
Templates that cannot be filled in. A template of text, doubled braces and plain fields is read from
left to right, and the first field without a value or the first brace out of place is its fault:
what follows is never looked at.
-/

namespace TargetResolution.Template

open Text

/-- The template cannot be filled in with the values, and the fault is the first that is met. -/
inductive Unfillable (values : List (String × String)) : List Char → Fault → Prop
  | missing {name : List Char} (rest : List Char) (hname : IsFieldName name)
      (hvalue : values.lookup (String.ofList name) = none) :
      Unfillable values ('\x7b' :: (name ++ '\x7d' :: rest)) (.noValue (String.ofList name))
  | unnamed (rest : List Char) :
      Unfillable values ('\x7b' :: '\x7d' :: rest) (.noPosition 0)
  | numbered {digits : List Char} (rest : List Char) (hne : digits ≠ [])
      (hdigits : ∀ c ∈ digits, isDecimalDigit c = true)
      (hlimit : decimalValue digits < indexLimit) :
      Unfillable values ('\x7b' :: (digits ++ '\x7d' :: rest)) (.noPosition (decimalValue digits))
  | loneOpening : Unfillable values ['\x7b'] (.flaw .loneOpening)
  | loneClosing {rest : List Char} (h : rest.head? ≠ some '\x7d') :
      Unfillable values ('\x7d' :: rest) (.flaw .loneClosing)
  | unclosed {name : List Char} (hname : IsFieldName name) :
      Unfillable values ('\x7b' :: name) (.flaw .unclosed)
  | behindText {lead cs : List Char} {fault : Fault} (hlead : Plain lead)
      (h : Unfillable values cs fault) : Unfillable values (lead ++ cs) fault
  | behindBraces {brace : Char} {cs : List Char} {fault : Fault}
      (hbrace : brace = '\x7b' ∨ brace = '\x7d') (h : Unfillable values cs fault) :
      Unfillable values (brace :: brace :: cs) fault
  | behindField {name : List Char} {text : String} {cs : List Char} {fault : Fault}
      (hname : IsFieldName name) (hvalue : values.lookup (String.ofList name) = some text)
      (h : Unfillable values cs fault) :
      Unfillable values ('\x7b' :: (name ++ '\x7d' :: cs)) fault

variable {inner : List Char → Except Fault (List Char)} {values : List (String × String)}

theorem notMem_nameEnds_of_isDecimalDigit {c : Char} (h : isDecimalDigit c = true) :
    c ∉ nameEnds := by
  have hends : (nameEnds.all fun c => !isDecimalDigit c) = true := by decide +kernel
  intro hc
  have hdigit := List.all_eq_true.1 hends c hc
  rw [h] at hdigit
  cases hdigit

theorem spanName_unclosed {name : List Char} (h : ∀ c ∈ name, c ∉ nameEnds) :
    spanName false name = .error (.flaw .unclosed) := by
  induction name with
  | nil => rfl
  | cons c name ih =>
    obtain ⟨hc, hname⟩ := List.forall_mem_cons.1 h
    rw [spanName_cons hc, ih hname]
    rfl

theorem readField_unclosed {name : List Char} (h : ∀ c ∈ name, c ∉ nameEnds) :
    readField name = .error (.flaw .unclosed) := by
  rw [readField, spanName_unclosed h]
  rfl

theorem index?_of_digits {cs : List Char} (hne : cs ≠ [])
    (h : ∀ c ∈ cs, isDecimalDigit c = true) (hlimit : decimalValue cs < indexLimit) :
    index? cs = .ok (some (decimalValue cs)) := by
  have hdigits : cs.takeWhile isDecimalDigit = cs := List.takeWhile_eq_self_iff.2 h
  simp [index?, hdigits, hne, Nat.not_le.2 hlimit]

theorem lookUp_of_digits {digits : List Char} (hne : digits ≠ [])
    (h : ∀ c ∈ digits, isDecimalDigit c = true) (hlimit : decimalValue digits < indexLimit) :
    lookUp values digits = .error (.noPosition (decimalValue digits)) := by
  obtain ⟨hfirst, -⟩ := split_name fun c hc => notMem_nameEnds_of_isDecimalDigit (h c hc)
  simp [lookUp, hfirst, hne, index?_of_digits hne h hlimit, bind, Except.bind]

theorem expandWith_braces {brace : Char} (h : brace = '\x7b' ∨ brace = '\x7d') (fuel : Nat)
    (cs : List Char) :
    expandWith inner values (fuel + 1) (brace :: brace :: cs) =
      (brace :: ·) <$> expandWith inner values fuel cs := by
  rcases h with rfl | rfl <;> rfl

/-- The fault of a template is met whatever follows it. The fuel has to last up to there. -/
theorem Unfillable.expandWith_eq {cs : List Char} {fault : Fault} (h : Unfillable values cs fault)
    (fuel : Nat) (hfuel : cs.length ≤ fuel) :
    expandWith inner values (fuel + 1) cs = .error fault := by
  induction h generalizing fuel with
  | missing rest hname hvalue => rw [hname.expandWith_eq, hvalue]
  | unnamed rest => exact @expandWith_closed inner values [] (by simp) fuel rest
  | numbered rest hne hdigits hlimit =>
    rw [expandWith_closed fun c hc => notMem_nameEnds_of_isDecimalDigit (hdigits c hc),
      lookUp_of_digits hne hdigits hlimit]
    rfl
  | loneOpening => rfl
  | @loneClosing rest h =>
    cases rest with
    | nil => rfl
    | cons c rest =>
      have hc : '\x7d' ≠ c := fun hc => h (hc ▸ rfl)
      simp [expandWith, hc]
  | unclosed hname =>
    rw [expandWith_opening hname.ne_nil (head?_ne_opening hname.notMem),
      readField_unclosed hname.notMem]
    rfl
  | behindText hlead _ ih =>
    rw [List.length_append] at hfuel
    rw [expandWith_append hlead, ih fuel (by omega)]
    rfl
  -- Braces and fields take one step, which leaves fuel for what is behind them.
  | behindBraces hbrace _ ih =>
    obtain ⟨fuel, rfl⟩ : ∃ k, fuel = k + 1 := Nat.exists_eq_add_one.2 (by simp at hfuel; omega)
    rw [expandWith_braces hbrace, ih fuel (by simp at hfuel; omega)]
    rfl
  | behindField hname hvalue _ ih =>
    obtain ⟨fuel, rfl⟩ : ∃ k, fuel = k + 1 := Nat.exists_eq_add_one.2 (by simp at hfuel; omega)
    rw [hname.expandWith_eq, hvalue, ih fuel (by simp at hfuel; omega)]
    rfl

/-- A template that cannot be filled in is refused with its fault. -/
theorem fill_of_unfillable {template : String} {fault : Fault}
    (h : Unfillable values template.toList fault) : fill template values = .error fault := by
  rw [fill, h.expandWith_eq _ (Nat.le_refl _)]
  rfl

end TargetResolution.Template
