import Mathlib.Data.List.TakeWhile
import TargetResolution.Diagnostic.Basic

/-!
Filling in the templates of diagnostics. Text without braces stands for itself, and a field shows
its value as it is: the value is never read as a template again. So a diagnostic quotes the option
that it is about verbatim, braces and quotes included.
-/

namespace TargetResolution

namespace Template

open Text

/-- Whether a text is free of braces. -/
def Plain (cs : List Char) : Prop := ∀ c ∈ cs, c ≠ '\x7b' ∧ c ≠ '\x7d'

instance (cs : List Char) : Decidable (Plain cs) := List.decidableBAll _ cs

variable {inner : List Char → Except Fault (List Char)} {values : List (String × String)}

theorem takeWhile_plain {lead : List Char} (h : Plain lead) (rest : List Char) :
    (lead ++ rest).takeWhile (fun c => c != '\x7b' && c != '\x7d') =
      lead ++ rest.takeWhile (fun c => c != '\x7b' && c != '\x7d') :=
  List.takeWhile_append_of_pos fun c hc => by simp [h c hc]

theorem dropWhile_plain {lead : List Char} (h : Plain lead) (rest : List Char) :
    (lead ++ rest).dropWhile (fun c => c != '\x7b' && c != '\x7d') =
      rest.dropWhile (fun c => c != '\x7b' && c != '\x7d') :=
  List.dropWhile_append_of_pos fun c hc => by simp [h c hc]

/-- Text without braces stands for itself, and what follows is read from its own start. -/
theorem expandWith_append {lead : List Char} (h : Plain lead) (fuel : Nat) (cs : List Char) :
    expandWith inner values (fuel + 1) (lead ++ cs) =
      (lead ++ ·) <$> expandWith inner values (fuel + 1) cs := by
  simp only [expandWith, takeWhile_plain h, dropWhile_plain h]
  cases cs.dropWhile fun c => c != '\x7b' && c != '\x7d' with
  | nil => rfl
  | cons brace tail =>
    cases tail with
    | nil => rfl
    | cons next rest =>
      simp only [apply_ite (fun x : Except Fault (List Char) => (lead ++ ·) <$> x), map_bind,
        map_pure, List.append_assoc]
      rfl

theorem expandWith_plain {cs : List Char} (h : Plain cs) (fuel : Nat) :
    expandWith inner values (fuel + 1) cs = .ok cs := by
  have happend := @expandWith_append inner values cs h fuel []
  rw [List.append_nil] at happend
  rw [happend]
  exact congrArg Except.ok (List.append_nil cs)

/-! ### Fields -/

/-- The characters that end the name of a field, select a part behind it or are refused in it. -/
def nameEnds : List Char := ['\x7b', '\x7d', ':', '!', '.', '[']

/-- A name that a field has to itself, and that is no position. -/
structure IsFieldName (name : List Char) : Prop where
  ne_nil : name ≠ []
  head : ∀ c ∈ name.head?, isDecimalDigit c = false
  notMem : ∀ c ∈ name, c ∉ nameEnds

theorem spanName_cons {c : Char} (h : c ∉ nameEnds) (cs : List Char) :
    spanName false (c :: cs) =
      (spanName false cs).map fun (name, stop, rest) => (c :: name, stop, rest) := by
  simp only [nameEnds, List.mem_cons, List.not_mem_nil, or_false, not_or] at h
  have hbracket : (c == '[') = false := by simp [h]
  simp only [spanName, h, hbracket, or_self, if_false]
  rfl

theorem spanName_closed {name : List Char} (h : ∀ c ∈ name, c ∉ nameEnds) (rest : List Char) :
    spanName false (name ++ '\x7d' :: rest) = .ok (name, '\x7d', rest) := by
  induction name with
  | nil => rfl
  | cons c name ih =>
    obtain ⟨hc, hname⟩ := List.forall_mem_cons.1 h
    rw [List.cons_append, spanName_cons hc, ih hname]
    rfl

theorem readField_closed {name : List Char} (h : ∀ c ∈ name, c ∉ nameEnds) (rest : List Char) :
    readField (name ++ '\x7d' :: rest) = .ok ({ name }, rest) := by
  rw [readField, spanName_closed h]
  rfl

theorem index?_of_head {cs : List Char} (h : ∀ c ∈ cs.head?, isDecimalDigit c = false) :
    index? cs = .ok none := by
  have hdigits : cs.takeWhile isDecimalDigit = [] := by
    cases cs with
    | nil => rfl
    | cons c cs => exact List.takeWhile_cons_of_neg (by simp [h c rfl])
  rw [index?, hdigits]
  rfl

/-- A name without selectors is looked up as a whole. -/
theorem split_name {name : List Char} (h : ∀ c ∈ name, c ∉ nameEnds) :
    name.takeWhile (fun c => c != '.' && c != '[') = name ∧
      name.dropWhile (fun c => c != '.' && c != '[') = [] := by
  have hplain : ∀ c ∈ name, (c != '.' && c != '[') = true := by
    intro c hc
    have hends := h c hc
    simp only [nameEnds, List.mem_cons, List.not_mem_nil, or_false, not_or] at hends
    simp [hends]
  exact ⟨List.takeWhile_eq_self_iff.2 hplain, List.dropWhile_eq_nil_iff.2 hplain⟩

theorem IsFieldName.lookUp_eq {name : List Char} (h : IsFieldName name) :
    lookUp values name =
      match values.lookup (String.ofList name) with
      | none => .error (.noValue (String.ofList name))
      | some value => .ok (.ofString value) := by
  obtain ⟨hfirst, hselectors⟩ := split_name h.notMem
  simp only [lookUp, hfirst, hselectors, index?_of_head h.head]
  simp [h.ne_nil, bind, Except.bind]
  rfl

/-- Behind an opening brace a field is read, unless the brace is doubled or the last character. -/
theorem expandWith_opening {cs : List Char} (hne : cs ≠ []) (hhead : cs.head? ≠ some '\x7b')
    (fuel : Nat) :
    expandWith inner values (fuel + 1) ('\x7b' :: cs) = (do
      let (field, rest) ← readField cs
      let subject ← convert field.conversion (← lookUp values field.name)
      let layout ← if '\x7b' ∈ field.layout then inner field.layout else pure field.layout
      let shown ← layOut layout subject
      (shown ++ ·) <$> expandWith inner values fuel rest) := by
  cases cs with
  | nil => exact absurd rfl hne
  | cons next cs =>
    have hnext : '\x7b' ≠ next := fun h => hhead (h ▸ rfl)
    simp [expandWith, hnext]

theorem head?_ne_opening {name : List Char} (h : ∀ c ∈ name, c ∉ nameEnds) :
    name.head? ≠ some '\x7b' := fun hhead =>
  h _ (List.mem_of_mem_head? hhead) (by decide)

/-- A closed field shows its value, or has none. -/
theorem expandWith_closed {name : List Char} (h : ∀ c ∈ name, c ∉ nameEnds) (fuel : Nat)
    (rest : List Char) :
    expandWith inner values (fuel + 1) ('\x7b' :: (name ++ '\x7d' :: rest)) = (do
      let subject ← lookUp values name
      (subject.shown.toList ++ ·) <$> expandWith inner values fuel rest) := by
  have hhead : (name ++ '\x7d' :: rest).head? ≠ some '\x7b' := by
    cases name with
    | nil => simp
    | cons c name => simpa using head?_ne_opening h
  rw [expandWith_opening (by simp) hhead, readField_closed h]
  simp [bind, Except.bind, pure, Except.pure, convert, layOut]

theorem IsFieldName.expandWith_eq {name : List Char} (h : IsFieldName name) (fuel : Nat)
    (rest : List Char) :
    expandWith inner values (fuel + 1) ('\x7b' :: (name ++ '\x7d' :: rest)) =
      match values.lookup (String.ofList name) with
      | none => .error (.noValue (String.ofList name))
      | some text => (text.toList ++ ·) <$> expandWith inner values fuel rest := by
  rw [expandWith_closed h.notMem, h.lookUp_eq]
  cases values.lookup (String.ofList name) with
  | none => rfl
  | some text => simp [bind, Except.bind, Subject.shown, Subject.ofString]

/-- A field between texts without braces shows its value as it is. -/
theorem expandWith_field {lead name tail : List Char} {text : String} (hlead : Plain lead)
    (hname : IsFieldName name) (htail : Plain tail)
    (hvalue : values.lookup (String.ofList name) = some text) (fuel : Nat) :
    expandWith inner values (fuel + 2) (lead ++ '\x7b' :: (name ++ '\x7d' :: tail)) =
      .ok (lead ++ (text.toList ++ tail)) := by
  rw [expandWith_append hlead, hname.expandWith_eq, hvalue, expandWith_plain htail]
  rfl

theorem isFieldName_arg : IsFieldName ['a', 'r', 'g'] where
  ne_nil := by simp
  head := by
    rintro c ⟨⟩
    decide +kernel
  notMem := by simp [nameEnds]

/-- A template with one field is filled in with the value, whatever the value is. -/
theorem fill_field {lead tail : String} (hlead : Plain lead.toList) (htail : Plain tail.toList)
    (text : String) :
    fill (lead ++ "\x7barg\x7d" ++ tail) [("arg", text)] = .ok (lead ++ text ++ tail) := by
  have htemplate : (lead ++ "\x7barg\x7d" ++ tail).toList =
      lead.toList ++ '\x7b' :: (['a', 'r', 'g'] ++ '\x7d' :: tail.toList) := by
    simp
  obtain ⟨fuel, hfuel⟩ : ∃ fuel, (lead ++ "\x7barg\x7d" ++ tail).toList.length + 1 = fuel + 2 := by
    rw [htemplate]
    exact ⟨lead.toList.length + tail.toList.length + 4, by simp; omega⟩
  unfold fill
  simp only [hfuel]
  rw [htemplate, expandWith_field hlead isFieldName_arg htail rfl]
  simp [Except.map, String.append_assoc]

end Template

namespace Diagnostics

theorem template_eq (k : Diagnostic.Kind) :
    k.template = (k.lead ++ "'") ++ "\x7barg\x7d" ++ "'" := by
  cases k <;> decide +kernel

theorem templateOf_code (k : Diagnostic.Kind) : Diagnostic.templateOf k.code = k.template := by
  cases k <;> decide +kernel

theorem plain_lead (k : Diagnostic.Kind) : Template.Plain (k.lead ++ "'").toList := by
  cases k <;> decide +kernel

/-- The template of a problem is filled in with an option as it was written. -/
theorem fill_template (k : Diagnostic.Kind) (option : String) :
    Template.fill k.template [("arg", option)] = .ok (k.lead ++ "'" ++ option ++ "'") := by
  rw [template_eq]
  exact Template.fill_field (plain_lead k) (by decide +kernel) option

/-- A report about an option makes the diagnostic about it, which quotes the option verbatim. -/
theorem report_about (ds : Diagnostics) (k : Diagnostic.Kind) (option : String) :
    ds.report k.code .error [("arg", option)] =
      .ok (.about k option, ds.add (some (.about k option))) := by
  have hnames : ([("arg", option)].find? fun x : String × String =>
      reservedNames.contains x.1) = none := by
    simp [reservedNames]
  unfold report compose
  simp only [hnames, templateOf_code, fill_template, Except.map]
  rfl

end Diagnostics

end TargetResolution
