import TargetResolution.Text.CharClass
import TargetResolution.Text.Digits
import TargetResolution.Text.Lists

/-!
Numerals. The digits in which a number is written are decimal digits of the Latin script, neither a
blank nor a hyphen, and reading them gives the number back. So different numbers are written
differently, and numbers with dots between them are found again.
-/

namespace TargetResolution.Text

variable {c : Char}

theorem toNat_of_isDigit (h : c.isDigit = true) : 0x30 ≤ c.toNat ∧ c.toNat ≤ 0x39 := by
  obtain ⟨hleast, hmost⟩ := Bool.and_eq_true_iff.1 h
  exact ⟨of_decide_eq_true hleast, of_decide_eq_true hmost⟩

/-- The digits of the Latin script come first in the table. -/
theorem digitValue?_of_isDigit (h : c.isDigit = true) : digitValue? c = some (c.toNat - 0x30) := by
  have hbounds := toNat_of_isDigit h
  rw [digitValue?, digitZeros, List.find?_cons_of_pos (by simp; omega)]
  rfl

theorem isDecimalDigit_of_isDigit (h : c.isDigit = true) : isDecimalDigit c = true := by
  rw [isDecimalDigit, digitValue?_of_isDigit h]
  rfl

theorem isBlank_of_isDigit (h : c.isDigit = true) : isBlank c = false := by
  have hruns : ∀ run ∈ blanks.runs, run.2 < 0x30 ∨ 0x39 < run.1 := by decide
  have hbounds := toNat_of_isDigit h
  rw [← Bool.not_eq_true, isBlank, CharClass.contains_iff]
  rintro ⟨run, hrun, hleast, hmost⟩
  have := hruns run hrun
  omega

theorem isDigit_of_mem_toString {n : Nat} (h : c ∈ (toString n).toList) : c.isDigit = true := by
  rw [Nat.toString_eq_repr, Nat.toList_repr] at h
  exact Nat.isDigit_of_mem_toDigits (by decide) (by decide) h

theorem toString_ne_empty (n : Nat) : toString n ≠ "" := by
  rw [ne_eq, ← String.toList_eq_nil_iff, Nat.toString_eq_repr, Nat.toList_repr]
  exact Nat.toDigits_ne_nil

/-- Digits of the Latin script are read as the core library reads them. -/
theorem decimalValue_eq_ofDigitChars {cs : List Char} (h : ∀ c ∈ cs, c.isDigit = true) :
    decimalValue cs = Nat.ofDigitChars 10 cs 0 := by
  suffices hfold : ∀ n, cs.foldl (fun n c => 10 * n + (digitValue? c).getD 0) n =
      Nat.ofDigitChars 10 cs n from hfold 0
  induction cs with
  | nil => exact fun n => rfl
  | cons c cs ih =>
    intro n
    rw [List.foldl_cons, digitValue?_of_isDigit (h c List.mem_cons_self)]
    exact ih (fun d hd => h d (List.mem_cons_of_mem _ hd)) _

/-- A number that is written is read again. -/
theorem decimalValue_toString (n : Nat) : decimalValue (toString n).toList = n := by
  rw [decimalValue_eq_ofDigitChars fun c hc => isDigit_of_mem_toString hc, Nat.toString_eq_repr,
    Nat.toList_repr]
  exact Nat.ofDigitChars_toDigits (by decide) (by decide)

/-! ### Different numbers -/

theorem toString_nat_inj {m n : Nat} (h : toString m = toString n) : m = n := by
  rw [← decimalValue_toString m, h, decimalValue_toString]

theorem not_mem_toString (hdigit : c.isDigit = false) (n : Nat) : c ∉ (toString n).toList := by
  intro h
  rw [isDigit_of_mem_toString h] at hdigit
  cases hdigit

/-- An integer is written with the digits of a number, behind a hyphen if it is negative. -/
theorem toString_int_cases (n : Int) :
    ∃ digits : Nat, (n = digits ∧ toString n = toString digits) ∨
      (n = -digits ∧ toString n = "-" ++ toString digits) := by
  cases n with
  | ofNat m => exact ⟨m, .inl ⟨rfl, rfl⟩⟩
  | negSucc m => exact ⟨m + 1, .inr ⟨rfl, rfl⟩⟩

theorem toString_int_inj {m n : Int} (h : toString m = toString n) : m = n := by
  have hhyphen : ∀ a b : Nat, toString a ≠ "-" ++ toString b := by
    intro a b heq
    refine not_mem_toString (c := '-') (by decide) a ?_
    rw [heq, String.toList_append]
    exact List.mem_append_left _ (by decide)
  obtain ⟨a, ⟨hm, ha⟩ | ⟨hm, ha⟩⟩ := toString_int_cases m <;>
  obtain ⟨b, ⟨hn, hb⟩ | ⟨hn, hb⟩⟩ := toString_int_cases n <;>
  rw [ha, hb] at h
  · rw [hm, hn, toString_nat_inj h]
  · exact absurd h (hhyphen a b)
  · exact absurd h.symm (hhyphen b a)
  · rw [hm, hn, toString_nat_inj ((String.append_right_inj "-").1 h)]

theorem dot_not_mem_toString (n : Int) : '.' ∉ (toString n).toList := by
  obtain ⟨digits, ⟨-, h⟩ | ⟨-, h⟩⟩ := toString_int_cases n <;> rw [h]
  · exact not_mem_toString (by decide) digits
  · rw [String.toList_append, List.mem_append]
    rintro (hmem | hmem)
    · exact absurd hmem (by decide)
    · exact not_mem_toString (by decide) digits hmem

/-- Numbers that are written with dots between them are found again. -/
theorem joinWith_toString_inj {ns ms : List Int} (hns : ns ≠ []) (hms : ms ≠ [])
    (h : joinWith '.' (ns.map toString) = joinWith '.' (ms.map toString)) : ns = ms := by
  have hdots : ∀ ks : List Int, ∀ s ∈ ks.map toString, '.' ∉ s.toList := by
    intro ks s hs
    obtain ⟨n, -, rfl⟩ := List.mem_map.1 hs
    exact dot_not_mem_toString n
  have hsplit := congrArg (splitOn '.') h
  rw [splitOn_joinWith (by simpa using hns) (hdots ns),
    splitOn_joinWith (by simpa using hms) (hdots ms)] at hsplit
  exact (List.map_inj_right fun _ _ => toString_int_inj).1 hsplit

end TargetResolution.Text
