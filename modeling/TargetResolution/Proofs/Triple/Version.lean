import Mathlib.Data.List.TakeWhile
import Mathlib.Data.Nat.Digits.Defs
import TargetResolution.Triple.Version

/-!
Versions behind names. A text is cut into a name and a version exactly when it is letters and
underscores with dotted decimal numbers behind them. Reading the version fails exactly when one of
its first three numbers is too long, and every number that is read can be written again within the
same bound.
-/

namespace TargetResolution

open Text

/-- A text that is a name of letters and underscores with dotted decimal numbers behind it. -/
structure IsVersioned (cs name : List Char) (numbers : List (List Char)) : Prop where
  split : cs = name ++ unfields '.' numbers
  name_chars : ∀ c ∈ name, isNameChar c = true
  ne_nil : numbers ≠ []
  digits : ∀ n ∈ numbers, n ≠ [] ∧ ∀ c ∈ n, isDecimalDigit c = true

/-! ### Classes of characters -/

/-- The digits of the Latin script stand before the letters, those of all others behind them. -/
theorem toNat_of_isDecimalDigit {c : Char} (h : isDecimalDigit c = true) :
    c.toNat < 0x3A ∨ 0x660 ≤ c.toNat := by
  have hzeros : ∀ z ∈ digitZeros, z = 0x30 ∨ 0x660 ≤ z := by decide
  rw [isDecimalDigit, digitValue?, Option.isSome_map, List.find?_isSome] at h
  obtain ⟨z, hz, hc⟩ := h
  simp only [Bool.and_eq_true, decide_eq_true_eq] at hc
  have := hzeros z hz
  omega

theorem toNat_of_isNameChar {c : Char} (h : isNameChar c = true) :
    0x41 ≤ c.toNat ∧ c.toNat ≤ 0x7A := by
  rcases Bool.or_eq_true_iff.1 h with h | h
  · rcases Bool.or_eq_true_iff.1 h with h | h
    · have hbounds : 65 ≤ c.toNat ∧ c.toNat ≤ 90 := of_decide_eq_true h
      omega
    · obtain ⟨hleast, hmost⟩ := Bool.and_eq_true_iff.1 h
      have hleast : 97 ≤ c.toNat := of_decide_eq_true hleast
      have hmost : c.toNat ≤ 122 := of_decide_eq_true hmost
      omega
  · obtain rfl := eq_of_beq h
    decide

theorem not_isNameChar_of_isDecimalDigit {c : Char} (h : isDecimalDigit c = true) :
    isNameChar c = false := by
  rw [← Bool.not_eq_true]
  intro hname
  have := toNat_of_isDecimalDigit h
  have := toNat_of_isNameChar hname
  omega

theorem dot_not_mem_of_digits {n : List Char} (h : ∀ c ∈ n, isDecimalDigit c = true) : '.' ∉ n :=
  fun hmem => absurd (h '.' hmem) (by decide)

/-! ### Cutting a version off -/

namespace IsVersioned

variable {cs name : List Char} {numbers : List (List Char)}

theorem fields_version (h : IsVersioned cs name numbers) :
    fields '.' (unfields '.' numbers) = numbers :=
  fields_unfields h.ne_nil fun n hn => dot_not_mem_of_digits (h.digits n hn).2

theorem isDotted_version (h : IsVersioned cs name numbers) :
    Version.isDotted (unfields '.' numbers) = true := by
  rw [Version.isDotted, h.fields_version, List.all_eq_true]
  intro n hn
  obtain ⟨hne, hdigits⟩ := h.digits n hn
  rw [Bool.and_eq_true, List.all_eq_true]
  exact ⟨by simpa using hne, hdigits⟩

/-- A version starts with a digit. -/
theorem exists_version_eq_cons (h : IsVersioned cs name numbers) :
    ∃ c rest, unfields '.' numbers = c :: rest ∧ isDecimalDigit c = true := by
  obtain ⟨n, ns, rfl⟩ := List.exists_cons_of_ne_nil h.ne_nil
  obtain ⟨hne, hdigits⟩ := h.digits n List.mem_cons_self
  obtain ⟨c, n, rfl⟩ := List.exists_cons_of_ne_nil hne
  have hc : isDecimalDigit c = true := hdigits c List.mem_cons_self
  cases ns with
  | nil => exact ⟨c, n, rfl, hc⟩
  | cons m ns => exact ⟨c, _, rfl, hc⟩

/-- A version is cut off where its numbers start. -/
theorem splitVersion_eq (h : IsVersioned cs name numbers) :
    splitVersion cs = (name, unfields '.' numbers) := by
  obtain ⟨c, rest, hversion, hc⟩ := h.exists_version_eq_cons
  have hstop : isNameChar c = false := not_isNameChar_of_isDecimalDigit hc
  have hdrop : cs.dropWhile isNameChar = unfields '.' numbers := by
    rw [h.split, List.dropWhile_append_of_pos h.name_chars, hversion,
      List.dropWhile_cons_of_neg (by simp [hstop])]
  have htake : cs.takeWhile isNameChar = name := by
    rw [h.split, List.takeWhile_append_of_pos h.name_chars, hversion,
      List.takeWhile_cons_of_neg (by simp [hstop]), List.append_nil]
  simp [splitVersion, hdrop, htake, h.isDotted_version]

end IsVersioned

/-- What is cut off as a version is one. -/
theorem isVersioned_of_splitVersion {cs : List Char} (h : (splitVersion cs).2 ≠ []) :
    IsVersioned cs (splitVersion cs).1 (fields '.' (splitVersion cs).2) := by
  by_cases hcut : ((cs.dropWhile isNameChar).isEmpty || Version.isDotted (cs.dropWhile isNameChar))
      = true
  · have hsplit : splitVersion cs = (cs.takeWhile isNameChar, cs.dropWhile isNameChar) := by
      simp only [splitVersion, hcut, if_true]
    rw [hsplit] at h ⊢
    have hdotted : Version.isDotted (cs.dropWhile isNameChar) = true := by
      simpa [h] using hcut
    rw [Version.isDotted, List.all_eq_true] at hdotted
    refine ⟨?_, fun c hc => List.mem_takeWhile_imp hc, fields_ne_nil _ _, fun n hn => ?_⟩
    · rw [unfields_fields, List.takeWhile_append_dropWhile]
    · simpa using hdotted n hn
  · simp [splitVersion, hcut] at h

namespace Version

/-! ### Reading a version -/

/-- Reading numbers fails at the first one that is too long, and reports its length. -/
theorem mapM_number_eq_error_iff (parts : List (List Char)) (digits : Nat) :
    parts.mapM number = .error digits ↔
      (parts.find? fun n => decide (digitLimit < n.length)).map List.length = some digits := by
  induction parts with
  | nil => simp [pure, Except.pure]
  | cons n parts ih =>
    by_cases h : digitLimit < n.length
    · simp [number, h, bind, Except.bind]
    · rw [List.find?_cons_of_neg (by simpa using h), ← ih]
      cases hrest : parts.mapM number <;>
        simp [number, h, hrest, bind, Except.bind, pure, Except.pure]

/-- Numbers that are read are the values of the parts, none of which is too long. -/
theorem mapM_number_eq_ok {parts : List (List Char)} {ns : List Int}
    (h : parts.mapM number = .ok ns) :
    (∀ part ∈ parts, part.length ≤ digitLimit) ∧
      ns = parts.map fun part => (decimalValue part : Int) := by
  induction parts generalizing ns with
  | nil =>
    obtain rfl : [] = ns := Except.ok.inj h
    simp
  | cons part parts ih =>
    rw [List.mapM_cons] at h
    by_cases hlength : digitLimit < part.length
    · simp [number, hlength, bind, Except.bind] at h
    · cases hrest : parts.mapM number with
      | error d => simp [number, hlength, hrest, bind, Except.bind] at h
      | ok ms =>
        obtain rfl : (decimalValue part : Int) :: ms = ns := by
          simpa [number, hlength, hrest, bind, Except.bind, pure, Except.pure] using h
        obtain ⟨hlengths, hms⟩ := ih hrest
        exact ⟨List.forall_mem_cons.2 ⟨Nat.le_of_not_lt hlength, hlengths⟩,
          congrArg (List.cons _) hms⟩

/-- The value of one of some numbers, zero if it is missing. -/
def numberAt (numbers : List (List Char)) (i : Nat) : Int :=
  (numbers[i]?.map fun n => (decimalValue n : Int)).getD 0

/-- The version of the first three of some numbers, missing ones being zero. -/
def ofNumbers (numbers : List (List Char)) : Version :=
  ⟨numberAt numbers 0, numberAt numbers 1, numberAt numbers 2⟩

/-- A version that is read is that of its numbers, and the first three are not too long. -/
theorem ofDotted_eq_ok {cs : List Char} {v : Version} (h : ofDotted cs = .ok v) :
    (∀ n ∈ (fields '.' cs).take 3, n.length ≤ digitLimit) ∧ v = ofNumbers (fields '.' cs) := by
  unfold ofDotted at h
  cases hns : ((fields '.' cs).take 3).mapM number with
  | error d => simp [hns, bind, Except.bind] at h
  | ok ns =>
    obtain ⟨hlengths, rfl⟩ := mapM_number_eq_ok hns
    refine ⟨hlengths, ?_⟩
    rw [hns] at h
    match fields '.' cs, h with
    | [], h | [_], h | [_, _], h | _ :: _ :: _ :: _, h => exact (Except.ok.inj h).symm

/-- A version is read unless one of its first three numbers is too long. -/
theorem ofDotted_eq_error_iff (cs : List Char) (digits : Nat) :
    ofDotted cs = .error digits ↔
      (((fields '.' cs).take 3).find? fun n => decide (digitLimit < n.length)).map List.length
        = some digits := by
  rw [← mapM_number_eq_error_iff]
  unfold ofDotted
  cases ((fields '.' cs).take 3).mapM number with
  | error d => simp [bind, Except.bind]
  | ok ns =>
    match ns with
    | [] | [_] | [_, _] | _ :: _ :: _ :: _ => simp [bind, Except.bind]

/-- The version that an environment ends in, zero if it ends in none. -/
def ofEnvironment (environment : String) : Except Nat Version :=
  if (splitVersion environment.toList).2.isEmpty then .ok zero
  else ofDotted (splitVersion environment.toList).2

/-- Whether an environment is a name and a version one of whose first three numbers has more than
4300 digits. -/
def IsOverlong (environment : String) : Prop :=
  ∃ name numbers, IsVersioned environment.toList name numbers ∧
    ∃ n ∈ numbers.take 3, 4300 < n.length

/-- The version of an environment cannot be read exactly when it is overlong. -/
theorem ofEnvironment_eq_error_iff (environment : String) :
    (∃ digits, ofEnvironment environment = .error digits) ↔ IsOverlong environment := by
  constructor
  · rintro ⟨digits, h⟩
    unfold ofEnvironment at h
    split at h
    · exact absurd h (by simp)
    · rename_i hversion
      obtain ⟨n, hn, -⟩ := Option.map_eq_some_iff.1 ((ofDotted_eq_error_iff _ _).1 h)
      exact ⟨_, _, isVersioned_of_splitVersion (by simpa using hversion), n,
        List.mem_of_find?_eq_some hn, of_decide_eq_true (List.find?_some hn :)⟩
  · rintro ⟨name, numbers, hversioned, n, hn, hlong⟩
    obtain ⟨c, rest, hversion, -⟩ := hversioned.exists_version_eq_cons
    obtain ⟨m, hm⟩ := Option.isSome_iff_exists.1
      (List.find?_isSome (p := fun n => decide (digitLimit < n.length)) |>.2
        ⟨n, hn, decide_eq_true hlong⟩)
    refine ⟨m.length, ?_⟩
    have hread : ofDotted (unfields '.' numbers) = .error m.length := by
      rw [ofDotted_eq_error_iff, hversioned.fields_version, hm, Option.map_some]
    simpa [ofEnvironment, hversioned.splitVersion_eq, hversion] using hread

/-! ### Writing a number again -/

/-- A number that is not negative and has at most 4300 digits, the most that may be written. -/
def IsWritable (n : Int) : Prop := 0 ≤ n ∧ (toString n).length ≤ 4300

/-- A version each number of which can be written. -/
structure IsPrintable (v : Version) : Prop where
  major : IsWritable v.major
  minor : IsWritable v.minor
  micro : IsWritable v.micro

theorem isWritable_ofNat {n : Nat} (h : n < 10 ^ digitLimit) : IsWritable n :=
  ⟨Int.natCast_nonneg n, Nat.repr_length n digitLimit (by decide) h⟩

theorem isWritable_zero : IsWritable 0 := isWritable_ofNat (n := 0) (Nat.pow_pos (by decide))

/-- A run of digits stands for less than the power of ten of its length. -/
theorem decimalValue_lt (cs : List Char) : decimalValue cs < 10 ^ cs.length := by
  suffices h : ∀ n k, n < 10 ^ k →
      cs.foldl (fun n c => 10 * n + (digitValue? c).getD 0) n < 10 ^ (k + cs.length) by
    simpa [decimalValue] using h 0 0 (by decide)
  induction cs with
  | nil => simp
  | cons c cs ih =>
    intro n k hn
    have hc : (digitValue? c).getD 0 < 10 := by
      cases hd : digitValue? c with
      | none => decide
      | some d => exact digitValue?_lt hd
    have hstep : 10 * n + (digitValue? c).getD 0 < 10 ^ (k + 1) := by
      rw [Nat.pow_succ]
      omega
    simpa [Nat.add_assoc, Nat.add_comm 1] using ih _ (k + 1) hstep

theorem isWritable_numberAt {numbers : List (List Char)}
    (h : ∀ n ∈ numbers.take 3, n.length ≤ digitLimit) {i : Nat} (hi : i < 3) :
    IsWritable (numberAt numbers i) := by
  unfold numberAt
  cases hn : numbers[i]? with
  | none => exact isWritable_zero
  | some n =>
    have hmem : n ∈ numbers.take 3 := by
      refine List.mem_of_getElem? (i := i) ?_
      rw [List.getElem?_take_of_lt hi, hn]
    refine isWritable_ofNat (Nat.lt_of_lt_of_le (decimalValue_lt n) ?_)
    exact Nat.pow_le_pow_right (by decide) (h n hmem)

/-- A version that is read can be written. -/
theorem isPrintable_of_ofDotted {cs : List Char} {v : Version} (h : ofDotted cs = .ok v) :
    IsPrintable v := by
  obtain ⟨hlengths, rfl⟩ := ofDotted_eq_ok h
  exact ⟨isWritable_numberAt hlengths (by decide), isWritable_numberAt hlengths (by decide),
    isWritable_numberAt hlengths (by decide)⟩

/-- The version of an environment can be written if it can be read. -/
theorem isPrintable_of_ofEnvironment {environment : String} {v : Version}
    (h : ofEnvironment environment = .ok v) : IsPrintable v := by
  unfold ofEnvironment at h
  split at h
  · obtain rfl := Except.ok.inj h
    exact ⟨isWritable_zero, isWritable_zero, isWritable_zero⟩
  · exact isPrintable_of_ofDotted h

end Version

end TargetResolution
