/-!
Classes of characters, given by runs of code points; the tables of the text modules are values of
`CharClass`. The first of them are the blanks, with the removal of blanks at both ends of a text.
Blank means the Unicode separators and line ends, with the four information separators U+001C to
U+001F among them.
-/

namespace TargetResolution.Text

/-- A set of characters: inclusive runs of code points, in ascending order. -/
structure CharClass where
  runs : List (Nat × Nat)

/-- Membership in one of the runs. -/
def CharClass.contains (s : CharClass) (c : Char) : Bool :=
  s.runs.any fun run => decide (run.1 ≤ c.toNat) && decide (c.toNat ≤ run.2)

theorem CharClass.contains_iff {s : CharClass} {c : Char} :
    s.contains c = true ↔ ∃ run ∈ s.runs, run.1 ≤ c.toNat ∧ c.toNat ≤ run.2 := by
  simp [CharClass.contains]

/-! ### Blanks -/

/-- The blank characters. -/
def blanks : CharClass where
  runs := [(0x09, 0x0D), (0x1C, 0x20), (0x85, 0x85), (0xA0, 0xA0), (0x1680, 0x1680),
    (0x2000, 0x200A), (0x2028, 0x2029), (0x202F, 0x202F), (0x205F, 0x205F), (0x3000, 0x3000)]

/-- Whether a character is blank. -/
def isBlank (c : Char) : Bool := blanks.contains c

/-- Whether a character may stand around a number: the information separators may not. -/
def isNumberBlank (c : Char) : Bool := isBlank c && !(0x1C ≤ c.toNat && c.toNat ≤ 0x1F)

/-- The text without the characters of a class at its end. -/
def trimEnd (p : Char → Bool) (cs : List Char) : List Char :=
  (cs.reverse.dropWhile p).reverse

/-- The text without the characters of a class at its two ends. -/
def trim (p : Char → Bool) (cs : List Char) : List Char :=
  trimEnd p (cs.dropWhile p)

/-- The text without the blanks at its two ends. -/
def strip (s : String) : String := String.ofList (trim isBlank s.toList)

/-- The text without the blanks at its end. -/
def stripEnd (s : String) : String := String.ofList (trimEnd isBlank s.toList)

/-- The text without a line feed at its end. -/
def withoutFinalBreak (cs : List Char) : List Char :=
  if cs.getLast? = some '\n' then cs.dropLast else cs

/-- A text is what it is without a line feed at its end, maybe with the line feed. -/
theorem eq_withoutFinalBreak_or (cs : List Char) :
    cs = withoutFinalBreak cs ∨ cs = withoutFinalBreak cs ++ ['\n'] := by
  unfold withoutFinalBreak
  split
  · next h =>
    obtain ⟨front, rfl⟩ := List.getLast?_eq_some_iff.1 h
    exact .inr (by rw [List.dropLast_concat])
  · exact .inl rfl

end TargetResolution.Text
