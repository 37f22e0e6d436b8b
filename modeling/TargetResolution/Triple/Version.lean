import TargetResolution.Text.Digits
import TargetResolution.Text.Lists

/-!
Versions of three numbers, and the version at the end of an environment name. Only the first three
numbers of a longer version count.
-/

namespace TargetResolution

open Text

/-- A version of three numbers. The parsed ones are never negative. -/
structure Version where
  major : Int
  minor : Int
  micro : Int
  deriving DecidableEq, Repr

namespace Version

/-- The version of a target that names none. -/
def zero : Version := ⟨0, 0, 0⟩

/-- Whether a text is a dotted sequence of decimal numbers. -/
def isDotted (cs : List Char) : Bool :=
  (fields '.' cs).all fun part => !part.isEmpty && part.all isDecimalDigit

/-- One number of a version, or its number of digits if it has too many. -/
def number (part : List Char) : Except Nat Int :=
  if digitLimit < part.length then .error part.length else .ok (decimalValue part)

/-- The version that a dotted sequence writes, missing numbers being zero, or the number of digits
of the first number that has too many. -/
def ofDotted (cs : List Char) : Except Nat Version := do
  match ← ((fields '.' cs).take 3).mapM number with
  | [] => .ok zero
  | [a] => .ok ⟨a, 0, 0⟩
  | [a, b] => .ok ⟨a, b, 0⟩
  | a :: b :: c :: _ => .ok ⟨a, b, c⟩

end Version

/-- Whether a character may stand in the name of a system or an environment. -/
def isNameChar (c : Char) : Bool := c.isAlpha || c == '_'

/-- A name and the version behind it. A text that is not a name with an optional dotted version is a
name as a whole. -/
def splitVersion (cs : List Char) : List Char × List Char :=
  let rest := cs.dropWhile isNameChar
  if rest.isEmpty || Version.isDotted rest then (cs.takeWhile isNameChar, rest) else (cs, [])

end TargetResolution
