import TargetResolution.Calendar
import TargetResolution.Text.Digits
import TargetResolution.Text.Quoted

/-!
Why a YAML text yields no plain data: it is malformed, or a scalar of it stands for nothing.
-/

namespace TargetResolution.Yaml

/-- Why a scalar stands for nothing. -/
inductive ScalarFault where
  | notInteger (base : Nat) (text : String)
  | tooManyDigits (digits : Nat)
  | notFloat (text : String)
  | notBoolean (text : String)
  | emptyNumber
  | notTimestamp
  | calendar (fault : CalendarFault)
  | timestampOfMapping
  | tooLargeForFloat
  | noCharacter
  | characterTooLarge
  /-- A text that is asked for in a mapping that holds itself. -/
  | endless
  deriving DecidableEq, Repr

/-- The most characters that are shown of a text that is no whole number, in its quotes. -/
def shownLength : Nat := 200

/-- The wording of a scalar fault. -/
def ScalarFault.message : ScalarFault → String
  | .notInteger base text =>
    s!"invalid literal for int() with base {base}: "
      ++ String.ofList ((Text.quoted text).toList.take shownLength)
  | .tooManyDigits digits => Text.tooManyDigitsMessage digits
  | .notFloat text => "could not convert string to float: " ++ Text.quoted text
  | .notBoolean text => Text.quoted text
  | .emptyNumber => "string index out of range"
  | .notTimestamp => "'NoneType' object has no attribute 'groupdict'"
  | .calendar fault => fault.message
  | .timestampOfMapping => "expected string or bytes-like object, got 'list'"
  | .tooLargeForFloat => "int too large to convert to float"
  | .noCharacter => "chr() arg not in range(0x110000)"
  | .characterTooLarge => "Python int too large to convert to C int"
  | .endless => "maximum recursion depth exceeded"

/-- Why a text yields no plain data. -/
inductive Fault where
  | malformed
  | scalar (fault : ScalarFault)
  deriving DecidableEq, Repr

end TargetResolution.Yaml
