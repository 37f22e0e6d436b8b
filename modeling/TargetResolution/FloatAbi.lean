import TargetResolution.Diagnostic.Basic
import TargetResolution.OptionList
import TargetResolution.Text.Lists
import TargetResolution.Text.Quoted

/-!
The float ABI and the predicates on which a multilib is selected. Options are boiled down to the
CPU, the FPU and the float ABI; the last option of each kind counts.
-/

namespace TargetResolution

open Text

/-- Floating-point calling conventions. -/
inductive FloatAbi where
  | soft
  | softfp
  | hard
  /-- An empty convention was asked for; no predicate about the convention holds. -/
  | invalid
  deriving DecidableEq, Repr

namespace FloatAbi

/-- The name of a convention. -/
def name : FloatAbi → String
  | .soft => "soft"
  | .softfp => "softfp"
  | .hard => "hard"
  | .invalid => "invalid"

/-- The convention of a name. -/
def ofName? (name : String) : Option FloatAbi :=
  [soft, softfp, hard, invalid].find? fun a => a.name == name

/-- The conventions that can be asked for by name. -/
def ofOptionValue? (value : String) : Option FloatAbi :=
  [soft, softfp, hard].find? fun a => a.name == value

/-- The options that ask for soft floats. -/
def softOptions : List String := ["-msoft-float", "--soft-float"]

/-- The options that ask for hard floats. -/
def hardOptions : List String := ["-mhard-float", "--hard-float"]

/-- The option that names a convention. -/
def namingOption : String := "-mfloat-abi="

/-- The convention that one of the options asks for. A name that is not known counts as soft and is
reported; an empty one is not. -/
def ofOption (o : DriverOption) : FloatAbi × Option Diagnostic :=
  if o.name ∈ softOptions then (.soft, none)
  else if o.name ∈ hardOptions then (.hard, none)
  else if o.value = "" then (.invalid, none)
  else
    match ofOptionValue? o.value with
    | some abi => (abi, none)
    | none => (.soft, some (.about .floatAbi o.text))

end FloatAbi

/-- The float ABI that the options ask for, and the report if they ask for an unknown one. Without
any option it is soft. -/
def OptionList.floatAbi (l : OptionList) : FloatAbi × Option Diagnostic :=
  match l.last? (FloatAbi.softOptions ++ FloatAbi.hardOptions ++ [FloatAbi.namingOption]) with
  | none => (.soft, none)
  | some o => FloatAbi.ofOption o

/-- A set of predicates, in ascending order and each of them once. -/
structure FlagSet where
  predicates : List String
  deriving DecidableEq, Repr

namespace FlagSet

/-- The set of some predicates. -/
def ofList (predicates : List String) : FlagSet := ⟨sortedSet predicates⟩

/-- Whether a predicate holds. -/
def holds (flags : FlagSet) (predicate : String) : Bool := decide (predicate ∈ flags.predicates)

/-- The set with its predicates in quotes. -/
def text (flags : FlagSet) : String := "FlagSet(" ++ quotedList flags.predicates ++ ")"

/-- The CPU that multilibs are built for. -/
def cpu : String := "cortex-a7"

/-- The FPU that multilibs are built for. -/
def fpu : String := "neon-vfpv4"

/-- The predicates that hold for a list of options and the float ABI. -/
def ofOptions (l : OptionList) (abi : FloatAbi) : FlagSet :=
  ofList ((if l.lastValue? "-mcpu=" = some cpu then ["mcpu=" ++ cpu] else [])
    ++ (if l.lastValue? "-mfpu=" = some fpu then ["mfpu=" ++ fpu] else [])
    ++ (if abi = .invalid then [] else ["mfloat-abi=" ++ abi.name]))

end FlagSet

end TargetResolution
