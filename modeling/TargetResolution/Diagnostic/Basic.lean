import TargetResolution.Diagnostic.Template

/-!
Diagnostics. Nothing that is found during resolution aborts it: problems are collected in the order
of their reports. A report whose template cannot be filled in makes no diagnostic.
-/

namespace TargetResolution

/-- How grave a diagnostic is. -/
inductive Severity where
  | warning
  | error
  deriving DecidableEq, Repr

namespace Severity

/-- The name of a severity. -/
def name : Severity → String
  | .warning => "warning"
  | .error => "error"

/-- The severity of a name. -/
def ofName? (name : String) : Option Severity := [warning, error].find? fun s => s.name == name

end Severity

/-- One reported problem. -/
structure Diagnostic where
  severity : Severity
  code : String
  message : String
  deriving DecidableEq, Repr

namespace Diagnostic

/-- The diagnostic on one line. -/
def text (d : Diagnostic) : String := d.severity.name ++ ": " ++ d.message ++ " [" ++ d.code ++ "]"

/-- The problems that resolution can find in an option. -/
inductive Kind where
  | floatAbi
  | runtimeLibrary
  | standardLibrary
  deriving DecidableEq, Repr

namespace Kind

/-- The code of a problem. -/
def code : Kind → String
  | .floatAbi => "invalid-mfloat-abi"
  | .runtimeLibrary => "invalid-rtlib-name"
  | .standardLibrary => "invalid-stdlib-name"

/-- What the message says before it quotes the option. -/
def lead : Kind → String
  | .floatAbi => "invalid float ABI "
  | .runtimeLibrary => "invalid runtime library name in argument "
  | .standardLibrary => "invalid library name in argument "

/-- The template of the message. -/
def template (k : Kind) : String := k.lead ++ "'\x7barg\x7d'"

/-- All problems. -/
def all : List Kind := [.floatAbi, .runtimeLibrary, .standardLibrary]

end Kind

/-- The diagnostic about an option, which is quoted as it was written. -/
def about (kind : Kind) (option : String) : Diagnostic where
  severity := .error
  code := kind.code
  message := kind.lead ++ "'" ++ option ++ "'"

/-- The template of a code. An unknown code is its own template. -/
def templateOf (code : String) : String :=
  ((Kind.all.find? fun k => k.code == code).map Kind.template).getD code

end Diagnostic

/-- The diagnostics collected so far, in the order of their reports. -/
structure Diagnostics where
  reported : List Diagnostic := []
  deriving DecidableEq, Repr

namespace Diagnostics

/-- The names that no value of a report may have: the collection's own, its code and its level. -/
def reservedNames : List String := ["self", "code", "level"]

/-- A template filled in with the values of a report. Reserved names are refused. -/
def compose (template : String) (values : List (String × String)) :
    Except Template.Fault String :=
  match values.find? fun (name, _) => reservedNames.contains name with
  | some (name, _) => .error (.givenTwice name)
  | none => Template.fill template values

/-- The diagnostic that a report makes, and the collection with it. -/
def report (ds : Diagnostics) (code : String) (severity : Severity)
    (values : List (String × String)) : Except Template.Fault (Diagnostic × Diagnostics) :=
  (compose (Diagnostic.templateOf code) values).map fun message =>
    let d : Diagnostic := ⟨severity, code, message⟩
    (d, ⟨ds.reported ++ [d]⟩)

/-- The collection with a diagnostic, if there is one. -/
def add (ds : Diagnostics) (d : Option Diagnostic) : Diagnostics :=
  ⟨ds.reported ++ d.toList⟩

/-- Whether one of the diagnostics is an error. -/
def hasErrors (ds : Diagnostics) : Bool := ds.reported.any fun d => d.severity == .error

/-- The number of diagnostics. -/
def size (ds : Diagnostics) : Nat := ds.reported.length

end Diagnostics

end TargetResolution
