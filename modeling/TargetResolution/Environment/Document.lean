import TargetResolution.Document
import TargetResolution.Environment
import TargetResolution.Resolution.Note
import TargetResolution.Search

/-!
Environments in documents: a mapping from fields to values. An empty document leaves all fields as
they are by default.
-/

namespace TargetResolution.Environment

/-- Why a file yields no environment. -/
inductive LoadError where
  | document (fault : Document.Fault)
  | notMapping (file : String)
  | entries (error : Environment.Error)
  deriving DecidableEq, Repr

/-- The wording of an error. -/
def LoadError.message : LoadError → String
  | .document fault => fault.message
  | .notMapping file => "Environment file " ++ file ++ " must be a mapping"
  | .entries error => error.message

/-- The entries of plain data, null having none. -/
def entriesOf? : Value → Option (List (Value × Value))
  | .null => some []
  | .map entries => some entries
  | _ => none

/-- The environment of a document. That it was loaded is noted before its entries are looked at. -/
def load (file : String) (state : FileState) : Search Note (Except LoadError Environment) :=
  match Document.load .environment file state with
  | .error fault => .done (.error (.document fault))
  | .ok v =>
    match entriesOf? v with
    | none => .done (.error (.notMapping file))
    | some entries =>
      .note (.environmentLoaded file) (.done ((ofMapping entries).mapError .entries))

/-- The environment of a file, if one is named, with overriding values. -/
def gather (files : String → FileState) (file : Option String) (o : Overrides) :
    Search Note (Except LoadError Environment) :=
  let base : Search Note (Except LoadError Environment) :=
    match file with
    | none => .done (.ok {})
    | some f => load f (files f)
  base.ifOk fun e => .done ((e.override o).mapError .entries)

end TargetResolution.Environment
