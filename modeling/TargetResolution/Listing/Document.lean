import TargetResolution.Document
import TargetResolution.Listing
import TargetResolution.Resolution.Note
import TargetResolution.Search

/-!
Listings in documents: a mapping with a list of paths under one key. A void value under the key
lists nothing.
-/

namespace TargetResolution.Listing

/-- The key of the paths. -/
def pathsKey : String := "paths"

/-- Why plain data is no listing. -/
inductive ShapeFault where
  | noPaths
  | pathsNotTexts
  deriving DecidableEq, Repr

/-- Why a file yields no listing. -/
inductive LoadError where
  | document (fault : Document.Fault)
  | shape (file : String) (fault : ShapeFault)
  | emptyPath
  deriving DecidableEq, Repr

/-- The wording for an empty path. -/
def emptyPathMessage : String := "Cannot add an empty path"

/-- The wording of an error. -/
def LoadError.message : LoadError → String
  | .document fault => fault.message
  | .shape file .noPaths => "Listing " ++ file ++ " must be a mapping with a 'paths' key"
  | .shape file .pathsNotTexts => "'paths' in " ++ file ++ " must be a list of strings"
  | .emptyPath => emptyPathMessage

/-- The paths under a value. -/
def pathsUnder (v : Value) : Except ShapeFault (List String) :=
  if v.isVoid then .ok []
  else
    match v with
    | .list items =>
      match Value.texts? items with
      | some paths => .ok paths
      | none => .error .pathsNotTexts
    | _ => .error .pathsNotTexts

/-- The paths that plain data lists. -/
def pathsOf : Value → Except ShapeFault (List String)
  | .map entries =>
    match Value.entry? pathsKey entries with
    | some v => pathsUnder v
    | none => .error .noPaths
  | _ => .error .noPaths

/-- The listing of a document. The number of its paths is noted before they are added. -/
def load (file : String) (state : FileState) : Search Note (Except LoadError Listing) :=
  match Document.load .listing file state with
  | .error fault => .done (.error (.document fault))
  | .ok v =>
    match pathsOf v with
    | .error fault => .done (.error (.shape file fault))
    | .ok paths =>
      .note (.listingLoaded file paths.length)
        (.done (match ofPaths? paths with
          | some t => .ok t
          | none => .error .emptyPath))

end TargetResolution.Listing
