import TargetResolution.Yaml.Document

/-!
Documents: YAML texts in named files. A file is given by what stands under its name, so a document
can be read from the host and from a description of files alike.
-/

namespace TargetResolution

/-- What stands under the name of a file. -/
inductive FileState where
  | missing
  | directory
  | nameTooLong
  | text (content : String)
  deriving DecidableEq, Repr

namespace Document

/-- What a document is read for. -/
inductive Role where
  | listing
  | environment
  deriving DecidableEq, Repr

/-- How messages call a document. -/
def Role.title : Role → String
  | .listing => "Listing"
  | .environment => "Environment"

/-- Why a file yields no plain data. -/
inductive Fault where
  | notFound (role : Role) (file : String)
  | malformed (role : Role) (file : String)
  | isDirectory (file : String)
  | nameTooLong (file : String)
  | scalar (fault : Yaml.ScalarFault)
  deriving DecidableEq, Repr

/-- The wording of a fault. -/
def Fault.message : Fault → String
  | .notFound role file => role.title ++ " file not found: " ++ file
  | .malformed _ file => "Invalid YAML in " ++ file
  | .isDirectory file => "[Errno 21] Is a directory: " ++ Text.quoted file
  | .nameTooLong file => "[Errno 36] File name too long: " ++ Text.quoted file
  | .scalar fault => fault.message

/-- The text with a line feed for each end of a line, however it is written. -/
def unifyBreaks : List Char → List Char
  | [] => []
  | '\r' :: '\n' :: cs => '\n' :: unifyBreaks cs
  | c :: cs => (if c = '\r' then '\n' else c) :: unifyBreaks cs

/-- The plain data of a document. -/
def load (role : Role) (file : String) : FileState → Except Fault Value
  | .missing => .error (.notFound role file)
  | .directory => .error (.isDirectory file)
  | .nameTooLong => .error (.nameTooLong file)
  | .text content =>
    match Yaml.load (String.ofList (unifyBreaks content.toList)) with
    | .ok v => .ok v
    | .error .malformed => .error (.malformed role file)
    | .error (.scalar fault) => .error (.scalar fault)

end Document

end TargetResolution
