import TargetResolution.Value.Json
import TargetResolution.Yaml.Writer

/-!
Reports: entries of plain data as text, JSON or YAML. The text form gives an entry a line, or a line
for its key and one for each item of a list, with all values in one column.
-/

namespace TargetResolution.Report

open Text

/-- The forms of a report. -/
inductive Format where
  | text
  | json
  | yaml
  deriving DecidableEq, Repr

namespace Format

/-- The name of a form. -/
def name : Format → String
  | .text => "text"
  | .json => "json"
  | .yaml => "yaml"

/-- All forms. -/
def all : List Format := [.text, .json, .yaml]

/-- The form of a name. -/
def ofName? (name : String) : Option Format := all.find? fun f => f.name == name

end Format

/-- Why entries cannot be shown. -/
inductive Error where
  | unknownFormat (name : String)
  /-- A key of a kind that has no length, in the text form. -/
  | keyWithoutLength (kind : String)
  deriving DecidableEq, Repr

/-- The wording of an error. -/
def Error.message : Error → String
  | .unknownFormat name =>
    "Unknown output format: " ++ name ++ " (expected one of ("
      ++ ", ".intercalate (Format.all.map fun f => quoted f.name) ++ "))"
  | .keyWithoutLength kind => "object of type '" ++ kind ++ "' has no len()"

/-- What stands for the absence of a value. -/
def noneText : String := "(none)"

/-- Spaces. -/
def blanksOf (n : Nat) : String := String.ofList (List.replicate n ' ')

/-- A text with spaces up to a width. -/
def padTo (width : Nat) (s : String) : String := s ++ blanksOf (width - s.length)

/-- The value of an entry on its line. -/
def shown : Value → String
  | .null => noneText
  | .str s => if s = "" then noneText else s
  | v => v.text

/-- The lines of an entry with a list. -/
def listLines (width : Nat) (key : String) (items : List String) : List String :=
  if items.isEmpty then [padTo width key ++ " : " ++ noneText]
  else (padTo width key ++ " :") :: items.map fun item => blanksOf (width + 3) ++ item

/-- The lines of an entry. -/
def entryLines (width : Nat) (key : String) : Value → List String
  | .list items => listLines width key (items.map Value.text)
  | v => [padTo width key ++ " : " ++ shown v]

/-- The greatest length of a key. -/
def keyWidth (keys : List String) : Nat := (keys.map String.length).foldl max 0

/-- The text form of entries with texts as keys. -/
def textForm (entries : List (String × Value)) : String :=
  let width := keyWidth (entries.map (·.1))
  "\n".intercalate (entries.flatMap fun (key, v) => entryLines width key v)

/-- The entries with their keys as texts, or the kind of the first key that is no text. -/
def textKeys : List (Value × Value) → Except String (List (String × Value))
  | [] => .ok []
  | (.str key, v) :: rest => (textKeys rest).map ((key, v) :: ·)
  | (key, _) :: _ => .error key.kindName

/-- The entries in a form. -/
def render (format : Format) (entries : List (Value × Value)) : Except Error String :=
  match format with
  | .json => .ok (Value.map entries).json
  | .yaml => .ok (Yaml.write (.map entries))
  | .text => ((textKeys entries).map textForm).mapError .keyWithoutLength

/-- The entries in the form of a name. -/
def renderNamed (name : String) (entries : List (Value × Value)) : Except Error String :=
  match Format.ofName? name with
  | some format => render format entries
  | none => .error (.unknownFormat name)

end TargetResolution.Report
