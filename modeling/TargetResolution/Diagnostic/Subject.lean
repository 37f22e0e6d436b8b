import TargetResolution.Text.Quoted

/-!
What a field of a template can show: the text of a value, and what can be asked about a text, which
is its category, what the category is derived from, and what can be done with its members.
-/

namespace TargetResolution.Template

open Text

/-- The categories of subjects. -/
inductive Category where
  | base
  | category
  | text
  | row
  | nothing
  /-- What can be done with a member of a category, by its name or by a sign of its own. -/
  | operation (sign : Bool)
  /-- The same, with a member that it is done with. -/
  | bound (sign : Bool)
  deriving DecidableEq, Repr

namespace Category

/-- The name of a category. -/
def name : Category → String
  | .base => "object"
  | .category => "type"
  | .text => "str"
  | .row => "tuple"
  | .nothing => "NoneType"
  | .operation false => "method_descriptor"
  | .operation true => "wrapper_descriptor"
  | .bound false => "builtin_function_or_method"
  | .bound true => "method-wrapper"

/-- The category that another one is derived from. -/
def parent? : Category → Option Category
  | .base => none
  | _ => some .base

/-- The category and what it is derived from, nearest first. -/
def lineage (c : Category) : List Category := c :: c.parent?.toList

/-- What is said about a category, if anything is. -/
def summary? : Category → Option String
  | .base => some ("The base class of the class hierarchy.\n\nWhen called, it accepts no arguments"
      ++ " and returns a new featureless\ninstance that has no instance attributes and cannot be"
      ++ " given any.\n")
  | .category => some ("type(object) -> the object's type\n"
      ++ "type(name, bases, dict, **kwds) -> a new type")
  | .text => some ("str(object='') -> str\nstr(bytes_or_buffer[, encoding[, errors]]) -> str\n\n"
      ++ "Create a new string object from the given object. If encoding or\n"
      ++ "errors is specified, then the object must expose a data buffer\n"
      ++ "that will be decoded using the given encoding and error handler.\n"
      ++ "Otherwise, returns the result of object.__str__() (if defined)\nor repr(object).\n"
      ++ "encoding defaults to sys.getdefaultencoding().\nerrors defaults to 'strict'.")
  | .row => some ("Built-in immutable sequence.\n\nIf no argument is given, the constructor returns"
      ++ " an empty tuple.\nIf iterable is specified the tuple is initialized from iterable's"
      ++ " items.\n\nIf the argument is a tuple, the return value is the same object.")
  | _ => none

/-- What can be done with the members of a category, by name. -/
def named : Category → List String
  | .base => ["__dir__", "__format__", "__getstate__", "__reduce__", "__reduce_ex__", "__sizeof__"]
  | .text => ["__format__", "__getnewargs__", "__sizeof__", "capitalize", "casefold", "center",
      "count", "encode", "endswith", "expandtabs", "find", "format", "format_map", "index",
      "isalnum", "isalpha", "isascii", "isdecimal", "isdigit", "isidentifier", "islower",
      "isnumeric", "isprintable", "isspace", "istitle", "isupper", "join", "ljust", "lower",
      "lstrip", "partition", "removeprefix", "removesuffix", "replace", "rfind", "rindex", "rjust",
      "rpartition", "rsplit", "rstrip", "split", "splitlines", "startswith", "strip", "swapcase",
      "title", "translate", "upper", "zfill"]
  | .row => ["__getnewargs__", "count", "index"]
  | .category => ["__dir__", "__instancecheck__", "__sizeof__", "__subclasscheck__",
      "__subclasses__", "mro"]
  | _ => []

/-- What can be done with the members of a category, by a sign. -/
def signed : Category → List String
  | .base => ["__delattr__", "__eq__", "__ge__", "__getattribute__", "__gt__", "__hash__",
      "__init__", "__le__", "__lt__", "__ne__", "__repr__", "__setattr__", "__str__"]
  | .text => ["__add__", "__contains__", "__eq__", "__ge__", "__getattribute__", "__getitem__",
      "__gt__", "__hash__", "__iter__", "__le__", "__len__", "__lt__", "__mod__", "__mul__",
      "__ne__", "__repr__", "__rmod__", "__rmul__", "__str__"]
  | .row => ["__add__", "__contains__", "__eq__", "__ge__", "__getattribute__", "__getitem__",
      "__gt__", "__hash__", "__iter__", "__le__", "__len__", "__lt__", "__mul__", "__ne__",
      "__repr__", "__rmul__"]
  | .category => ["__call__", "__delattr__", "__getattribute__", "__init__", "__or__", "__repr__",
      "__ror__", "__setattr__"]
  | .nothing => ["__bool__", "__repr__"]
  | _ => []

/-- What a name means for the members of a category: the category that knows it first, and whether
it is done by a sign. -/
def operation? (c : Category) (name : String) : Option (Category × Bool) :=
  c.lineage.findSome? fun owner =>
    if owner.named.contains name then some (owner, false)
    else if owner.signed.contains name then some (owner, true)
    else none

end Category

/-- What a field can show. -/
inductive Subject where
  | text (cs : List Char)
  | category (c : Category)
  | row (categories : List Category)
  | nothing
  /-- What can be done with the members of a category. -/
  | operation (owner : Category) (sign : Bool) (name : String)
  /-- The same, with the text that it is done with. -/
  | bound (cs : List Char) (owner : Category) (sign : Bool) (name : String)
  deriving DecidableEq, Repr

namespace Subject

/-- The category of a subject. -/
def kind : Subject → Category
  | .text _ => .text
  | .category _ => .category
  | .row _ => .row
  | .nothing => .nothing
  | .operation _ sign _ => .operation sign
  | .bound _ _ sign _ => .bound sign

/-- A string as a subject. -/
def ofString (s : String) : Subject := .text s.toList

/-- A string that may be missing as a subject. -/
def ofString? (s : Option String) : Subject := s.elim .nothing ofString

/-- A category as it is shown. -/
def categoryText (c : Category) : String := "<class '" ++ c.name ++ "'>"

/-- A subject as it is shown. -/
def shown : Subject → String
  | .text cs => String.ofList cs
  | .category c => categoryText c
  | .row [c] => "(" ++ categoryText c ++ ",)"
  | .row cs => "(" ++ ", ".intercalate (cs.map categoryText) ++ ")"
  | .nothing => "None"
  | .operation owner sign name =>
    if sign then "<slot wrapper '" ++ name ++ "' of '" ++ owner.name ++ "' objects>"
    else "<method '" ++ name ++ "' of '" ++ owner.name ++ "' objects>"
  | .bound _ _ sign name =>
    (if sign then "<method-wrapper '" ++ name ++ "'" else "<built-in method " ++ name)
      ++ " of str object>"

/-- A subject in its quoted form. Only texts have quotes. -/
def quotedForm : Subject → String
  | .text cs => quoted (String.ofList cs)
  | s => s.shown

/-- What a category says about itself under a name. -/
def ofCategory? (c : Category) : String → Option Subject
  | "__class__" => some (.category .category)
  | "__name__" => some (ofString c.name)
  | "__qualname__" => some (ofString c.name)
  | "__module__" => some (ofString "builtins")
  | "__doc__" => some (ofString? c.summary?)
  | "__base__" => some (c.parent?.elim .nothing .category)
  | "__bases__" => some (.row c.parent?.toList)
  | "__mro__" => some (.row c.lineage)
  | name => (c.operation? name).map fun (owner, sign) => .operation owner sign name

/-- What an operation of a category says about itself under a name. -/
def ofOperation? (owner : Category) (name : String) : String → Option Subject
  | "__name__" => some (ofString name)
  | "__qualname__" => some (ofString (owner.name ++ "." ++ name))
  | "__objclass__" => some (.category owner)
  | _ => none

/-- What an operation with a text says about itself under a name. An operation by name is of the
text itself and of no module, while one by a sign is still of its category. -/
def ofBound? (cs : List Char) (owner : Category) (sign : Bool) (name : String) :
    String → Option Subject
  | "__self__" => some (.text cs)
  | "__module__" => if sign then none else some .nothing
  | part =>
    if sign then ofOperation? owner name part
    else if part = "__objclass__" then none
    else ofOperation? .text name part

/-- The part of a subject with a name. -/
def part? (s : Subject) (name : String) : Option Subject :=
  match s with
  | .category c => ofCategory? c name
  | s =>
    if name = "__class__" then some (.category s.kind)
    else
      match s with
      | .text cs =>
        if name = "__doc__" then some (ofString? Category.text.summary?)
        else (Category.text.operation? name).map fun (owner, sign) => .bound cs owner sign name
      | .row _ => if name = "__doc__" then some (ofString? Category.row.summary?) else none
      | .nothing => if name = "__doc__" then some .nothing else none
      | .operation owner _ own => ofOperation? owner own name
      | .bound cs owner sign own => ofBound? cs owner sign own name
      | .category _ => none

end Subject

end TargetResolution.Template
