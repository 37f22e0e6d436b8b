import TargetResolution.Decimal.Fraction
import TargetResolution.Text.Lists
import TargetResolution.Value.Text

/-!
The driver's environment: where it is installed, where its resource directory lies, which sysroot is
forced on it, and how it runs. Environments are read from mappings of plain data; values of the
command line go before values of a file.
-/

namespace TargetResolution

/-- What the driver knows about itself. -/
structure Environment where
  /-- The sysroot that the driver forces, or nothing. -/
  sysroot : String := ""
  /-- The directory of the compiler binary. -/
  installedDir : String := ""
  /-- The resource directory of the compiler. -/
  resourceDir : String := ""
  /-- The directory of the driver executable. -/
  driverDir : String := ""
  /-- Whether the driver runs as a C++ compiler. -/
  cxxMode : Bool := false
  /-- Whether a build id is passed to the linker. -/
  buildId : Bool := false
  /-- The C include directories of the driver's configuration. -/
  includeDirs : List String := []
  deriving DecidableEq, Repr

namespace Environment

/-- The fields. -/
inductive Field where
  | sysroot | installedDir | resourceDir | driverDir | cxxMode | buildId | includeDirs
  deriving DecidableEq, Repr

namespace Field

/-- The key of a field in mappings. -/
def key : Field → String
  | .sysroot => "sysroot_override"
  | .installedDir => "installed_dir"
  | .resourceDir => "resource_dir"
  | .driverDir => "driver_dir"
  | .cxxMode => "cxx_mode"
  | .buildId => "enable_linker_build_id"
  | .includeDirs => "c_include_dirs"

/-- All fields. -/
def all : List Field :=
  [.sysroot, .installedDir, .resourceDir, .driverDir, .cxxMode, .buildId, .includeDirs]

/-- The field of a key. -/
def ofKey? : Value → Option Field
  | .str key => all.find? fun f => f.key == key
  | _ => none

end Field

/-- Why a mapping is no environment. -/
inductive Error where
  | unknownKeys (keys : List String)
  /-- A key that is no text, of the kind that is named. -/
  | keyNotText (kind : String)
  /-- Keys of two kinds that have no order. -/
  | keysNotOrdered (left right : String)
  /-- Dates and moments as keys. -/
  | datesAndMoments
  /-- Moments as keys, of some of which the offset is known and of others not. -/
  | offsetsPartlyKnown
  | notBoolean (field : Field)
  | includeDirsNotPaths
  /-- Include directories that are no collection at all. -/
  | includeDirsNotCollection (kind : String)
  /-- A whole number that is too long to be written. -/
  | integerTooLong
  deriving DecidableEq, Repr

/-- The wording of an error. -/
def Error.message : Error → String
  | .unknownKeys keys => "Unknown driver environment keys: " ++ ", ".intercalate keys
  | .keyNotText kind => "sequence item 0: expected str instance, " ++ kind ++ " found"
  | .keysNotOrdered left right =>
    "'<' not supported between instances of '" ++ left ++ "' and '" ++ right ++ "'"
  | .datesAndMoments => "can't compare datetime.datetime to datetime.date"
  | .offsetsPartlyKnown => "can't compare offset-naive and offset-aware datetimes"
  | .notBoolean field => field.key ++ " must be true or false"
  | .includeDirsNotPaths => "c_include_dirs must be a list of paths"
  | .includeDirsNotCollection kind => "'" ++ kind ++ "' object is not iterable"
  | .integerTooLong => Text.integerTooLongMessage

/-- The number that a key orders by, if it is one. -/
def keyNumber? : Value → Option Decimal.Exact
  | .bool b => some (.ofInt (if b then 1 else 0))
  | .int n => some (.ofInt n)
  | .float x => some (.ofFloat x)
  | _ => none

/-- Why a key cannot be put in order with another one, if it cannot. -/
def orderFault? (key other : Value) : Option Error :=
  match key, other with
  | .date _, .moment _ => some .datesAndMoments
  | .moment _, .date _ => some .datesAndMoments
  | .moment s, .moment t =>
    if s.offset.isSome == t.offset.isSome then none else some .offsetsPartlyKnown
  | _, _ =>
    if key.kindName == other.kindName || ((keyNumber? key).isSome && (keyNumber? other).isSome) then
      none
    else some (.keysNotOrdered key.kindName other.kindName)

/-- The lesser one of two keys. Of keys that are no numbers it is the first. -/
def lesserKey (best key : Value) : Value :=
  match keyNumber? key, keyNumber? best with
  | some a, some b => if a.lt b then key else best
  | _, _ => best

/-- The error about keys that are no fields. Texts are named in order; other keys are put in order,
if they have one, and the least is complained about. -/
def unknownKeysError (keys : List Value) : Error :=
  match Value.texts? keys, keys with
  | some names, _ => .unknownKeys (Text.sorted names)
  | none, [] => .unknownKeys []
  | none, first :: rest =>
    match rest.findSome? fun key => orderFault? key first with
    | some fault => fault
    | none => .keyNotText (rest.foldl lesserKey first).kindName

/-- The include directories that a value lists. A mapping lists its keys. -/
def includeDirsOf (v : Value) : Except Error (List String) :=
  let texts (items : List Value) : Except Error (List String) :=
    match Value.texts? items with
    | some dirs => .ok dirs
    | none => .error .includeDirsNotPaths
  match v with
  | .list items => texts items
  | .set members => texts members
  | .map entries => texts (entries.map (·.1))
  | .pairs [] => .ok []
  | .pairs _ => .error .includeDirsNotPaths
  | .octets [] => .ok []
  | .octets _ => .error .includeDirsNotPaths
  | .str _ => .error .includeDirsNotPaths
  | v => .error (.includeDirsNotCollection v.kindName)

/-- A truth value for a field. -/
def boolOf (field : Field) : Value → Except Error Bool
  | .bool b => .ok b
  | _ => .error (.notBoolean field)

/-- The text of any value for a path field, as far as its numbers can be written. -/
def pathOf (v : Value) : Except Error String :=
  if v.hasLongInteger then .error .integerTooLong else .ok v.text

/-- The environment with one field set. -/
def set (e : Environment) (field : Field) (v : Value) : Except Error Environment :=
  match field with
  | .sysroot => (pathOf v).map fun path => { e with sysroot := path }
  | .installedDir => (pathOf v).map fun path => { e with installedDir := path }
  | .resourceDir => (pathOf v).map fun path => { e with resourceDir := path }
  | .driverDir => (pathOf v).map fun path => { e with driverDir := path }
  | .cxxMode => (boolOf field v).map fun b => { e with cxxMode := b }
  | .buildId => (boolOf field v).map fun b => { e with buildId := b }
  | .includeDirs => (includeDirsOf v).map fun dirs => { e with includeDirs := dirs }

/-- The environment after one entry of a mapping. Null leaves the field as it is. -/
def setEntry (e : Environment) : Value × Value → Except Error Environment
  | (_, .null) => .ok e
  | (key, v) =>
    match Field.ofKey? key with
    | none => .ok e
    | some field => e.set field v

/-- The environment that a mapping describes. Unknown keys are complained about first, then values
in the order of the mapping. -/
def ofMapping (entries : List (Value × Value)) : Except Error Environment :=
  let unknown := (entries.map (·.1)).filter fun k => (Field.ofKey? k).isNone
  if unknown.isEmpty then entries.foldlM setEntry {}
  else .error (unknownKeysError unknown)

/-- The mapping that describes an environment. -/
def toMapping (e : Environment) : List (Value × Value) :=
  [ (.str Field.sysroot.key, .str e.sysroot),
    (.str Field.installedDir.key, .str e.installedDir),
    (.str Field.resourceDir.key, .str e.resourceDir),
    (.str Field.driverDir.key, .str e.driverDir),
    (.str Field.cxxMode.key, .bool e.cxxMode),
    (.str Field.buildId.key, .bool e.buildId),
    (.str Field.includeDirs.key, .list (e.includeDirs.map .str)) ]

/-- Values given on the command line, as far as they were given, and switches. -/
structure Overrides where
  sysroot : Option Value := none
  installedDir : Option Value := none
  resourceDir : Option Value := none
  driverDir : Option Value := none
  includeDirs : Option Value := none
  cxxMode : Bool := false
  buildId : Bool := false
  deriving Inhabited

/-- The entries that override a mapping. -/
def Overrides.entries (o : Overrides) : List (Value × Value) :=
  [(Field.sysroot, o.sysroot), (.installedDir, o.installedDir), (.resourceDir, o.resourceDir),
    (.driverDir, o.driverDir), (.includeDirs, o.includeDirs),
    (.cxxMode, if o.cxxMode then some (.bool true) else none),
    (.buildId, if o.buildId then some (.bool true) else none)].filterMap fun (field, v) =>
      v.map fun v => (.str field.key, v)

/-- The environment with overriding values. -/
def override (base : Environment) (o : Overrides) : Except Error Environment :=
  ofMapping (base.toMapping ++ o.entries)

end Environment

end TargetResolution
