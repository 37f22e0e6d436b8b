import TargetResolution.Text.CharClass
import TargetResolution.Triple.Architecture
import TargetResolution.Triple.Version

/-!
Target triples. A triple names the architecture, the vendor, the operating system and the
environment of a target, with the vendor and the environment left out at will. The environment also
tells the C library family and may end in a version.
-/

namespace TargetResolution

open Text

/-- C library families; the family decides how the dynamic loader is named. -/
inductive LibcFamily where
  | bionic
  | musl
  deriving DecidableEq, Repr

namespace LibcFamily

/-- The name of a family. -/
def name : LibcFamily → String
  | .bionic => "bionic"
  | .musl => "musl"

/-- The family of a name. -/
def ofName? (name : String) : Option LibcFamily := [bionic, musl].find? fun f => f.name == name

/-- The family of a target, from its operating system and the name of its environment. -/
def ofTarget (system environment : String) : LibcFamily :=
  if system = "liteos" then .musl
  else if "ohosmusl".toList.isPrefixOf environment.toList
      || "musl".toList.isPrefixOf environment.toList then .musl
  else if environment = "ohos" then .bionic
  else .musl

end LibcFamily

/-- A parsed target triple. -/
structure Triple where
  /-- The triple as it was given. -/
  text : String
  architecture : Architecture
  /-- The architecture as it was spelled. -/
  architectureName : String
  vendor : String
  /-- The operating system in small letters, without a version. -/
  system : String
  /-- The name of the environment, without its version. -/
  environment : String
  version : Version
  family : LibcFamily
  /-- The operating system as it was written. -/
  systemPart : String := ""
  /-- The environment as it was written, version included. -/
  environmentPart : String := ""
  deriving DecidableEq, Repr

namespace Triple

/-- Why a text is no triple. -/
inductive Fault where
  | empty
  | noSystem
  | missingSystem
  deriving DecidableEq, Repr

/-- The wording of a fault. -/
def Fault.reason : Fault → String
  | .empty => "empty triple"
  | .noSystem => "expected at least 'arch-os'"
  | .missingSystem => "missing operating system"

/-- The wording for a text that is no triple. -/
def invalidMessage (text reason : String) : String :=
  "Invalid target triple: '" ++ text ++ "'" ++ (if reason = "" then "" else " (" ++ reason ++ ")")

/-- Why a target cannot be resolved. -/
inductive Error where
  | invalid (text : String) (fault : Fault)
  | versionTooLong (digits : Nat)
  deriving DecidableEq, Repr

/-- The wording of an error. -/
def Error.message : Error → String
  | .invalid text fault => invalidMessage text fault.reason
  | .versionTooLong digits => tooManyDigitsMessage digits

/-- The canonical spelling: architecture, vendor, system and, if there is one, environment. -/
def normalized (t : Triple) : String :=
  joinWith '-' ([t.architectureName, t.vendor, if t.systemPart = "" then t.system else t.systemPart]
    ++ if t.environmentPart = "" then [] else [t.environmentPart])

/-- Whether the operating system is LiteOS. -/
def isLiteos (t : Triple) : Bool := t.system == "liteos"

/-- Whether the C library is of the musl family. -/
def isMusl (t : Triple) : Bool := t.family == .musl

/-- Whether the C library is of the bionic family. -/
def isBionic (t : Triple) : Bool := t.family == .bionic

/-- The name of an operating system in small letters. Digits and dots behind letters are a version
and left out. -/
def systemName (part : String) : String :=
  let cs := withoutFinalBreak part.toList
  let letters := cs.takeWhile isNameChar
  let rest := cs.dropWhile isNameChar
  if !letters.isEmpty && rest.all (fun c => isDecimalDigit c || c == '.') then
    lower (String.ofList letters)
  else lower part

/-- The systems that are recognised in the place of a vendor. -/
def knownSystems : List String := ["linux", "liteos", "none"]

/-- Vendor, system and environment as the parts behind the architecture write them. -/
def arrange : List String → String × String × String
  | [] => ("unknown", "", "")
  | [system] => ("unknown", system, "")
  | [a, b] => if systemName a ∈ knownSystems then ("unknown", a, b) else (a, b, "")
  | vendor :: system :: environment => (vendor, system, joinWith '-' environment)

/-- The triple of a text: `arch-os`, `arch-os-env`, `arch-vendor-os` or `arch-vendor-os-env`. -/
def parse (text : String) : Except Error Triple :=
  let stripped := strip text
  if stripped = "" then .error (.invalid text .empty)
  else
    match splitOn '-' stripped with
    | [] | [_] => .error (.invalid text .noSystem)
    | architectureName :: parts =>
      if architectureName = "" then .error (.invalid text .noSystem)
      else
        let (vendor, systemPart, environmentPart) := arrange parts
        if systemPart = "" then .error (.invalid text .missingSystem)
        else
          let (name, version) := splitVersion environmentPart.toList
          match if version.isEmpty then .ok Version.zero else Version.ofDotted version with
          | .error digits => .error (.versionTooLong digits)
          | .ok version =>
            let system := systemName systemPart
            let environment := String.ofList name
            .ok {
              text
              architecture := Architecture.parse architectureName
              architectureName
              vendor := if vendor = "" then "unknown" else vendor
              system
              environment
              version
              family := LibcFamily.ofTarget system environment
              systemPart
              environmentPart
            }

end Triple

end TargetResolution
