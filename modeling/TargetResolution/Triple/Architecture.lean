import TargetResolution.Text.Case

/-!
Architectures. Targets spell one architecture in many ways (`armv7a`, `ARM`, `thumbv7`); `parse`
gives the canonical one.
-/

namespace TargetResolution

/-- Canonical architectures. A name outside the known ones can only be given, never parsed. -/
inductive Architecture where
  | arm | armeb | thumb | thumbeb
  | aarch64 | aarch64be
  | x86 | x86_64
  | riscv32 | riscv64
  | mips | mipsel | mips64 | mips64el
  | unknown
  | other (name : String)
  deriving DecidableEq, Repr

namespace Architecture

/-- The name of an architecture. -/
def name : Architecture → String
  | .arm => "arm"
  | .armeb => "armeb"
  | .thumb => "thumb"
  | .thumbeb => "thumbeb"
  | .aarch64 => "aarch64"
  | .aarch64be => "aarch64_be"
  | .x86 => "x86"
  | .x86_64 => "x86_64"
  | .riscv32 => "riscv32"
  | .riscv64 => "riscv64"
  | .mips => "mips"
  | .mipsel => "mipsel"
  | .mips64 => "mips64"
  | .mips64el => "mips64el"
  | .unknown => "unknown"
  | .other name => name

/-- The architectures with a name of their own. -/
def known : List Architecture :=
  [.arm, .armeb, .thumb, .thumbeb, .aarch64, .aarch64be, .x86, .x86_64, .riscv32, .riscv64, .mips,
    .mipsel, .mips64, .mips64el, .unknown]

/-- The architecture of exactly this name. -/
def ofName (name : String) : Architecture :=
  (known.find? fun a => a.name == name).getD (.other name)

/-- Whether a text ends in the mark of the big-endian variants. -/
def endsInEb (cs : List Char) : Bool := ['e', 'b'].isSuffixOf cs

/-- The canonical architecture of a spelling in small letters. The 64-bit spellings are looked at
before everything that starts with `arm`. -/
def ofSmall (name : String) : Architecture :=
  if name = "aarch64" ∨ name = "arm64" then .aarch64
  else if name = "aarch64_be" then .aarch64be
  else if "thumb".toList.isPrefixOf name.toList then
    if endsInEb name.toList then .thumbeb else .thumb
  else if "arm".toList.isPrefixOf name.toList then
    if endsInEb name.toList then .armeb else .arm
  else if name = "x86_64" ∨ name = "amd64" then .x86_64
  else if name ∈ ["x86", "i386", "i486", "i586", "i686"] then .x86
  else if name = "riscv32" then .riscv32
  else if name = "riscv64" then .riscv64
  else if name = "mips" then .mips
  else if name = "mipsel" then .mipsel
  else if name = "mips64" then .mips64
  else if name = "mips64el" then .mips64el
  else .unknown

/-- The canonical architecture of a spelling. Capitals do not matter. -/
def parse (spelling : String) : Architecture := ofSmall (Text.lower spelling)

/-- Whether this is a 32-bit ARM flavour, Thumb and big-endian among them. -/
def isArm : Architecture → Bool
  | .arm | .armeb | .thumb | .thumbeb => true
  | _ => false

/-- Whether addresses have 64 bits. -/
def is64Bit : Architecture → Bool
  | .aarch64 | .aarch64be | .x86_64 | .riscv64 | .mips64 | .mips64el => true
  | _ => false

end Architecture

end TargetResolution
