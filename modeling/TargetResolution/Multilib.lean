import TargetResolution.FloatAbi

/-!
Multilibs: variants of the runtime and library layout, each in a directory of its own, built for a
combination of CPU, FPU and float ABI. Exactly one variant of a catalog is selected.
-/

namespace TargetResolution

/-- One variant. Its name is also the name of its directory; the default has none. -/
structure Multilib where
  name : String := ""
  /-- The predicates that must all hold. -/
  required : List String := []
  /-- Of the variants whose requirements hold, higher ones win. -/
  priority : Int := 0
  deriving DecidableEq, Repr

namespace Multilib

/-- What is appended to directories. -/
def suffix (m : Multilib) : String := if m.name = "" then "" else "/" ++ m.name

/-- Whether the variant asks for nothing. -/
def isDefault (m : Multilib) : Bool := m.required.isEmpty

/-- Whether all requirements hold. -/
def fits (m : Multilib) (flags : FlagSet) : Bool := m.required.all flags.holds

/-- The name that is shown. -/
def displayName (m : Multilib) : String := if m.name = "" then "default" else m.name

/-- The variant without name and requirements. -/
def plain : Multilib := {}

/-- The catalog of the OHOS toolchain. -/
def catalog : List Multilib :=
  [ plain,
    ⟨"a7_soft", ["mcpu=cortex-a7", "mfloat-abi=soft"], 1⟩,
    ⟨"a7_softfp_neon-vfpv4", ["mcpu=cortex-a7", "mfloat-abi=softfp", "mfpu=neon-vfpv4"], 1⟩,
    ⟨"a7_hard_neon-vfpv4", ["mcpu=cortex-a7", "mfloat-abi=hard", "mfpu=neon-vfpv4"], 1⟩ ]

/-- Whether a variant wins over one that stands before it: by a higher priority, or as a specific
one over a default of the same priority. -/
def beats (later earlier : Multilib) : Bool :=
  decide (earlier.priority < later.priority)
    || (later.priority == earlier.priority && !later.isDefault && earlier.isDefault)

/-- The variants whose requirements hold, in the order of the catalog. -/
def compatible (variants : List Multilib) (flags : FlagSet) : List Multilib :=
  variants.filter (·.fits flags)

/-- The selected variant: the first one that no other beats, or the plain one if none fits. -/
def select (variants : List Multilib) (flags : FlagSet) : Multilib :=
  match compatible variants flags with
  | [] => plain
  | first :: rest => rest.foldl (fun best m => if m.beats best then m else best) first

end Multilib

end TargetResolution
