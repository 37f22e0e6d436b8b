import TargetResolution.Triple.Basic

/-!
Multiarch names. A sysroot and a resource directory lay out the directories of a target under one
canonical name, which need not be the triple that was typed.
-/

namespace TargetResolution

/-- The multiarch names of an architecture. -/
structure MultiarchEntry where
  /-- The name for LiteOS, if it has one of its own. -/
  liteos : Option String
  /-- The name for all other systems. -/
  ohos : String
  /-- Whether `musl` is appended for targets of the musl family. -/
  takesMusl : Bool
  deriving DecidableEq, Repr

/-- The names of an architecture, if the table has it. -/
def MultiarchEntry.of? : Architecture → Option MultiarchEntry
  | .arm | .thumb => some ⟨some "arm-liteos", "arm-linux-ohos", true⟩
  | .riscv32 => some ⟨some "riscv32-liteos", "riscv32-linux-ohos", false⟩
  | .x86 => some ⟨none, "i686-linux-ohos", false⟩
  | .x86_64 => some ⟨none, "x86_64-linux-ohos", false⟩
  | .aarch64 => some ⟨none, "aarch64-linux-ohos", true⟩
  | _ => none

/-- The name of an entry for a system and a family. -/
def MultiarchEntry.name (e : MultiarchEntry) (liteos musl : Bool) : String :=
  match liteos, e.liteos with
  | true, some name => name
  | _, _ => if e.takesMusl && musl then e.ohos ++ "musl" else e.ohos

/-- The multiarch name of a target: the triple as it was given if the table lacks the
architecture. -/
def Triple.multiarch (t : Triple) : String :=
  match MultiarchEntry.of? t.architecture with
  | none => t.text
  | some e => e.name t.isLiteos t.isMusl

end TargetResolution
