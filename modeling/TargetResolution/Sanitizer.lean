import TargetResolution.Text.Lists
import TargetResolution.Triple.Architecture

/-!
Sanitizers and sets of them. A set is a word of 51 bits, one for each sanitizer, so that the sets
that targets support can be combined and compared as words. Groups name common sets; they never
occur among the reported names.
-/

namespace TargetResolution

open Text

/-- The sanitizers: the ones with a runtime, the checks for undefined behaviour, the checks of
control flow integrity, and the checks outside the undefined group. -/
inductive Sanitizer where
  | address | pointerCompare | pointerSubtract | hwaddress | kernelAddress | memory | thread | leak
  | fuzzer | fuzzerNoLink | safeStack | shadowCallStack | scudo | memtag | dataflow
  | alignment | arrayBounds | boolRange | builtin | enumRange | floatCastOverflow | functionType
  | integerDivideByZero | nonnullAttribute | nullPointer | objectSize | pointerOverflow
  | returnPath | returnsNonnullAttribute | shiftBase | shiftExponent | signedIntegerOverflow
  | unreachable | vlaBound | vptr
  | cfiCastStrict | cfiDerivedCast | cfiIcall | cfiMfcall | cfiUnrelatedCast | cfiNvcall | cfiVcall
  | floatDivideByZero | unsignedIntegerOverflow | implicitUnsignedIntegerTruncation
  | implicitSignedIntegerTruncation | implicitIntegerSignChange | nullabilityArg
  | nullabilityAssign | nullabilityReturn | localBounds
  deriving DecidableEq, Repr

namespace Sanitizer

/-- All sanitizers, in the order of their bits. -/
def all : List Sanitizer :=
  [
    .address, .pointerCompare, .pointerSubtract, .hwaddress, .kernelAddress, .memory, .thread,
    .leak, .fuzzer, .fuzzerNoLink, .safeStack, .shadowCallStack, .scudo, .memtag, .dataflow,
    .alignment, .arrayBounds, .boolRange, .builtin, .enumRange, .floatCastOverflow, .functionType,
    .integerDivideByZero, .nonnullAttribute, .nullPointer, .objectSize, .pointerOverflow,
    .returnPath, .returnsNonnullAttribute, .shiftBase, .shiftExponent, .signedIntegerOverflow,
    .unreachable, .vlaBound, .vptr, .cfiCastStrict, .cfiDerivedCast, .cfiIcall, .cfiMfcall,
    .cfiUnrelatedCast, .cfiNvcall, .cfiVcall, .floatDivideByZero, .unsignedIntegerOverflow,
    .implicitUnsignedIntegerTruncation, .implicitSignedIntegerTruncation,
    .implicitIntegerSignChange, .nullabilityArg, .nullabilityAssign, .nullabilityReturn,
    .localBounds]

/-- The spelling of a sanitizer in options. -/
def spelling : Sanitizer → String
  | .address => "address"
  | .pointerCompare => "pointer-compare"
  | .pointerSubtract => "pointer-subtract"
  | .hwaddress => "hwaddress"
  | .kernelAddress => "kernel-address"
  | .memory => "memory"
  | .thread => "thread"
  | .leak => "leak"
  | .fuzzer => "fuzzer"
  | .fuzzerNoLink => "fuzzer-no-link"
  | .safeStack => "safe-stack"
  | .shadowCallStack => "shadow-call-stack"
  | .scudo => "scudo"
  | .memtag => "memtag"
  | .dataflow => "dataflow"
  | .alignment => "alignment"
  | .arrayBounds => "array-bounds"
  | .boolRange => "bool"
  | .builtin => "builtin"
  | .enumRange => "enum"
  | .floatCastOverflow => "float-cast-overflow"
  | .functionType => "function"
  | .integerDivideByZero => "integer-divide-by-zero"
  | .nonnullAttribute => "nonnull-attribute"
  | .nullPointer => "null"
  | .objectSize => "object-size"
  | .pointerOverflow => "pointer-overflow"
  | .returnPath => "return"
  | .returnsNonnullAttribute => "returns-nonnull-attribute"
  | .shiftBase => "shift-base"
  | .shiftExponent => "shift-exponent"
  | .signedIntegerOverflow => "signed-integer-overflow"
  | .unreachable => "unreachable"
  | .vlaBound => "vla-bound"
  | .vptr => "vptr"
  | .cfiCastStrict => "cfi-cast-strict"
  | .cfiDerivedCast => "cfi-derived-cast"
  | .cfiIcall => "cfi-icall"
  | .cfiMfcall => "cfi-mfcall"
  | .cfiUnrelatedCast => "cfi-unrelated-cast"
  | .cfiNvcall => "cfi-nvcall"
  | .cfiVcall => "cfi-vcall"
  | .floatDivideByZero => "float-divide-by-zero"
  | .unsignedIntegerOverflow => "unsigned-integer-overflow"
  | .implicitUnsignedIntegerTruncation => "implicit-unsigned-integer-truncation"
  | .implicitSignedIntegerTruncation => "implicit-signed-integer-truncation"
  | .implicitIntegerSignChange => "implicit-integer-sign-change"
  | .nullabilityArg => "nullability-arg"
  | .nullabilityAssign => "nullability-assign"
  | .nullabilityReturn => "nullability-return"
  | .localBounds => "local-bounds"

/-- The bit of a sanitizer. -/
def index (s : Sanitizer) : Nat := all.idxOf s

/-- The groups. -/
inductive Group where
  | shift
  | undefined
  | cfi
  | implicitConversion
  | nullability
  deriving DecidableEq, Repr

namespace Group

/-- All groups. -/
def all : List Group := [.shift, .undefined, .cfi, .implicitConversion, .nullability]

/-- The spelling of a group in options. -/
def spelling : Group → String
  | .shift => "shift"
  | .undefined => "undefined"
  | .cfi => "cfi"
  | .implicitConversion => "implicit-conversion"
  | .nullability => "nullability"

/-- The sanitizers of a group. -/
def members : Group → List Sanitizer
  | .shift =>
    [.shiftBase, .shiftExponent]
  | .undefined =>
    [.alignment, .arrayBounds, .boolRange, .builtin, .enumRange, .floatCastOverflow,
      .functionType, .integerDivideByZero, .nonnullAttribute, .nullPointer, .objectSize,
      .pointerOverflow, .returnPath, .returnsNonnullAttribute, .shiftBase, .shiftExponent,
      .signedIntegerOverflow, .unreachable, .vlaBound, .vptr]
  | .cfi =>
    [.cfiDerivedCast, .cfiIcall, .cfiMfcall, .cfiUnrelatedCast, .cfiNvcall, .cfiVcall]
  | .implicitConversion =>
    [.implicitUnsignedIntegerTruncation, .implicitSignedIntegerTruncation,
      .implicitIntegerSignChange]
  | .nullability =>
    [.nullabilityArg, .nullabilityAssign, .nullabilityReturn]

end Group

/-- A spelling in capitals, with underscores between its words. -/
def capitals (spelling : String) : String :=
  spelling.map fun c => if c = '-' then '_' else c.toUpper

end Sanitizer

/-- A set of sanitizers. -/
structure SanitizerSet where
  bits : BitVec 51
  deriving DecidableEq, Repr

namespace SanitizerSet

/-- The empty set. -/
def empty : SanitizerSet := ⟨0⟩

/-- The set of one sanitizer. -/
def single (s : Sanitizer) : SanitizerSet := ⟨1#51 <<< s.index⟩

/-- The sanitizers in one of two sets. -/
def union (a b : SanitizerSet) : SanitizerSet := ⟨a.bits ||| b.bits⟩

/-- The sanitizers in both of two sets. -/
def inter (a b : SanitizerSet) : SanitizerSet := ⟨a.bits &&& b.bits⟩

/-- The sanitizers in the first of two sets and not in the second. -/
def diff (a b : SanitizerSet) : SanitizerSet := ⟨a.bits &&& ~~~b.bits⟩

/-- The set of some sanitizers. -/
def ofList (members : List Sanitizer) : SanitizerSet :=
  members.foldl (fun a s => a.union (single s)) empty

/-- Whether a sanitizer is in a set. -/
def has (a : SanitizerSet) (s : Sanitizer) : Bool := a.bits.getLsbD s.index

/-- Whether every sanitizer of the second set is in the first. -/
def includes (a b : SanitizerSet) : Bool := a.bits &&& b.bits == b.bits

/-- The sanitizers of a set, in the order of their bits. -/
def toList (a : SanitizerSet) : List Sanitizer := Sanitizer.all.filter a.has

/-- The spellings of the sanitizers of a set, in ascending order. -/
def names (a : SanitizerSet) : List String := sorted (a.toList.map Sanitizer.spelling)

/-- The set of a group. -/
def ofGroup (g : Sanitizer.Group) : SanitizerSet := ofList g.members

/-- The name of a set as one: a sanitizer, a group, or else the sanitizers in the order of their
bits. The empty set has none. -/
def name? (a : SanitizerSet) : Option String :=
  match Sanitizer.Group.all.find? fun g => ofGroup g == a with
  | some g => some g.spelling
  | none => if a = empty then none else some ("|".intercalate (a.toList.map Sanitizer.spelling))

/-- The set of a name in capitals, a sanitizer or a group. -/
def ofName? (name : String) : Option SanitizerSet :=
  match Sanitizer.all.find? fun s => Sanitizer.capitals s.spelling == name with
  | some s => some (single s)
  | none =>
    (Sanitizer.Group.all.find? fun g => Sanitizer.capitals g.spelling == name).map ofGroup

/-- The sanitizers that every target supports. -/
def generic : SanitizerSet :=
  ((ofGroup .undefined).diff (ofList [.vptr, .functionType]))
    |>.union ((ofGroup .cfi).diff (single .cfiIcall))
    |>.union (ofList [.cfiCastStrict, .floatDivideByZero, .unsignedIntegerOverflow])
    |>.union (ofGroup .implicitConversion)
    |>.union (ofGroup .nullability)
    |>.union (single .localBounds)

/-- The sanitizers that an architecture adds. -/
def ofArchitecture (a : Architecture) : SanitizerSet :=
  ofList ((if a ∈ [.x86, .x86_64, .arm, .aarch64, .aarch64be] then [.cfiIcall] else [])
    ++ (if a ∈ [.x86_64, .aarch64, .aarch64be] then [.shadowCallStack] else [])
    ++ (if a ∈ [.aarch64, .aarch64be] then [.memtag] else []))

/-- The sanitizers that OHOS adds. -/
def ofOhos : SanitizerSet :=
  ofList [.address, .pointerCompare, .pointerSubtract, .fuzzer, .fuzzerNoLink, .memory, .vptr,
    .safeStack, .scudo]

/-- The sanitizers that a target on an architecture supports, OHOS apart. -/
def genericFor (a : Architecture) : SanitizerSet := generic.union (ofArchitecture a)

/-- The sanitizers that an OHOS target on an architecture supports. -/
def supported (a : Architecture) : SanitizerSet := (genericFor a).union ofOhos

end SanitizerSet

end TargetResolution
