import MachineCode.Reloc
import MachineCode.Encoded

/-!
References that an assembler has recorded. The value that goes into the field of a reference
follows from the base address of the code, the target and the addend, all modulo `2 ^ 64`.
-/
namespace MachineCode

abbrev Use := Ref (Option Relocation)

abbrev Code := Encoded (Option Relocation)

structure Reference where
  /-- The offset from which the offsets of the relocation count back. -/
  anchor : Nat
  target : Target
  addend : Int64
  rel : Relocation
  /-- The offset of the target, once it is known. -/
  bound : Option Nat := none
  deriving DecidableEq, Repr

namespace Reference

def field (r : Reference) : Nat := r.anchor - r.rel.fieldOffset

/-- The offset after the last byte of the field. -/
def fieldEnd (r : Reference) : Nat := r.field + r.rel.size

def fieldStart (r : Reference) : Int := r.anchor - r.rel.fieldOffset

def fieldWithin (r : Reference) (lo : Nat) : Bool :=
  lo + r.rel.fieldOffset ≤ r.anchor && r.rel.size ≤ r.rel.fieldOffset

/-- Whether the value changes when the code moves to another base address. -/
def baseDependent (r : Reference) : Bool :=
  r.rel.pageRelative || (r.target.isExternal != (r.rel.kind == .absToRel))

def pc (r : Reference) (base : UInt64) : Int64 :=
  base.toInt64 + (Int64.ofNat r.anchor - Int64.ofNat r.rel.startOffset)

def destination (r : Reference) (base : UInt64) : Int64 :=
  match r.target with
  | .external a => a.toInt64 + r.addend
  | _ => base.toInt64 + Int64.ofNat (r.bound.getD 0) + r.addend

/-- The start of the page of an address. -/
def page (a : Int64) : Int64 := a &&& ~~~4095

def value (r : Reference) (base : UInt64) : Int64 :=
  if r.rel.kind = .absToRel then r.destination base
  else if r.rel.pageRelative then page (r.destination base) - page (r.pc base)
  else r.destination base - r.pc base

end Reference

structure Patch where
  offset : Nat
  data : Bytes
  deriving DecidableEq, Repr

namespace Patch

/-- The patch that resolves a reference in code that starts at offset `lo` and runs at `base`;
what it keeps of the field is read from the code. -/
def ofReference (code : Bytes) (lo : Nat) (base : UInt64) (r : Reference) :
    Except RelocFault Patch :=
  (r.rel.write (code.slice (r.field - lo) r.rel.size) (r.value base)).map fun data => ⟨r.field, data⟩

def applyAll (patches : List Patch) (code : Bytes) (lo : Nat) : Bytes :=
  patches.foldl (fun code p => code.overwrite (p.offset - lo) p.data) code

end Patch

end MachineCode
