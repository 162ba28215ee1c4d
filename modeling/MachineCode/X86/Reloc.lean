import MachineCode.Reloc.Signed

/-!
Displacement and immediate fields of x86 instructions: little-endian numbers that end some bytes
before the end of the instruction, which is also where relative values count from.
-/
namespace MachineCode.X86

structure Reloc where
  /-- Bytes between the end of the field and the end of the instruction. -/
  trail : UInt8
  width : UInt8
  kind : RelocKind
  deriving DecidableEq, Repr

namespace Reloc

def size (r : Reloc) : Nat := r.width.toNat

def fieldOffset (r : Reloc) : Nat := r.trail.toNat + r.width.toNat

def startOffset (_ : Reloc) : Nat := 0

/-- Writes a value. An absolute address of four bytes may also be an unsigned one. -/
def write (r : Reloc) (buf : Bytes) (v : Int64) : Except RelocFault Bytes :=
  if r.kind = .absToRel && buf.length = 4 then
    if -0x80000000 ≤ v.toInt && v.toInt < 0x100000000 then .ok (Bytes.ofNat 4 v.toBitVec.toNat)
    else .error .addressDword
  else writeSigned buf v

def read (_ : Reloc) (buf : Bytes) : Int64 := readSigned buf

/-- The descriptor in three bytes: trail, size code and kind. -/
def encode (r : Reloc) : Bytes := [r.trail, (sizeCode? r.size).getD 0, r.kind.code]

end Reloc

end MachineCode.X86
