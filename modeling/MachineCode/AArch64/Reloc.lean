import MachineCode.BitField
import MachineCode.Reloc.Signed

/-!
PC-relative fields of instruction words, and plain data fields. The program counter is the address
of the word or of the first data byte.
-/
namespace MachineCode.AArch64

inductive Reloc where
  /-- Word offset of B and BL. -/
  | branch
  /-- Word offset of conditional branches and literal loads. -/
  | condBranch
  /-- Byte offset of ADR. -/
  | adr
  /-- Page offset of ADRP. -/
  | adrp
  /-- Word offset of TBZ and TBNZ. -/
  | testBranch
  | plain (size : UInt8)
  deriving DecidableEq, Repr

namespace Reloc

/-- The field kind of a number; a number without a field means a branch. -/
def ofCode (code : UInt8) : Reloc :=
  match code.toNat with
  | 1 => condBranch
  | 2 => adr
  | 3 => adrp
  | 4 => testBranch
  | _ => branch

/-- The number of a field kind. All data fields share the last one. -/
def code : Reloc → Nat
  | branch => 0
  | condBranch => 1
  | adr => 2
  | adrp => 3
  | testBranch => 4
  | plain _ => 5

def isPlain : Reloc → Bool
  | plain _ => true
  | _ => false

def field? : Reloc → Option BitField
  | branch => some { pieces := [⟨2, 26, 0⟩], bits := 28, signed := true, scale := 2 }
  | condBranch => some { pieces := [⟨2, 19, 5⟩], bits := 21, signed := true, scale := 2 }
  | adr => some { pieces := [⟨0, 2, 29⟩, ⟨2, 19, 5⟩], bits := 21, signed := true }
  | adrp => some { pieces := [⟨12, 2, 29⟩, ⟨14, 19, 5⟩], bits := 33, signed := true, scale := 12 }
  | testBranch => some { pieces := [⟨2, 14, 5⟩], bits := 16, signed := true, scale := 2 }
  | plain _ => none

def size : Reloc → Nat
  | plain n => n.toNat
  | _ => 4

def fieldOffset (r : Reloc) : Nat := r.size

def startOffset (r : Reloc) : Nat := r.size

def pageRelative (r : Reloc) : Bool := r = adrp

def write (r : Reloc) (buf : Bytes) (v : Int64) : Except RelocFault Bytes :=
  match r.field? with
  | none => writeSigned buf v
  | some f => (f.relocate (Bytes.toWord 32 buf) v).map (Bytes.ofWord · ++ buf.drop 4)

def read (r : Reloc) (buf : Bytes) : Int64 :=
  match r.field? with
  | none => readSigned buf
  | some f => f.gather (Bytes.toWord 32 buf)

/-- The descriptor in one byte: the number of the kind, for data fields plus the size code. -/
def encode (r : Reloc) : Bytes :=
  match r with
  | plain n => [5 + (sizeCode? n.toNat).getD 0]
  | _ => [UInt8.ofNat r.code]

end Reloc

end MachineCode.AArch64
