import MachineCode.Reloc.Signed
import MachineCode.Riscv.Field

/-!
PC-relative fields. Branches and jumps hold the displacement in one instruction; a long
displacement is split over an AUIPC, which takes the upper part rounded to the nearest, and a
following instruction with the signed low twelve bits.
-/
namespace MachineCode.Riscv

inductive Reloc where
  /-- Conditional branch. -/
  | b
  /-- Jump and link. -/
  | j
  /-- Compressed conditional branch. -/
  | bc
  /-- Compressed jump. -/
  | jc
  /-- Upper part in an AUIPC. -/
  | hi20
  /-- Low part in the I-type instruction after the AUIPC. -/
  | lo12
  /-- Low part in the store after the AUIPC. -/
  | lo12s
  /-- An AUIPC and an I-type instruction. -/
  | split32
  /-- An AUIPC and a store. -/
  | split32s
  /-- A data field. -/
  | plain (size : UInt8)
  deriving DecidableEq, Repr

namespace Reloc

/-- The field kind of a number; a number without a field means a branch. -/
def ofCode (code : UInt8) : Reloc :=
  match code.toNat with
  | 1 => j
  | 2 => bc
  | 3 => jc
  | 4 => hi20
  | 5 => lo12
  | 6 => lo12s
  | 7 => split32
  | 8 => split32s
  | _ => b

/-- The number of a field kind. All data fields share the last one. -/
def code : Reloc → Nat
  | b => 0
  | j => 1
  | bc => 2
  | jc => 3
  | hi20 => 4
  | lo12 => 5
  | lo12s => 6
  | split32 => 7
  | split32s => 8
  | plain _ => 9

def isPlain : Reloc → Bool
  | plain _ => true
  | _ => false

def size : Reloc → Nat
  | bc | jc => 2
  | split32 | split32s => 8
  | plain n => n.toNat
  | _ => 4

def fieldOffset (r : Reloc) : Nat := r.size

/-- Bytes from the program counter to the anchor. A low part counts from the AUIPC before it. -/
def startOffset : Reloc → Nat
  | lo12 | lo12s => 8
  | r => r.size

/-- The rounded upper part of a displacement. -/
def upper (v : Int64) : Int64 := (v + 0x800) >>> 12

/-- The signed low part, what remains of a displacement beside its upper part. -/
def lower (v : Int64) : Int64 := v - (upper v <<< 12)

def writeUpper (w : Word) (v : Int64) : Except RelocFault Word :=
  if fitsSigned (upper v) 20 then
    .ok ((w &&& 0xfff#32) ||| (((upper v).toBitVec.setWidth 32 &&& 0xfffff#32) <<< 12))
  else .error .upperRange

def writeSplit (low : BitField) (buf : Bytes) (v : Int64) : Except RelocFault Bytes := do
  let first ← writeUpper (Bytes.toWord 32 buf) v
  return Bytes.ofWord first ++ Bytes.ofWord (low.patch (Bytes.toWord 32 (buf.drop 4)) (lower v))
    ++ buf.drop 8

def writeWord (buf : Bytes) (w : Word) : Bytes := Bytes.ofWord w ++ buf.drop 4

def writeHalf (buf : Bytes) (w : Word) : Bytes := Bytes.ofWord (w.setWidth 16) ++ buf.drop 2

def readWord (buf : Bytes) : Word := Bytes.toWord 32 buf

def readHalf (buf : Bytes) : Word := (Bytes.toWord 16 buf).setWidth 32

def write (r : Reloc) (buf : Bytes) (v : Int64) : Except RelocFault Bytes :=
  match r with
  | plain _ => writeSigned buf v
  | b => (Field.b.relocate (readWord buf) v).map (writeWord buf)
  | j => (Field.j.relocate (readWord buf) v).map (writeWord buf)
  | bc => (Field.cb.relocate (readHalf buf) v).map (writeHalf buf)
  | jc => (Field.cj.relocate (readHalf buf) v).map (writeHalf buf)
  | lo12 => .ok (writeWord buf (Field.i.patch (readWord buf) v))
  | lo12s => .ok (writeWord buf (Field.s.patch (readWord buf) v))
  | hi20 => (writeUpper (readWord buf) v).map (writeWord buf)
  | split32 => writeSplit Field.i buf v
  | split32s => writeSplit Field.s buf v

def read (r : Reloc) (buf : Bytes) : Int64 :=
  match r with
  | plain _ => readSigned buf
  | b => Field.b.gather (readWord buf)
  | j => Field.j.gather (readWord buf)
  | bc => Field.cb.gather (readHalf buf)
  | jc => Field.cj.gather (readHalf buf)
  | lo12 => Field.i.gather (readWord buf)
  | lo12s => Field.s.gather (readWord buf)
  | hi20 => Field.u.gather (readWord buf)
  | split32 => Field.u.gather (readWord buf) + Field.i.gather (readWord (buf.drop 4))
  | split32s => Field.u.gather (readWord buf) + Field.s.gather (readWord (buf.drop 4))

/-- The descriptor in one byte: the number of the kind, for data fields plus the size code. -/
def encode (r : Reloc) : Bytes :=
  match r with
  | plain n => [9 + (sizeCode? n.toNat).getD 0]
  | _ => [UInt8.ofNat r.code]

end Reloc

end MachineCode.Riscv
