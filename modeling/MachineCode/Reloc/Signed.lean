import MachineCode.Bytes
import MachineCode.Text.Messages

/-!
How the value of a reference is computed from the addresses of its target and of the code, and how
it is written into plain fields. A plain field is a little-endian two's complement number of one, two, four or eight bytes. A value
is written only if it lies in the signed range of the field, so reading gives it back.
-/
namespace MachineCode

inductive RelocKind where
  /-- Target minus program counter. -/
  | relative
  /-- The absolute address of a place in the code. -/
  | absToRel
  /-- A displacement to an absolute address. -/
  | relToAbs
  | other (code : UInt8)
  deriving DecidableEq, Repr

namespace RelocKind

def ofCode (code : UInt8) : RelocKind :=
  match code.toNat with
  | 0 => relative
  | 1 => absToRel
  | 2 => relToAbs
  | _ => other code

def code : RelocKind → UInt8
  | relative => 0
  | absToRel => 1
  | relToAbs => 2
  | other c => c

def name : RelocKind → String
  | relative => "relative"
  | absToRel => "abs-to-rel"
  | relToAbs => "rel-to-abs"
  | other _ => "unknown"

end RelocKind

def fitsSigned (v : Int64) (bits : Nat) : Bool :=
  let half : Nat := 1 <<< (bits - 1)
  64 ≤ bits || (bits != 0 && -(half : Int) ≤ v.toInt && v.toInt < half)

def fitsUnsigned (v : Int64) (bits : Nat) : Bool :=
  0 ≤ v.toInt && (63 ≤ bits || v.toInt < (1 <<< bits : Nat))

inductive RelocFault where
  | signedByte
  | signedWord
  | signedDword
  | fieldSize
  | addressDword
  | misaligned
  | range
  | upperRange
  | stated (reason : String)
  deriving DecidableEq, Repr

def RelocFault.reason : RelocFault → String
  | signedByte => "does not fit a signed byte"
  | signedWord => "does not fit a signed word"
  | signedDword => "does not fit a signed dword"
  | fieldSize => "unsupported field size"
  | addressDword => "address does not fit a dword"
  | misaligned => "misaligned target"
  | range => "target out of range"
  | upperRange => "target out of range of auipc"
  | stated reason => reason

def RelocFault.message (f : RelocFault) (v : Int64) : String :=
  "impossible relocation: " ++ f.reason ++ " (value " ++ Text.signedHex v.toInt ++ ")"

def sizeCode? (size : Int) : Option UInt8 :=
  if size = 1 then some 0
  else if size = 2 then some 1
  else if size = 4 then some 2
  else if size = 8 then some 3
  else none

/-- The field size of a code; only its two low bits count. -/
def sizeOfCode (code : UInt8) : Nat := 1 <<< (code.toNat % 4)

def writeSigned (field : Bytes) (v : Int64) : Except RelocFault Bytes :=
  match field.length with
  | 1 => if fitsSigned v 8 then .ok (Bytes.ofNat 1 v.toBitVec.toNat) else .error .signedByte
  | 2 => if fitsSigned v 16 then .ok (Bytes.ofNat 2 v.toBitVec.toNat) else .error .signedWord
  | 4 => if fitsSigned v 32 then .ok (Bytes.ofNat 4 v.toBitVec.toNat) else .error .signedDword
  | 8 => .ok (Bytes.ofNat 8 v.toBitVec.toNat)
  | _ => .error .fieldSize

/-- The number in a field; zero for a field of no supported size. -/
def readSigned (field : Bytes) : Int64 :=
  match field.length with
  | 1 => Int64.ofInt (Bytes.toWord 8 field).toInt
  | 2 => Int64.ofInt (Bytes.toWord 16 field).toInt
  | 4 => Int64.ofInt (Bytes.toWord 32 field).toInt
  | 8 => Int64.ofInt (Bytes.toWord 64 field).toInt
  | _ => 0

end MachineCode
