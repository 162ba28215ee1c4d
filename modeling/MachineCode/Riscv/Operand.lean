import MachineCode.Target
import MachineCode.Riscv.Register

/-!
Operands of RISC-V instructions, and how they are written in messages.
-/
namespace MachineCode.Riscv

inductive Operand where
  | reg (r : Register)
  | imm (v : Int64)
  /-- A memory place at a distance from a base register. -/
  | mem (base : Register) (offset : Int64)
  | label (l : LabelRef)
  /-- A memory place whose distance is the low part of a label's displacement. -/
  | labelMem (base : Register) (l : LabelRef)
  | rounding (mode : UInt8)
  | fence (set : UInt8)
  | csr (number : UInt16)
  /-- The registers of a push or pop: the return address, then the first and the last of a range
  of saved registers. -/
  | regList (rs : List Register)
  deriving DecidableEq, Repr

def dynamicRounding : UInt8 := 7

def isRoundingMode (m : UInt8) : Bool := m.toNat ≤ 4 || m == dynamicRounding

def roundingName (m : UInt8) : String :=
  match m.toNat with
  | 0 => "rne"
  | 1 => "rtz"
  | 2 => "rdn"
  | 3 => "rup"
  | 4 => "rmm"
  | 7 => "dyn"
  | n => "RoundingMode(" ++ toString n ++ ")"

/-- The letters of a fence set: device input and output, memory reads and writes. -/
def fenceName (s : UInt8) : String :=
  String.ofList (([('i', 3), ('o', 2), ('r', 1), ('w', 0)].filter fun (_, bit) =>
    s.toBitVec.getLsbD bit).map (·.1))

def memName (base : Register) (offset : Int64) : String :=
  (if offset == 0 then "" else toString offset.toInt) ++ "(" ++ base.name ++ ")"

def regListName : List Register → String
  | [] => "\x7b\x7d"
  | [a] => "\x7b" ++ a.name ++ "\x7d"
  | [a, b] => "\x7b" ++ a.name ++ ", " ++ b.name ++ "\x7d"
  | a :: b :: c :: rest =>
    "\x7b" ++ a.name ++ ", " ++ b.name ++ "-" ++ ((c :: rest).getLastD c).name ++ "\x7d"

def Operand.name : Operand → String
  | reg r => r.name
  | mem base offset => memName base offset
  | rounding m => roundingName m
  | fence s => fenceName s
  | regList rs => regListName rs
  | imm _ | label _ | labelMem _ _ | csr _ => ""

end MachineCode.Riscv
