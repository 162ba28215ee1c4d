/-!
Instruction sets, the byte that fills alignment gaps between their instructions, and the two
processor modes of x86.
-/
namespace MachineCode

inductive Arch where
  | x86
  | x64
  | aarch64
  | riscv32
  | riscv64
  deriving DecidableEq, Repr

namespace Arch

/-- Instruction sets are numbered from one. -/
def ofCode? (code : UInt8) : Option Arch :=
  match code.toNat with
  | 1 => some x86
  | 2 => some x64
  | 3 => some aarch64
  | 4 => some riscv32
  | 5 => some riscv64
  | _ => none

def name : Arch → String
  | x86 => "x86"
  | x64 => "x64"
  | aarch64 => "aarch64"
  | riscv32 => "riscv32"
  | riscv64 => "riscv64"

/-- The name of a numbered instruction set; an unknown number stands for itself. -/
def nameOfCode (code : UInt8) : String :=
  match ofCode? code with
  | some a => a.name
  | none => "Arch(" ++ toString code.toNat ++ ")"

/-- A one-byte no-operation where there is one, zero otherwise. -/
def alignFill : Arch → UInt8
  | x86 | x64 => 0x90
  | _ => 0

def alignFillOfCode (code : UInt8) : UInt8 :=
  match ofCode? code with
  | some a => a.alignFill
  | none => 0

end Arch

inductive X86.Mode where
  | x64
  /-- The 32-bit protected mode. -/
  | x86
  deriving DecidableEq, Repr

namespace X86.Mode

/-- One is the 32-bit mode, any other number the 64-bit mode. -/
def ofCode (code : UInt8) : Mode := if code = 1 then x86 else x64

def name : Mode → String
  | x64 => "x64"
  | x86 => "x86"

def arch : Mode → Arch
  | x64 => .x64
  | x86 => .x86

def addrSize : Mode → Nat
  | x64 => 8
  | x86 => 4

def hasAddrSize : Mode → Nat → Bool
  | x64, n => n == 4 || n == 8
  | x86, n => n == 2 || n == 4

end X86.Mode

end MachineCode
