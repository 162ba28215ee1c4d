import MachineCode.AArch64.Reloc
import MachineCode.Riscv.Reloc
import MachineCode.X86.Reloc

/-!
Relocations of all instruction sets under one type. Offsets count backwards from the anchor, the
end of the bytes that the reference belongs to.
-/
namespace MachineCode

inductive Relocation where
  | x86 (r : X86.Reloc)
  | aarch64 (r : AArch64.Reloc)
  | riscv (r : Riscv.Reloc)
  deriving DecidableEq, Repr

namespace Relocation

def size : Relocation → Nat
  | x86 r => r.size
  | aarch64 r => r.size
  | riscv r => r.size

def fieldOffset : Relocation → Nat
  | x86 r => r.fieldOffset
  | aarch64 r => r.fieldOffset
  | riscv r => r.fieldOffset

def startOffset : Relocation → Nat
  | x86 r => r.startOffset
  | aarch64 r => r.startOffset
  | riscv r => r.startOffset

def kind : Relocation → RelocKind
  | x86 r => r.kind
  | _ => .relative

def pageRelative : Relocation → Bool
  | aarch64 r => r.pageRelative
  | _ => false

def write : Relocation → Bytes → Int64 → Except RelocFault Bytes
  | x86 r => r.write
  | aarch64 r => r.write
  | riscv r => r.write

def read : Relocation → Bytes → Int64
  | x86 r => r.read
  | aarch64 r => r.read
  | riscv r => r.read

def encode : Relocation → Bytes
  | x86 r => r.encode
  | aarch64 r => r.encode
  | riscv r => r.encode

end Relocation

end MachineCode
