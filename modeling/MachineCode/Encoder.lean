import MachineCode.Assembler
import MachineCode.AArch64.Encoder
import MachineCode.Riscv.Encoder
import MachineCode.X86.Encoder

/-!
Encoders of all instruction sets under one type, with operands of all of them. An encoder takes
the operands of its own instruction set and names the type of any other value.
-/
namespace MachineCode

inductive Operand where
  | x86 (a : X86.Operand)
  | aarch64 (a : AArch64.Operand)
  | riscv (a : Riscv.Operand)
  | foreign (type : String)
  deriving DecidableEq, Repr

namespace Operand

/-- The type of an x86 operand. Sized numbers have a type for each size. -/
def x86Type : X86.Operand → String
  | .reg _ => "x64.Reg"
  | .imm i => "x64.Imm" ++ if i.width = 0 then "" else toString (8 * i.width)
  | .addr _ => "x64.AddrArg"
  | .disp (.rel _ w) => "x64.Rel" ++ if w = 0 then "" else toString (8 * w)
  | .disp (.label _) => "x64.Label"
  | .mem _ => "x64.Mem"

def aarch64Type : AArch64.Operand → String
  | .reg _ => "aarch64.Reg"
  | .vec _ => "aarch64.Vec"
  | .elem _ _ _ => "aarch64.Elem"
  | .list _ => "aarch64.VList"
  | .imm _ => "aarch64.Imm"
  | .fimm _ => "aarch64.FImm"
  | .mod _ => "aarch64.Mod"
  | .mem _ => "aarch64.Mem"
  | .cond _ => "aarch64.Cond"
  | .label _ => "aarch64.Label"
  | .barrier _ => "aarch64.Barrier"
  | .sysReg _ => "aarch64.SysReg"

def riscvType : Riscv.Operand → String
  | .reg _ => "riscv.Reg"
  | .imm _ => "riscv.Imm"
  | .mem _ _ => "riscv.Mem"
  | .label _ => "riscv.Label"
  | .labelMem _ _ => "riscv.LabelMem"
  | .rounding _ => "riscv.RoundingMode"
  | .fence _ => "riscv.FenceSet"
  | .csr _ => "riscv.CSR"
  | .regList _ => "riscv.RList"

def type : Operand → String
  | x86 a => x86Type a
  | aarch64 a => aarch64Type a
  | riscv a => riscvType a
  | foreign t => t

def forX86 : Operand → Given X86.Operand
  | x86 a => .operand a
  | a => .foreign a.type

def forAArch64 : Operand → Given AArch64.Operand
  | aarch64 a => .operand a
  | a => .foreign a.type

def forRiscv : Operand → Given Riscv.Operand
  | riscv a => .operand a
  | a => .foreign a.type

end Operand

inductive Encoder where
  | x86 (e : X86.Encoder)
  | aarch64
  | riscv (p : Riscv.Profile)
  deriving DecidableEq, Repr

namespace Encoder

def arch : Encoder → Arch
  | x86 e => e.mode.arch
  | aarch64 => .aarch64
  | riscv p => p.arch

def ofX86 (r : Except X86.Refusal (Encoded X86.Reloc)) : Except Error Code :=
  (r.map (·.mapRel (some ∘ .x86))).mapError .x86

def ofAArch64 (r : Except AArch64.Refusal (Encoded AArch64.Reloc)) : Except Error Code :=
  (r.map (·.mapRel (some ∘ .aarch64))).mapError .aarch64

def ofRiscv (r : Except Riscv.Refusal (Encoded Riscv.Reloc)) : Except Error Code :=
  (r.map (·.mapRel (some ∘ .riscv))).mapError .riscv

def encode (e : Encoder) (mnemonic : String) (args : List Operand) : Except Error Code :=
  match e with
  | x86 e => ofX86 (e.encode mnemonic (args.map (·.forX86)))
  | aarch64 => ofAArch64 (AArch64.encode mnemonic (args.map (·.forAArch64)))
  | riscv p => ofRiscv (Riscv.encode p mnemonic (args.map (·.forRiscv)))

def nops (e : Encoder) (length : Int) : Except Error Bytes :=
  match e with
  | x86 _ => .ok (X86.nops length.toNat)
  | aarch64 =>
    if length % 4 ≠ 0 then .error (.nopWords length)
    else .ok (List.replicate (length / 4).toNat (Bytes.ofWord AArch64.nopWord)).flatten
  | riscv p => (Riscv.nops p length).elim (.error (.nopLength length)) .ok

def canAlign (e : Encoder) (n : Int) : Bool :=
  match e with
  | x86 _ => 0 < n
  | aarch64 => 0 < n && n % 4 = 0
  | riscv p => 2 ≤ n && n.toNat &&& (n.toNat - 1) == 0 && (4 ≤ n || p.has [.c])

end Encoder

end MachineCode
