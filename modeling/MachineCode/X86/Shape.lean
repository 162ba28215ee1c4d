import MachineCode.X86.Operand

/-!
The usual orders of operands, destination first. A shape has at most one memory operand and at
most three operands, so nothing is left to check about their number.
-/
namespace MachineCode.X86

inductive Constant where
  | imm (i : Imm)
  | addr (a : Addr)
  deriving DecidableEq, Repr

namespace Constant

def operand : Constant → Operand
  | imm i => .imm i
  | addr a => .addr a

def ofOperand? : Operand → Option Constant
  | .imm i => some (imm i)
  | .addr a => some (addr a)
  | _ => none

end Constant

inductive Shape where
  | regReg (dst src : Register) (c : Option Constant)
  | regMem (dst : Register) (src : Mem) (c : Option Constant)
  | memReg (dst : Mem) (src : Register) (c : Option Constant)
  | reg (dst : Register) (c : Option Constant)
  | mem (dst : Mem) (c : Option Constant)
  deriving DecidableEq, Repr

namespace Shape

def constant? : Shape → Option Constant
  | regReg _ _ c | regMem _ _ c | memReg _ _ c | reg _ c | mem _ c => c

def places : Shape → List Operand
  | regReg dst src _ => [.reg dst, .reg src]
  | regMem dst src _ => [.reg dst, .mem src]
  | memReg dst src _ => [.mem dst, .reg src]
  | reg dst _ => [.reg dst]
  | mem dst _ => [.mem dst]

def operands (s : Shape) : List Operand := s.places ++ (s.constant?.map (·.operand)).toList

end Shape

end MachineCode.X86
