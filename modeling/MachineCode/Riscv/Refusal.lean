import MachineCode.Encoded
import MachineCode.Riscv.Operand
import MachineCode.Riscv.Profile

/-!
Why an instruction is not encoded. Each refusal carries what its message names, and belongs to
one of the kinds that all encoders share.
-/
namespace MachineCode.Riscv

inductive ListFault where
  | start
  | continuation
  | ending
  | tenSaved
  deriving DecidableEq, Repr

def ListFault.rule : ListFault → String
  | start => " must start with ra"
  | continuation => " must continue with s0"
  | ending => " must end with a saved register"
  | tenSaved => " can not be encoded; use s11"

inductive Refusal where
  | unknownMnemonic (mnemonic : String)
  | unavailable (mnemonic : String) (profile : Profile)
  | mismatch (name : String) (forms : List String)
  | foreignOperand (index : Nat) (type name : String) (forms : List String)
  | register (name : String) (r : Register) (fault : Register.Fault)
  | roundingMode (name : String) (mode : UInt8)
  | sameSaved (name : String)
  | misaligned (name : String) (v : Int64) (multiple : Nat)
  | zeroImmediate (name : String) (v : Int64)
  | immediate (name : String) (v : Int64)
  | registerList (name : String) (rs : List Register) (fault : ListFault)
  | stackAdjustment (name : String) (amount least : Int64)
  deriving DecidableEq, Repr

namespace Refusal

def fault : Refusal → EncodeFault
  | unknownMnemonic _ | unavailable _ _ => .unknownMnemonic
  | mismatch name forms | foreignOperand _ _ name forms => .forms name forms
  | register _ _ _ | sameSaved _ | registerList _ _ _ => .invalidRegister
  | misaligned _ _ _ => .misalignedTarget
  | roundingMode _ _ | zeroImmediate _ _ | immediate _ _ | stackAdjustment _ _ _ =>
    .immediateOutOfRange

def occasion : Refusal → String
  | unknownMnemonic mnemonic => Text.quoted mnemonic ++ ": "
  | unavailable mnemonic p => Text.quoted mnemonic ++ " is not available for " ++ p.name ++ ": "
  | mismatch _ _ => ""
  | foreignOperand index type _ _ => "operand " ++ toString index ++ " has type " ++ type ++ ": "
  | register name r f => name ++ ": " ++ r.name ++ ": " ++ f.reason ++ ": "
  | roundingMode name m => name ++ ": invalid rounding mode " ++ toString m.toNat ++ ": "
  | sameSaved name => name ++ ": source and destination must differ: "
  | misaligned name v n =>
    name ++ ": " ++ toString v.toInt ++ " is not a multiple of " ++ toString n ++ ": "
  | zeroImmediate name v => name ++ ": immediate must be nonzero, got " ++ toString v.toInt ++ ": "
  | immediate name v => name ++ ": immediate " ++ toString v.toInt ++ ": "
  | registerList name rs f => name ++ ": register list " ++ regListName rs ++ f.rule ++ ": "
  | stackAdjustment name amount least =>
    name ++ ": stack adjustment of " ++ toString amount.toInt ++ " bytes, want " ++
      toString least.toInt ++ " to " ++ toString (least + 48).toInt ++ " in steps of 16: "

def message (r : Refusal) : String := r.occasion ++ r.fault.message

end Refusal

end MachineCode.Riscv
