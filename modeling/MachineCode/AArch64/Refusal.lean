import MachineCode.Decimal.Shortest
import MachineCode.Encoded
import MachineCode.AArch64.Operand

/-!
Why an instruction is not encoded. Each refusal carries what its message names, and belongs to
one of the kinds that all encoders share.
-/
namespace MachineCode.AArch64

/-- Floating point numbers in messages: positional up to six digits before the point and down to
three zeros behind it, the exponent with two digits at least. -/
def floatLayout : Decimal.Layout := ⟨-4, 6, 2, "NaN", "+Inf", "-Inf"⟩

inductive Quantity where
  | immediate
  | shift
  | extendAmount
  | lsb
  | width
  | bitNumber
  | indexShift
  deriving DecidableEq, Repr

def Quantity.name : Quantity → String
  | immediate => "immediate"
  | shift => "shift"
  | extendAmount => "extend amount"
  | lsb => "lsb"
  | width => "width"
  | bitNumber => "bit number"
  | indexShift => "index shift"

inductive Refusal where
  | unknownMnemonic (mnemonic : String)
  | mismatch (name : String) (forms : List String)
  | foreignOperand (index : Nat) (type name : String) (forms : List String)
  | register (name : String) (r : Register) (fault : Register.Fault)
  | lane (name : String) (lane : UInt8) (size : ElemSize)
  | notConsecutive (name : String) (vs : List Vec)
  | range (name : String) (what : Quantity) (v : Int64)
  | misaligned (name : String) (v : Int64) (multiple : Nat)
  | notBitmask (name : String) (v : BitVec 64)
  | notFloat8 (name : String) (bits : UInt64)
  | notByteMask (name : String) (v : BitVec 64)
  | postIndex (name : String) (v : Int64) (bytes : Nat)
  | indexModifier (name : String) (index : Register) (kind : ModKind)
  | indexExtension (name : String) (index : Register)
  deriving DecidableEq, Repr

namespace Refusal

def fault : Refusal → EncodeFault
  | unknownMnemonic _ => .unknownMnemonic
  | mismatch name forms | foreignOperand _ _ name forms => .forms name forms
  | register _ _ _ | notConsecutive _ _ => .invalidRegister
  | misaligned _ _ _ => .misalignedTarget
  | indexModifier _ _ _ | indexExtension _ _ => .operandMismatch
  | lane _ _ _ | range _ _ _ | notBitmask _ _ | notFloat8 _ _ | notByteMask _ _
  | postIndex _ _ _ => .immediateOutOfRange

def occasion : Refusal → String
  | unknownMnemonic mnemonic => Text.quoted mnemonic ++ ": "
  | mismatch _ _ => ""
  | foreignOperand index type _ _ => "operand " ++ toString index ++ " has type " ++ type ++ ": "
  | register name r f =>
    name ++ ": " ++ f.reason ++ " (kind " ++ toString r.family ++ ", number " ++
      toString r.num ++ "): "
  | lane name l size =>
    name ++ ": lane " ++ toString l.toNat ++ " of " ++ size.name ++ " elements: "
  | notConsecutive name vs => name ++ ": registers of " ++ listName vs ++ " are not consecutive: "
  | range name what v => name ++ ": " ++ what.name ++ " " ++ toString v.toInt ++ ": "
  | misaligned name v n =>
    name ++ ": " ++ toString v.toInt ++ " is not a multiple of " ++ toString n ++ ": "
  | notBitmask name v => name ++ ": " ++ Text.hex v.toNat ++ " is not a bitmask immediate: "
  | notFloat8 name bits =>
    name ++ ": " ++ floatLayout.render bits ++ " is not an 8-bit floating point immediate: "
  | notByteMask name v => name ++ ": " ++ Text.hex v.toNat ++ " has bytes other than 0x00 and 0xff: "
  | postIndex name v n =>
    name ++ ": post-index " ++ toString v.toInt ++ " must equal the " ++ toString n ++
      " bytes transferred: "
  | indexModifier name index kind =>
    name ++ ": " ++ index.name ++ " index can not be modified by " ++ kind.name ++ ": "
  | indexExtension name index =>
    name ++ ": " ++ index.name ++ " index must be extended with uxtw or sxtw: "

def message (r : Refusal) : String := r.occasion ++ r.fault.message

end Refusal

end MachineCode.AArch64
