import MachineCode.Arch
import MachineCode.Encoded
import MachineCode.X86.Features
import MachineCode.X86.Operand

/-!
Why an instruction is not encoded. Each refusal carries what its message names, and belongs to
one of the kinds that all encoders share.
-/
namespace MachineCode.X86

inductive MemFault where
  | notSegment (r : Register)
  | differingSizes (base index : Nat)
  | combination (base index : Register)
  | ipPair
  | vsibWord
  | legacySize (n : Nat)
  | vectorPair
  | family (n : Nat)
  | ipScale
  | vsibIndex
  | vsibBase
  | scale (n : Nat)
  | wordScale
  | wordPair (base index : Register)
  | wordBase (base : Register)
  | index (r : Register)
  | wordDisp
  | dwordDisp
  deriving DecidableEq, Repr

def MemFault.reason : MemFault → String
  | notSegment r => r.name ++ " is not a segment register"
  | differingSizes b i =>
    "registers of differing sizes for base/index: " ++ toString b ++ "/" ++ toString i
  | combination b i =>
    "register combination not supported for base/index: " ++ b.name ++ "/" ++ i.name
  | ipPair => "base and index registers not supported for RIP"
  | vsibWord => "16-bit addressing is unsupported with VSIB mode"
  | legacySize n => "unsupported address size for legacy register: " ++ toString n
  | vectorPair => "base and index registers not supported for XMM/YMM"
  | family n => "unsupported register family for memory operation: " ++ toString n
  | ipScale => "scale is not supported for RIP-relative encoding"
  | vsibIndex => "VSIB addressing requires the vector register as index"
  | vsibBase => "VSIB addressing requires a general purpose register as base"
  | scale n => "invalid scale " ++ toString n
  | wordScale => "16-bit addressing does not support a scaled index"
  | wordPair b i => "impossible 16-bit base/index combination: " ++ b.name ++ "/" ++ i.name
  | wordBase b => "impossible 16-bit base register: " ++ b.name
  | index r => r.name ++ " cannot be used as index"
  | wordDisp => "only 8/16-bit displacements are allowed with 16-bit addressing"
  | dwordDisp => "only 8/32-bit displacements are allowed without 16-bit addressing"

/-- What is wrong with the size of the operands, found only when a form is encoded. -/
inductive SizeFault where
  | noWildcard
  | unsupported (size : Nat) (mode : Mode)
  | notDword (size : Nat)
  | notVector (size : Nat)
  | bad (size : Nat)
  deriving DecidableEq, Repr

def SizeFault.reason : SizeFault → String
  | noWildcard => "no wildcard sizes"
  | unsupported n mode => "unsupported operand size " ++ toString n ++ " in " ++ mode.name ++ " mode"
  | notDword n => toString n ++ "-byte arguments are not supported"
  | notVector n => "bad operand size " ++ toString n ++ " for AUTO_VEXL"
  | bad n => "bad operand size " ++ toString n

inductive Repeat where
  | lock
  | rep
  | repne
  deriving DecidableEq, Repr

namespace Repeat

def byte : Repeat → UInt8
  | lock => 0xf0
  | rep => 0xf3
  | repne => 0xf2

def names : Repeat → String
  | lock => "LOCK"
  | rep => "REP/REPE/REPZ"
  | repne => "REPNE/REPNZ"

end Repeat

inductive Refusal where
  | unknownPrefix (mnemonic : String)
  | unknownMnemonic (name : String)
  | invalidInstruction (word : BitVec 32)
  | noMatch
  | mismatch (name : String) (forms : List String)
  | foreignOperand (index : Nat) (type name : String) (forms : List String)
  | tooManyOperands (name : String)
  | missingOperand (index : Nat) (name : String)
  | secondMem (name : String)
  | register (family width num : Nat) (fault : Register.Fault)
  | not32 (r : Register)
  | mem (fault : MemFault)
  | dispRange (v : Int32)
  | addrSize (bytes : Nat) (mode : Mode)
  | immSizes (name : String)
  | operandSizes (name : String) (first second : Nat)
  | immWidth (name : String)
  | unknownSize (name : String)
  | immRange (v : Int64) (size : Nat) (name : String)
  | noPrefix (p : Repeat) (name : String)
  | unknownPrefixByte (b : UInt8)
  | size (name : String) (fault : SizeFault)
  | highByte
  | needsRex (name : String)
  | otherMode (name : String) (mode : Mode)
  | missingFeatures (features : Features) (name : String)
  deriving DecidableEq, Repr

namespace Refusal

def fault : Refusal → EncodeFault
  | unknownPrefix _ | unknownMnemonic _ | invalidInstruction _ => .unknownMnemonic
  | mismatch name forms | foreignOperand _ _ name forms => .forms name forms
  | noMatch | tooManyOperands _ | missingOperand _ _ | secondMem _ | immSizes _
  | operandSizes _ _ _ | immWidth _ | unknownSize _ | noPrefix _ _ | size _ _ => .operandMismatch
  | register _ _ _ _ | not32 _ | mem _ | addrSize _ _ | highByte | needsRex _ => .invalidRegister
  | dispRange _ | immRange _ _ _ => .immediateOutOfRange
  | unknownPrefixByte _ | otherMode _ _ | missingFeatures _ _ => .other

def occasion : Refusal → String
  | unknownPrefix mnemonic => "unknown prefix in " ++ Text.quoted mnemonic
  | unknownMnemonic name => Text.quoted name
  | invalidInstruction w => "invalid instruction " ++ Text.hex w.toNat
  | noMatch | mismatch _ _ => ""
  | foreignOperand i type _ _ => "operand " ++ toString i ++ " has type " ++ type
  | tooManyOperands name => name ++ " accepts at most 4 arguments"
  | missingOperand i name => "nil argument " ++ toString i ++ " for " ++ name
  | secondMem name => "multiple memory arguments for " ++ name
  | register family width num f =>
    f.reason ++ " (family " ++ toString family ++ ", width " ++ toString width ++ ", number " ++
      toString num ++ ")"
  | not32 r => r.name ++ " is unavailable in 32-bit mode"
  | mem f => f.reason
  | dispRange v => "displacement " ++ toString v.toInt ++ " does not fit 16-bit addressing"
  | addrSize n mode =>
    toString (8 * n) ++ "-bit addressing is unavailable in " ++ mode.name ++ " mode"
  | immSizes name => "conflicting immediate sizes for " ++ name
  | operandSizes name a b =>
    "conflicting argument sizes for " ++ name ++ ": " ++ toString a ++ "/" ++ toString b
  | immWidth name => "immediate size mismatch for " ++ name
  | unknownSize name => "unknown operand size for " ++ name
  | immRange v n name =>
    toString v.toInt ++ " does not fit the " ++ toString n ++ "-byte immediate of " ++ name
  | noPrefix p name => p.names ++ " prefix unsupported for " ++ name
  | unknownPrefixByte b => "unknown prefix " ++ Text.hex b.toNat
  | size name f => name ++ ": " ++ f.reason
  | highByte => "high-byte register combined with extended registers or 64-bit operand size"
  | needsRex name => name ++ " requires a REX prefix, which is unavailable in 32-bit mode"
  | otherMode name mode => name ++ " was matched for " ++ mode.name ++ " mode"
  | missingFeatures fs name =>
    "encoder does not support CPU features " ++ fs.render ++ " for previously matched " ++ name ++
      " instruction"

def message (r : Refusal) : String :=
  match r.occasion, r.fault with
  | occasion, .other => occasion
  | "", f => f.message
  | occasion, f => occasion ++ ": " ++ f.message

end Refusal

end MachineCode.X86
