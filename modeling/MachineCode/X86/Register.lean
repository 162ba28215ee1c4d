import MachineCode.Text.Messages

/-!
Registers as packed words: the number in bits 0 to 3, the class in bits 8 to 15 and the width in
bytes in bits 16 to 21. Only some combinations are registers that exist; they have names.
-/
namespace MachineCode.X86

inductive RegClass where
  | legacy
  | ip
  | highByte
  | fpu
  | mmx
  | xmm
  | ymm
  | segment
  | control
  | debug
  | bound
  deriving DecidableEq, Repr

namespace RegClass

def all : List RegClass :=
  [legacy, ip, highByte, fpu, mmx, xmm, ymm, segment, control, debug, bound]

def code (c : RegClass) : Nat := all.idxOf c

def ofCode? (code : Nat) : Option RegClass := all[code]?

def widths : RegClass → List Nat
  | legacy => [1, 2, 4, 8]
  | ip => [2, 4, 8]
  | highByte => [1]
  | fpu => [10]
  | mmx => [8]
  | xmm => [16]
  | ymm => [32]
  | segment => [2]
  | control | debug => [4]
  | bound => [16]

def hasNumber : RegClass → Nat → Bool
  | legacy, n | xmm, n | ymm, n | control, n | debug, n => n < 16
  | ip, n => n == 0
  | highByte, n => 4 ≤ n && n < 8
  | fpu, n | mmx, n => n < 8
  | segment, n => n < 6
  | bound, n => n < 4

end RegClass

structure Register where
  word : BitVec 32
  deriving DecidableEq, Repr

namespace Register

def pack (code width num : Nat) : Register :=
  ⟨BitVec.ofNat 32 ((width % 64) <<< 16 + (code % 256) <<< 8 + num % 16)⟩

def make (c : RegClass) (width num : Nat) : Register := pack c.code width num

def num (r : Register) : Nat := r.word.toNat % 16

/-- The code of the class, which need not be one of a known class. -/
def family (r : Register) : Nat := r.word.toNat >>> 8 % 256

def width (r : Register) : Nat := r.word.toNat >>> 16 % 64

def class? (r : Register) : Option RegClass := RegClass.ofCode? r.family

def isClass (r : Register) (c : RegClass) : Bool := r.class? == some c

def isExtended (r : Register) : Bool := 7 < r.num

/-- The low bytes of the stack and index registers, which only a REX prefix reaches. -/
def isLowByte (r : Register) : Bool :=
  r.isClass .legacy && r.width == 1 && 4 ≤ r.num && r.num ≤ 7

def isVector (r : Register) : Bool := r.isClass .xmm || r.isClass .ymm

def isGeneral (r : Register) : Bool := r.isClass .legacy || r.isClass .highByte

/-- The zero word stands for no register. -/
def present (r : Register) : Option Register := if r.word = 0 then none else some r

def numbered (c : RegClass) (width first : Nat) (names : List String) : List (Register × String) :=
  (names.zipIdx first).map fun (name, i) => (make c width i, name)

def counted (stem : String) (n : Nat) (suffix : String := "") (first : Nat := 0) : List String :=
  (List.range' first n).map fun i => stem ++ toString i ++ suffix

def named : List (Register × String) :=
  numbered .highByte 1 4 ["ah", "ch", "dh", "bh"] ++
  numbered .legacy 1 0
    (["al", "cl", "dl", "bl", "spb", "bpb", "sib", "dib"] ++ counted "r" 8 "b" 8) ++
  numbered .legacy 2 0 (["ax", "cx", "dx", "bx", "sp", "bp", "si", "di"] ++ counted "r" 8 "w" 8) ++
  numbered .legacy 4 0
    (["eax", "ecx", "edx", "ebx", "esp", "ebp", "esi", "edi"] ++ counted "r" 8 "l" 8) ++
  numbered .legacy 8 0
    (["rax", "rcx", "rdx", "rbx", "rsp", "rbp", "rsi", "rdi"] ++ counted "r" 8 "" 8) ++
  [(make .ip 2 0, "ip"), (make .ip 4 0, "eip"), (make .ip 8 0, "rip")] ++
  numbered .fpu 10 0 (counted "f" 8) ++
  numbered .mmx 8 0 (counted "m" 8) ++
  numbered .xmm 16 0 (counted "x" 16) ++
  numbered .ymm 32 0 (counted "y" 16) ++
  numbered .segment 2 0 ["es", "cs", "ss", "ds", "fs", "gs"] ++
  numbered .control 4 0 (counted "cr" 16) ++
  numbered .debug 4 0 (counted "dr" 16) ++
  numbered .bound 16 0 (counted "bnd" 4)

def ofName? (name : String) : Option Register :=
  (named.find? fun p => p.2 == name).map (·.1)

/-- The name, or the word itself for a register without one. -/
def name (r : Register) : String :=
  match named.lookup r with
  | some name => name
  | none => "Reg(" ++ Text.hex r.word.toNat ++ ")"

def cr8 : Register := make .control 4 8

def st0 : Register := make .fpu 10 0

inductive Fault where
  | tooWide
  | unknownClass
  | highByteNumber
  | number
  | width
  deriving DecidableEq, Repr

def Fault.reason : Fault → String
  | tooWide => "register out of range"
  | unknownClass => "unknown register family"
  | highByteNumber => "high-byte registers are numbered 4 to 7"
  | number => "register number out of range"
  | width => "unsupported register width"

def choose (family width num : UInt8) : Except Fault Register :=
  if 15 < num.toNat || 63 < width.toNat then .error .tooWide
  else
    match RegClass.ofCode? family.toNat with
    | none => .error .unknownClass
    | some c =>
      if !c.hasNumber num.toNat then
        .error (if c = .highByte then .highByteNumber else .number)
      else if c.widths.contains width.toNat then .ok (make c width.toNat num.toNat)
      else .error .width

end Register

end MachineCode.X86
