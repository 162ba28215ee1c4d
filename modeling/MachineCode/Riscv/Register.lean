import MachineCode.Text.Messages

/-!
RISC-V registers. A register is a packed number: its index in the low byte, its register file in
the next one, and above that a mark for registers whose index is chosen at run time. Such a
dynamic register is checked when an instruction uses it, not when it is matched.
-/
namespace MachineCode.Riscv

structure Register where
  packed : BitVec 32
  deriving DecidableEq, Repr

namespace Register

def fileX : Nat := 1

def fileF : Nat := 2

def num (r : Register) : Nat := r.packed.toNat % 256

def file (r : Register) : Nat := r.packed.toNat / 256 % 256

def isDynamic (r : Register) : Bool := r.packed.getLsbD 16

def x (n : Nat) : Register := ⟨BitVec.ofNat 32 (fileX * 256 + n)⟩

def f (n : Nat) : Register := ⟨BitVec.ofNat 32 (fileF * 256 + n)⟩

/-- A register chosen at run time. An index that no byte holds becomes one that no file has. -/
def dyn (file : UInt8) (num : Int64) : Register :=
  let n := if 0 ≤ num.toInt && num.toInt < 255 then num.toInt.toNat else 255
  ⟨BitVec.ofNat 32 (0x10000 + file.toNat * 256 + n)⟩

def xNames : List String :=
  ["zero", "ra", "sp", "gp", "tp", "t0", "t1", "t2", "s0", "s1", "a0", "a1", "a2", "a3", "a4",
    "a5", "a6", "a7", "s2", "s3", "s4", "s5", "s6", "s7", "s8", "s9", "s10", "s11", "t3", "t4",
    "t5", "t6"]

def fNames : List String :=
  ["ft0", "ft1", "ft2", "ft3", "ft4", "ft5", "ft6", "ft7", "fs0", "fs1", "fa0", "fa1", "fa2",
    "fa3", "fa4", "fa5", "fa6", "fa7", "fs2", "fs3", "fs4", "fs5", "fs6", "fs7", "fs8", "fs9",
    "fs10", "fs11", "ft8", "ft9", "ft10", "ft11"]

/-- The name in the calling convention; a packed number that names none stands for itself. -/
def name (r : Register) : String :=
  let raw := "Reg(" ++ Text.hex r.packed.toNat ++ ")"
  if r.packed = 0 then "none"
  else if r.file = fileX then xNames.getD r.num raw
  else if r.file = fileF then fNames.getD r.num raw
  else raw

def ofName? (s : String) : Option Register :=
  let index (names : List String) := names.findIdx? (· == s)
  let numbered (letter : Char) :=
    (List.range 32).find? fun n => String.singleton letter ++ toString n == s
  if s == "fp" then some (x 8)
  else (index xNames).map x <|> (index fNames).map f <|> (numbered 'x').map x <|>
    (numbered 'f').map f

inductive Fault where
  | unknownKind
  | numberRange
  | embedded
  | notAllowed (slot : String)
  deriving DecidableEq, Repr

def Fault.reason : Fault → String
  | unknownKind => "unknown register kind"
  | numberRange => "register number out of range"
  | embedded => "the embedded profiles only have x0-x15"
  | notAllowed slot => "register not allowed as " ++ slot

/-- The first rule that a register breaks: it is in a known file, its index is below 32, and the
embedded profiles have only half of the integer registers. -/
def fault? (r : Register) (embedded : Bool) : Option Fault :=
  if (r.file != fileX && r.file != fileF) || r.packed.toNat ≥ 0x20000 then some .unknownKind
  else if r.num > 31 then some .numberRange
  else if embedded && r.file == fileX && r.num > 15 then some .embedded
  else none

end Register

end MachineCode.Riscv
