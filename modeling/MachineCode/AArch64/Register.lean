import MachineCode.Text.Messages

/-!
AArch64 registers. A register is a packed number: its index in the low byte, its family in the
next one, and above that a mark for registers whose index is chosen at run time. Index 31 is the
zero register of the general families; the stack pointers are families of their own.
-/
namespace MachineCode.AArch64

structure Register where
  packed : BitVec 32
  deriving DecidableEq, Repr

abbrev Family := Nat

namespace Family

def w : Family := 1
def x : Family := 2
def wsp : Family := 3
def sp : Family := 4
def b : Family := 5
def h : Family := 6
def s : Family := 7
def d : Family := 8
def q : Family := 9
def v : Family := 10

def letter? : Family → Option String
  | 1 => some "w"
  | 2 => some "x"
  | 5 => some "b"
  | 6 => some "h"
  | 7 => some "s"
  | 8 => some "d"
  | 9 => some "q"
  | 10 => some "v"
  | _ => none

end Family

namespace Register

def num (r : Register) : Nat := r.packed.toNat % 256

def family (r : Register) : Family := r.packed.toNat / 256 % 256

def isDynamic (r : Register) : Bool := r.packed.getLsbD 16

def of (family : Family) (num : Nat) : Register := ⟨BitVec.ofNat 32 (family * 256 + num)⟩

def absent : Register := ⟨0⟩

/-- A register chosen at run time. An index that no byte holds becomes one that no family has. -/
def dyn (family : UInt8) (num : Int64) : Register :=
  let n := if 0 ≤ num.toInt && num.toInt < 255 then num.toInt.toNat else 255
  ⟨BitVec.ofNat 32 (0x10000 + family.toNat * 256 + n)⟩

/-- The register whose index is `i` further on, counted round from 31 to 0. -/
def next (r : Register) (i : Nat) : Register :=
  ⟨BitVec.ofNat 32 (r.packed.toNat / 256 * 256 + (r.packed.toNat + i) % 32)⟩

/-- The assembler name; a packed number that names none stands for itself. -/
def name (r : Register) : String :=
  if r.packed = 0 then "none"
  else if r.family = Family.wsp then "wsp"
  else if r.family = Family.sp then "sp"
  else if r.family = Family.w ∧ r.num = 31 then "wzr"
  else if r.family = Family.x ∧ r.num = 31 then "xzr"
  else match r.family.letter? with
    | some l => l ++ toString r.num
    | none => "Reg(" ++ Text.hex r.packed.toNat ++ ")"

def ofName? (s : String) : Option Register :=
  match s with
  | "sp" => some (of Family.sp 31)
  | "wsp" => some (of Family.wsp 31)
  | "xzr" => some (of Family.x 31)
  | "wzr" => some (of Family.w 31)
  | _ =>
    [Family.w, Family.x, Family.b, Family.h, Family.s, Family.d, Family.q, Family.v].findSome?
      fun f => do
        let l ← Family.letter? f
        let n ← (List.range 32).find? fun n => l ++ toString n == s
        return of f n

/-- Why a register can not be used. -/
inductive Fault where
  | unknownKind
  | numberRange
  | stackPointerNumber
  | zeroAsStackPointer
  deriving DecidableEq, Repr

def Fault.reason : Fault → String
  | unknownKind => "unknown register kind"
  | numberRange => "register number out of range"
  | stackPointerNumber => "the stack pointer is numbered 31"
  | zeroAsStackPointer => "the zero register can not be used in place of the stack pointer"

/-- The first rule that a register breaks. -/
def fault? (r : Register) : Option Fault :=
  if r.family < Family.w || r.family > Family.v || r.packed.toNat ≥ 0x20000 then some .unknownKind
  else if r.num > 31 then some .numberRange
  else if (r.family == Family.wsp || r.family == Family.sp) && r.num != 31 then
    some .stackPointerNumber
  else none

end Register

end MachineCode.AArch64
