import MachineCode.Target
import MachineCode.AArch64.Register
import MachineCode.Text.Words

/-!
Operands of AArch64 instructions, and how they are written in messages.
-/
namespace MachineCode.AArch64

/-- Element size and number of lanes of a vector: the size in the upper bits of the code, and in
the lowest bit whether the vector has 128 bits. -/
structure Arrangement where
  code : UInt8
  deriving DecidableEq, Repr

namespace Arrangement

def b8 : Arrangement := ⟨0⟩
def b16 : Arrangement := ⟨1⟩
def h4 : Arrangement := ⟨2⟩
def h8 : Arrangement := ⟨3⟩
def s2 : Arrangement := ⟨4⟩
def s4 : Arrangement := ⟨5⟩
def d1 : Arrangement := ⟨6⟩
def d2 : Arrangement := ⟨7⟩

def names : List String := ["8b", "16b", "4h", "8h", "2s", "4s", "1d", "2d"]

def name (a : Arrangement) : String :=
  names.getD a.code.toNat ("Arrangement(" ++ toString a.code.toNat ++ ")")

def ofName? (s : String) : Option Arrangement :=
  (names.findIdx? (· == s)).map fun i => ⟨UInt8.ofNat i⟩

def q (a : Arrangement) : Nat := a.code.toNat % 2

/-- The logarithm of the element size in bytes. -/
def size (a : Arrangement) : Nat := a.code.toNat / 2

def bytes (a : Arrangement) : Nat := 8 <<< a.q

end Arrangement

structure ElemSize where
  code : UInt8
  deriving DecidableEq, Repr

namespace ElemSize

def b : ElemSize := ⟨0⟩
def h : ElemSize := ⟨1⟩
def s : ElemSize := ⟨2⟩
def d : ElemSize := ⟨3⟩

def name (e : ElemSize) : String := ["b", "h", "s", "d"].getD (e.code.toNat % 4) ""

def lanes (e : ElemSize) : Nat := 16 >>> e.code.toNat

end ElemSize

structure ModKind where
  code : UInt8
  deriving DecidableEq, Repr

namespace ModKind

def none : ModKind := ⟨0⟩
def lsl : ModKind := ⟨1⟩
def lsr : ModKind := ⟨2⟩
def asr : ModKind := ⟨3⟩
def ror : ModKind := ⟨4⟩
def uxtb : ModKind := ⟨5⟩
def uxth : ModKind := ⟨6⟩
def uxtw : ModKind := ⟨7⟩
def uxtx : ModKind := ⟨8⟩
def sxtb : ModKind := ⟨9⟩
def sxth : ModKind := ⟨10⟩
def sxtw : ModKind := ⟨11⟩
def sxtx : ModKind := ⟨12⟩

def names : List String :=
  ["", "lsl", "lsr", "asr", "ror", "uxtb", "uxth", "uxtw", "uxtx", "sxtb", "sxth", "sxtw", "sxtx"]

def name (k : ModKind) : String :=
  names.getD k.code.toNat ("ModKind(" ++ toString k.code.toNat ++ ")")

def ofName? (s : String) : Option ModKind :=
  ((names.drop 1).findIdx? (· == s)).map fun i => ⟨UInt8.ofNat (i + 1)⟩

def extendOption (k : ModKind) : Nat := (k.code - uxtb.code).toNat

end ModKind

/-- A shift or extension with its amount. An extension may be written without one. -/
structure Mod where
  kind : ModKind
  amount : UInt8 := 0
  bare : Bool := false
  deriving DecidableEq, Repr

def Mod.name (m : Mod) : String :=
  if m.bare then m.kind.name else m.kind.name ++ " #" ++ toString m.amount.toNat

structure AddrMode where
  code : UInt8
  deriving DecidableEq, Repr

namespace AddrMode

def offset : AddrMode := ⟨0⟩

def preIndex : AddrMode := ⟨1⟩

def postIndex : AddrMode := ⟨2⟩

end AddrMode

structure Mem where
  base : Register
  index : Register := .absent
  mod : Mod := ⟨.none, 0, false⟩
  offset : Int64 := 0
  mode : AddrMode := .offset
  deriving DecidableEq, Repr

def Mem.name (m : Mem) : String :=
  let off := "#" ++ toString m.offset.toInt
  if m.index ≠ .absent ∧ m.mod.kind ≠ .none then
    "[" ++ m.base.name ++ ", " ++ m.index.name ++ ", " ++ m.mod.name ++ "]"
  else if m.index ≠ .absent then "[" ++ m.base.name ++ ", " ++ m.index.name ++ "]"
  else if m.mode = .preIndex then "[" ++ m.base.name ++ ", " ++ off ++ "]!"
  else if m.mode = .postIndex then "[" ++ m.base.name ++ "], " ++ off
  else if m.offset ≠ 0 then "[" ++ m.base.name ++ ", " ++ off ++ "]"
  else "[" ++ m.base.name ++ "]"

structure Cond where
  code : UInt8
  deriving DecidableEq, Repr

namespace Cond

def names : List String :=
  ["eq", "ne", "cs", "cc", "mi", "pl", "vs", "vc", "hi", "ls", "ge", "lt", "gt", "le", "al", "nv"]

/-- Only the low four bits count. -/
def name (c : Cond) : String := names.getD (c.code.toNat % 16) ""

def isConditional (c : Cond) : Bool := c.code.toNat < 14

/-- The condition that holds when this one does not. -/
def invert (c : Cond) : Cond := if c.isConditional then ⟨c.code ^^^ 1⟩ else c

/-- The condition of a name in any letter case; two conditions have a second name. -/
def ofName? (s : String) : Option Cond :=
  let s := Text.toLower s
  if s == "hs" then some ⟨2⟩
  else if s == "lo" then some ⟨3⟩
  else (names.findIdx? (· == s)).map fun i => ⟨UInt8.ofNat i⟩

end Cond

structure Vec where
  reg : Register
  arr : Arrangement
  deriving DecidableEq, Repr

def Vec.name (v : Vec) : String := v.reg.name ++ "." ++ v.arr.name

inductive Operand where
  | reg (r : Register)
  | vec (v : Vec)
  /-- One element of a vector register. -/
  | elem (r : Register) (size : ElemSize) (lane : UInt8)
  /-- Consecutive vector registers. -/
  | list (vs : List Vec)
  | imm (v : Int64)
  /-- A floating point number by its bits. -/
  | fimm (bits : UInt64)
  | mod (m : Mod)
  | mem (m : Mem)
  | cond (c : Cond)
  | label (l : LabelRef)
  | barrier (option : UInt8)
  | sysReg (number : UInt16)
  deriving DecidableEq, Repr

def elemName (r : Register) (size : ElemSize) (lane : UInt8) : String :=
  r.name ++ "." ++ size.name ++ "[" ++ toString lane.toNat ++ "]"

def listName (vs : List Vec) : String :=
  "\x7b" ++ String.intercalate ", " (vs.map (·.name)) ++ "\x7d"

def Operand.name : Operand → String
  | reg r => r.name
  | vec v => v.name
  | elem r size lane => elemName r size lane
  | list vs => listName vs
  | mod m => m.name
  | mem m => m.name
  | cond c => c.name
  | imm _ | fimm _ | label _ | barrier _ | sysReg _ => ""

def listOf (first : Register) (arr : Arrangement) (count : Nat) : List Vec :=
  (List.range count).map fun i => ⟨first.next i, arr⟩

def systemRegister (op0 op1 crn crm op2 : UInt8) : UInt16 :=
  UInt16.ofNat ((op0.toNat % 2) <<< 14 + (op1.toNat % 8) <<< 11 + (crn.toNat % 16) <<< 7 +
    (crm.toNat % 16) <<< 3 + op2.toNat % 8)

end MachineCode.AArch64
