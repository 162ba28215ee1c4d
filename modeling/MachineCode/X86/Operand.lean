import MachineCode.Target
import MachineCode.Reloc.Signed
import MachineCode.X86.Register

/-!
Operands of x86 instructions. Widths are in bytes; a width of zero leaves the size to the
instruction.
-/
namespace MachineCode.X86

def signedPart (v : Int64) (bytes : Nat) : Int64 := Int64.ofInt (v.toInt.bmod (1 <<< (8 * bytes)))

structure Imm where
  value : Int64
  width : Nat
  deriving DecidableEq, Repr

namespace Imm

def unsized (v : Int64) : Imm := ⟨v, 0⟩

/-- An immediate of one, two, four or else eight bytes, cut to its size. -/
def ofSize (v : Int64) (size : Nat) : Imm :=
  if size = 1 || size = 2 || size = 4 then ⟨signedPart v size, size⟩ else ⟨v, 8⟩

/-- Whether a value can stand in a field; narrow fields take signed and unsigned numbers. -/
def fits (v : Int64) (size : Nat) : Bool :=
  match size with
  | 1 => -0x80 ≤ v.toInt && v.toInt < 0x100
  | 2 => -0x8000 ≤ v.toInt && v.toInt < 0x10000
  | 4 => -0x80000000 ≤ v.toInt && v.toInt < 0x100000000
  | n => n == 8

def fitsSigned (v : Int64) : Bool := -0x80000000 ≤ v.toInt && v.toInt < 0x80000000

end Imm

structure Addr where
  target : Target
  addend : Int64 := 0
  width : Nat := 8
  deriving DecidableEq, Repr

structure Label where
  target : Target
  disp : Int32 := 0
  width : Nat := 0
  deriving DecidableEq, Repr

namespace Label

def add (l : Label) (n : Int32) : Label := { l with disp := l.disp + n }

def kind (l : Label) : RelocKind := if l.target.isExternal then .relToAbs else .relative

end Label

inductive Disp where
  | rel (value : Int32) (width : Nat)
  | label (l : Label)
  deriving DecidableEq, Repr

namespace Disp

def width : Disp → Nat
  | rel _ w => w
  | label l => l.width

/-- The number in it; for a target, what is added to the distance. -/
def value : Disp → Int32
  | rel v _ => v
  | label l => l.disp

def fits (v : Int32) (size : Nat) : Bool :=
  let half : Nat := 1 <<< (8 * size - 1)
  v.toInt < half && -(half : Int) ≤ v.toInt

def ofSize (v : Int32) (size : Nat) : Disp :=
  if size = 1 || size = 2 then rel (Int32.ofInt (v.toInt.bmod (1 <<< (8 * size)))) size else rel v 4

end Disp

structure Mem where
  disp : Option Disp := none
  base : Option Register := none
  index : Option Register := none
  seg : Option Register := none
  scale : Nat := 0
  width : Nat := 0
  /-- Keeps an index without a base from being used as one. -/
  noSplit : Bool := false
  deriving DecidableEq, Repr

namespace Mem

def registers (m : Mem) : List Register := m.base.toList ++ m.index.toList

def isVsib (m : Mem) : Bool := m.index.any (·.isVector) || m.base.any (·.isVector)

end Mem

inductive Operand where
  | reg (r : Register)
  | imm (i : Imm)
  | addr (a : Addr)
  | disp (d : Disp)
  | mem (m : Mem)
  deriving DecidableEq, Repr

namespace Operand

def reg? : Operand → Option Register
  | reg r => some r
  | _ => none

def mem? : Operand → Option Mem
  | mem m => some m
  | _ => none

def width : Operand → Nat
  | reg r => r.width
  | imm i => i.width
  | addr a => a.width
  | disp d => d.width
  | mem m => m.width

end Operand

structure Records where
  base : Option Register
  index : Option Register
  size : UInt8
  deriving DecidableEq, Repr

namespace Records

def disp (n : Int32) : Option Disp := if n = 0 then none else some (.rel n 0)

def field (r : Records) (offset : Int32) (width : UInt8) : Mem :=
  { base := r.base
    index := r.index
    scale := if r.index.isSome then r.size.toNat else 0
    width := width.toNat
    disp := disp offset }

def elem (r : Records) (i offset : Int32) (width : UInt8) : Mem :=
  { base := r.base
    width := width.toNat
    disp := disp (i * Int32.ofNat r.size.toNat + offset) }

end Records

end MachineCode.X86
