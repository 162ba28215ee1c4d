/-!
Immediates that stand for a wider value: bitmasks of the logical instructions, the sixteen-bit
chunks of wide moves, byte masks, and eight-bit floating point numbers.
-/
namespace MachineCode.AArch64

/-- A bitmask immediate: a run of ones, rotated within an element that fills the register. -/
structure Bitmask where
  n : Nat
  immr : Nat
  imms : Nat
  deriving DecidableEq, Repr

namespace Bitmask

/-- The logarithm of the shortest period of `v`, at most `k` and at least one. -/
def period (v : BitVec 64) : Nat → Nat
  | 0 => 0
  | 1 => 1
  | k + 2 =>
    let half := 1 <<< (k + 1)
    if v.extractLsb' 0 half = v.extractLsb' half half then period v (k + 1) else k + 2

def popCount {w : Nat} (v : BitVec w) : Nat := (List.range w).countP v.getLsbD

def run (w ones : Nat) : BitVec w := (BitVec.allOnes ones).setWidth w

/-- The value that a 32-bit instruction sees, in both halves. -/
def widen (v : BitVec 64) (is64 : Bool) : BitVec 64 :=
  if is64 then v else v.setWidth 32 ++ v.setWidth 32

def encode (v : BitVec 64) (is64 : Bool) : Option Bitmask :=
  let v := widen v is64
  if v = 0 ∨ v = BitVec.allOnes 64 then none
  else
    let size := 1 <<< period v 6
    let elem := v.setWidth size
    let ones := popCount elem
    (List.range size).find? (fun r => elem.rotateRight r = run size ones) |>.map fun r =>
      ⟨if size = 64 then 1 else 0, (size - r) % size, (63 - (2 * size - 1) % 64) ||| (ones - 1)⟩

def decode (m : Bitmask) (is64 : Bool) : Option (BitVec 64) :=
  if m.n > 1 || m.immr > 63 || m.imms > 63 || (!is64 && m.n != 0) then none
  else
    let combined := m.n * 64 + (63 - m.imms)
    let length := combined.log2
    if combined = 0 ∨ length < 1 then none
    else
      let size := 1 <<< length
      let s := m.imms % size
      let r := m.immr % size
      if s = size - 1 then none
      else
        let v := (((run size (s + 1)).rotateRight r).replicate (64 / size)).setWidth 64
        some (if is64 then v else (v.setWidth 32).setWidth 64)

end Bitmask

/-- The bits of an immediate in a register of the given width: for 32 bits any signed or unsigned
number of that width. -/
def immBits (v : Int64) (is64 : Bool) : Option (BitVec 64) :=
  if is64 then some v.toBitVec
  else if -0x80000000 ≤ v.toInt && v.toInt < 0x100000000 then
    some ((v.toBitVec.setWidth 32).setWidth 64)
  else none

def wideImm (v : BitVec 64) (is64 : Bool) : Option (Nat × Nat) :=
  (List.range (if is64 then 4 else 2)).find?
      (fun hw => v &&& ~~~(0xffff#64 <<< (16 * hw)) = 0) |>.map fun hw =>
    ((v.extractLsb' (16 * hw) 16).toNat, hw)

def invertBits (v : BitVec 64) (is64 : Bool) : BitVec 64 :=
  if is64 then ~~~v else ((~~~v).setWidth 32).setWidth 64

def stretchedImm (v : BitVec 64) : Option Nat :=
  let byte (i : Nat) := v.extractLsb' (8 * i) 8
  if (List.range 8).all fun i => byte i == 0 || byte i == 0xff then
    some ((List.range 8).foldl (fun acc i => if byte i == 0xff then acc + 1 <<< i else acc) 0)
  else none

/-- The bits of the double that an eight-bit immediate stands for: a sign, an exponent from -3 to
4 and a fraction of four bits. -/
def fp8Bits (imm : UInt8) : UInt64 :=
  let i := imm.toNat
  let sign := i / 128
  let exp := if i / 64 % 2 = 1 then 1020 + i / 16 % 4 else 1024 + i / 16 % 4
  UInt64.ofNat (sign <<< 63 + exp <<< 52 + (i % 16) <<< 48)

def fp8OfBits? (bits : UInt64) : Option Nat :=
  (List.range 256).find? fun i => fp8Bits (UInt8.ofNat i) == bits

end MachineCode.AArch64
