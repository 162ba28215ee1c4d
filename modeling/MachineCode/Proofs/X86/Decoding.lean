import Mathlib.Algebra.Ring.Int.Defs
import Mathlib.Algebra.Ring.Nat
import MachineCode.X86.Emission

/-!
How a processor reads an instruction. Prefix bytes come first, in any order; a REX prefix counts
only right in front of the opcode, and a VEX or XOP prefix takes its place. The opcode tells its own
length. Behind it stand the ModRM byte, perhaps a SIB byte, and a displacement.
-/
namespace MachineCode.X86

/-- What an address register stands for. A vector register stands for one of its lanes, and the
instruction pointer for the end of the instruction. -/
inductive Source where
  | general (num : Nat)
  | lane (num : Nat)
  | ip
  deriving DecidableEq, Repr

/-- Multiples of registers and a displacement, modulo the size in bytes. -/
structure Address where
  size : Nat
  terms : List (Source × Nat)
  disp : Int
  deriving DecidableEq, Repr

/-- The sum of some terms under an assignment of values to their registers. -/
def total (terms : List (Source × Nat)) (v : Source → Int) : Int :=
  (terms.map fun t => t.2 * v t.1).sum

@[simp] theorem total_nil (v : Source → Int) : total [] v = 0 := rfl

@[simp] theorem total_cons (t : Source × Nat) (terms : List (Source × Nat)) (v : Source → Int) :
    total (t :: terms) v = t.2 * v t.1 + total terms v := rfl

@[simp] theorem total_append (terms terms' : List (Source × Nat)) (v : Source → Int) :
    total (terms ++ terms') v = total terms v + total terms' v := by
  induction terms with
  | nil => exact (zero_add _).symm
  | cons t terms ih => rw [List.cons_append, total_cons, total_cons, ih, add_assoc]

theorem total_eq_zero {terms : List (Source × Nat)} {v : Source → Int}
    (h : ∀ t ∈ terms, v t.1 = 0) : total terms v = 0 := by
  induction terms with
  | nil => rfl
  | cons t terms ih =>
    obtain ⟨ht, hterms⟩ := List.forall_mem_cons.mp h
    rw [total_cons, ht, ih hterms, mul_zero, zero_add]

def Address.eval (a : Address) (v : Source → Int) : Int :=
  (total a.terms v + a.disp) % 2 ^ (8 * a.size)

structure Prefixes where
  segment : Option Nat := none
  /-- The prefix `67`. -/
  otherSize : Bool := false
  /-- The prefix `66`. -/
  short : Bool := false
  rex : Option UInt8 := none
  deriving DecidableEq, Repr

def segmentOf? (b : UInt8) : Option Nat :=
  [0x26, 0x2e, 0x36, 0x3e, 0x64, 0x65].findIdx? (· == b)

def isLegacyPrefix (b : UInt8) : Bool :=
  (segmentOf? b).isSome || [0x66, 0x67, 0xf0, 0xf2, 0xf3].contains b

/-- A prefix behind a REX prefix makes the latter void. -/
def Prefixes.add (p : Prefixes) (b : UInt8) : Prefixes :=
  { segment := (segmentOf? b).or p.segment
    otherSize := p.otherSize || b == 0x67
    short := p.short || b == 0x66
    rex := none }

/-- Reads the prefixes and returns what follows them. An FWAIT in front of an instruction is an
instruction of its own, which takes all prefixes before it. -/
def scan (mode : Mode) (p : Prefixes) : Bytes → Prefixes × Bytes
  | [] => (p, [])
  | b :: rest =>
    if isLegacyPrefix b then scan mode (p.add b) rest
    else if mode == .x64 && b / 16 == 4 then scan mode { p with rex := some b } rest
    else if b == 0x9b && !rest.isEmpty then scan mode {} rest
    else (p, b :: rest)

structure HighBits where
  reg : Nat := 0
  index : Nat := 0
  base : Nat := 0
  deriving DecidableEq, Repr

structure VectorPrefix where
  isVex : Bool
  map : Nat
  wide : Bool
  extra : Nat
  long : Bool
  pref : Nat
  deriving DecidableEq, Repr

structure Decoded where
  mode : Mode
  segment : Option Nat
  otherSize : Bool
  short : Bool
  rex : Option UInt8
  bits : HighBits
  vector : Option VectorPrefix
  opcode : Bytes
  body : Bytes
  deriving DecidableEq, Repr

/-- In 32-bit mode, the codes of VEX stand for other instructions with operands in memory. The code
of XOP is that of POP, whose register field is zero. -/
def opensVector (mode : Mode) (first second : UInt8) : Bool :=
  if first == 0xc4 || first == 0xc5 then mode == .x64 || 0xc0 ≤ second
  else first == 0x8f && 8 ≤ second.toNat % 32

/-- The length of the opcode in front of some bytes. -/
def opcodeLength : Bytes → Nat
  | 0x0f :: second :: _ => if second == 0x38 || second == 0x3a then 3 else 2
  | first :: second :: _ => if first.toNat / 8 == 27 && 0xc0 ≤ second then 2 else 1
  | _ => 1

/-- The last byte of a VEX or XOP prefix. Its short form belongs to the first map. -/
def VectorPrefix.ofByte (isVex : Bool) (map : Nat) (wide : Bool) (b : UInt8) : VectorPrefix :=
  ⟨isVex, map, wide, 15 - b.toNat / 8 % 16, b.toNat / 4 % 2 == 1, b.toNat % 4⟩

def rexBits (rex : UInt8) : HighBits := ⟨rex.toNat / 4 % 2, rex.toNat / 2 % 2, rex.toNat % 2⟩

def decodeOpcode (mode : Mode) (p : Prefixes) (bs : Bytes) : Decoded :=
  let plain : Decoded :=
    { mode, segment := p.segment, otherSize := p.otherSize, short := p.short, rex := p.rex
      bits := (p.rex.map rexBits).getD {}
      vector := none
      opcode := bs.take (opcodeLength bs)
      body := bs.drop (opcodeLength bs) }
  match bs with
  | first :: second :: third :: rest =>
    if !opensVector mode first second then plain
    else if first == 0xc5 then
      { plain with
        bits := { reg := 1 - second.toNat / 128 }
        vector := some (.ofByte true 1 false second)
        opcode := [third]
        body := rest }
    else
      { plain with
        bits :=
          ⟨1 - second.toNat / 128, 1 - second.toNat / 64 % 2, 1 - second.toNat / 32 % 2⟩
        vector := some (.ofByte (first == 0xc4) (second.toNat % 32) (third.toNat / 128 == 1) third)
        opcode := rest.take 1
        body := rest.drop 1 }
  | _ => plain

def decode (mode : Mode) (code : Bytes) : Decoded :=
  let (p, rest) := scan mode {} code
  decodeOpcode mode p rest

/-- A signed number of so many bytes, and the bytes behind it. -/
def readDisp (n : Nat) (bs : Bytes) : Option (Int × Bytes) :=
  if n ≤ bs.length then some ((Bytes.toNat (bs.take n) : Int).bmod (1 <<< (8 * n)), bs.drop n)
  else none

def wordRegisters : List (List Nat) := [[3, 6], [3, 7], [5, 6], [5, 7], [6], [7], [5], [3]]

inductive Rm where
  | register (num : Nat)
  | memory (a : Address)
  deriving DecidableEq, Repr

structure ModRm where
  reg : Nat
  rm : Rm
  rest : Bytes
  deriving DecidableEq, Repr

namespace Decoded

def addrSize (d : Decoded) : Nat :=
  match d.mode, d.otherSize with
  | .x64, false => 8
  | .x64, true | .x86, false => 4
  | .x86, true => 2

def wide (d : Decoded) : Bool :=
  match d.vector with
  | some v => v.wide
  | none => d.rex.any fun b => b.toNat / 8 % 2 == 1

def long (d : Decoded) : Bool := d.vector.any (·.long)

def gathers (d : Decoded) : Bool :=
  d.vector.any (fun v => v.isVex && v.map == 2) && d.opcode.any fun b => 0x90 ≤ b && b ≤ 0x93

def wordPlace (mod rm : Nat) : List (Source × Nat) × Nat :=
  if mod = 0 ∧ rm = 6 then ([], 2)
  else ((wordRegisters.getD rm []).map fun n => (.general n, 1), mod)

def dispLength (mod : Nat) : Nat := if mod = 0 then 0 else if mod = 1 then 1 else 4

def sibPlace (d : Decoded) (mod : Nat) (sib : UInt8) : List (Source × Nat) × Nat :=
  let index := sib.toNat / 8 % 8 + 8 * d.bits.index
  let scale := 2 ^ (sib.toNat / 64)
  let scaled : List (Source × Nat) :=
    if d.gathers then [(.lane index, scale)]
    else if index = 4 then []
    else [(.general index, scale)]
  if mod = 0 ∧ sib.toNat % 8 = 5 then (scaled, 4)
  else ((.general (sib.toNat % 8 + 8 * d.bits.base), 1) :: scaled, dispLength mod)

def plainPlace (d : Decoded) (mod rm : Nat) : List (Source × Nat) × Nat :=
  if mod = 0 ∧ rm = 5 then (if d.mode = .x64 then [(.ip, 1)] else [], 4)
  else ([(.general (rm + 8 * d.bits.base), 1)], dispLength mod)

def place? (d : Decoded) (mod rm : Nat) (rest : Bytes) :
    Option ((List (Source × Nat) × Nat) × Bytes) :=
  if d.addrSize = 2 then some (wordPlace mod rm, rest)
  else if rm = 4 then
    match rest with
    | [] => none
    | sib :: rest => some (d.sibPlace mod sib, rest)
  else some (d.plainPlace mod rm, rest)

def memory? (d : Decoded) (mod rm : Nat) (rest : Bytes) : Option (Address × Bytes) := do
  let (place, rest) ← d.place? mod rm rest
  let (disp, rest) ← readDisp place.2 rest
  return (⟨d.addrSize, place.1, disp⟩, rest)

def modRm? (d : Decoded) : Option ModRm :=
  match d.body with
  | [] => none
  | b :: rest =>
    let reg := b.toNat / 8 % 8 + 8 * d.bits.reg
    let rm := b.toNat % 8
    if b.toNat / 64 = 3 then some ⟨reg, .register (rm + 8 * d.bits.base), rest⟩
    else (d.memory? (b.toNat / 64) rm rest).map fun (a, rest) => ⟨reg, .memory a, rest⟩

def low (d : Decoded) : Nat := (d.opcode.getLastD 0).toNat % 8 + 8 * d.bits.base

end Decoded

end MachineCode.X86
