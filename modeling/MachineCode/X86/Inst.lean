import MachineCode.X86.Instructions.AToE
import MachineCode.X86.Instructions.FToL
import MachineCode.X86.Instructions.MToO
import MachineCode.X86.Instructions.PToR
import MachineCode.X86.Instructions.SToU
import MachineCode.X86.Instructions.VAToVE
import MachineCode.X86.Instructions.VFToVO
import MachineCode.X86.Instructions.VPToZ

/-!
The instruction table. Mnemonics are numbered from one in the order of their names, forms from
zero in table order. An instruction is the number of a mnemonic with the range of its forms.
-/
namespace MachineCode.X86

def families : List Family :=
  Instructions.aToE ++ Instructions.fToL ++ Instructions.mToO ++ Instructions.pToR ++
    Instructions.sToU ++ Instructions.vaToVE ++ Instructions.vfToVO ++ Instructions.vpToZ

structure Row where
  name : String
  form : Form
  deriving DecidableEq, Repr

def Row.render (r : Row) : String := r.form.render r.name

def rows : List Row := families.flatMap fun f => f.forms.map fun form => ⟨f.name, form⟩

/-- An instruction as a word: the number of the mnemonic from bit 21 on, the number of forms from
bit 16 on, the first form in the low 13 bits. -/
structure Inst where
  word : BitVec 32
  deriving DecidableEq, Repr

namespace Inst

def nothing : Inst := ⟨0⟩

def pack (id count first : Nat) : Inst :=
  ⟨BitVec.ofNat 32 (id <<< 21 + count <<< 16 + first)⟩

def id (i : Inst) : Nat := i.word.toNat >>> 21

def count (i : Inst) : Nat := i.word.toNat >>> 16 % 32

def first (i : Inst) : Nat := i.word.toNat % 0x2000

def isKnown (i : Inst) : Bool := 0 < i.id && i.id ≤ families.length

/-- The mnemonic; empty if the number is that of none. -/
def name (i : Inst) : String :=
  match i.id with
  | 0 => ""
  | n + 1 => (families[n]?.map (·.name)).getD ""

def rows (i : Inst) : List (Row × Nat) := ((X86.rows.drop i.first).take i.count).zipIdx i.first

def forms (i : Inst) : List String := i.rows.map (·.1.render)

def upper (c : Char) : Char := if 'a' ≤ c ∧ c ≤ 'z' then Char.ofNat (c.toNat - 32) else c

def find? (name : String) (id first : Nat) : List Family → Option Inst
  | [] => none
  | f :: rest =>
    if f.name == name then some (pack id f.forms.length first)
    else find? name (id + 1) (first + f.forms.length) rest

def lookup (mnemonic : String) : Option Inst :=
  if mnemonic.utf8ByteSize = 0 || 24 < mnemonic.utf8ByteSize then none
  else find? (mnemonic.map upper) 1 0 families

end Inst

end MachineCode.X86
