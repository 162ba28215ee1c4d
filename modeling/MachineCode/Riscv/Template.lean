import MachineCode.Riscv.Operand
import MachineCode.Riscv.Profile
import MachineCode.Riscv.Reloc

/-!
Templates. A template is one encoding of a mnemonic: the operands it accepts, the fixed bits of
its words, and the steps that put the operands into the words. Most templates are one word; the
PC-relative pseudo-instructions are an AUIPC and a second instruction.
-/
namespace MachineCode.Riscv

inductive Slot where
  | x
  | xNonzero
  | xNonzeroNotSp
  | xCompressed
  | sp
  | saved
  | f
  | fCompressed
  | imm
  | mem
  | memCompressed
  | memSp
  /-- A base register without a distance. -/
  | addr
  | labelMem
  | label
  | rounding
  | csr
  | fence
  | regList
  deriving DecidableEq, Repr

namespace Slot

def name : Slot → String
  | x => "xN"
  | xNonzero => "xN!=x0"
  | xNonzeroNotSp => "xN!=x0,sp"
  | xCompressed => "x8-x15"
  | sp => "sp"
  | saved => "s0-s7"
  | f => "fN"
  | fCompressed => "f8-f15"
  | imm => "imm"
  | mem => "off(xN)"
  | memCompressed => "off(x8-x15)"
  | memSp => "off(sp)"
  | addr => "(xN)"
  | labelMem => "%pcrel_lo(label)(xN)"
  | label => "label"
  | rounding => "rm"
  | csr => "csr"
  | fence => "iorw"
  | regList => "\x7bra, s0-sN\x7d"

/-- Rounding modes and fence sets may be left out at the end. -/
def isOptional : Slot → Bool
  | rounding | fence => true
  | _ => false

/-- The rule for the base register of a memory slot. -/
def base : Slot → Slot
  | memCompressed => xCompressed
  | memSp => sp
  | _ => x

def file : Slot → Nat
  | f | fCompressed => Register.fileF
  | _ => Register.fileX

def allows (s : Slot) (r : Register) : Bool :=
  let n := r.num
  match s with
  | xNonzero => n != 0
  | xNonzeroNotSp => n != 0 && n != 2
  | xCompressed | fCompressed => 8 ≤ n && n ≤ 15
  | sp => n == 2
  | saved => n == 8 || n == 9 || (18 ≤ n && n ≤ 23)
  | _ => true

/-- Whether the slot takes this register. A dynamic register is only matched by its file. -/
def takesRegister (s : Slot) (r : Register) : Bool :=
  r.file == s.file && (r.isDynamic || s.allows r)

def isRegister : Slot → Bool
  | x | xNonzero | xNonzeroNotSp | xCompressed | sp | saved | f | fCompressed => true
  | _ => false

def isMemory : Slot → Bool
  | mem | memCompressed | memSp => true
  | _ => false

def takes (s : Slot) : Operand → Bool
  | .reg r => s.isRegister && s.takesRegister r
  | .imm _ => s == imm
  | .mem b off =>
    (s.isMemory && s.base.takesRegister b) || (s == addr && off == 0 && x.takesRegister b)
  | .labelMem b _ => s == labelMem && x.takesRegister b
  | .label _ => s == label
  | .rounding _ => s == rounding
  | .csr _ => s == csr
  | .fence _ => s == fence
  | .regList _ => s == regList

end Slot

/-- What a step puts into its word. Steps consume the operands' parts in order. -/
inductive Action where
  /-- A register index at a position. -/
  | reg (pos : Nat)
  /-- The index of the next register, which a later step consumes. -/
  | peek (pos : Nat)
  /-- The index of a register among x8 to x15. -/
  | regC (pos : Nat)
  /-- The index of a saved register among s0 to s7, on demand other than the last one. -/
  | saved (pos : Nat) (distinct : Bool)
  | imm (field : BitField)
  /-- The upper immediate of LUI and AUIPC, given as a full 32-bit value. -/
  | upper
  /-- A label reference. -/
  | rel (kind : Reloc)
  | rounding
  | fence (pos : Nat)
  | regList
  | stackAdj (negative : Bool)
  /-- An operand that leaves no bits. -/
  | skip
  deriving DecidableEq, Repr

structure Step where
  action : Action
  word : Nat := 0
  deriving DecidableEq, Repr

structure Template where
  slots : List Slot
  words : List Word
  /-- Bytes of one word. -/
  size : Nat
  extensions : List Extension
  /-- The register width to which the template belongs, if only to one. -/
  xlen : Option Nat
  steps : List Step
  deriving DecidableEq, Repr

namespace Template

def one (base : Word) (slots : List Slot) (actions : List Action) : Template :=
  ⟨slots, [base], 4, [], none, actions.map (⟨·, 0⟩)⟩

def pair (first second : Word) (slots : List Slot) (steps : List Step) : Template :=
  ⟨slots, [first, second], 4, [], none, steps⟩

def half (base : Word) (slots : List Slot) (actions : List Action) : Template :=
  ⟨slots, [base], 2, [.c], none, actions.map (⟨·, 0⟩)⟩

/-- The template under more conditions. -/
def gate (t : Template) (xlen : Option Nat) (es : List Extension) : Template :=
  { t with xlen := xlen <|> t.xlen, extensions := t.extensions ++ es }

def rv32 (t : Template) : Template := t.gate (some 32) []

def rv64 (t : Template) : Template := t.gate (some 64) []

def availableIn (t : Template) (p : Profile) : Bool :=
  p.has t.extensions && (match t.xlen with
    | none => true
    | some n => p.xlen == n)

def accepts (t : Template) (args : List Operand) : Bool := go t.slots args
where
  go : List Slot → List Operand → Bool
    | [], [] => true
    | [], _ :: _ => false
    | s :: _, [] => s.isOptional
    | s :: ss, a :: as => s.takes a && go ss as

/-- The template as a form of its mnemonic, as in `fadd.s fN, fN, fN{, rm}`. -/
def form (t : Template) (name : String) : String :=
  name ++ go true t.slots
where
  go (first : Bool) : List Slot → String
    | [] => ""
    | s :: rest =>
      (match first, s.isOptional with
        | true, true => " \x7b" ++ s.name ++ "\x7d"
        | true, false => " " ++ s.name
        | false, true => "\x7b, " ++ s.name ++ "\x7d"
        | false, false => ", " ++ s.name) ++ go false rest

end Template

structure Entry where
  name : String
  template : Template
  deriving DecidableEq, Repr

end MachineCode.Riscv
