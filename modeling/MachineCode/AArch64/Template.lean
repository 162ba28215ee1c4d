import MachineCode.AArch64.Immediate
import MachineCode.AArch64.Operand
import MachineCode.AArch64.Reloc

/-!
Templates. A template is one encoding of a mnemonic: the operands it accepts, the fixed bits of
its word, and the actions that put the operands into the word.
-/
namespace MachineCode.AArch64

inductive Slot where
  | gpW
  | gpX
  /-- A general register or the 32-bit stack pointer, not the zero register. -/
  | gpWsp
  /-- A general register or the stack pointer, not the zero register. -/
  | gpXsp
  | fpB
  | fpH
  | fpS
  | fpD
  | fpQ
  /-- A vector in one of the arrangements, on demand in that of the first vector. -/
  | vec (arrs : List Arrangement) (same : Bool)
  | elem (sizes : List ElemSize)
  | list (arrs : List Arrangement)
  | imm
  /-- A value that MOVZ loads. -/
  | wideImm (is64 : Bool)
  /-- A value that MOVN loads. -/
  | wideInvImm (is64 : Bool)
  | logicalImm (is64 : Bool)
  | fimm
  | fzero
  | mod (kinds : List ModKind) (isOptional : Bool)
  | cond
  /-- A condition that can fail. -/
  | condInv
  | label
  /-- A base and an unsigned multiple of the access size. -/
  | memU12 (scale : Nat)
  | memImm
  | memPre
  | memPost
  | memIdx
  | memBase
  | sysReg
  | barrier
  deriving DecidableEq, Repr

namespace Slot

/-- Only modifiers may be left out, at the end. -/
def isOptional : Slot → Bool
  | mod _ isOptional => isOptional
  | _ => false

def takesRegister (s : Slot) (r : Register) : Bool :=
  let zero := r.num == 31 && !r.isDynamic
  match s with
  | gpW => r.family == Family.w
  | gpX => r.family == Family.x
  | gpWsp => (r.family == Family.w && !zero) || r.family == Family.wsp
  | gpXsp => (r.family == Family.x && !zero) || r.family == Family.sp
  | fpB => r.family == Family.b
  | fpH => r.family == Family.h
  | fpS => r.family == Family.s
  | fpD => r.family == Family.d
  | fpQ => r.family == Family.q
  | _ => false

def takesMem (s : Slot) (m : Mem) : Bool :=
  let plain := m.index == .absent && m.mod.kind == .none
  (m.base.family == Family.x || m.base.family == Family.sp) && match s with
    | memIdx =>
      (m.index.family == Family.w || m.index.family == Family.x) && m.mode == .offset &&
        m.offset == 0
    | memU12 scale =>
      plain && m.mode == .offset && 0 ≤ m.offset.toInt && m.offset.toInt % (1 <<< scale : Nat) == 0 &&
        m.offset.toInt < (4096 <<< scale : Nat)
    | memImm => plain && m.mode == .offset
    | memPre => plain && m.mode == .preIndex
    | memPost => plain && m.mode == .postIndex
    | memBase => plain && m.mode == .offset && m.offset == 0
    | _ => false

def takesImm (s : Slot) (v : Int64) : Bool :=
  match s with
  | imm => true
  | fzero => v == 0
  | wideImm is64 => ((immBits v is64).bind (AArch64.wideImm · is64)).isSome
  | wideInvImm is64 =>
    ((immBits v is64).bind fun u => AArch64.wideImm (invertBits u is64) is64).isSome
  | logicalImm is64 => ((immBits v is64).bind (Bitmask.encode · is64)).isSome
  | _ => false

def takes (s : Slot) : Operand → Bool
  | .reg r => s.takesRegister r
  | .vec v => match s with
    | vec arrs _ => v.reg.family == Family.v && arrs.contains v.arr
    | _ => false
  | .elem r size _ => match s with
    | elem sizes => r.family == Family.v && sizes.contains size
    | _ => false
  | .list vs => match s, vs with
    | list arrs, first :: _ =>
      vs.length ≤ 4 &&
        vs.all fun v => v.reg.family == Family.v && v.arr == first.arr && arrs.contains v.arr
    | _, _ => false
  | .imm v => s.takesImm v
  | .fimm bits => s == fimm || (s == fzero && (bits == 0 || bits == 0x8000000000000000))
  | .mod m => match s with
    | mod kinds _ => kinds.contains m.kind
    | _ => false
  | .mem m => s.takesMem m
  | .cond c => s == cond || (s == condInv && c.isConditional)
  | .label _ => s == label
  | .barrier _ => s == barrier
  | .sysReg _ => s == sysReg

def arrangementNames (arrs : List Arrangement) : String :=
  match arrs with
  | [a] => a.name
  | _ => "<" ++ String.intercalate "|" (arrs.map (·.name)) ++ ">"

def name : Slot → String
  | gpW => "Wn"
  | gpX => "Xn"
  | gpWsp => "Wn|WSP"
  | gpXsp => "Xn|SP"
  | fpB => "Bn"
  | fpH => "Hn"
  | fpS => "Sn"
  | fpD => "Dn"
  | fpQ => "Qn"
  | vec arrs _ => "Vn." ++ arrangementNames arrs
  | elem sizes => "Vn." ++ String.intercalate "|" (sizes.map (·.name)) ++ "[i]"
  | list arrs => "\x7bVn." ++ arrangementNames arrs ++ ", ...\x7d"
  | imm | wideImm _ | wideInvImm _ | logicalImm _ => "#imm"
  | fimm => "#fimm"
  | fzero => "#0.0"
  | mod kinds _ => String.intercalate "|" (kinds.map (·.name)) ++ " #n"
  | cond | condInv => "cond"
  | label => "label"
  | memU12 scale => "[Xn|SP\x7b, #uimm*" ++ toString (1 <<< scale) ++ "\x7d]"
  | memImm => "[Xn|SP\x7b, #simm\x7d]"
  | memPre => "[Xn|SP, #simm]!"
  | memPost => "[Xn|SP], #simm"
  | memIdx => "[Xn|SP, Wm|Xm\x7b, extend #n\x7d]"
  | memBase => "[Xn|SP]"
  | sysReg => "sysreg"
  | barrier => "option"

end Slot

/-- What an action puts into the word. Actions consume the operands' parts in order, except those
that only look at the next part. -/
inductive Action where
  /-- A register index at a position. -/
  | reg (pos : Nat)
  /-- The index of the next register, which a later action consumes. -/
  | peek (pos : Nat)
  | imm (field : BitField)
  /-- Twelve bits with an optional shift by twelve. -/
  | addImm
  | logical (is64 : Bool)
  /-- Sixteen bits with an optional shift. -/
  | wide (is64 : Bool)
  /-- A value as a chunk for MOVZ, or its complement for MOVN. -/
  | movWide (is64 inverted : Bool)
  /-- An optional shift below the register width. -/
  | shift (width : Nat)
  /-- An optional extension, with the option that stands for none. -/
  | extend (option : Nat)
  | memIndex (scale : Nat)
  | cond (pos : Nat)
  | condInv (pos : Nat)
  | rel (kind : Reloc)
  /-- Lowest bit and width of an extracted field. -/
  | extract (width : Nat)
  /-- Lowest bit and width of an inserted field. -/
  | insert (width : Nat)
  | shiftLeft (width : Nat)
  | shiftRight (width : Nat)
  | float8 (pos : Nat)
  | byteMask
  | vectorImm
  /-- Whether the next vector has 128 bits. -/
  | vecQ (pos : Nat)
  /-- The element size of the next vector. -/
  | vecSize (pos : Nat)
  /-- The low bit of the element size of the next vector. -/
  | vecSz (pos : Nat)
  /-- The element size of the next vector as the lowest set bit of a field. -/
  | vecImm5
  /-- A vector register with its element size and lane. -/
  | elemImm5 (pos : Nat)
  /-- The first register of a list, and the number of registers. -/
  | list (pos : Nat)
  /-- The bytes that the list transfers. -/
  | listPost
  | testBit (width : Nat)
  /-- An operand that leaves no bits. -/
  | skip
  deriving DecidableEq, Repr

structure Template where
  base : Word
  slots : List Slot
  actions : List Action
  deriving DecidableEq, Repr

namespace Template

/-- Whether the slots take the operands; only optional slots may be left over. `arr` is the
arrangement of the first vector. -/
def accepts (t : Template) (args : List Operand) : Bool := go none t.slots args
where
  go (arr : Option Arrangement) : List Slot → List Operand → Bool
    | [], [] => true
    | [], _ :: _ => false
    | s :: _, [] => s.isOptional
    | s :: ss, a :: as => s.takes a && match s, a with
      | .vec _ same, .vec v => match arr with
        | none => go (some v.arr) ss as
        | some first => (!same || v.arr == first) && go arr ss as
      | _, _ => go arr ss as

/-- The template as a form of its mnemonic, as in `add Xn|SP, Xn|SP, #imm{, lsl #n}`. -/
def form (t : Template) (name : String) : String := name ++ go true t.slots
where
  go (first : Bool) : List Slot → String
    | [] => ""
    | s :: rest =>
      (if s.isOptional then "\x7b, " ++ s.name ++ "\x7d"
        else if first then " " ++ s.name
        else ", " ++ s.name) ++ go false rest

end Template

structure Entry where
  name : String
  template : Template
  deriving DecidableEq, Repr

end MachineCode.AArch64
