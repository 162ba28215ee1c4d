/-!
Places for operands in the rows of the instruction table. A slot takes operands of one kind and
size. The abbreviations at the end are named by the letters of kind and size, with `a` for any
size and `n` for none.
-/
namespace MachineCode.X86

inductive SlotKind where
  | imm
  /-- A displacement from the end of the instruction. -/
  | offset
  | mem
  /-- Memory indexed by a vector, with results of four bytes. -/
  | vsibDword
  /-- Memory indexed by a vector, with results of eight bytes. -/
  | vsibQword
  | gpr
  | fpu
  | mmx
  | vector
  | segment
  | control
  | debug
  | bound
  | gprOrMem
  | mmxOrMem
  | vectorOrMem
  /-- The general purpose register of a given number. -/
  | fixed (num : Nat)
  /-- The segment register of a given number. -/
  | fixedSegment (num : Nat)
  | cr8
  | st0
  deriving DecidableEq, Repr

inductive SlotSize where
  | byte
  | word
  | dword
  | qword
  | fword
  | pword
  | octword
  | hexword
  /-- Every size that the kind has. -/
  | any
  /-- No size at all. -/
  | unsized
  deriving DecidableEq, Repr

structure Slot where
  kind : SlotKind
  size : SlotSize
  deriving DecidableEq, Repr

namespace SlotKind

def letter : SlotKind → Char
  | imm => 'i'
  | offset => 'o'
  | mem => 'm'
  | vsibDword => 'k'
  | vsibQword => 'l'
  | gpr => 'r'
  | fpu => 'f'
  | mmx => 'x'
  | vector => 'y'
  | segment => 's'
  | control => 'c'
  | debug => 'd'
  | bound => 'b'
  | gprOrMem => 'v'
  | mmxOrMem => 'u'
  | vectorOrMem => 'w'
  | fixed num => Char.ofNat ('A'.toNat + num)
  | fixedSegment num => Char.ofNat ('Q'.toNat + num)
  | cr8 => 'W'
  | st0 => 'X'

def isImplied : SlotKind → Bool
  | fixed _ | fixedSegment _ | cr8 | st0 => true
  | _ => false

def isTrailing : SlotKind → Bool
  | imm | offset => true
  | _ => false

def takesMem : SlotKind → Bool
  | mem | vsibDword | vsibQword | gprOrMem | mmxOrMem | vectorOrMem => true
  | _ => false

def isVsib : SlotKind → Bool
  | vsibDword | vsibQword => true
  | _ => false

def isSpecial : SlotKind → Bool
  | segment | control | debug => true
  | _ => false

end SlotKind

namespace SlotSize

def letter : SlotSize → Char
  | byte => 'b'
  | word => 'w'
  | dword => 'd'
  | qword => 'q'
  | fword => 'f'
  | pword => 'p'
  | octword => 'o'
  | hexword => 'h'
  | any => '*'
  | unsized => '!'

/-- The number of bytes; zero where the slot does not fix it. -/
def bytes : SlotSize → Nat
  | byte => 1
  | word => 2
  | dword => 4
  | qword => 8
  | fword => 6
  | pword => 10
  | octword => 16
  | hexword => 32
  | any | unsized => 0

end SlotSize

namespace Slot

def render (s : Slot) : String := String.ofList [s.kind.letter, s.size.letter]

abbrev bo : Slot := ⟨.bound, .octword⟩
abbrev cd : Slot := ⟨.control, .dword⟩
abbrev cq : Slot := ⟨.control, .qword⟩
abbrev dd : Slot := ⟨.debug, .dword⟩
abbrev dq : Slot := ⟨.debug, .qword⟩
abbrev fp : Slot := ⟨.fpu, .pword⟩
abbrev ia : Slot := ⟨.imm, .any⟩
abbrev ib : Slot := ⟨.imm, .byte⟩
abbrev id : Slot := ⟨.imm, .dword⟩
abbrev iq : Slot := ⟨.imm, .qword⟩
abbrev iw : Slot := ⟨.imm, .word⟩
abbrev ka : Slot := ⟨.vsibDword, .any⟩
abbrev la : Slot := ⟨.vsibQword, .any⟩
abbrev lo : Slot := ⟨.vsibQword, .octword⟩
abbrev mn : Slot := ⟨.mem, .unsized⟩
abbrev ma : Slot := ⟨.mem, .any⟩
abbrev mb : Slot := ⟨.mem, .byte⟩
abbrev md : Slot := ⟨.mem, .dword⟩
abbrev mf : Slot := ⟨.mem, .fword⟩
abbrev mh : Slot := ⟨.mem, .hexword⟩
abbrev mo : Slot := ⟨.mem, .octword⟩
abbrev mp : Slot := ⟨.mem, .pword⟩
abbrev mq : Slot := ⟨.mem, .qword⟩
abbrev mw : Slot := ⟨.mem, .word⟩
abbrev ob : Slot := ⟨.offset, .byte⟩
abbrev od : Slot := ⟨.offset, .dword⟩
abbrev ra : Slot := ⟨.gpr, .any⟩
abbrev rb : Slot := ⟨.gpr, .byte⟩
abbrev rd : Slot := ⟨.gpr, .dword⟩
abbrev rq : Slot := ⟨.gpr, .qword⟩
abbrev rw : Slot := ⟨.gpr, .word⟩
abbrev sw : Slot := ⟨.segment, .word⟩
abbrev uq : Slot := ⟨.mmxOrMem, .qword⟩
abbrev va : Slot := ⟨.gprOrMem, .any⟩
abbrev vb : Slot := ⟨.gprOrMem, .byte⟩
abbrev vd : Slot := ⟨.gprOrMem, .dword⟩
abbrev vq : Slot := ⟨.gprOrMem, .qword⟩
abbrev vw : Slot := ⟨.gprOrMem, .word⟩
abbrev wa : Slot := ⟨.vectorOrMem, .any⟩
abbrev wh : Slot := ⟨.vectorOrMem, .hexword⟩
abbrev wo : Slot := ⟨.vectorOrMem, .octword⟩
abbrev xq : Slot := ⟨.mmx, .qword⟩
abbrev ya : Slot := ⟨.vector, .any⟩
abbrev yh : Slot := ⟨.vector, .hexword⟩
abbrev yo : Slot := ⟨.vector, .octword⟩
abbrev Aa : Slot := ⟨.fixed 0, .any⟩
abbrev Ab : Slot := ⟨.fixed 0, .byte⟩
abbrev Ad : Slot := ⟨.fixed 0, .dword⟩
abbrev Aq : Slot := ⟨.fixed 0, .qword⟩
abbrev Aw : Slot := ⟨.fixed 0, .word⟩
abbrev Bb : Slot := ⟨.fixed 1, .byte⟩
abbrev Bd : Slot := ⟨.fixed 1, .dword⟩
abbrev Cd : Slot := ⟨.fixed 2, .dword⟩
abbrev Cw : Slot := ⟨.fixed 2, .word⟩
abbrev Qw : Slot := ⟨.fixedSegment 0, .word⟩
abbrev Rw : Slot := ⟨.fixedSegment 1, .word⟩
abbrev Sw : Slot := ⟨.fixedSegment 2, .word⟩
abbrev Tw : Slot := ⟨.fixedSegment 3, .word⟩
abbrev Uw : Slot := ⟨.fixedSegment 4, .word⟩
abbrev Vw : Slot := ⟨.fixedSegment 5, .word⟩
abbrev Wd : Slot := ⟨.cr8, .dword⟩
abbrev Wq : Slot := ⟨.cr8, .qword⟩
abbrev Xp : Slot := ⟨.st0, .pword⟩

end Slot

end MachineCode.X86
