import MachineCode.X86.Address
import MachineCode.X86.Inst
import MachineCode.X86.Shape

/-!
Finding the form of an instruction that takes given operands. Forms are tried in table order.
Operands without a size take that of the form; all operands in slots for any size must agree on
one size, the operand size. Operands are changed in place, so a form that takes them but can not
size them leaves a scratch that has to be put right before the next form is tried.
-/
namespace MachineCode.X86

namespace SlotKind

def takes (k : SlotKind) (a : Operand) : Bool :=
  let plainMem := a.mem?.any (!·.isVsib)
  let isReg (p : Register → Bool) : Bool := a.reg?.any p
  match k with
  | imm =>
    match a with
    | .imm _ | .addr _ => true
    | _ => false
  | offset =>
    match a with
    | .disp _ => true
    | _ => false
  | mem => plainMem
  | vsibDword | vsibQword => a.mem?.any (·.isVsib)
  | gpr => isReg (·.isGeneral)
  | gprOrMem => plainMem || isReg (·.isGeneral)
  | mmx => isReg (·.isClass .mmx)
  | mmxOrMem => plainMem || isReg (·.isClass .mmx)
  | vector => isReg (·.isVector)
  | vectorOrMem => plainMem || isReg (·.isVector)
  | fpu => isReg (·.isClass .fpu)
  | segment => isReg (·.isClass .segment)
  | control => isReg (·.isClass .control)
  | debug => isReg (·.isClass .debug)
  | bound => isReg (·.isClass .bound)
  | cr8 => isReg (· == Register.cr8)
  | st0 => isReg (· == Register.st0)
  | fixed n => isReg fun r => r.isClass .legacy && r.num == n
  | fixedSegment n => isReg fun r => r.isClass .segment && r.num == n

def takesWidth (k : SlotKind) (n : Nat) : Bool :=
  match k with
  | imm => n ≤ 4
  | vector | vectorOrMem => n == 16 || n == 32
  | gpr | gprOrMem | fixed _ => n == 2 || n == 4 || n == 8
  | _ => false

end SlotKind

namespace Slot

def takesImm (s : Slot) (v : Int64) (exact : Bool) : Bool :=
  match s.size with
  | .byte => !exact && Imm.fits v 1
  | .word => Imm.fits v 2
  | .dword => Imm.fits v 4
  | .qword | .any => true
  | _ => false

/-- Whether memory of a given width can go into the slot; a width of zero is unknown. -/
def takesMemWidth (s : Slot) (width : Nat) (exact : Bool) : Bool :=
  match s.size with
  | .unsized => s.kind == .mem
  | .any =>
    match s.kind with
    | .mem => true
    | .gprOrMem => width == 0 || width == 2 || width == 4 || width == 8
    | .vectorOrMem => width == 0 || width == 16 || width == 32
    | _ => false
  | size => if width = 0 then !exact else size.bytes == width

def takesSize (s : Slot) (a : Operand) (exact : Bool) : Bool :=
  let sized (n : Nat) : Bool :=
    match s.size with
    | .any => s.kind.takesWidth n
    | .unsized => false
    | size => size.bytes == n
  match a with
  | .imm ⟨v, 0⟩ => s.takesImm v exact
  | .addr a => s.size.bytes == a.width
  | .disp (.rel v 0) =>
    match s.size with
    | .byte => !exact && Disp.fits v 1
    | .dword => true
    | _ => false
  | .disp (.label l) =>
    if l.width = 0 then s.size == .dword || (s.size == .byte && !exact)
    else s.size.bytes == l.width
  | .mem m =>
    if s.kind.isVsib then
      let n := (m.index.map (·.width)).getD 0
      if s.size = .any then n == 16 || n == 32 else s.size.bytes == n
    else s.takesMemWidth m.width exact
  | a => sized a.width

def takes (s : Slot) (a : Operand) (exact : Bool) : Bool := s.kind.takes a && s.takesSize a exact

end Slot

namespace Form

def takes (f : Form) (mode : Mode) (features : Features) (args : List Operand) : Bool :=
  features.includes f.featureSet && (!f.has .x86Only || mode == .x86) &&
    f.slots.length == args.length &&
    (f.slots.zip args).all fun (s, a) => s.takes a (f.has .exactSize)

end Form

structure SizeVotes where
  /-- Whether there is a register or memory among them. -/
  anyOperand : Bool := false
  operand : Option Nat := none
  imm : Option Nat := none
  deriving DecidableEq, Repr

namespace SizeVotes

/-- The width that a register or memory in a slot for any size stands for. Memory widths from 128
on count as unknown. -/
def widthIn (s : Slot) : Operand → Option Nat
  | .mem m =>
    if s.kind.isVsib then some ((m.index.map (·.width)).getD 0)
    else if m.width = 0 || 128 ≤ m.width then none
    else some m.width
  | a => some a.width

def add (name : String) (v : SizeVotes) (s : Slot) (a : Operand) : Except Refusal SizeVotes :=
  if s.size ≠ .any then .ok v
  else
    match a with
    | .reg _ | .mem _ =>
      let v := { v with anyOperand := true }
      match widthIn s a, v.operand with
      | none, _ => .ok v
      | some w, none => .ok { v with operand := some w }
      | some w, some u => if u = w then .ok v else .error (.operandSizes name u w)
    | a =>
      match a.width, v.imm with
      | 0, _ => .ok v
      | w, none => .ok { v with imm := some w }
      | w, some u => if u = w then .ok v else .error (.immSizes name)

def collect (name : String) (slots : List (Slot × Operand)) : Except Refusal SizeVotes :=
  slots.foldlM (fun v (s, a) => v.add name s a) {}

end SizeVotes

def settleSizes (name : String) (mode : Mode) (f : Form) (v : SizeVotes) :
    Except Refusal (Option Nat × Nat) :=
  let operand :=
    if v.anyOperand && f.has .autoNo32 then v.operand.or (some mode.addrSize) else v.operand
  match operand with
  | some n =>
    let limit := min n 4
    if v.imm.any (limit < ·) then .error (.immWidth name) else .ok (some n, limit)
  | none => if v.anyOperand then .error (.unknownSize name) else .ok (none, v.imm.getD 4)

def resize (name : String) (operand : Option Nat) (imm : Nat) (s : Slot) (a : Operand) :
    Except Refusal Operand :=
  let size := if s.size = .any then imm else s.size.bytes
  match a with
  | .imm ⟨v, 0⟩ =>
    let fits :=
      if size = 4 && operand == some 8 then Imm.fitsSigned v else Imm.fits v size
    if s.size = .any && !fits then .error (.immRange v size name) else .ok (.imm (.ofSize v size))
  | .imm i => .ok (if i.width = size then a else .imm (.ofSize i.value size))
  | .disp (.rel v 0) => .ok (.disp (.ofSize v size))
  | .disp (.label l) => .ok (if l.width = 0 then .disp (.label { l with width := size }) else a)
  | a => .ok a

def sizesIn (name : String) (mode : Mode) (f : Form) (args : List Operand) :
    Except Refusal (Option Nat × Nat) := do
  settleSizes name mode f (← SizeVotes.collect name (f.slots.zip args))

structure Match where
  mode : Mode
  inst : Inst
  /-- The number of the form. -/
  row : Nat
  form : Form
  args : List Operand
  addrSize : Nat
  operandSize : Option Nat
  deriving DecidableEq, Repr

namespace Match

def slots (m : Match) : List (Slot × Operand) := m.form.slots.zip m.args

def mem? (m : Match) : Option Mem := m.args.findSome? (·.mem?)

def unused (mode : Mode) : Match :=
  { mode
    inst := .nothing
    row := 0
    form := { opcode := [], flags := [], features := [], digit := none, slots := [] }
    args := []
    addrSize := mode.addrSize
    operandSize := none }

end Match

/-- An operand as a matcher holds it. Only its place is kept of a memory operand. -/
inductive Held where
  | plain (a : Operand)
  | memory
  deriving DecidableEq, Repr

/-- Sizes operands in their slots, one after the other, up to the first that can not be sized. The
operands come back as far as they were changed by then. -/
def resizeHeld (name : String) (operand : Option Nat) (imm : Nat) :
    List Slot → List Held → List Held × Option Refusal
  | _ :: slots, .memory :: rest =>
    let (rest, failure?) := resizeHeld name operand imm slots rest
    (.memory :: rest, failure?)
  | s :: slots, .plain a :: rest =>
    match resize name operand imm s a with
    | .error e => (.plain a :: rest, some e)
    | .ok a =>
      let (rest, failure?) := resizeHeld name operand imm slots rest
      (.plain a :: rest, failure?)
  | _, args => (args, none)

structure Scratch where
  inst : Inst
  args : List Held := []
  /-- The place of the memory operand, if there is one. -/
  memOffset : Option Nat := none
  mem : Mem := {}
  deriving DecidableEq, Repr

namespace Scratch

def operand (s : Scratch) : Held → Operand
  | .plain a => a
  | .memory => .mem s.mem

def operands (s : Scratch) : List Operand := s.args.map s.operand

def push (s : Scratch) : Operand → Scratch
  | .mem m => { s with args := s.args ++ [.memory], memOffset := some s.args.length, mem := m }
  | a => { s with args := s.args ++ [.plain a] }

def fill (s : Scratch) : List (Option Operand) → Except Refusal Scratch
  | [] => .ok s
  | none :: _ => .error (.missingOperand s.args.length s.inst.name)
  | some a :: rest =>
    if a.mem?.isSome && s.memOffset.isSome then .error (.secondMem s.inst.name)
    else (s.push a).fill rest

def hold (inst : Inst) (args : List (Option Operand)) : Except Refusal Scratch := do
  if !inst.isKnown then throw (.invalidInstruction inst.word)
  if 4 < args.length then throw (.tooManyOperands inst.name)
  fill { inst } args

/-- The scratch for operands in one of the usual orders. Nothing is left to check about them. -/
def ofShape (inst : Inst) (s : Shape) : Scratch :=
  let constant := (s.constant?.map fun c => Held.plain c.operand).toList
  match s with
  | .regReg dst src _ => { inst, args := .plain (.reg dst) :: .plain (.reg src) :: constant }
  | .regMem dst src _ =>
    { inst, args := .plain (.reg dst) :: .memory :: constant, memOffset := some 1, mem := src }
  | .memReg dst src _ =>
    { inst, args := .memory :: .plain (.reg src) :: constant, memOffset := some 0, mem := dst }
  | .reg dst _ => { inst, args := .plain (.reg dst) :: constant }
  | .mem dst _ => { inst, args := .memory :: constant, memOffset := some 0, mem := dst }

def registers (s : Scratch) : List Register :=
  (s.args.filterMap fun | .plain a => a.reg? | .memory => none) ++
    if s.memOffset.isSome then s.mem.registers else []

def existsIn32 (r : Register) : Bool :=
  !(r.isClass .ip || r.isExtended || r.isLowByte || (r.isClass .legacy && r.width == 8))

def checkMode (mode : Mode) (s : Scratch) : Except Refusal Unit :=
  match mode with
  | .x64 => .ok ()
  | .x86 =>
    match s.registers.find? (!existsIn32 ·) with
    | some r => .error (.not32 r)
    | none => .ok ()

def settle (mode : Mode) (s : Scratch) : Except Refusal (Scratch × Nat) :=
  if s.memOffset.isNone then .ok (s, mode.addrSize)
  else do
    let (mem, size) ← s.mem.settle
    return ({ s with mem }, size.getD mode.addrSize)

def resizeArgs (mode : Mode) (f : Form) (s : Scratch) : Scratch × Except Refusal (Option Nat) :=
  match sizesIn s.inst.name mode f s.operands with
  | .error e => (s, .error e)
  | .ok (operandSize, imm) =>
    match resizeHeld s.inst.name operandSize imm f.slots s.args with
    | (args, some e) => ({ s with args }, .error e)
    | (args, none) => ({ s with args }, .ok operandSize)

def found (s : Scratch) (mode : Mode) (form : Form) (row addrSize : Nat)
    (operandSize : Option Nat) : Match :=
  { mode, inst := s.inst, row, form, args := s.operands, addrSize, operandSize }

end Scratch

structure Matcher where
  mode : Mode
  features : Features := .everything
  deriving DecidableEq, Repr

namespace Matcher

/-- The first of some rows that takes the operands and can size them. The operands are put back
after a row that can not; if none can, the first failure is told. -/
def search (c : Matcher) (original : Scratch) (addrSize : Nat) (failure? : Option Refusal)
    (s : Scratch) : List (Row × Nat) → Except Refusal Match
  | [] => .error (failure?.getD .noMatch)
  | (row, i) :: rest =>
    if row.form.takes c.mode c.features s.operands then
      match s.resizeArgs c.mode row.form with
      | (s, .ok operandSize) => .ok (s.found c.mode row.form i addrSize operandSize)
      | (s, .error e) =>
        let s := { s with args := original.args, mem := original.mem }
        c.search original addrSize (failure?.or (some e)) s rest
    else c.search original addrSize failure? s rest

def matchFrom (c : Matcher) (s : Scratch) (offset : Nat) : Except Refusal Match := do
  s.checkMode c.mode
  let (s, addrSize) ← s.settle c.mode
  if !c.mode.hasAddrSize addrSize then throw (.addrSize addrSize c.mode)
  c.search s addrSize none s (s.inst.rows.drop offset)

def find (c : Matcher) (inst : Inst) (args : List (Option Operand)) : Except Refusal Match := do
  c.matchFrom (← Scratch.hold inst args) 0

def findShape (c : Matcher) (inst : Inst) (s : Shape) : Except Refusal Match :=
  c.matchFrom (.ofShape inst s) 0

/-- Matches from an offset on, one in each round, with what ended the search. The operands are
taken in anew for each. -/
def collect (c : Matcher) (inst : Inst) (args : List (Option Operand)) :
    (rounds offset : Nat) → Except Refusal (List Match × Option Refusal)
  | 0, _ => .ok ([], none)
  | rounds + 1, offset =>
    if inst.count ≤ offset then .ok ([], none)
    else do
      let s ← Scratch.hold inst args
      match c.matchFrom s offset with
      | .error e => return ([], some e)
      | .ok m =>
        let (found, failure?) ← c.collect inst args rounds (m.row + 1 - inst.first)
        return (m :: found, failure?)

def findAll (c : Matcher) (inst : Inst) (args : List (Option Operand)) :
    Except Refusal (List Match) := do
  match ← c.collect inst args inst.count 0 with
  | ([], failure?) => throw (failure?.getD .noMatch)
  | (found, _) => return found

end Matcher

end MachineCode.X86
