import MachineCode.X86.Matching
import MachineCode.X86.Reloc

/-!
The bytes of a matched instruction: prefixes, opcode, address and immediates, in this order.
Targets become fields of zeros with a reference each, which counts back from the end of the
instruction.
-/
namespace MachineCode.X86

inductive Piece where
  | bytes (bs : Bytes)
  | field (size : Nat) (kind : RelocKind) (target : Target) (addend : Int64)
  deriving DecidableEq, Repr

namespace Piece

/-- Joins the pieces. The trail of a field is what comes after it. -/
def join : List Piece → Encoded Reloc
  | [] => ⟨[], []⟩
  | bytes bs :: rest =>
    let e := join rest
    ⟨bs ++ e.code, e.refs⟩
  | field size kind target addend :: rest =>
    let e := join rest
    ⟨List.replicate size 0 ++ e.code,
      ⟨target, addend, ⟨UInt8.ofNat e.code.length, UInt8.ofNat size, kind⟩⟩ :: e.refs⟩

end Piece

structure Placement where
  /-- The register field. -/
  reg : Option Operand := none
  /-- The register or memory field, or the low bits of the opcode. -/
  rm : Option Operand := none
  /-- The extra register of a VEX or XOP prefix. -/
  extra : Option Operand := none
  /-- The register in the high half of an immediate byte. -/
  last : Option Operand := none
  deriving DecidableEq, Repr

inductive Role where
  | rm
  | reg
  | extra
  | last
  deriving DecidableEq, Repr

/-- The places of `n` operands. A special register goes into the register field; then the flags
choose, except that memory can only go into its own field. -/
def roles (n : Nat) (mem special : Option Nat) (f : Form) : List Role :=
  match special with
  | some 0 => [.reg, .rm]
  | some _ => [.rm, .reg]
  | none =>
    match n with
    | 1 => [.rm]
    | 2 =>
      if f.has .encMR || mem == some 0 then [.rm, .reg]
      else if f.has .encVM then [.extra, .rm]
      else [.reg, .rm]
    | 3 =>
      if mem == some 1 then [.reg, .rm, .extra]
      else if f.has .encVM || mem == some 0 then [.rm, .extra, .reg]
      else [.reg, .extra, .rm]
    | 4 => if mem == some 2 then [.reg, .extra, .rm, .last] else [.reg, .extra, .last, .rm]
    | _ => []

namespace Match

/-- The operands that take a place; implied registers and numbers do not. -/
def placed (m : Match) : List (Slot × Operand) :=
  m.slots.filter fun (s, _) => !s.kind.isImplied && !s.kind.isTrailing

def trailing (m : Match) : List Operand :=
  (m.slots.filter fun (s, _) => s.kind.isTrailing).map (·.2)

def placement (m : Match) : Placement :=
  let operands := m.placed
  let mem := operands.findIdx? (·.1.kind.takesMem)
  let special := operands.findIdx? (·.1.kind.isSpecial)
  ((roles operands.length mem special m.form).zip (operands.map (·.2))).foldl
    (fun p (role, a) =>
      match role with
      | .rm => { p with rm := some a }
      | .reg => { p with reg := some a }
      | .extra => { p with extra := some a }
      | .last => { p with last := some a })
    {}

end Match

structure SizeBits where
  /-- The operand size prefix `66`. -/
  short : Bool := false
  wide : Bool := false
  long : Bool := false
  deriving DecidableEq, Repr

namespace Match

/-- What the operand size asks for, in forms that leave it open. -/
def autoSize (m : Match) : Except SizeFault SizeBits :=
  let f := m.form
  if !(f.has .autoSize || f.has .autoNo32 || f.has .autoRexW || f.has .autoVexL) then .ok {}
  else
    match m.operandSize with
    | none => .error .noWildcard
    | some n =>
      if f.has .autoNo32 then
        if n = 2 then .ok { short := true }
        else if n = m.mode.addrSize then .ok {}
        else .error (.unsupported n m.mode)
      else if f.has .autoRexW then
        if n = 8 then .ok { wide := true } else if n = 4 then .ok {} else .error (.notDword n)
      else if f.has .autoVexL then
        if n = 32 then .ok { long := true } else if n = 16 then .ok {} else .error (.notVector n)
      else if n = 2 then .ok { short := true }
      else if n = 8 then .ok { wide := true }
      else if n = 4 then .ok {}
      else .error (.bad n)

def sizeBits (m : Match) : Except SizeFault SizeBits :=
  m.autoSize.map fun b =>
    { short := b.short || m.form.has .wordSize || m.form.has .pref66
      wide := b.wide || m.form.has .withRexW
      long := b.long || m.form.has .withVexL }

def hasHighByte (m : Match) : Bool :=
  m.slots.any fun (s, a) => !s.kind.isImplied && a.reg?.any (·.isClass .highByte)

def needsRex (m : Match) : Bool :=
  m.slots.any fun (s, a) =>
    !s.kind.isImplied &&
      match a with
      | .reg r => !r.isClass .highByte && (r.isExtended || r.isLowByte)
      | .mem a => a.base.any (·.isExtended) || a.index.any (·.isExtended)
      | _ => false

def mandatory (m : Match) : Option UInt8 :=
  if m.form.has .prefF0 then some 0xf0
  else if m.form.has .prefF2 then some 0xf2
  else if m.form.has .prefF3 then some 0xf3
  else none

end Match

structure FieldNumbers where
  reg : UInt8
  index : UInt8
  base : UInt8
  deriving DecidableEq, Repr

def Register.num8 (r : Register) : UInt8 := UInt8.ofNat r.num

def regNum8 (r : Option Register) : UInt8 := (r.map (·.num8)).getD 0

def fourthBit (num : UInt8) : UInt8 := num / 8 % 2

namespace Placement

def numbers (p : Placement) : FieldNumbers :=
  let reg := regNum8 (p.reg.bind (·.reg?))
  match p.rm with
  | some (.reg r) => ⟨reg, 0, r.num8⟩
  | some (.mem m) => ⟨reg, regNum8 m.index, regNum8 m.base⟩
  | _ => ⟨reg, 0, 0⟩

def rex (p : Placement) (wide : Bool) : UInt8 :=
  let n := p.numbers
  0x40 + (if wide then 8 else 0) + 4 * fourthBit n.reg + 2 * fourthBit n.index + fourthBit n.base

/-- The VEX or XOP prefix, in its short form if that is enough. Register bits are inverted. -/
def vex (p : Placement) (isVex : Bool) (map pref : UInt8) (bits : SizeBits) : Bytes :=
  let n := p.numbers
  let extra := regNum8 (p.extra.bind (·.reg?))
  let regBit := 128 * (1 - fourthBit n.reg)
  let rest := 64 * (1 - fourthBit n.index) + 32 * (1 - fourthBit n.base) + map % 32
  let last := 8 * (15 - extra) + (if bits.long then 4 else 0) + pref % 4
  if isVex && rest == 0x61 && !bits.wide then [0xc5, regBit + last]
  else [if isVex then 0xc4 else 0x8f, regBit + rest, (if bits.wide then 128 else 0) + last]

def lastBytes (p : Placement) : Bytes :=
  match p.last with
  | some (.reg r) => [r.num8 <<< 4]
  | _ => []

end Placement

def modByte (mode reg rm : UInt8) : UInt8 := mode <<< 6 ||| (reg &&& 7) <<< 3 ||| (rm &&& 7)

def dispPiece (d : Option Disp) (size : Nat) (kind : RelocKind) : Piece :=
  match d with
  | some (.label l) => .field size kind l.target l.disp.toInt64
  | some (.rel v _) => .bytes (Bytes.ofNat size v.toBitVec.toNat)
  | none => .bytes (Bytes.ofNat size 0)

namespace Mem

def scaleBits (m : Mem) : UInt8 :=
  match m.scale with
  | 2 => 1
  | 4 => 2
  | 8 => 3
  | _ => 0

def emitWord (m : Mem) (reg : UInt8) : List Piece :=
  let rm := regNum8 m.base
  match (m.disp.map (·.width)).getD 0 with
  | 0 =>
    if rm = 6 then [.bytes [modByte 1 reg rm], dispPiece m.disp 1 .absToRel]
    else [.bytes [modByte 0 reg rm]]
  | 1 => [.bytes [modByte 1 reg rm], dispPiece m.disp 1 .absToRel]
  | _ => [.bytes [modByte 2 reg rm], dispPiece m.disp 2 .absToRel]

def emitIp (m : Mem) (reg : UInt8) : List Piece :=
  let kind :=
    match m.disp with
    | some (.label l) => l.kind
    | _ => .relative
  [.bytes [modByte 0 reg 5], dispPiece m.disp 4 kind]

/-- The mode bits of an address of base and index, and the length of its displacement. Without a
base the displacement has four bytes; some bases need a displacement in any case. -/
def layout (m : Mem) : UInt8 × Nat :=
  let width := (m.disp.map (·.width)).getD 0
  match m.base with
  | none => (0, 4)
  | some b =>
    if width = 0 then if b.num % 8 = 5 then (1, 1) else (0, 0)
    else if width = 1 then (1, 1)
    else (2, 4)

/-- The bytes in front of the displacement. An index needs a second byte, and so does an address
without registers in 64-bit mode. -/
def scaledHead (m : Mem) (mode : Mode) (modBits reg : UInt8) : Bytes :=
  match m.index, m.base with
  | some i, base =>
    [modByte modBits reg 4, modByte m.scaleBits i.num8 ((base.map (·.num8)).getD 5)]
  | none, some b => [modByte modBits reg b.num8]
  | none, none =>
    match mode with
    | .x86 => [modByte 0 reg 5]
    | .x64 => [modByte 0 reg 4, modByte 0 4 5]

def emitLegacy (m : Mem) (mode : Mode) (reg : UInt8) : List Piece :=
  .bytes (m.scaledHead mode m.layout.1 reg) ::
    if m.layout.2 = 0 then [] else [dispPiece m.disp m.layout.2 .absToRel]

def emit (m : Mem) (mode : Mode) (addrSize : Nat) (reg : UInt8) : List Piece :=
  if addrSize = 2 then m.emitWord reg
  else if m.base.any (·.isClass .ip) then m.emitIp reg
  else m.emitLegacy mode reg

end Mem

def trailingPiece : Operand → Piece
  | .imm i => .bytes (Bytes.ofNat i.width i.value.toBitVec.toNat)
  | .addr a => .field a.width .absToRel a.target a.addend
  | .disp (.label l) => .field l.width l.kind l.target l.disp.toInt64
  | .disp d => dispPiece (some d) d.width .relative
  | _ => .bytes []

def segmentPrefix (r : Register) : UInt8 := ([0x26, 0x2e, 0x36, 0x3e, 0x64, 0x65][r.num]?).getD 0

namespace Match

def checkPrefix (m : Match) (b : UInt8) : Except Refusal Unit :=
  let allow (p : Repeat) (ok : Bool) : Except Refusal Unit :=
    if ok then .ok () else .error (.noPrefix p m.inst.name)
  if b = 0 then .ok ()
  else if b = Repeat.lock.byte then allow .lock (m.form.has .lock)
  else if b = Repeat.rep.byte then allow .rep (m.form.has .rep || m.form.has .repe)
  else if b = Repeat.repne.byte then allow .repne (m.form.has .repe)
  else .error (.unknownPrefixByte b)

def rexNeed (m : Match) (wide : Bool) : Except Refusal Bool :=
  let need := wide || m.needsRex
  if need && m.hasHighByte then .error .highByte
  else if need && m.mode = .x86 && !m.form.isVector then .error (.needsRex m.inst.name)
  else .ok need

def addrPrefix (m : Match) : Bool :=
  m.form.has .pref67 ||
    match m.mode with
    | .x64 => m.addrSize == 4
    | .x86 => m.addrSize == 2

def formPrefixes (m : Match) (p : Placement) (bits : SizeBits) (rex : Bool) (opcode : Bytes) :
    Bytes × Bytes :=
  if m.form.isVector then
    let pref : UInt8 :=
      if bits.short then 1
      else if m.mandatory == some 0xf3 then 2
      else if m.mandatory == some 0xf2 then 3
      else 0
    (p.vex (m.form.has .vex) (opcode.headD 0) pref bits, opcode.tail)
  else
    (m.mandatory.toList ++ (if bits.short then [0x66] else []) ++
      (if rex then [p.rex bits.wide] else []), opcode)

def opcodeBytes (m : Match) (p : Placement) (opcode : Bytes) : Bytes :=
  if m.form.has .shortArg then
    opcode.dropLast ++ [opcode.getLastD 0 + (regNum8 (p.rm.bind (·.reg?)) &&& 7)]
  else opcode

def addressPieces (m : Match) (p : Placement) : List Piece :=
  let reg := ((p.reg.bind (·.reg?)).map (·.num8)).getD (UInt8.ofNat (m.form.digit.getD 7))
  if m.form.has .shortArg then []
  else
    match p.rm with
    | some (.reg r) => [.bytes [modByte 3 reg r.num8]]
    | some (.mem a) => a.emit m.mode m.addrSize reg
    | _ => []

def emit (m : Match) (b : UInt8) : Except Refusal (Encoded Reloc) := do
  m.checkPrefix b
  let bits ← m.sizeBits.mapError (.size m.inst.name)
  let rex ← m.rexNeed bits.wide
  let p := m.placement
  let seg := m.mem?.bind (·.seg)
  let inImm := m.form.has .immOp
  let opcode := if inImm then m.form.opcode.dropLast else m.form.opcode
  let (formPrefixes, opcode) := m.formPrefixes p bits rex opcode
  let head : Bytes :=
    (if b = 0 then [] else [b]) ++ (seg.map segmentPrefix).toList ++
      (if m.addrPrefix then [0x67] else []) ++ formPrefixes ++ m.opcodeBytes p opcode
  let after : Bytes := (if inImm then [m.form.opcode.getLastD 0] else []) ++ p.lastBytes
  return Piece.join
    (.bytes head :: m.addressPieces p ++ [.bytes after] ++ m.trailing.map trailingPiece)

end Match

end MachineCode.X86
