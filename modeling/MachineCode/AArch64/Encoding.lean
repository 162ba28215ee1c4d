import MachineCode.AArch64.Refusal
import MachineCode.AArch64.Template

/-!
Filling a template. The operands are broken into parts, whose registers are checked, and every
action of the template consumes a part and sets the bits of its own field.
-/
namespace MachineCode.AArch64

/-- A part of an operand that one action consumes. An operand that was left out is `absent`. -/
inductive Part where
  | absent
  | reg (r : Register)
  | vec (r : Register) (arr : Arrangement)
  | elem (r : Register) (size : ElemSize) (lane : UInt8)
  | list (r : Register) (arr : Arrangement) (count : Nat)
  | imm (v : Int64)
  | float (bits : UInt64)
  | mod (m : Mod)
  | cond (c : Cond)
  | label (l : LabelRef)
  deriving DecidableEq, Repr

namespace Part

def register : Part → Register
  | reg r | vec r _ | elem r _ _ | list r _ _ => r
  | _ => .absent

def regNum (p : Part) : Nat := p.register.num % 32

def arrangement : Part → Arrangement
  | vec _ a | list _ a _ => a
  | _ => ⟨0⟩

def value : Part → Int64
  | imm v => v
  | _ => 0

def modifier? : Part → Option Mod
  | mod m => some m
  | _ => none

def condition : Part → Cond
  | cond c => c
  | _ => ⟨0⟩

def labelRef : Part → LabelRef
  | label l => l
  | _ => ⟨.nowhere, 0⟩

end Part

/-- The first rule that a register breaks in its slot. A dynamic register that turns out to be
the zero register is no stack pointer. -/
def registerFault? (s : Slot) (r : Register) : Option Register.Fault :=
  match r.fault? with
  | some f => some f
  | none =>
    if r.isDynamic && r.num == 31 && (s == .gpWsp || s == .gpXsp) &&
        (r.family == Family.w || r.family == Family.x) then some .zeroAsStackPointer
    else none

def listFault? (name : String) (vs : List Vec) : Option Refusal :=
  let first := (vs.head?.map (·.reg.num)).getD 0
  vs.zipIdx.findSome? fun (v, j) =>
    match v.reg.fault? with
    | some f => some (.register name v.reg f)
    | none => if v.reg.num = (first + j) % 32 then none else some (.notConsecutive name vs)

def partsOf (name : String) (s : Slot) (a : Operand) : Except Refusal (List Part) :=
  let checked (r : Register) (parts : List Part) : Except Refusal (List Part) :=
    match r.fault? with
    | some f => .error (.register name r f)
    | none => .ok parts
  match a with
  | .reg r => match registerFault? s r with
    | some f => .error (.register name r f)
    | none => .ok [.reg r]
  | .vec v => checked v.reg [.vec v.reg v.arr]
  | .elem r size lane => do
    let parts ← checked r [.elem r size lane]
    if lane.toNat < size.lanes then .ok parts else .error (.lane name lane size)
  | .list vs => match listFault? name vs with
    | some f => .error f
    | none => .ok ((vs.head?.map fun v => Part.list v.reg v.arr vs.length).toList)
  | .imm v => .ok [.imm v]
  | .fimm bits => .ok [.float bits]
  | .mod m => .ok [.mod m]
  | .cond c => .ok [.cond c]
  | .label l => .ok [.label l]
  | .sysReg n => .ok [.imm (Int64.ofNat n.toNat)]
  | .barrier n => .ok [.imm (Int64.ofNat n.toNat)]
  | .mem m => do
    let base ← checked m.base [.reg m.base]
    match s with
    | .memIdx =>
      let index ← checked m.index [.reg m.index]
      .ok (base ++ index ++ [if m.mod.kind = .none then .absent else .mod m.mod])
    | .memBase => .ok base
    | _ => .ok (base ++ [.imm m.offset])

/-- The parts of all operands, one absent part for every slot without an operand. -/
def partsOfAll (name : String) : List Slot → List Operand → Except Refusal (List Part)
  | [], _ => .ok []
  | _ :: ss, [] => (partsOfAll name ss []).map (.absent :: ·)
  | s :: ss, a :: as => do
    let front ← partsOf name s a
    return front ++ (← partsOfAll name ss as)

def bitsAt (n pos : Nat) : Word := BitVec.ofNat 32 n <<< pos

def wordAt (v : Int64) (pos : Nat) : Word := v.toBitVec.setWidth 32 <<< pos

def vectorBits (imm : Nat) : Word := bitsAt (imm / 32 % 8) 16 ||| bitsAt (imm % 32) 5

structure Filling where
  word : Word
  parts : List Part
  refs : List (Ref Reloc) := []
  listBytes : Nat := 0

namespace Filling

def part (s : Filling) (i : Nat) : Part := s.parts.getD i .absent

def set (s : Filling) (consumed : Nat) (bits : Word) : Filling :=
  { s with word := s.word ||| bits, parts := s.parts.drop consumed }

/-- The bits of an immediate with an optional shift by twelve. Without one, a multiple of 4096 is
shifted by itself. -/
def addImmBits (name : String) (v : Int64) (p : Part) : Except Refusal Word := do
  let (sh, v) ← match p with
    | .mod m =>
      if m.amount = 12 then pure (1, v)
      else if m.amount ≠ 0 then .error (.range name .shift (Int64.ofNat m.amount.toNat))
      else pure (0, v)
    | .absent => pure (if 4096 ≤ v.toInt ∧ v.toInt % 4096 = 0 then (1, v >>> 12) else (0, v))
    | _ => pure (0, v)
  if fitsUnsigned v 12 then return bitsAt sh 22 ||| wordAt v 10
  else .error (.range name .immediate v)

def logicalBits (name : String) (v : Int64) (is64 : Bool) : Except Refusal Word :=
  match immBits v is64 with
  | none => .error (.range name .immediate v)
  | some u => match Bitmask.encode u is64 with
    | none => .error (.notBitmask name u)
    | some m => .ok (bitsAt m.n 22 ||| bitsAt m.immr 16 ||| bitsAt m.imms 10)

def wideBits (name : String) (v : Int64) (m? : Option Mod) (is64 : Bool) : Except Refusal Word :=
  if !fitsUnsigned v 16 then .error (.range name .immediate v)
  else
    let amount := (m?.map (·.amount.toNat)).getD 0
    if amount % 16 ≠ 0 ∨ amount / 16 ≥ (if is64 then 4 else 2) then
      .error (.range name .shift (Int64.ofNat amount))
    else .ok (wordAt v 5 ||| bitsAt (amount / 16) 21)

def movWideBits (name : String) (v : Int64) (is64 inverted : Bool) : Except Refusal Word :=
  let u := (immBits v is64).getD 0
  match wideImm (if inverted then invertBits u is64 else u) is64 with
  | none => .error (.range name .immediate v)
  | some (chunk, hw) => .ok (bitsAt chunk 5 ||| bitsAt hw 21)

/-- The index register with its extension. A word index is extended, a full one may be shifted or
sign-extended; the amount is zero or the logarithm of the access size. -/
def memIndexBits (name : String) (index : Register) (m? : Option Mod) (scale : Nat) :
    Except Refusal Word := do
  let isW := index.family == Family.w
  let option ← match m? with
    | some m =>
      if (isW && (m.kind == .uxtw || m.kind == .sxtw)) || (!isW && m.kind == .sxtx) then
        pure m.kind.extendOption
      else if !isW && m.kind == .lsl then pure 3
      else .error (.indexModifier name index m.kind)
    | none => if isW then .error (.indexExtension name index) else pure 3
  let s ← match m? with
    | some m =>
      if m.bare then pure 0
      else if m.amount.toNat = scale then pure 1
      else if m.amount ≠ 0 then .error (.range name .indexShift (Int64.ofNat m.amount.toNat))
      else pure 0
    | none => pure 0
  return bitsAt (index.num % 32) 16 ||| bitsAt option 13 ||| bitsAt s 12

def bitfieldBits (name : String) (lsb width : Int64) (size : Nat) (insert : Bool) :
    Except Refusal Word :=
  let n := Int64.ofNat size
  if lsb < 0 || n ≤ lsb then .error (.range name .lsb lsb)
  else if width < 1 || n < lsb + width then .error (.range name .width width)
  else if insert then .ok (wordAt ((n - lsb) % n) 16 ||| wordAt (width - 1) 10)
  else .ok (wordAt lsb 16 ||| wordAt (lsb + width - 1) 10)

def listCode : Nat → Nat
  | 1 => 0x7
  | 2 => 0xa
  | 3 => 0x6
  | 4 => 0x2
  | _ => 0

def step (name : String) (s : Filling) (a : Action) : Except Refusal Filling :=
  let p := s.part 0
  let arr := p.arrangement
  match a with
  | .reg pos => .ok (s.set 1 (bitsAt p.regNum pos))
  | .peek pos => .ok (s.set 0 (bitsAt p.regNum pos))
  | .imm f => match f.fault? p.value with
    | some .misaligned => .error (.misaligned name p.value f.unit)
    | some _ => .error (.range name .immediate p.value)
    | none => .ok (s.set 1 (f.place p.value))
  | .addImm => (addImmBits name p.value (s.part 1)).map (s.set 2)
  | .logical is64 => (logicalBits name p.value is64).map (s.set 1)
  | .wide is64 => (wideBits name p.value (s.part 1).modifier? is64).map (s.set 2)
  | .movWide is64 inverted => (movWideBits name p.value is64 inverted).map (s.set 1)
  | .shift width => match p with
    | .mod m =>
      if m.amount.toNat ≥ width then .error (.range name .shift (Int64.ofNat m.amount.toNat))
      else .ok (s.set 1 (bitsAt (m.kind.code.toNat - 1) 22 ||| bitsAt m.amount.toNat 10))
    | _ => .ok (s.set 1 0)
  | .extend option => match p with
    | .mod m =>
      if m.amount.toNat > 4 then .error (.range name .extendAmount (Int64.ofNat m.amount.toNat))
      else
        let option := if m.kind = .lsl then option else m.kind.extendOption
        .ok (s.set 1 (bitsAt m.amount.toNat 10 ||| bitsAt option 13))
    | _ => .ok (s.set 1 (bitsAt option 13))
  | .memIndex scale => (memIndexBits name p.register (s.part 1).modifier? scale).map (s.set 2)
  | .cond pos => .ok (s.set 1 (bitsAt (p.condition.code.toNat % 16) pos))
  | .condInv pos => .ok (s.set 1 (bitsAt (p.condition.invert.code.toNat % 16) pos))
  | .rel kind =>
    .ok { s.set 1 0 with refs := s.refs ++ [⟨p.labelRef.target, p.labelRef.addend, kind⟩] }
  | .extract width => (bitfieldBits name p.value (s.part 1).value width false).map (s.set 2)
  | .insert width => (bitfieldBits name p.value (s.part 1).value width true).map (s.set 2)
  | .shiftLeft width =>
    let n := p.value.toInt
    if n < 0 || n ≥ width then .error (.range name .shift p.value)
    else
      .ok (s.set 1 (bitsAt ((width - n.toNat) % width) 16 ||| bitsAt (width - 1 - n.toNat) 10))
  | .shiftRight width =>
    let n := p.value.toInt
    if n < 0 || n ≥ width then .error (.range name .shift p.value)
    else .ok (s.set 1 (bitsAt n.toNat 16))
  | .float8 pos =>
    let bits := match p with
      | .float bits => bits
      | _ => 0
    match fp8OfBits? bits with
    | none => .error (.notFloat8 name bits)
    | some imm => .ok (s.set 1 (bitsAt imm pos))
  | .byteMask => match stretchedImm p.value.toBitVec with
    | none => .error (.notByteMask name p.value.toBitVec)
    | some imm => .ok (s.set 1 (vectorBits imm))
  | .vectorImm =>
    let n := p.value.toInt
    if n < -128 || n > 255 then .error (.range name .immediate p.value)
    else .ok (s.set 1 (vectorBits (n % 256).toNat))
  | .vecQ pos => .ok (s.set 0 (bitsAt arr.q pos))
  | .vecSize pos => .ok (s.set 0 (bitsAt arr.size pos))
  | .vecSz pos => .ok (s.set 0 (bitsAt (arr.size % 2) pos))
  | .vecImm5 => .ok (s.set 0 (bitsAt (1 <<< arr.size) 16))
  | .elemImm5 pos => match p with
    | .elem _ size lane =>
      let e := size.code.toNat
      .ok (s.set 1 (bitsAt p.regNum pos ||| bitsAt ((2 * lane.toNat + 1) <<< e) 16))
    | _ => .ok (s.set 1 (bitsAt p.regNum pos ||| bitsAt 1 16))
  | .list pos => match p with
    | .list _ arr count =>
      .ok { s.set 1 (bitsAt p.regNum pos ||| bitsAt (listCode count) 12) with
        listBytes := count * arr.bytes }
    | _ => .ok (s.set 1 (bitsAt p.regNum pos))
  | .listPost =>
    if p.value.toInt = s.listBytes then .ok (s.set 1 0)
    else .error (.postIndex name p.value s.listBytes)
  | .testBit width =>
    let n := p.value.toInt
    if n < 0 || n ≥ width then .error (.range name .bitNumber p.value)
    else .ok (s.set 1 (bitsAt (n.toNat / 32) 31 ||| bitsAt (n.toNat % 32) 19))
  | .skip => .ok (s.set 1 0)

def run (name : String) : Filling → List Action → Except Refusal Filling
  | s, [] => .ok s
  | s, a :: rest => do run name (← s.step name a) rest

end Filling

def Template.encode (t : Template) (name : String) (args : List Operand) :
    Except Refusal (Encoded Reloc) := do
  let parts ← partsOfAll name t.slots args
  let done ← Filling.run name { word := t.base, parts } t.actions
  return ⟨Bytes.ofWord done.word, done.refs⟩

end MachineCode.AArch64
