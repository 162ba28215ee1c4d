import MachineCode.Riscv.Refusal
import MachineCode.Riscv.Template

/-!
Filling a template. The operands are broken into parts, which are checked against the profile and
the slots, and every step of the template consumes a part and sets the bits of its own field.
-/
namespace MachineCode.Riscv

/-- A part of an operand that one step consumes. An operand that was left out is `absent`. -/
inductive Part where
  | absent
  | reg (r : Register)
  | imm (v : Int64)
  | label (l : LabelRef)
  | list (rs : List Register)
  deriving DecidableEq, Repr

namespace Part

def regNum : Part → Nat
  | reg r => r.num
  | _ => 0

def value : Part → Int64
  | imm v => v
  | _ => 0

def labelRef : Part → LabelRef
  | label l => l
  | _ => ⟨.nowhere, 0⟩

def registers : Part → List Register
  | list rs => rs
  | _ => []

end Part

def registerFault? (p : Profile) (s : Slot) (r : Register) : Option Register.Fault :=
  match r.fault? p.embedded with
  | some f => some f
  | none => if s.allows r then none else some (.notAllowed s.name)

def partsOf (name : String) (p : Profile) (s : Slot) (a : Operand) : Except Refusal (List Part) :=
  let checked (rule : Slot) (r : Register) (parts : List Part) :=
    match registerFault? p rule r with
    | some f => .error (.register name r f)
    | none => .ok parts
  match a with
  | .reg r => checked s r [.reg r]
  | .mem b off => checked s.base b (if s == .addr then [.reg b] else [.reg b, .imm off])
  | .labelMem b l => checked .x b [.reg b, .label l]
  | .imm v => .ok [.imm v]
  | .label l => .ok [.label l]
  | .rounding m =>
    if isRoundingMode m then .ok [.imm (Int64.ofNat m.toNat)] else .error (.roundingMode name m)
  | .csr n => .ok [.imm (Int64.ofNat n.toNat)]
  | .fence set => .ok [.imm (Int64.ofNat set.toNat)]
  | .regList rs =>
    match rs.findSome? (fun r => (r.fault? p.embedded).map (r, ·)) with
    | some (r, f) => .error (.register name r f)
    | none => .ok [.list rs]

def partsOfAll (name : String) (p : Profile) : List Slot → List Operand → Except Refusal (List Part)
  | [], _ => .ok []
  | _ :: ss, [] => (partsOfAll name p ss []).map (.absent :: ·)
  | s :: ss, a :: as => do
    let front ← partsOf name p s a
    return front ++ (← partsOfAll name p ss as)

def fieldBits (name : String) (f : BitField) (v : Int64) : Except Refusal Word :=
  match f.fault? v with
  | some .misaligned => .error (.misaligned name v f.unit)
  | some .zero => .error (.zeroImmediate name v)
  | some .range => .error (.immediate name v)
  | none => .ok (f.place v)

/-- On 32-bit registers an unsigned word means the signed one with the same bits. -/
def wrapWord (xlen : Int) (v : Int64) : Int64 :=
  if xlen = 32 && 0x80000000 ≤ v.toInt && v.toInt < 0x100000000 then v - 0x100000000 else v

/-- The code of a register list: 4 for the return address alone, 5 and the number of the last
saved register, except that the list up to s11 takes the place of the one up to s10. -/
def listCode (name : String) (rs : List Register) : Except Refusal Nat :=
  let isX (r : Register) (n : Nat) := r.file == Register.fileX && r.num == n
  let refuse (f : ListFault) := Except.error (Refusal.registerList name rs f)
  match rs with
  | [ra] => if isX ra 1 then .ok 4 else refuse .start
  | [ra, s0] =>
    if !isX ra 1 then refuse .start else if isX s0 8 then .ok 5 else refuse .continuation
  | [ra, s0, last] =>
    if !isX ra 1 then refuse .start
    else if !isX s0 8 then refuse .continuation
    else if isX last 9 then .ok 6
    else if last.file == Register.fileX && 18 ≤ last.num && last.num ≤ 27 then
      match last.num - 16 with
      | 10 => refuse .tenSaved
      | 11 => .ok 15
      | s => .ok (5 + s)
    else refuse .ending
  | _ => refuse .start

/-- The bytes that the registers of a list code take, rounded up to sixteen. -/
def listBytes (code : Nat) (xlen : Int) : Int64 :=
  if xlen = 32 then
    if code ≤ 7 then 16 else if code ≤ 11 then 32 else if code ≤ 14 then 48 else 64
  else if code = 15 then 112
  else Int64.ofNat (16 * ((code - 4) / 2 + 1))

/-- The code of a stack adjustment: how many times sixteen bytes it goes beyond the registers. -/
def stackCode (name : String) (xlen : Int) (code : Nat) (v : Int64) (negative : Bool) :
    Except Refusal Nat :=
  let amount := if negative then -v else v
  let least := listBytes code xlen
  let extra := (amount - least).toInt
  if extra < 0 || extra % 16 != 0 || 48 < extra then .error (.stackAdjustment name amount least)
  else .ok (extra / 16).toNat

structure Filling where
  words : List Word
  parts : List Part
  refs : List (Ref Reloc) := []
  list : Nat := 0
  lastSaved : Option Nat := none

namespace Filling

def next (s : Filling) : Part := s.parts.headD .absent

def set (s : Filling) (word : Nat) (bits : Word) : Filling :=
  { s with words := s.words.modify word (· ||| bits), parts := s.parts.drop 1 }

def bitsAt (n pos : Nat) : Word := BitVec.ofNat 32 n <<< pos

def savedIndex (n : Nat) : Nat := if 18 ≤ n then n - 16 else n - 8

def step (name : String) (xlen : Int) (s : Filling) (st : Step) : Except Refusal Filling :=
  let part := s.next
  match st.action with
  | .reg pos => .ok (s.set st.word (bitsAt (part.regNum % 32) pos))
  | .peek pos =>
    .ok { s with words := s.words.modify st.word (· ||| bitsAt (part.regNum % 32) pos) }
  | .regC pos => .ok (s.set st.word (bitsAt ((part.regNum + 248) % 8) pos))
  | .saved pos distinct =>
    let i := savedIndex part.regNum
    if distinct && s.lastSaved == some i then .error (.sameSaved name)
    else .ok { s.set st.word (bitsAt i pos) with lastSaved := some i }
  | .imm f => (fieldBits name f part.value).map (s.set st.word)
  | .upper => (fieldBits name Field.u (wrapWord xlen part.value)).map (s.set st.word)
  | .rel kind =>
    let l := part.labelRef
    .ok { s.set st.word 0 with refs := s.refs ++ [⟨l.target, l.addend, kind⟩] }
  | .rounding =>
    let mode := match part with
      | .imm v => v.toBitVec.toNat
      | _ => dynamicRounding.toNat
    .ok (s.set st.word (bitsAt mode 12))
  | .fence pos =>
    let set := match part with
      | .imm v => v.toBitVec.toNat % 16
      | _ => 15
    .ok (s.set st.word (bitsAt set pos))
  | .regList => do
    let code ← listCode name part.registers
    return { s.set st.word (bitsAt code 4) with list := code }
  | .stackAdj negative => do
    let code ← stackCode name xlen s.list part.value negative
    return s.set st.word (bitsAt code 2)
  | .skip => .ok (s.set st.word 0)

def run (name : String) (xlen : Int) : Filling → List Step → Except Refusal Filling
  | s, [] => .ok s
  | s, st :: rest => do run name xlen (← s.step name xlen st) rest

end Filling

namespace Template

def bytes (t : Template) (words : List Word) : Bytes :=
  words.flatMap fun w => Bytes.ofNat t.size w.toNat

def encode (t : Template) (name : String) (p : Profile) (args : List Operand) :
    Except Refusal (Encoded Reloc) := do
  let parts ← partsOfAll name p t.slots args
  let done ← Filling.run name p.xlen { words := t.words, parts } t.steps
  return ⟨t.bytes done.words, done.refs⟩

end Template

end MachineCode.Riscv
