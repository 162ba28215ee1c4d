import MachineCode.Riscv.Encoding

/-!
Loading a constant into an integer register. A constant of twelve bits takes one ADDI, one of
thirty-two bits a LUI and an ADDI, and a wider one is built from the top by shifting in eleven
bits at a time. The plain mnemonic picks the shortest such sequence; the ones with a width always
write the whole sequence of that width.
-/
namespace MachineCode.Riscv

inductive LoadConstant where
  | shortest
  | bits12
  | bits32
  | bits43
  | bits54
  deriving DecidableEq, Repr

namespace LoadConstant

def ofName? : String → Option LoadConstant
  | "li" => some shortest
  | "li.12" => some bits12
  | "li.32" => some bits32
  | "li.43" => some bits43
  | "li.54" => some bits54
  | _ => none

def width (c : LoadConstant) (is64 : Bool) : Nat :=
  match c with
  | shortest => if is64 then 64 else 32
  | bits12 => 12
  | bits32 => 32
  | bits43 => 43
  | bits54 => 54

def form (name : String) : String := name ++ " xN, imm"

def low (v : Int64) : Int64 := Int64.ofBitVec ((v.toBitVec.setWidth 12).signExtend 64)

def immediate (op : Word) (rd rs : Nat) (v : Int64) : Word :=
  op ||| (BitVec.ofNat 32 rd <<< 7) ||| (BitVec.ofNat 32 rs <<< 15) ||| Field.i.place v

def loadUpper (rd : Nat) (v : Int64) : Word :=
  0x37#32 ||| (BitVec.ofNat 32 rd <<< 7) |||
    ((((v - low v) >>> 12).toBitVec.setWidth 32 &&& 0xfffff#32) <<< 12)

/-- A constant of thirty-two bits and `groups` times eleven more. Without `whole`, additions of
zero are left out. -/
def sequence (rd : Nat) (is64 whole : Bool) : (groups : Nat) → Int64 → List Word
  | 0, v =>
    loadUpper rd v ::
      if low v != 0 || whole then [immediate (if is64 then 0x1b else 0x13) rd rd (low v)] else []
  | k + 1, v =>
    let rest := v &&& 0x7ff
    sequence rd is64 whole k (v >>> 11) ++ [immediate 0x1013 rd rd 11] ++
      if rest != 0 || whole then [immediate 0x13 rd rd rest] else []

def groups (v : Int64) : Nat :=
  if fitsSigned v 32 then 0
  else if fitsSigned (v >>> 11) 32 then 1
  else if fitsSigned (v >>> 22) 32 then 2
  else 3

def words (c : LoadConstant) (rd : Nat) (is64 : Bool) (v : Int64) : List Word :=
  match c with
  | shortest =>
    if fitsSigned v 12 then [immediate 0x13 rd 0 v] else sequence rd is64 false (groups v) v
  | bits12 => [immediate 0x13 rd 0 v]
  | bits32 => sequence rd is64 true 0 v
  | bits43 => sequence rd is64 true 1 v
  | bits54 => sequence rd is64 true 2 v

def encode (c : LoadConstant) (name : String) (p : Profile) (args : List Operand) :
    Except Refusal (Encoded Reloc) :=
  match args with
  | [.reg rd, .imm v] =>
    if rd.file != Register.fileX then .error (.mismatch name [form name])
    else match rd.fault? p.embedded with
      | some f => .error (.register name rd f)
      | none =>
        if !p.is64 && 32 < c.width true && c != .shortest then .error (.unavailable name p)
        else
          let value := wrapWord p.xlen v
          if fitsSigned value (c.width p.is64) then
            .ok ⟨(c.words rd.num p.is64 value).flatMap Bytes.ofWord, []⟩
          else .error (.immediate name v)
  | _ => .error (.mismatch name [form name])

end LoadConstant

end MachineCode.Riscv
