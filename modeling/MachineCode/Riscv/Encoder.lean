import MachineCode.Text.Words
import MachineCode.Riscv.Constant
import MachineCode.Riscv.Instructions.Compressed
import MachineCode.Riscv.Instructions.Extended

/-!
The RISC-V encoder: a mnemonic, in any letter case and with space around it, and its operands
become the bytes of the first template of the profile that takes the operands.
-/
namespace MachineCode.Riscv

/-- Every template with its mnemonic, those of one mnemonic in the order in which they are
tried. -/
def entries : List Entry :=
  Instructions.integer ++ Instructions.extended ++ Instructions.compressed

def templatesOf (name : String) : List Template :=
  (entries.filter (·.name == name)).map (·.template)

def forms (p : Profile) (mnemonic : String) : List String :=
  let name := Text.toLower mnemonic
  match LoadConstant.ofName? name with
  | some _ => [LoadConstant.form name]
  | none => distinct (((templatesOf name).filter (·.availableIn p)).map (·.form name))

def encodeIn (p : Profile) (mnemonic : String) (args : List Operand) :
    Except Refusal (Encoded Reloc) :=
  let name := Text.toLower (Text.trim mnemonic)
  match LoadConstant.ofName? name with
  | some c => c.encode name p args
  | none =>
    match templatesOf name with
    | [] => .error (.unknownMnemonic mnemonic)
    | all =>
      match all.filter (·.availableIn p) with
      | [] => .error (.unavailable mnemonic p)
      | available =>
        match available.find? (·.accepts args) with
        | none => .error (.mismatch name (forms p name))
        | some t => t.encode name p args

def loadConstant (p : Profile) (rd : Register) (v : Int64) : Except Refusal (Encoded Reloc) :=
  encodeIn p "li" [.reg rd, .imm v]

def call (p : Profile) (t : Target) : Except Refusal (Encoded Reloc) :=
  encodeIn p "call" [.label ⟨t, 0⟩]

def encode (p : Profile) (mnemonic : String) (args : List (Given Operand)) :
    Except Refusal (Encoded Reloc) :=
  match Given.all args with
  | .error (i, type) =>
    let name := Text.toLower mnemonic
    .error (.foreignOperand i type name (forms p name))
  | .ok args => encodeIn p mnemonic args

def nops (p : Profile) (length : Int) : Option Bytes :=
  if length < 0 || length % 2 != 0 || (length % 4 != 0 && !p.has [.c]) then none
  else
    some ((List.replicate (length / 4).toNat (Bytes.ofNat 4 0x13)).flatten ++
      if length % 4 = 2 then Bytes.ofNat 2 0x0001 else [])

end MachineCode.Riscv
