import MachineCode.Text.Words
import MachineCode.AArch64.Encoding
import MachineCode.AArch64.Instructions.Memory
import MachineCode.AArch64.Instructions.Vector

/-!
The AArch64 encoder: a mnemonic, in any letter case and with space around it, and its operands
become the word of the first template that takes the operands. A conditional branch names its
condition in the mnemonic.
-/
namespace MachineCode.AArch64

/-- Every template with its mnemonic, those of one mnemonic in the order in which they are
tried. -/
def entries : List Entry :=
  Instructions.general ++ Instructions.memory ++ Instructions.float ++ Instructions.vector

def templatesOf (name : String) : List Template :=
  (entries.filter (·.name == name)).map (·.template)

def forms (mnemonic : String) : List String :=
  let name := Text.toLower mnemonic
  distinct ((templatesOf name).map (·.form name))

/-- The name under which templates are kept, and the operands that the mnemonic itself carries.
There is none for a branch on an unknown condition. -/
def resolve (name : String) : Option (String × List Operand) :=
  if name.startsWith "b." && name != "b.cond" then
    (Cond.ofName? (name.drop 2).toString).map fun c => ("b.cond", [.cond c])
  else some (name, [])

def encodeArgs (mnemonic : String) (args : List Operand) : Except Refusal (Encoded Reloc) :=
  let name := Text.toLower (Text.trim mnemonic)
  match resolve name with
  | none => .error (.unknownMnemonic mnemonic)
  | some (key, implied) =>
    match templatesOf key with
    | [] => .error (.unknownMnemonic mnemonic)
    | all =>
      match all.find? (·.accepts (implied ++ args)) with
      | none => .error (.mismatch key (forms key))
      | some t => t.encode name (implied ++ args)

def branchIf (c : Cond) (t : Target) : Except Refusal (Encoded Reloc) :=
  encodeArgs "b.cond" [.cond c, .label ⟨t, 0⟩]

def encode (mnemonic : String) (args : List (Given Operand)) : Except Refusal (Encoded Reloc) :=
  match Given.all args with
  | .error (i, type) =>
    let name := Text.toLower mnemonic
    .error (.foreignOperand i type name (forms name))
  | .ok args => encodeArgs mnemonic args

def nopWord : Word := 0xd503201f

end MachineCode.AArch64
