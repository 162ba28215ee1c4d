import MachineCode.Text.Words
import MachineCode.X86.Emission

/-!
The x86 encoder. A mnemonic, in any letter case and perhaps behind a prefix word, and its operands
become the bytes of the first form that takes the operands.
-/
namespace MachineCode.X86

/-- The low four bits of conditional opcodes. Codes that differ in the lowest bit are opposites. -/
structure Condition where
  code : BitVec 4
  deriving DecidableEq, Repr

namespace Condition

/-- Only the low four bits of a number count. -/
def ofNat (n : Nat) : Condition := ⟨BitVec.ofNat 4 n⟩

def endings : List String :=
  ["O", "NO", "B", "NB", "Z", "NZ", "BE", "NBE", "S", "NS", "P", "NP", "L", "NL", "LE", "NLE"]

def ending (c : Condition) : String := endings.getD c.code.toNat ""

def jump (c : Condition) : String := "J" ++ c.ending

def set (c : Condition) : String := "SET" ++ c.ending

def move (c : Condition) : String := "CMOV" ++ c.ending

def inverse (c : Condition) : Condition := ⟨c.code ^^^ 1⟩

end Condition

abbrev Encoder := Matcher

def Repeat.ofName? (word : String) : Option Repeat :=
  match word with
  | "lock" => some lock
  | "rep" | "repe" | "repz" => some rep
  | "repne" | "repnz" => some repne
  | _ => none

def Refusal.listForms (inst : Inst) : Refusal → Refusal
  | noMatch => mismatch (Text.toLower inst.name) inst.forms
  | r => r

namespace Encoder

/-- Encodes an instruction behind a prefix byte; zero is none. -/
def encodeInst (e : Encoder) (b : UInt8) (inst : Inst) (args : List (Option Operand)) :
    Except Refusal (Encoded Reloc) := do
  let m ← (Matcher.find e inst args).mapError (·.listForms inst)
  m.emit b

def encodeShape (e : Encoder) (inst : Inst) (s : Shape) : Except Refusal (Encoded Reloc) := do
  let m ← (Matcher.findShape e inst s).mapError (·.listForms inst)
  m.emit 0

def jumpIf (e : Encoder) (c : Condition) (t : Target) : Except Refusal (Encoded Reloc) :=
  e.encodeInst 0 ((Inst.lookup c.jump).getD .nothing) [some (.disp (.label { target := t }))]

def encodeMatch (e : Encoder) (mode : Mode) (found : Option Match) (b : UInt8 := 0) :
    Except Refusal (Encoded Reloc) := do
  let m := found.getD (.unused mode)
  if mode ≠ e.mode then throw (.otherMode m.inst.name mode)
  if !e.features.includes m.form.featureSet then
    throw (.missingFeatures m.form.featureSet m.inst.name)
  m.emit b

def splitPrefix (mnemonic : String) : Except Refusal (UInt8 × String) :=
  let name := (Text.trim mnemonic).toList
  let isBreak (c : Char) : Bool := c == ' ' || c == '\t'
  match name.span (!isBreak ·) with
  | (_, []) => .ok (0, String.ofList name)
  | (word, rest) =>
    match Repeat.ofName? (Text.toLower (String.ofList word)) with
    | some p => .ok (p.byte, Text.trim (String.ofList rest))
    | none => .error (.unknownPrefix mnemonic)

def encode (e : Encoder) (mnemonic : String) (args : List (Given Operand)) :
    Except Refusal (Encoded Reloc) := do
  let (b, name) ← splitPrefix mnemonic
  match Inst.lookup name with
  | none => .error (.unknownMnemonic name)
  | some inst =>
    if 4 < args.length then .error (.mismatch (Text.toLower name) inst.forms)
    else
      match Given.all args with
      | .error (i, type) => .error (.foreignOperand i type (Text.toLower name) inst.forms)
      | .ok args => e.encodeInst b inst (args.map some)

end Encoder

def nopForms : List Bytes := [
  [0x90],
  [0x66, 0x90],
  [0x0f, 0x1f, 0x00],
  [0x0f, 0x1f, 0x40, 0x00],
  [0x0f, 0x1f, 0x44, 0x00, 0x00],
  [0x66, 0x0f, 0x1f, 0x44, 0x00, 0x00],
  [0x0f, 0x1f, 0x80, 0x00, 0x00, 0x00, 0x00],
  [0x0f, 0x1f, 0x84, 0x00, 0x00, 0x00, 0x00, 0x00],
  [0x66, 0x0f, 0x1f, 0x84, 0x00, 0x00, 0x00, 0x00, 0x00]]

/-- No-operations of `length` bytes together: as many of nine bytes as fit, then one more. -/
def nops (length : Nat) : Bytes :=
  if length < 9 then
    match length with
    | 0 => []
    | n + 1 => nopForms.getD n []
  else nopForms.getD 8 [] ++ nops (length - 9)

end MachineCode.X86
