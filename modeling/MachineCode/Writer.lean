import MachineCode.Alteration.Uncommitted
import MachineCode.Encoder

/-!
An assembler with an encoder. The instructions written through it stop at the first error: later
ones fail with the same error until it is cleared.
-/
namespace MachineCode

structure Writer where
  encoder : Option Encoder
  assembler : Assembler := {}
  /-- The first error of an instruction since errors were last cleared. -/
  error? : Option Failure := none
  deriving DecidableEq, Repr

abbrev Written := Writer × Option Failure

namespace Writer

def instruction (w : Writer) (mnemonic : String) (args : List Operand) : Except Error Code :=
  match w.encoder with
  | some e => e.encode mnemonic args
  | none => .error (.noEncoder mnemonic)

def run (w : Writer) (op : Assembler → Except Failure Assembler) : Written :=
  match op w.assembler with
  | .ok assembler => ({ w with assembler }, none)
  | .error f => (w, some f)

/-- Runs an operation of the assembler unless an earlier one has failed, and remembers its
failure. -/
def step (w : Writer) (op : Assembler → Except Failure Assembler) : Written :=
  match w.error? with
  | some f => (w, some f)
  | none =>
    match op w.assembler with
    | .ok assembler => ({ w with assembler }, none)
    | .error f => ({ w with error? := some f }, some f)

def emit (w : Writer) (mnemonic : String) (args : List Operand) : Written :=
  w.run (·.emit (w.instruction mnemonic args))

/-- Emits an instruction that stands at a place in a text; errors tell the place. -/
def emitAt (w : Writer) (s : Span) (mnemonic : String) (args : List Operand) : Written :=
  let (after, failure?) := w.emit mnemonic args
  (after, failure?.map (·.locate s))

def inst (w : Writer) (code : Except Error Code) : Written :=
  w.step fun a =>
    match code with
    | .ok code => a.append code
    | .error e => .error (.one e)

/-- Appends bytes of instructions that do nothing. Fixed-length instruction sets append nothing
at all for no instructions, even when the assembler is closed. -/
def nop (w : Writer) (length : Int) : Written :=
  w.step fun a =>
    match w.encoder with
    | none => .ok a
    | some e =>
      match e.nops length, e with
      | .error err, _ => .error (.one err)
      | .ok bytes, .x86 _ => a.extend bytes
      | .ok [], _ => .ok a
      | .ok bytes, _ => a.extend bytes

/-- Fills with instructions that do nothing up to the next multiple of `n`. A wrong `n` is not
remembered as an error. -/
def alignPc (w : Writer) (n : Int) : Written :=
  match w.error?, w.encoder with
  | some f, _ => (w, some f)
  | none, none => (w, none)
  | none, some e =>
    if !e.canAlign n then (w, some (.one (.alignment n)))
    else
      match Assembler.gap w.assembler.offset n.toNat with
      | 0 => (w, none)
      | gap => w.nop gap

def clearError (w : Writer) : Writer := { w with error? := none }

def describe (w : Writer) : String :=
  let arch := (w.encoder.map (·.arch.name)).getD "data"
  "dynasm.Assembler\x7barch: " ++ arch ++ ", committed: " ++ toString w.assembler.committed ++
    ", pending: " ++ toString w.assembler.scratch.length ++ "\x7d"

end Writer

end MachineCode
