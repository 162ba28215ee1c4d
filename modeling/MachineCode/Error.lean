import MachineCode.Reloc
import MachineCode.AArch64.Refusal
import MachineCode.Riscv.Refusal
import MachineCode.X86.Refusal

/-!
Everything that can go wrong, by cause. `Error.message` has the words of each cause and
`Error.kind` the class that callers tell apart.
-/
namespace MachineCode

/-- A place in the text from which an instruction was written, for messages about it. -/
structure Span where
  file : String
  line : Int64
  column : Int64
  deriving DecidableEq, Repr

/-- File, line and column; a span without a file has the last two only. -/
def Span.render (s : Span) : String :=
  let place := toString s.line.toInt ++ ":" ++ toString s.column.toInt
  if s.file.isEmpty then place else s.file ++ ":" ++ place

inductive Error where
  | finalized
  | released
  | duplicateLabel (l : LabelName)
  | unknownLabel (l : LabelName)
  | alignment (n : Int)
  | nopLength (n : Int)
  | nopWords (n : Int)
  /-- A reference without target or relocation. -/
  | openReference (t : Target)
  /-- A field that reaches out of the code between the committed bytes and the anchor. -/
  | fieldOutsideScratch (start : Int) (committed anchor : Nat)
  /-- A field that reaches out of the bytes that are being overwritten. -/
  | fieldOutsideWrite (start : Int) (lo hi : Nat)
  | forwardInCommitted (t : Target)
  | impossible (fault : RelocFault) (v : Int64)
  /-- The value of a reference does not fit its field. -/
  | unwritable (t : Target) (offset : Nat) (fault : RelocFault) (v : Int64)
  /-- The same for a reference that waited for a local label. -/
  | unwritableAt (label : String) (t : Target) (offset : Nat) (fault : RelocFault) (v : Int64)
  | noEncoder (mnemonic : String)
  | x86 (r : X86.Refusal)
  | aarch64 (r : AArch64.Refusal)
  | riscv (r : Riscv.Refusal)
  /-- A modifier was used after its alteration had ended. -/
  | alterationOver
  | gotoOutside (offset : Int64) (size : Nat)
  | gotoOutsideScratch (offset : Int64) (lo hi : Nat)
  | cursorPast (cursor : Nat) (offset : Int64)
  | cursorElsewhere (cursor : Nat) (offset : Int64)
  | writePast (lo hi size : Nat)
  | writePastScratch (size : Nat)
  | referencesInScratch
  deriving DecidableEq, Repr

inductive ErrorKind where
  | duplicateLabel (l : LabelName)
  | unknownLabel (l : LabelName)
  | encoding (fault : EncodeFault)
  | impossibleRelocation
  | finalized
  | outOfBounds
  | released
  | other
  deriving DecidableEq, Repr

namespace Error

def kind : Error → ErrorKind
  | finalized => .finalized
  | released => .released
  | duplicateLabel l => .duplicateLabel l
  | unknownLabel l => .unknownLabel l
  | impossible _ _ | unwritable _ _ _ _ | unwritableAt _ _ _ _ _ => .impossibleRelocation
  | noEncoder _ => .encoding .unknownMnemonic
  | x86 r => .encoding r.fault
  | aarch64 r => .encoding r.fault
  | riscv r => .encoding r.fault
  | fieldOutsideScratch _ _ _ | fieldOutsideWrite _ _ _ | gotoOutside _ _
  | gotoOutsideScratch _ _ _ | cursorPast _ _ | cursorElsewhere _ _ | writePast _ _ _
  | writePastScratch _ => .outOfBounds
  | alignment _ | nopLength _ | nopWords _ | openReference _ | forwardInCommitted _
  | alterationOver | referencesInScratch => .other

def range (lo hi : Nat) : String := "[" ++ toString lo ++ ", " ++ toString hi ++ ")"

def outOfBounds : String := ": offset out of bounds"

def message : Error → String
  | finalized => "assembler has been finalized"
  | released => "executable buffer has been released"
  | duplicateLabel l => "duplicate " ++ l.describe
  | unknownLabel l => "unknown " ++ l.describe
  | alignment n => "invalid alignment " ++ toString n
  | nopLength n => "nop length " ++ toString n ++ " is not a multiple of the instruction size"
  | nopWords n => "nop length " ++ toString n ++ " is not a multiple of 4"
  | openReference t => "invalid reference to " ++ t.render
  | fieldOutsideScratch start committed anchor =>
    "relocation field at " ++ toString start ++ " outside uncommitted code " ++
      range committed anchor ++ outOfBounds
  | fieldOutsideWrite start lo hi =>
    "relocation field at " ++ toString start ++ " outside " ++ range lo hi ++ outOfBounds
  | forwardInCommitted t => "forward reference to " ++ t.render ++ " in committed code"
  | impossible fault v => fault.message v
  | unwritable t offset fault v =>
    "reference to " ++ t.render ++ " at offset " ++ toString offset ++ ": " ++ fault.message v
  | unwritableAt label t offset fault v =>
    "local label " ++ Text.quoted label ++ ": reference to " ++ t.render ++ " at offset " ++
      toString offset ++ ": " ++ fault.message v
  | noEncoder mnemonic => mnemonic ++ ": no encoder: unknown mnemonic"
  | x86 r => r.message
  | aarch64 r => r.message
  | riscv r => r.message
  | alterationOver => "modifier used after its alteration returned"
  | gotoOutside offset size =>
    "goto " ++ toString offset.toInt ++ " in " ++ toString size ++ " committed bytes" ++ outOfBounds
  | gotoOutsideScratch offset lo hi =>
    "goto " ++ toString offset.toInt ++ " outside uncommitted code " ++ range lo hi ++ outOfBounds
  | cursorPast cursor offset =>
    "cursor " ++ toString cursor ++ " past " ++ toString offset.toInt ++ outOfBounds
  | cursorElsewhere cursor offset =>
    "cursor " ++ toString cursor ++ ", expected " ++ toString offset.toInt ++ outOfBounds
  | writePast lo hi size =>
    "write " ++ range lo hi ++ " past " ++ toString size ++ " committed bytes" ++ outOfBounds
  | writePastScratch size =>
    "write past " ++ toString size ++ " uncommitted bytes" ++ outOfBounds
  | referencesInScratch => "label references are not allowed in uncommitted alterations"

def messageAt (s : Span) (e : Error) : String := s.render ++ ": " ++ e.message

end Error

/-- How an operation fails: with one error, with all the errors found together, or with an error
about a place in a text. -/
inductive Failure where
  | one (e : Error)
  | many (es : List Error)
  | located (s : Span) (e : Error)
  deriving DecidableEq, Repr

def Failure.locate (s : Span) : Failure → Failure
  | one e => located s e
  | f => f

end MachineCode
