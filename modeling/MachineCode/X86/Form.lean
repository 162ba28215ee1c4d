import MachineCode.Bytes
import MachineCode.Text.Words
import MachineCode.X86.Features
import MachineCode.X86.Slot

/-!
Forms of instructions: the rows of the instruction table. Their marks choose prefixes, operand
places and the modes in which a row may be used.
-/
namespace MachineCode.X86

inductive Flag where
  /-- The row has a VEX prefix; its first opcode byte is the opcode map. -/
  | vex
  /-- The row has an XOP prefix; its first opcode byte is the opcode map. -/
  | xop
  /-- The last opcode byte stands where an immediate would. -/
  | immOp
  /-- Two-byte operands take `66`, eight-byte operands the wide bit. -/
  | autoSize
  /-- Two-byte operands take `66`; others have the native width. -/
  | autoNo32
  /-- Eight-byte operands take the wide bit; two-byte operands do not exist. -/
  | autoRexW
  /-- Operands of 32 bytes take the long bit. -/
  | autoVexL
  | wordSize
  | withRexW
  | withVexL
  /-- Operands without a size do not match. -/
  | exactSize
  | pref66
  | pref67
  | prefF0
  | prefF2
  | prefF3
  | lock
  | rep
  | repe
  /-- A register is part of the last opcode byte. -/
  | shortArg
  | encMR
  | encVM
  | encMIB
  /-- The row does not exist in 64-bit mode. -/
  | x86Only
  deriving DecidableEq, Repr

namespace Flag

/-- The flags in the order of their bits, the first of which is bit one. -/
def all : List Flag :=
  [vex, xop, immOp, autoSize, autoNo32, autoRexW, autoVexL, wordSize, withRexW, withVexL,
    exactSize, pref66, pref67, prefF0, prefF2, prefF3, lock, rep, repe, shortArg, encMR, encVM,
    encMIB, x86Only]

def name : Flag → String
  | vex => "VEX_OP"
  | xop => "XOP_OP"
  | immOp => "IMM_OP"
  | autoSize => "AUTO_SIZE"
  | autoNo32 => "AUTO_NO32"
  | autoRexW => "AUTO_REXW"
  | autoVexL => "AUTO_VEXL"
  | wordSize => "WORD_SIZE"
  | withRexW => "WITH_REXW"
  | withVexL => "WITH_VEXL"
  | exactSize => "EXACT_SIZE"
  | pref66 => "PREF_66"
  | pref67 => "PREF_67"
  | prefF0 => "PREF_F0"
  | prefF2 => "PREF_F2"
  | prefF3 => "PREF_F3"
  | lock => "LOCK"
  | rep => "REP"
  | repe => "REPE"
  | shortArg => "SHORT_ARG"
  | encMR => "ENC_MR"
  | encVM => "ENC_VM"
  | encMIB => "ENC_MIB"
  | x86Only => "X86_ONLY"

def nameOfBit (i : Nat) : String :=
  match i with
  | 0 => ""
  | i + 1 => (all[i]?.map name).getD ""

def nameOfWord (w : BitVec 32) : String :=
  if w = 0 then "DEFAULT"
  else (((List.range 32).find? fun i => w == 1 <<< i).map nameOfBit).getD ""

def format (w : BitVec 32) : String :=
  if w = 0 then "DEFAULT"
  else String.intercalate "|" (((List.range 32).filter fun i => w.getLsbD i).map nameOfBit)

end Flag

structure Form where
  opcode : Bytes
  flags : List Flag
  features : List Feature
  /-- The opcode extension that stands in the register field, if there is one. -/
  digit : Option Nat
  slots : List Slot
  deriving DecidableEq, Repr

namespace Form

def has (f : Form) (flag : Flag) : Bool := f.flags.contains flag

def isVector (f : Form) : Bool := f.has .vex || f.has .xop

def featureSet (f : Form) : Features := .ofList f.features

def render (f : Form) (name : String) : String :=
  Text.toLower name ++
    (if f.slots.isEmpty then "" else " " ++ String.intercalate ", " (f.slots.map (·.render))) ++
    (if f.has .x86Only then " (x86 only)" else "") ++
    (if f.features.isEmpty then "" else " [" ++ f.featureSet.render ++ "]")

end Form

structure Family where
  name : String
  forms : List Form
  deriving DecidableEq, Repr

end MachineCode.X86
