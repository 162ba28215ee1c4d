import MachineCode.Error
import MachineCode.Reference

/-!
Label bindings. A local label may be bound again, and its latest binding is the one that counts;
global and dynamic labels are bound once. References to the next binding of a local label wait
here, in the order in which they were recorded.
-/
namespace MachineCode

structure Labels where
  globals : List (String × Nat) := []
  locals : List (String × Nat) := []
  /-- Dynamic labels by number, with their offsets once they are bound. -/
  dynamics : List (Option Nat) := []
  waiting : List Reference := []
  deriving DecidableEq, Repr

namespace Labels

/-- The offset that a target has now. What a forward reference means is not known yet. -/
def lookup (l : Labels) : Target → Option Nat
  | .global name => l.globals.lookup name
  | .backward name => l.locals.lookup name
  | .dynamic id => (l.dynamics[id.toNat]?).join
  | _ => none

def newDynamic (l : Labels) : UInt32 × Labels :=
  (UInt32.ofNat l.dynamics.length, { l with dynamics := l.dynamics ++ [none] })

def bindGlobal (l : Labels) (name : String) (offset : Nat) : Except Error Labels :=
  match l.globals.lookup name with
  | some _ => .error (.duplicateLabel ⟨.global, name, 0⟩)
  | none => .ok { l with globals := (name, offset) :: l.globals }

def bindDynamic (l : Labels) (id : UInt32) (offset : Nat) : Except Error Labels :=
  match l.dynamics[id.toNat]? with
  | none => .error (.unknownLabel ⟨.dynamic, "", id⟩)
  | some (some _) => .error (.duplicateLabel ⟨.dynamic, "", id⟩)
  | some none => .ok { l with dynamics := l.dynamics.set id.toNat (some offset) }

def waitingFor (l : Labels) (name : String) : List Reference :=
  l.waiting.filter fun r => r.target.name == name

/-- Binds a local label; nothing waits for it afterwards. -/
def bindLocal (l : Labels) (name : String) (offset : Nat) : Labels :=
  { l with
    locals := (name, offset) :: l.locals
    waiting := l.waiting.filter fun r => r.target.name != name }

/-- The reference with the present offset of its target, or the error that it has none. A target
outside the code needs no offset. -/
def resolve (l : Labels) (r : Reference) : Except Error Reference :=
  if r.bound.isSome || r.target.isExternal then .ok r
  else
    match l.lookup r.target with
    | some offset => .ok { r with bound := some offset }
    | none => .error (.unknownLabel r.target.label)

/-- One error for each waiting reference, in the order of their messages. -/
def stillWaiting (l : Labels) : List Error :=
  (l.waiting.map fun r => Error.unknownLabel r.target.label).mergeSort
    fun a b => a.message ≤ b.message

end Labels

end MachineCode
