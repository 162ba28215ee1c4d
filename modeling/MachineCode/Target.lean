import MachineCode.Text.Messages

/-!
Labels and what a reference can point at. Local labels may be defined again and again: a backward
reference means the latest definition, a forward reference the next one. Global and dynamic labels
are defined once. An external target is an absolute address outside the code.
-/
namespace MachineCode

inductive LabelKind where
  | local
  | global
  | dynamic
  | external
  | other (code : UInt8)
  deriving DecidableEq, Repr

namespace LabelKind

def ofCode (code : UInt8) : LabelKind :=
  match code.toNat with
  | 0 => .local
  | 1 => .global
  | 2 => .dynamic
  | 3 => .external
  | _ => .other code

def name : LabelKind → String
  | .local => "local"
  | .global => "global"
  | .dynamic => "dynamic"
  | .external => "extern"
  | .other code => "LabelKind(" ++ toString code.toNat ++ ")"

end LabelKind

/-- A label as messages name it: dynamic labels by number, all others by name. -/
structure LabelName where
  kind : LabelKind
  name : String := ""
  id : UInt32 := 0
  deriving DecidableEq, Repr

def LabelName.describe (l : LabelName) : String :=
  match l.kind with
  | .dynamic => "dynamic label " ++ toString l.id.toNat
  | k => k.name ++ " label " ++ Text.quoted l.name

/-- What a reference resolves to. `nowhere` is the target of a reference that was left open. -/
inductive Target where
  | nowhere
  | global (name : String)
  | forward (name : String)
  | backward (name : String)
  | dynamic (id : UInt32)
  | external (address : UInt64)
  deriving DecidableEq, Repr

namespace Target

def isValid : Target → Bool
  | nowhere => false
  | _ => true

def isExternal : Target → Bool
  | external _ => true
  | _ => false

def name : Target → String
  | global n | forward n | backward n => n
  | _ => ""

def id : Target → UInt32
  | dynamic i => i
  | _ => 0

def kind : Target → LabelKind
  | global _ => .global
  | dynamic _ => .dynamic
  | external _ => .external
  | _ => .local

def label (t : Target) : LabelName := ⟨t.kind, t.name, t.id⟩

/-- The target with a mark for its kind: an arrow for global, a bracket for local labels. -/
def render : Target → String
  | nowhere => "invalid target"
  | global n => "->" ++ n
  | forward n => ">" ++ n
  | backward n => "<" ++ n
  | dynamic i => "=>" ++ toString i.toNat
  | external a => "extern " ++ Text.hex a.toNat

end Target

structure LabelRef where
  target : Target
  addend : Int64 := 0
  deriving DecidableEq, Repr

def LabelRef.add (l : LabelRef) (n : Int64) : LabelRef := { l with addend := l.addend + n }

end MachineCode
