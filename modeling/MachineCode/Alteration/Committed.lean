import MachineCode.Alteration.Edit
import MachineCode.Assembler

/-!
Alterations of committed code. New code is resolved at once, so it can not refer forward. When the
alteration ends, the references whose fields it may have overwritten are forgotten and the new
ones that depend on the base address are remembered.
-/
namespace MachineCode

structure Modifier where
  labels : Labels
  base : UInt64
  code : Bytes
  cursor : Nat := 0
  /-- All bytes written so far lie between `lo` and `hi`. -/
  lo : Nat
  hi : Nat := 0
  /-- New references that depend on the base address. -/
  added : List Reference := []
  /-- Whether the alteration has ended. -/
  closed : Bool := false

namespace Modifier

def goto (m : Modifier) (offset : Int64) : Except Error Modifier :=
  if m.closed then .error .alterationOver
  else if offset.toInt < 0 || m.code.length < offset.toInt then
    .error (.gotoOutside offset m.code.length)
  else .ok { m with cursor := offset.toInt.toNat }

def put (m : Modifier) (data : Bytes) : Modifier :=
  let stop := m.cursor + data.length
  { m with
    code := m.code.overwrite m.cursor data
    cursor := stop
    lo := min m.lo m.cursor
    hi := max m.hi stop }

def checkRoom (m : Modifier) (length : Nat) : Except Error Unit :=
  if m.closed then .error .alterationOver
  else if m.code.length < m.cursor + length then
    .error (.writePast m.cursor (m.cursor + length) m.code.length)
  else .ok ()

def write (m : Modifier) (data : Bytes) : Except Error Modifier := do
  m.checkRoom data.length
  return m.put data

/-- Resolves one use by the code that is to be written at the cursor. -/
def resolve (m : Modifier) (code : Bytes) (u : Use) : Except Error (Reference × Bytes) :=
  match u.target.isValid, u.rel with
  | true, some rel => do
    let stop := m.cursor + code.length
    let r : Reference := { anchor := stop, target := u.target, addend := u.addend, rel }
    if !r.fieldWithin m.cursor then
      throw (.fieldOutsideWrite r.fieldStart m.cursor stop)
    if let .forward _ := u.target then
      throw (.forwardInCommitted u.target)
    let r ← m.labels.resolve r
    let p ← Assembler.patch code m.cursor m.base r
    return (r, code.overwrite (p.offset - m.cursor) p.data)
  | _, _ => .error (.openReference u.target)

/-- Resolves uses one after the other; each sees what those before it have written. -/
def resolveAll (m : Modifier) (code : Bytes) : List Use → Except Error (List Reference × Bytes)
  | [] => .ok ([], code)
  | u :: rest => do
    let (r, code) ← m.resolve code u
    let (rs, code) ← m.resolveAll code rest
    return (r :: rs, code)

def append (m : Modifier) (c : Code) : Except Error Modifier := do
  m.checkRoom c.code.length
  let (refs, code) ← m.resolveAll c.code c.refs
  return { m.put code with added := m.added ++ refs.filter (·.baseDependent) }

def apply (m : Modifier) : Edit → Except Error Modifier
  | .goto offset => m.goto offset
  | .write data => m.write data
  | .append code => m.append code
  | .emit instruction => do
    if m.closed then throw .alterationOver
    m.append (← instruction)
  | e => e.checkCursor m.cursor m

/-- Whether the field of a reference may have been written over. -/
def mayTouch (m : Modifier) (r : Reference) : Bool := m.lo < r.fieldEnd && r.field < m.hi

/-- The references that are still to be kept up after the alteration. -/
def managed (m : Modifier) (before : List Reference) : List Reference :=
  (if m.lo < m.hi then before.filter (!m.mayTouch ·) else before) ++ m.added

def run (m : Modifier) (script : List ScriptStep) : ScriptRun Modifier :=
  runScript apply (·.cursor) m script

def finished (m : Modifier) : Modifier := { m with code := [], closed := true }

end Modifier

structure Altered (σ : Type) where
  assembler : Assembler
  outcomes : List EditOutcome
  error? : Option Error
  modifier : σ

namespace Assembler

/-- Commits what is left, then runs a script on the committed code. -/
def alter (a : Assembler) (next : UInt64) (script : List ScriptStep) :
    Except Failure (Altered Modifier) := do
  let a ← a.commit next
  let code := a.memory.current.code
  let m : Modifier := { labels := a.labels, base := a.base, code, lo := code.length }
  let run := m.run script
  return {
    assembler := { a with
      memory := a.memory.setCode run.state.code
      managed := run.state.managed a.managed }
    outcomes := run.outcomes
    error? := run.error?
    modifier := run.state.finished }

end Assembler

end MachineCode
