import MachineCode.Alteration.Committed

/-!
Alterations of code that is not committed yet. Offsets are those of the whole code. References
are not allowed in the new code, and those of the old code stay as they are.
-/
namespace MachineCode

structure ScratchModifier where
  /-- The offset of the first uncommitted byte. -/
  start : Nat
  scratch : Bytes
  /-- The cursor, counted from the first uncommitted byte. -/
  pos : Nat := 0
  /-- Whether the alteration has ended. -/
  closed : Bool := false

namespace ScratchModifier

def cursor (m : ScratchModifier) : Nat := m.start + m.pos

def goto (m : ScratchModifier) (offset : Int64) : Except Error ScratchModifier :=
  if m.closed then .error .alterationOver
  else if offset.toInt < m.start || m.start + m.scratch.length < offset.toInt then
    .error (.gotoOutsideScratch offset m.start (m.start + m.scratch.length))
  else .ok { m with pos := offset.toInt.toNat - m.start }

def write (m : ScratchModifier) (data : Bytes) : Except Error ScratchModifier :=
  if m.closed then .error .alterationOver
  else if m.scratch.length < m.pos + data.length then .error (.writePastScratch m.scratch.length)
  else .ok { m with scratch := m.scratch.overwrite m.pos data, pos := m.pos + data.length }

def append (m : ScratchModifier) (c : Code) : Except Error ScratchModifier :=
  if c.refs.isEmpty then m.write c.code else .error .referencesInScratch

def apply (m : ScratchModifier) : Edit → Except Error ScratchModifier
  | .goto offset => m.goto offset
  | .write data => m.write data
  | .append code => m.append code
  | .emit instruction => do
    if m.closed then throw .alterationOver
    m.append (← instruction)
  | e => e.checkCursor m.cursor m

def run (m : ScratchModifier) (script : List ScriptStep) : ScriptRun ScratchModifier :=
  runScript apply cursor m script

def finished (m : ScratchModifier) : ScratchModifier := { m with closed := true }

end ScratchModifier

namespace Assembler

def alterUncommitted (a : Assembler) (script : List ScriptStep) :
    Except Failure (Altered ScratchModifier) :=
  a.whenOpen <|
    let m : ScratchModifier := { start := a.committed, scratch := a.scratch }
    let run := m.run script
    .ok {
      assembler := { a with scratch := run.state.scratch }
      outcomes := run.outcomes
      error? := run.error?
      modifier := run.state.finished }

end Assembler

end MachineCode
