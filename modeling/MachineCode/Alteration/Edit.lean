import MachineCode.Error
import MachineCode.Reference

/-!
Scripts that change code in place. A script moves a cursor through the code and writes at it.
Each edit may fail; one that is marked as required then ends the script.
-/
namespace MachineCode

inductive Edit where
  | goto (offset : Int64)
  /-- Fails if the cursor has moved past an offset. -/
  | check (offset : Int64)
  /-- Fails unless the cursor is at an offset. -/
  | checkExact (offset : Int64)
  | write (data : Bytes)
  | append (code : Code)
  /-- Appends an instruction that an encoder has accepted or refused. -/
  | emit (instruction : Except Error Code)

namespace Edit

def checkCursor {α : Type} (cursor : Nat) (state : α) : Edit → Except Error α
  | check offset =>
    if offset.toInt < cursor then .error (.cursorPast cursor offset) else .ok state
  | checkExact offset =>
    if offset.toInt = cursor then .ok state else .error (.cursorElsewhere cursor offset)
  | _ => .ok state

end Edit

/-- An edit, and whether its failure ends the script. -/
structure ScriptStep where
  edit : Edit
  required : Bool := false

structure EditOutcome where
  error? : Option Error
  cursor : Nat
  deriving DecidableEq, Repr

structure ScriptRun (σ : Type) where
  state : σ
  outcomes : List EditOutcome
  error? : Option Error

/-- Runs a script; a failed edit leaves the state alone. -/
def runScript {σ : Type} (apply : σ → Edit → Except Error σ) (cursor : σ → Nat) :
    σ → List ScriptStep → ScriptRun σ
  | s, [] => ⟨s, [], none⟩
  | s, step :: rest =>
    match apply s step.edit with
    | .ok s' =>
      let run := runScript apply cursor s' rest
      { run with outcomes := ⟨none, cursor s'⟩ :: run.outcomes }
    | .error e =>
      if step.required then ⟨s, [⟨some e, cursor s⟩], some e⟩
      else
        let run := runScript apply cursor s rest
        { run with outcomes := ⟨some e, cursor s⟩ :: run.outcomes }

end MachineCode
