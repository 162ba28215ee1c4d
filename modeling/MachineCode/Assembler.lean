import MachineCode.Labels
import MachineCode.Memory

/-!
The assembler collects bytes, labels and references, and commits them to executable memory. A
reference whose value does not depend on where the code runs is resolved as soon as its label is
known, any other when the code is committed and again whenever it moves. Every operation either
succeeds or leaves all as it was.
-/
namespace MachineCode

inductive Stage where
  | building
  /-- Closed before it was finalized. -/
  | closed
  /-- Finalized; the executable buffer owns the memory. -/
  | finalized
  /-- The executable buffer has been closed. -/
  | disposed
  deriving DecidableEq, Repr

structure Assembler where
  /-- The least capacity of a region. -/
  minCapacity : Nat := 4096
  /-- Bytes that are not committed yet. -/
  scratch : Bytes := []
  labels : Labels := {}
  /-- References in the scratch bytes that are resolved at commit. -/
  pending : List Reference := []
  /-- Committed references that are resolved anew when the code moves. -/
  managed : List Reference := []
  memory : Memory := {}
  stage : Stage := .building
  log : List Event := []
  deriving DecidableEq, Repr

namespace Assembler

def committed (a : Assembler) : Nat := a.memory.size

def offset (a : Assembler) : Nat := a.committed + a.scratch.length

def base (a : Assembler) : UInt64 := a.memory.current.base

def isOpen (a : Assembler) : Bool := a.stage == .building

def whenOpen {α : Type} (a : Assembler) (op : Except Failure α) : Except Failure α :=
  if a.isOpen then op else .error (.one .finalized)

def extend (a : Assembler) (data : Bytes) : Except Failure Assembler :=
  a.whenOpen (.ok { a with scratch := a.scratch ++ data })

/-- The number of bytes from `offset` to the next multiple of `n`. -/
def gap (offset n : Nat) : Nat := (n - offset % n) % n

def align (a : Assembler) (n : Int) (fill : UInt8) : Except Failure Assembler :=
  a.whenOpen <|
    if n ≤ 0 then .error (.one (.alignment n))
    else a.extend (List.replicate (gap a.offset n.toNat) fill)

def newDynamic (a : Assembler) : UInt32 × Assembler :=
  let (id, labels) := a.labels.newDynamic
  (id, { a with labels })

def globalLabel (a : Assembler) (name : String) : Except Failure Assembler :=
  a.whenOpen <|
    match a.labels.bindGlobal name a.offset with
    | .ok labels => .ok { a with labels }
    | .error e => .error (.one e)

def dynamicLabel (a : Assembler) (id : UInt32) : Except Failure Assembler :=
  a.whenOpen <|
    match a.labels.bindDynamic id a.offset with
    | .ok labels => .ok { a with labels }
    | .error e => .error (.one e)

def labelOffset (a : Assembler) (t : Target) : Option Nat := a.labels.lookup t

/-- All results, or else all errors. -/
def gather {α : Type} : List (Except Error α) → Except (List Error) (List α)
  | [] => .ok []
  | .ok x :: rest => (gather rest).map (x :: ·)
  | .error e :: rest =>
    match gather rest with
    | .ok _ => .error [e]
    | .error es => .error (e :: es)

/-- The patch for a reference, or the error that its value does not fit. -/
def patch (code : Bytes) (lo : Nat) (base : UInt64) (r : Reference) : Except Error Patch :=
  (Patch.ofReference code lo base r).mapError fun f => .unwritable r.target r.field f (r.value base)

/-- Binds a local label to the current offset and resolves what waited for it. References that
depend on the base address go on waiting for the commit. -/
def localLabel (a : Assembler) (name : String) : Except Failure Assembler :=
  a.whenOpen <|
    let bound := (a.labels.waitingFor name).map fun r => { r with bound := some a.offset }
    let attempts := (bound.filter (!·.baseDependent)).map fun r =>
      (Patch.ofReference a.scratch a.committed 0 r).mapError fun f =>
        .unwritableAt name r.target r.field f (r.value 0)
    match gather attempts with
    | .error es => .error (.many es)
    | .ok patches =>
      .ok { a with
        scratch := Patch.applyAll patches a.scratch a.committed
        pending := a.pending ++ bound.filter (·.baseDependent)
        labels := a.labels.bindLocal name a.offset }

inductive Recorded where
  /-- It is resolved at once. -/
  | now (p : Patch)
  /-- It waits for the next binding of its label. -/
  | waits (r : Reference)
  /-- It is resolved at commit. -/
  | later (r : Reference)
  deriving DecidableEq, Repr

namespace Recorded

def patch? : Recorded → Option Patch
  | now p => some p
  | _ => none

def waiting? : Recorded → Option Reference
  | waits r => some r
  | _ => none

def pending? : Recorded → Option Reference
  | later r => some r
  | _ => none

end Recorded

/-- Records one use by code that is about to be appended; `scratch` ends with that code. -/
def record (a : Assembler) (scratch : Bytes) (u : Use) : Except Error Recorded :=
  match u.target.isValid, u.rel with
  | true, some rel =>
    let anchor := a.committed + scratch.length
    let r : Reference := { anchor, target := u.target, addend := u.addend, rel }
    if !r.fieldWithin a.committed then
      .error (.fieldOutsideScratch r.fieldStart a.committed anchor)
    else
      match u.target with
      | .forward _ => .ok (.waits r)
      | .backward _ => do
        let r ← a.labels.resolve r
        if r.baseDependent then .ok (.later r)
        else .now <$> patch scratch a.committed 0 r
      | _ => .ok (.later r)
  | _, _ => .error (.openReference u.target)

def append (a : Assembler) (c : Code) : Except Failure Assembler :=
  a.whenOpen <|
    let scratch := a.scratch ++ c.code
    match c.refs.mapM (a.record scratch) with
    | .error e => .error (.one e)
    | .ok recorded =>
      .ok { a with
        scratch := Patch.applyAll (recorded.filterMap (·.patch?)) scratch a.committed
        labels := { a.labels with waiting := a.labels.waiting ++ recorded.filterMap (·.waiting?) }
        pending := a.pending ++ recorded.filterMap (·.pending?) }

def relocate (a : Assembler) (u : Use) : Except Failure Assembler := a.append ⟨[], [u]⟩

def emit (a : Assembler) (instruction : Except Error Code) : Except Failure Assembler :=
  a.whenOpen <|
    match instruction with
    | .error e => .error (.one e)
    | .ok code => a.append code

def resolved (a : Assembler) : Except (List Error) (List Reference) :=
  match gather (a.pending.map a.labels.resolve) with
  | .ok refs => if a.labels.waiting.isEmpty then .ok refs else .error a.labels.stillWaiting
  | .error es => .error (a.labels.stillWaiting ++ es)

/-- The code at `base` after the references have been resolved there. -/
def patched (code : Bytes) (base : UInt64) (refs : List Reference) : Except (List Error) Bytes :=
  (gather (refs.map (patch code 0 base))).map fun patches => Patch.applyAll patches code 0

/-- Commits the scratch bytes. If they do not fit behind the committed code, all of it moves to
a new region at `next`. -/
def commit (a : Assembler) (next : UInt64) : Except Failure Assembler :=
  a.whenOpen <|
    if a.scratch.isEmpty && a.pending.isEmpty && a.labels.waiting.isEmpty then .ok a
    else
      (do
        let refs ← a.resolved
        let code := a.memory.current.code ++ a.scratch
        let done (memory : Memory) (events : List Event) : Assembler :=
          { a with
            memory
            scratch := []
            pending := []
            managed := a.managed ++ refs.filter (·.baseDependent)
            log := a.log ++ events ++ [.committed a.committed a.scratch.length refs.length] }
        if a.memory.hasRoom a.scratch.length then
          let code ← patched code a.base refs
          return done (a.memory.setCode code) []
        else
          let moved := if a.committed = 0 then [] else a.managed
          let code ← patched code next (moved ++ refs)
          let (memory, events) := a.memory.move next a.minCapacity code
          return done memory events : Except (List Error) Assembler).mapError .many

def finalize (a : Assembler) (next : UInt64) : Except Failure Assembler := do
  let a ← a.commit next
  return { a with stage := .finalized, log := a.log ++ [.finalized a.committed] }

/-- Gives up the memory, unless the assembler has been finalized. -/
def close (a : Assembler) : Assembler :=
  if a.isOpen then
    let (memory, events) := a.memory.releaseCurrent
    { a with memory, stage := .closed, log := a.log ++ events }
  else a

def hasBuffer (a : Assembler) : Bool := a.stage == .finalized

def closeBuffer (a : Assembler) : Assembler :=
  if a.hasBuffer then
    let (memory, events) := a.memory.releaseCurrent
    { a with memory, stage := .disposed, log := a.log ++ events }
  else a

/-- Locks the committed code; the answer is the number of the guard. -/
def lock (a : Assembler) : Except Failure (Nat × Assembler) :=
  match a.memory.lock with
  | .ok (guard, memory) => .ok (guard, { a with memory })
  | .error e => .error (.one e)

def unlock (a : Assembler) (guard : Nat) : Assembler :=
  let (memory, events) := a.memory.unlock guard
  { a with memory, log := a.log ++ events }

def moves (a : Assembler) : Nat :=
  a.log.countP fun
    | .grew _ _ old _ => old != 0
    | _ => false

end Assembler

end MachineCode
