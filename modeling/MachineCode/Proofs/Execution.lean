import MachineCode.Proofs.Bounds
import MachineCode.Proofs.Courses

/-!
Operations as they run: one effect after the other on the live state. A failure stops an operation
where it is and undoes nothing, and an access outside of a stretch of bytes has no outcome at all.
Whether anything is left behind, and whether every access is in range, is then a matter of the
order of effects.
-/
namespace MachineCode

/-- The patch that resolves a reference in code that starts at offset `lo`, if its field is in
the code. -/
def Patch.stage? (code : Bytes) (lo : Nat) (base : UInt64) (r : Reference) :
    Option (Except RelocFault Patch) :=
  (code.read? lo r.fieldStart r.rel.size).map fun field =>
    (r.rel.write field (r.value base)).map fun data => ⟨r.field, data⟩

/-- Runs the edits of a script one after the other. What a failed edit leaves behind is what the
next one finds. -/
def executeScript {σ : Type} (execute : Edit → Course σ Error Unit) :
    List ScriptStep → σ → Option σ
  | [], s => some s
  | step :: rest, s =>
    match (execute step.edit).outcome s with
    | none => none
    | some (.ok _, s') => executeScript execute rest s'
    | some (.error _, s') => if step.required then some s' else executeScript execute rest s'

namespace Modifier

abbrev Act := Course Modifier Error

def overwrite (data : Bytes) : Act Unit := do
  let m ← get
  let code ← Course.need (m.code.write? 0 m.cursor data)
  modify fun m => { m with code }
  modify fun m => { m with lo := min m.lo m.cursor, hi := max m.hi (m.cursor + data.length) }
  modify fun m => { m with cursor := m.cursor + data.length }

def place (staged : Bytes) (r : Reference) : Act (Reference × Bytes) := do
  let m ← get
  let r ← MonadExcept.ofExcept (m.labels.resolve r)
  let attempt ← Course.need (Patch.stage? staged m.cursor m.base r)
  let p ← MonadExcept.ofExcept (attempt.mapError fun f =>
    .unwritable r.target r.field f (r.value m.base))
  let staged ← Course.need (staged.write? m.cursor p.offset p.data)
  return (r, staged)

def stageUse (staged : Bytes) (u : Use) : Act (Reference × Bytes) := do
  let m ← get
  match u.target.isValid, u.rel with
  | true, some rel =>
    let stop := m.cursor + staged.length
    let r : Reference := { anchor := stop, target := u.target, addend := u.addend, rel }
    if !r.fieldWithin m.cursor then throw (.fieldOutsideWrite r.fieldStart m.cursor stop)
    else
      match u.target with
      | .forward _ => throw (.forwardInCommitted u.target)
      | _ => place staged r
  | _, _ => throw (.openReference u.target)

def stageUses (staged : Bytes) : List Use → Act (List Reference × Bytes)
  | [] => return ([], staged)
  | u :: rest => do
    let (r, staged) ← stageUse staged u
    let (rs, staged) ← stageUses staged rest
    return (r :: rs, staged)

def overwriteCode (c : Code) : Act Unit := do
  let m ← get
  MonadExcept.ofExcept (m.checkRoom c.code.length)
  let (refs, staged) ← stageUses c.code c.refs
  overwrite staged
  modify fun m => { m with added := m.added ++ refs.filter (·.baseDependent) }

def execute : Edit → Act Unit
  | .goto offset => do
    let m ← get
    if m.closed then throw .alterationOver
    else if offset.toInt < 0 || m.code.length < offset.toInt then
      throw (.gotoOutside offset m.code.length)
    else modify fun m => { m with cursor := offset.toInt.toNat }
  | .write data => do
    let m ← get
    MonadExcept.ofExcept (m.checkRoom data.length)
    overwrite data
  | .append c => overwriteCode c
  | .emit instruction => do
    let m ← get
    if m.closed then throw .alterationOver
    else
      let c ← MonadExcept.ofExcept instruction
      overwriteCode c
  | e => do
    let m ← get
    MonadExcept.ofExcept (e.checkCursor m.cursor ())

def touched (m : Modifier) : Nat × Nat := if m.hi < m.lo then (0, 0) else (m.lo, m.hi)

end Modifier

namespace ScratchModifier

abbrev Act := Course ScratchModifier Error

def overwrite (data : Bytes) : Act Unit := do
  let m ← get
  if m.closed then throw .alterationOver
  else if m.scratch.length < m.pos + data.length then throw (.writePastScratch m.scratch.length)
  else
    let scratch ← Course.need (m.scratch.write? 0 m.pos data)
    modify fun m => { m with scratch }
    modify fun m => { m with pos := m.pos + data.length }

def overwriteCode (c : Code) : Act Unit :=
  if c.refs.isEmpty then overwrite c.code else throw .referencesInScratch

def execute : Edit → Act Unit
  | .goto offset => do
    let m ← get
    if m.closed then throw .alterationOver
    else if offset.toInt < m.start || m.start + m.scratch.length < offset.toInt then
      throw (.gotoOutsideScratch offset m.start (m.start + m.scratch.length))
    else modify fun m => { m with pos := offset.toInt.toNat - m.start }
  | .write data => overwrite data
  | .append c => overwriteCode c
  | .emit instruction => do
    let m ← get
    if m.closed then throw .alterationOver
    else
      let c ← MonadExcept.ofExcept instruction
      overwriteCode c
  | e => do
    let m ← get
    MonadExcept.ofExcept (e.checkCursor m.cursor ())

end ScratchModifier

structure Live where
  assembler : Assembler
  /-- The bytes of the region behind the committed code. -/
  slack : Bytes := []

namespace Live

def start (capacity : Nat) : Live := { assembler := { minCapacity := capacity } }

def bytes (x : Live) : Bytes := x.assembler.memory.current.code ++ x.slack

def withBytes (x : Live) (bytes : Bytes) (size : Nat) : Live where
  assembler := { x.assembler with memory := x.assembler.memory.setCode (bytes.take size) }
  slack := bytes.drop size

abbrev Act := Course Live Failure

def view : Act Assembler := return (← get).assembler

def update (f : Assembler → Assembler) : Act Unit :=
  modify fun x => { x with assembler := f x.assembler }

def checkOpen : Act Unit := do
  unless (← view).isOpen do throw (.one .finalized)

def push (b : UInt8) : Act Unit := update fun a => { a with scratch := a.scratch ++ [b] }

def extend (data : Bytes) : Act Unit := do
  checkOpen
  update fun a => { a with scratch := a.scratch ++ data }

def align (n : Int) (fill : UInt8) : Act Unit := do
  checkOpen
  if n ≤ 0 then throw (.one (.alignment n))
  else
    let a ← view
    (List.replicate (Assembler.gap a.offset n.toNat) fill).forM push

/-- Replaces the labels, unless the new ones could not be bound. -/
def relabel (labels : Except Error Labels) : Act Unit := do
  let labels ← MonadExcept.ofExcept (labels.mapError .one)
  update fun a => { a with labels }

def globalLabel (name : String) : Act Unit := do
  checkOpen
  let a ← view
  relabel (a.labels.bindGlobal name a.offset)

def dynamicLabel (id : UInt32) : Act Unit := do
  checkOpen
  let a ← view
  relabel (a.labels.bindDynamic id a.offset)

def store (p : Patch) : Act Unit := do
  let a ← view
  let scratch ← Course.need (a.scratch.write? a.committed p.offset p.data)
  update fun a => { a with scratch }

def stageAll (code : Bytes) (lo : Nat) (base : UInt64) (error : Reference → RelocFault → Error)
    (refs : List Reference) : Act (List Patch) := do
  let attempts ← refs.mapM fun r => do
    let attempt ← Course.need (Patch.stage? code lo base r)
    return attempt.mapError (error r)
  MonadExcept.ofExcept ((Assembler.gather attempts).mapError .many)

def localLabel (name : String) : Act Unit := do
  checkOpen
  let a ← view
  let writes ← stageAll a.scratch a.committed 0
    (fun r f => .unwritableAt name r.target r.field f (r.value 0))
    ((a.drained name).filter (!·.baseDependent))
  writes.forM store
  update fun b => { b with pending := b.pending ++ (a.drained name).filter (·.baseDependent) }
  update fun b => { b with labels := b.labels.bindLocal name a.offset }

def record (scratch : Bytes) (u : Use) : Act Assembler.Recorded := do
  let a ← view
  match u.target.isValid, u.rel with
  | true, some rel =>
    let anchor := a.committed + scratch.length
    let r : Reference := { anchor, target := u.target, addend := u.addend, rel }
    if !r.fieldWithin a.committed then
      throw (.one (.fieldOutsideScratch r.fieldStart a.committed anchor))
    else
      match u.target with
      | .forward _ => return .waits r
      | .backward _ =>
        let r ← MonadExcept.ofExcept ((a.labels.resolve r).mapError .one)
        if r.baseDependent then return .later r
        else
          let attempt ← Course.need (Patch.stage? scratch a.committed 0 r)
          let p ← MonadExcept.ofExcept (attempt.mapError fun f =>
            .one (.unwritable r.target r.field f (r.value 0)))
          return .now p
      | _ => return .later r
  | _, _ => throw (.one (.openReference u.target))

def queue (r : Reference) : Act Unit :=
  update fun a => { a with labels.waiting := a.labels.waiting ++ [r] }

def append (c : Code) : Act Unit := do
  checkOpen
  let a ← view
  let recorded ← c.refs.mapM (record (a.scratch ++ c.code))
  update fun a => { a with scratch := a.scratch ++ c.code }
  (recorded.filterMap (·.patch?)).forM store
  (recorded.filterMap (·.waiting?)).forM queue
  update fun a => { a with pending := a.pending ++ recorded.filterMap (·.pending?) }

def emit (instruction : Except Error Code) : Act Unit := do
  checkOpen
  let c ← MonadExcept.ofExcept (instruction.mapError .one)
  append c

def storeLive (p : Patch) : Act Unit := do
  let x ← get
  let bytes ← Course.need (x.bytes.write? 0 p.offset p.data)
  set (x.withBytes bytes x.assembler.committed)

def unwritable (base : UInt64) (r : Reference) (f : RelocFault) : Error :=
  .unwritable r.target r.field f (r.value base)

/-- The uncommitted bytes are put into the region first, and only then counted as committed. -/
def commitInPlace (refs : List Reference) : Act Unit := do
  let x ← get
  let a := x.assembler
  let bytes ← Course.need (x.bytes.write? 0 a.committed a.scratch)
  set (x.withBytes bytes a.committed)
  let writes ← stageAll (bytes.take a.offset) 0 a.base (unwritable a.base) refs
  writes.forM storeLive
  modify fun x => x.withBytes x.bytes a.offset

/-- The new region is filled and patched before the assembler knows of it. -/
def commitMoved (next : UInt64) (refs : List Reference) : Act Unit := do
  let a ← view
  let region := List.replicate (Memory.nextCapacity a.capacity a.minCapacity a.offset) 0
  let region ← Course.need (Bytes.write? region 0 0 a.memory.current.code)
  let region ← Course.need (region.write? 0 a.committed a.scratch)
  let moved := if a.committed = 0 then [] else a.managed
  let writes ← stageAll (region.take a.offset) 0 next (unwritable next) (moved ++ refs)
  let region ← Course.need (writes.foldlM (fun bytes p => bytes.write? 0 p.offset p.data) region)
  let (memory, events) := a.memory.move next a.minCapacity (region.take a.offset)
  set { assembler := { a with memory, log := a.log ++ events }
        slack := region.drop a.offset : Live }

def conclude (a : Assembler) (refs : List Reference) : Act Unit := do
  update fun b => { b with managed := b.managed ++ refs.filter (·.baseDependent) }
  update fun b => { b with log := b.log ++ [.committed a.committed a.scratch.length refs.length] }
  update fun b => { b with scratch := [] }
  update fun b => { b with pending := [] }

def commit (next : UInt64) : Act Unit := do
  checkOpen
  let a ← view
  unless a.scratch.isEmpty && a.pending.isEmpty && a.labels.waiting.isEmpty do
    let refs ← MonadExcept.ofExcept (a.resolved.mapError .many)
    if a.memory.hasRoom a.scratch.length then commitInPlace refs else commitMoved next refs
    conclude a refs

def finalize (next : UInt64) : Act Unit := do
  commit next
  update fun a => { a with stage := .finalized }
  update fun a => { a with log := a.log ++ [.finalized a.committed] }

def edit (script : List ScriptStep) : Act Unit := do
  let a ← view
  let m ← Course.need (executeScript Modifier.execute script a.modifier)
  let (lo, hi) := m.touched
  let _ ← Course.need (m.code.read? 0 lo (hi - lo))
  update fun a => { a with memory := a.memory.setCode m.code }
  update fun a => { a with managed := m.managed a.managed }

def alter (next : UInt64) (script : List ScriptStep) : Act Unit := do
  commit next
  edit script

def alterUncommitted (script : List ScriptStep) : Act Unit := do
  checkOpen
  let a ← view
  let m ← Course.need (executeScript ScratchModifier.execute script a.scratchModifier)
  update fun a => { a with scratch := m.scratch }

def lock : Act Unit := do
  let a ← view
  let (_, b) ← MonadExcept.ofExcept a.lock
  update fun _ => b

def execute : Operation → Act Unit
  | .extend data => extend data
  | .align n fill => align n fill
  | .newDynamic => update fun a => a.newDynamic.2
  | .globalLabel name => globalLabel name
  | .dynamicLabel id => dynamicLabel id
  | .localLabel name => localLabel name
  | .append c => append c
  | .relocate u => append ⟨[], [u]⟩
  | .emit instruction => emit instruction
  | .commit next => commit next
  | .finalize next => finalize next
  | .alter next script => alter next script
  | .alterUncommitted script => alterUncommitted script
  | .close => update fun a => a.close
  | .closeBuffer => update fun a => a.closeBuffer
  | .lock => lock
  | .unlock guard => update fun a => a.unlock guard

/-- The state that an operation leaves, whether it succeeds or fails. -/
def step (x : Live) (op : Operation) : Live :=
  match (execute op).outcome x with
  | some (_, y) => y
  | none => x

def run (x : Live) (ops : List Operation) : Live := ops.foldl step x

end Live

end MachineCode
