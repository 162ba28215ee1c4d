import MachineCode.Alteration.Uncommitted
import MachineCode.Proofs.Patching

/-!
Sessions: an assembler with the history of what was done to it. A history knows nothing of the
lists in which an assembler keeps its references; what a reference means, and whether it is still
open, is read off the order in which labels were bound and code was committed.
-/
namespace MachineCode

structure Overwrite where
  start : Nat
  data : Bytes
  refs : List Reference := []
  deriving DecidableEq, Repr

namespace Overwrite

def stop (w : Overwrite) : Nat := w.start + w.data.length

def Covers (w : Overwrite) (i : Nat) : Prop := w.start ≤ i ∧ i < w.stop

instance (w : Overwrite) (i : Nat) : Decidable (w.Covers i) :=
  inferInstanceAs (Decidable (_ ∧ _))

/-- Some byte of the field was written over. -/
def Meets (w : Overwrite) (r : Reference) : Prop := ∃ i, w.Covers i ∧ r.Covers i

theorem meets_iff {w : Overwrite} {r : Reference} :
    w.Meets r ↔ max w.start r.field < min w.stop r.fieldEnd := by
  unfold Meets Covers Reference.Covers
  constructor
  · rintro ⟨i, hw, hr⟩
    omega
  · intro h
    exact ⟨max w.start r.field, by omega, by omega⟩

instance (w : Overwrite) (r : Reference) : Decidable (w.Meets r) :=
  decidable_of_iff _ meets_iff.symm

end Overwrite

/-- The field of a reference meets the stretch from the first to the last offset of some
writes, whether or not any of them wrote into it. -/
def Spans (writes : List Overwrite) (r : Reference) : Prop :=
  (∃ w ∈ writes, ∃ v ∈ writes, w.start < v.stop) ∧
    (∃ w ∈ writes, w.start < r.fieldEnd) ∧ ∃ w ∈ writes, r.field < w.stop

instance (writes : List Overwrite) (r : Reference) : Decidable (Spans writes r) :=
  inferInstanceAs (Decidable (_ ∧ _ ∧ _))

namespace Modifier

def overwritten (m : Modifier) (c : Code) : Option Overwrite :=
  (m.resolveAll c.code c.refs).toOption.map fun (refs, data) => ⟨m.cursor, data, refs⟩

def wrote (m : Modifier) : Edit → Option Overwrite
  | .write data => some ⟨m.cursor, data, []⟩
  | .append c => m.overwritten c
  | .emit (.ok c) => m.overwritten c
  | _ => none

end Modifier

namespace ScratchModifier

def wrote (m : ScratchModifier) : Edit → Option Overwrite
  | .write data => some ⟨m.cursor, data, []⟩
  | .append c => some ⟨m.cursor, c.code, []⟩
  | .emit (.ok c) => some ⟨m.cursor, c.code, []⟩
  | _ => none

end ScratchModifier

/-- All that the successful edits of a script write, in order. -/
def scriptWrites {σ : Type} (apply : σ → Edit → Except Error σ)
    (wrote : σ → Edit → Option Overwrite) : σ → List ScriptStep → List Overwrite
  | _, [] => []
  | s, step :: rest =>
    match apply s step.edit with
    | .ok s' => (wrote s step.edit).toList ++ scriptWrites apply wrote s' rest
    | .error _ => if step.required then [] else scriptWrites apply wrote s rest

namespace Assembler

def image (a : Assembler) : Bytes := a.memory.current.code ++ a.scratch

/-- The number of the region that holds the code; it changes when the code moves. -/
def region (a : Assembler) : Nat := a.memory.past.length

/-- The modifier with which an alteration of committed code starts. -/
def modifier (a : Assembler) : Modifier :=
  { labels := a.labels, base := a.base, code := a.memory.current.code
    lo := a.memory.current.code.length }

def scratchModifier (a : Assembler) : ScratchModifier :=
  { start := a.committed, scratch := a.scratch }

end Assembler

/-- What can be done with an assembler. `next` is the base address of the new region if the code
outgrows the one that it is in. -/
inductive Operation where
  | extend (data : Bytes)
  | align (n : Int) (fill : UInt8)
  | newDynamic
  | globalLabel (name : String)
  | dynamicLabel (id : UInt32)
  | localLabel (name : String)
  | append (c : Code)
  | relocate (u : Use)
  | emit (instruction : Except Error Code)
  | commit (next : UInt64)
  | finalize (next : UInt64)
  | alter (next : UInt64) (script : List ScriptStep)
  | alterUncommitted (script : List ScriptStep)
  | close
  | closeBuffer
  | lock
  | unlock (guard : Nat)

namespace Operation

def alters : Operation → Bool
  | alter _ _ | alterUncommitted _ => true
  | _ => false

end Operation

def Assembler.perform (a : Assembler) : Operation → Except Failure Assembler
  | .extend data => a.extend data
  | .align n fill => a.align n fill
  | .newDynamic => .ok a.newDynamic.2
  | .globalLabel name => a.globalLabel name
  | .dynamicLabel id => a.dynamicLabel id
  | .localLabel name => a.localLabel name
  | .append c => a.append c
  | .relocate u => a.relocate u
  | .emit instruction => a.emit instruction
  | .commit next => a.commit next
  | .finalize next => a.finalize next
  | .alter next script => (a.alter next script).map (·.assembler)
  | .alterUncommitted script => (a.alterUncommitted script).map (·.assembler)
  | .close => .ok a.close
  | .closeBuffer => .ok a.closeBuffer
  | .lock => a.lock.map (·.2)
  | .unlock guard => .ok (a.unlock guard)

inductive Label where
  | global (name : String)
  | local (name : String)
  | dynamic (id : UInt32)
  deriving DecidableEq, Repr

inductive Happening where
  | appended (data : Bytes)
  /-- A reference was recorded in uncommitted code; its target is not looked up yet. -/
  | recorded (r : Reference)
  | bound (l : Label) (offset : Nat)
  | committed
  /-- Committed code was altered. -/
  | altered (writes : List Overwrite)
  /-- Uncommitted code was altered. -/
  | reworked (writes : List Overwrite)
  deriving DecidableEq, Repr

abbrev History := List Happening

namespace History

/-- All bytes that were appended. -/
def code (h : History) : Bytes :=
  h.flatMap fun | .appended data => data | _ => []

def references (h : History) : List Reference :=
  h.filterMap fun | .recorded r => some r | _ => none

def bindings (h : History) (l : Label) : List Nat :=
  h.filterMap fun | .bound k offset => if k = l then some offset else none | _ => none

/-- A reference was recorded after `before`, and `after` has happened since. -/
def Records (h before : History) (r : Reference) (after : History) : Prop :=
  h = before ++ .recorded r :: after

def writes (h : History) : List Overwrite :=
  h.flatMap fun | .altered writes | .reworked writes => writes | _ => []

end History

/-- The offset that a target means for a reference that was recorded after `before` and followed
by `after`: a backward reference means the latest binding before it, a forward reference the
first one after it, and all other labels are bound once. -/
def denoted (before after : History) : Target → Option Nat
  | .global name => ((before ++ after).bindings (.global name)).head?
  | .dynamic id => ((before ++ after).bindings (.dynamic id)).head?
  | .backward name => (before.bindings (.local name)).getLast?
  | .forward name => (after.bindings (.local name)).head?
  | .nowhere | .external _ => none

/-- A recorded reference with the offset of its target. -/
def meaning (before : History) (r : Reference) (after : History) : Reference :=
  { r with bound := denoted before after r.target }

/-- A reference waits for the next binding of its label. -/
def Waits (r : Reference) (after : History) : Prop :=
  .committed ∉ after ∧ ∃ name, r.target = .forward name ∧ after.bindings (.local name) = []

/-- A reference is put off until the next commit: its value depends on the base address, or its
label is not a local one. -/
def Postponed (r : Reference) (after : History) : Prop :=
  .committed ∉ after ∧ match r.target with
    | .forward name => after.bindings (.local name) ≠ [] ∧ r.baseDependent = true
    | .backward _ => r.baseDependent = true
    | _ => True

def Open (r : Reference) (after : History) : Prop := Waits r after ∨ Postponed r after

/-- A reference is in committed code. `rest` is what the alteration that wrote it wrote after
it, and `later` is what has happened since. -/
inductive Stands (h : History) (q : Reference) : List Overwrite → History → Prop where
  | recorded {before r later} : h.Records before r later → .committed ∈ later →
      q = meaning before r later → Stands h q [] later
  | altered {before first w rest later} : h = before ++ .altered (first ++ w :: rest) :: later →
      q ∈ w.refs → Stands h q rest later

/-- A reference depends on the base address, and no alteration since has spanned its field. -/
def Kept (h : History) (q : Reference) : Prop :=
  q.baseDependent = true ∧ ∃ rest later, Stands h q rest later ∧
    ∀ writes, .altered writes ∈ later → ¬ Spans writes q

namespace Operation

/-- A use by code that ends at `anchor`, as it is recorded. -/
def reference? (anchor : Nat) (u : Use) : Option Reference :=
  u.rel.map fun rel => { anchor, target := u.target, addend := u.addend, rel }

def appends (a : Assembler) (c : Code) : History :=
  .appended c.code ::
    (c.refs.filterMap (reference? (a.offset + c.code.length))).map .recorded

def happenings (a : Assembler) : Operation → History
  | extend data => [.appended data]
  | align n fill => [.appended (List.replicate (Assembler.gap a.offset n.toNat) fill)]
  | globalLabel name => [.bound (.global name) a.offset]
  | dynamicLabel id => [.bound (.dynamic id) a.offset]
  | localLabel name => [.bound (.local name) a.offset]
  | append c => appends a c
  | relocate u => appends a ⟨[], [u]⟩
  | emit (.ok c) => appends a c
  | commit _ | finalize _ => [.committed]
  | alter next script =>
    match a.commit next with
    | .ok b => [.committed, .altered (scriptWrites Modifier.apply Modifier.wrote b.modifier script)]
    | .error _ => []
  | alterUncommitted script =>
    [.reworked (scriptWrites ScratchModifier.apply ScratchModifier.wrote a.scratchModifier script)]
  | emit (.error _) | newDynamic | close | closeBuffer | lock | unlock _ => []

end Operation

structure Session where
  assembler : Assembler
  history : History := []

namespace Session

def start (capacity : Nat) : Session := { assembler := { minCapacity := capacity } }

/-- An operation that fails leaves all as it was. -/
def step (s : Session) (op : Operation) : Session :=
  match s.assembler.perform op with
  | .ok a => ⟨a, s.history ++ op.happenings s.assembler⟩
  | .error _ => s

def run (s : Session) (ops : List Operation) : Session := ops.foldl step s

end Session

end MachineCode
