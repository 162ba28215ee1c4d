import MachineCode.Bytes
import MachineCode.Error

/-!
Executable memory. Code lives in one region at a time; when it outgrows the region it moves to a
larger one at another base address. A region is held by its owner and by the guards locked on it,
and is given back when the last of them lets go. Guards therefore keep seeing the region that they
were locked on.
-/
namespace MachineCode

def pageSize : Nat := 4096

def pageCeil (n : Nat) : Nat := (n + (pageSize - 1)) / pageSize * pageSize

/-- A size in whole pages, and one page at least. Sizes are signed words, so the last page of
them rounds up to the least word. -/
def roundUp (size : Int64) : Int64 :=
  if size ≤ 0 then Int64.ofNat pageSize else Int64.ofNat (pageCeil size.toNatClampNeg)

structure Region where
  base : UInt64
  /-- Zero for the region in use before any code is committed, which has no memory. -/
  capacity : Nat
  code : Bytes
  /-- The owner, until it lets go, and the guards that are locked. -/
  holders : Nat
  deriving DecidableEq, Repr

namespace Region

def empty : Region := ⟨0, 0, [], 1⟩

def hasMemory (r : Region) : Bool := r.capacity != 0

/-- The bytes between the start of the region and the address of an offset; there is none
outside the code. -/
def ptr? (r : Region) (offset : Int64) : Option Nat :=
  if 0 ≤ offset.toInt && offset.toInt ≤ r.code.length && r.hasMemory then some offset.toInt.toNat
  else none

end Region

inductive Event where
  | grew (capacity size : Nat) (oldBase newBase : UInt64)
  | released (base : UInt64)
  | committed (offset size references : Nat)
  | finalized (size : Nat)
  deriving DecidableEq, Repr

namespace Event

def message : Event → String
  | grew _ _ _ _ => "Grew executable buffer"
  | released _ => "Released executable buffer"
  | committed _ _ _ => "Committed code"
  | finalized _ => "Finalized executable buffer"

def numbers : Event → List (String × Nat)
  | grew capacity size _ _ => [("capacity", capacity), ("size", size)]
  | released _ => []
  | committed offset size references =>
    [("offset", offset), ("size", size), ("references", references)]
  | finalized size => [("size", size)]

def addresses : Event → List (String × UInt64)
  | grew _ _ old new => [("old_base", old), ("new_base", new)]
  | released base => [("base", base)]
  | _ => []

end Event

structure Guard where
  region : Nat
  locked : Bool
  deriving DecidableEq, Repr

structure Memory where
  /-- The regions that the code has left, oldest first; regions are numbered from the oldest. -/
  past : List Region := []
  current : Region := .empty
  /-- Guards by number, in the order in which they were locked. -/
  guards : List Guard := []
  deriving DecidableEq, Repr

namespace Memory

def size (m : Memory) : Nat := m.current.code.length

def region? (m : Memory) (i : Nat) : Option Region :=
  if i = m.past.length then some m.current else m.past[i]?

def guarded? (m : Memory) (guard : Nat) : Option Region :=
  m.guards[guard]? |>.bind fun g => m.region? g.region

def setRegion (m : Memory) (i : Nat) (r : Region) : Memory :=
  if i = m.past.length then { m with current := r } else { m with past := m.past.set i r }

/-- One holder of a region lets go; the last one gives the memory back. -/
def release (m : Memory) (i : Nat) : Memory × List Event :=
  match m.region? i with
  | none => (m, [])
  | some r =>
    (m.setRegion i { r with holders := r.holders - 1 },
      if r.holders = 1 && r.hasMemory then [.released r.base] else [])

def releaseCurrent (m : Memory) : Memory × List Event := m.release m.past.length

/-- A guard on the current region, unless the last holder has let go of it. -/
def lock (m : Memory) : Except Error (Nat × Memory) :=
  if m.current.holders = 0 then .error .released
  else
    .ok (m.guards.length,
      { m with
        current := { m.current with holders := m.current.holders + 1 }
        guards := m.guards ++ [⟨m.past.length, true⟩] })

def unlock (m : Memory) (guard : Nat) : Memory × List Event :=
  match m.guards[guard]? with
  | some ⟨i, true⟩ => { m with guards := m.guards.set guard ⟨i, false⟩ }.release i
  | _ => (m, [])

/-- Doubles a capacity until it is no less than `size`. -/
def doubled (capacity size : Nat) : Nat :=
  if 0 < capacity ∧ capacity < size then doubled (2 * capacity) size else capacity
termination_by size - capacity

/-- The capacity of the region that follows one of capacity `old`: at least twice as much, at
least the configured minimum, a whole number of pages, and enough for `size` bytes. -/
def nextCapacity (old minimum size : Nat) : Nat :=
  pageCeil (doubled (max (max (2 * old) minimum) pageSize) size)

def hasRoom (m : Memory) (n : Nat) : Bool := m.size + n ≤ m.current.capacity

def setCode (m : Memory) (code : Bytes) : Memory :=
  { m with current := { m.current with code } }

def move (m : Memory) (base : UInt64) (minimum : Nat) (code : Bytes) : Memory × List Event :=
  let capacity := nextCapacity m.current.capacity minimum code.length
  let left := m.past.length
  let moved : Memory :=
    { m with past := m.past ++ [m.current], current := ⟨base, capacity, code, 1⟩ }
  let (freed, events) := moved.release left
  (freed, .grew capacity code.length m.current.base base :: events)

end Memory

end MachineCode
