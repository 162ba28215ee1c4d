import MachineCode.X86.Refusal

/-!
Addresses that can be encoded. `Mem.settle` rejects impossible combinations of registers and puts
the rest into a normal form: the base in the base field, an index wherever the encoding needs one,
and a displacement with a size.
-/
namespace MachineCode.X86

namespace Mem

def validScale (n : Nat) : Bool := n == 1 || n == 2 || n == 4 || n == 8

def checkScale (n : Nat) : Except MemFault Unit :=
  if validScale n then .ok () else .error (.scale n)

def placeIp (m : Mem) (size : Nat) : Except MemFault (Mem × Option Nat) :=
  if m.base.isSome && m.index.isSome then .error .ipPair
  else if m.scale ≠ 1 then .error .ipScale
  else .ok ({ m with base := m.base.or m.index, index := none }, some size)

def placeVector (m : Mem) : Except MemFault (Mem × Option Nat) := do
  if m.base.isSome && m.index.isSome then throw .vectorPair
  if m.base.isSome && m.scale ≠ 1 then throw .vsibIndex
  checkScale m.scale
  return ({ m with index := m.index.or m.base, base := none }, none)

def placeVsib (m : Mem) (size : Nat) : Except MemFault (Mem × Option Nat) := do
  let swapped := m.base.any (·.isVector)
  if swapped && m.scale ≠ 1 then throw .vsibBase
  checkScale m.scale
  return (if swapped then { m with base := m.index, index := m.base } else m, some size)

def wordCode (b i : Register) : Option Nat :=
  let pair (x y : Nat) : Bool := (b.num == x && i.num == y) || (b.num == y && i.num == x)
  if pair 3 6 then some 0
  else if pair 3 7 then some 1
  else if pair 5 6 then some 2
  else if pair 5 7 then some 3
  else none

def wordBaseCode (b : Register) : Option Nat :=
  match b.num with
  | 6 => some 4
  | 7 => some 5
  | 5 => some 6
  | 3 => some 7
  | _ => none

/-- 16-bit addresses have a fixed list of combinations; the base becomes the register numbered by
the code of the combination. -/
def placeWord (m : Mem) : Except MemFault (Mem × Option Nat) := do
  if m.index.isSome && m.scale ≠ 1 then throw .wordScale
  let code ←
    match m.base, m.index with
    | some b, some i => (wordCode b i).elim (.error (.wordPair b i)) .ok
    | some b, none | none, some b => (wordBaseCode b).elim (.error (.wordBase b)) .ok
    | none, none => .ok 0
  return ({ m with base := some (.make .legacy 2 code), index := none, scale := 1 }, some 2)

/-- An index without a base becomes the base, or both if the scale is one more than a power of
two. -/
def split (m : Mem) : Mem :=
  if m.base.isNone && !m.noSplit then
    match m.scale with
    | 1 => { m with base := m.index, index := none }
    | 2 | 3 | 5 | 9 => { m with base := m.index, scale := m.scale - 1 }
    | _ => m
  else m

/-- The stack pointer can not be an index; it changes places with the base if it can. -/
def swapStack (m : Mem) : Except MemFault Mem :=
  match m.index with
  | some i =>
    if i.num ≠ 4 then .ok m
    else if m.base.all (·.num == 4) || m.scale ≠ 1 then .error (.index i)
    else .ok { m with base := some i, index := m.base, scale := 1 }
  | none => .ok m

/-- A base that needs an index field gets the index that means none. -/
def escape (m : Mem) (size : Nat) : Mem :=
  if m.index.isNone && m.base.any fun b => b.num == 4 || b.num == 12 then
    { m with index := some (.make .legacy (if size = 4 then 4 else 8) 4), scale := 1 }
  else m

def placeLegacy (m : Mem) (size : Nat) : Except MemFault (Mem × Option Nat) := do
  let m := m.split
  checkScale m.scale
  let m ← m.swapStack
  return (m.escape size, some size)

def combine (b i : Register) : Except MemFault (Nat × Nat × Bool) :=
  if b.family = i.family then
    if b.width = i.width then .ok (b.width, b.family, false)
    else .error (.differingSizes b.width i.width)
  else if b.isVector then .ok (i.width, i.family, true)
  else if i.isVector then .ok (b.width, b.family, true)
  else .error (.combination b i)

def place (m : Mem) : Except MemFault (Mem × Option Nat) := do
  let m := { m with scale := max m.scale 1 }
  let shape ←
    match m.base, m.index with
    | none, none => pure none
    | some r, none | none, some r => pure (some (r.width, r.family, false))
    | some b, some i => some <$> combine b i
  match shape with
  | none => return (m, none)
  | some (size, family, vsib) =>
    match RegClass.ofCode? family with
    | some .ip => m.placeIp size
    | some .xmm | some .ymm => m.placeVector
    | some .legacy =>
      if size = 2 then
        if vsib then .error .vsibWord else m.placeWord
      else if size = 4 || size = 8 then
        if vsib then m.placeVsib size else m.placeLegacy size
      else .error (.legacySize size)
    | _ => .error (.family family)

def dispDword : Option Disp → Disp
  | some (.label l) => .label { l with width := 4 }
  | some d => .rel d.value 4
  | none => .rel 0 4

/-- A displacement with a size: the least that holds the number, the greatest for a target. -/
def sizeDisp (d : Disp) (short : Bool) : Except Refusal Disp :=
  match d with
  | .rel v 0 =>
    if Disp.fits v 1 then .ok (.rel v 1)
    else if short then
      if Disp.fits v 2 then .ok (.rel v 2) else .error (.dispRange v)
    else .ok (.rel v 4)
  | .label l => .ok (.label (if l.width = 0 then { l with width := if short then 2 else 4 } else l))
  | d => .ok d

def checkDisp (d : Disp) (short : Bool) : Except MemFault Unit :=
  if short then if d.width = 1 || d.width = 2 then .ok () else .error .wordDisp
  else if d.width = 1 || d.width = 4 then .ok ()
  else .error .dwordDisp

/-- The displacement of an address in normal form. Zero is none, except relative to the instruction
pointer. -/
def settleDisp (m : Mem) (size : Option Nat) : Except Refusal (Option Disp) :=
  if m.base.any (·.isClass .ip) then .ok (some (dispDword m.disp))
  else
    match m.disp with
    | none | some (.rel 0 0) => .ok none
    | some d => do
      let short := size == some 2
      let d ← sizeDisp d short
      (checkDisp d short).mapError .mem
      return some d

def checkSegment (m : Mem) : Except MemFault Unit :=
  match m.seg with
  | none => .ok ()
  | some s => if s.isClass .segment then .ok () else .error (.notSegment s)

def settle (m : Mem) : Except Refusal (Mem × Option Nat) := do
  m.checkSegment.mapError .mem
  let (m, size) ← m.place.mapError .mem
  let disp ← m.settleDisp size
  return ({ m with disp }, size)

end Mem

end MachineCode.X86
