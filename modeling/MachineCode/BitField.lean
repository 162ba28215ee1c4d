import MachineCode.Reloc.Signed

/-!
Numbers scattered over an instruction word. A field lists the pieces of a value and the places
where they stand; `place` puts a value there and `gather` reads it back. Values are multiples of
a power of two in the signed or unsigned range of `bits`.
-/
namespace MachineCode

/-- An instruction word. Half words keep their upper half at zero. -/
abbrev Word := BitVec 32

/-- The `width` bits of a value from bit `source` on, at bit `pos` of a word. -/
structure Piece where
  source : Nat
  width : Nat
  pos : Nat
  deriving DecidableEq, Repr

namespace Piece

def mask (p : Piece) : Word := (BitVec.allOnes p.width).setWidth 32 <<< p.pos

def place (p : Piece) (v : BitVec 64) : Word :=
  (v.extractLsb' p.source p.width).setWidth 32 <<< p.pos

def gather (p : Piece) (w : Word) : BitVec 64 :=
  (w.extractLsb' p.pos p.width).setWidth 64 <<< p.source

end Piece

structure BitField where
  pieces : List Piece
  bits : Nat
  signed : Bool := false
  scale : Nat := 0
  nonzero : Bool := false
  deriving DecidableEq, Repr

inductive FieldFault where
  | misaligned
  | zero
  | range
  deriving DecidableEq, Repr

namespace BitField

def mask (f : BitField) : Word := f.pieces.foldr (fun p w => p.mask ||| w) 0

/-- The value's bits at their places, all other bits clear. -/
def place (f : BitField) (v : Int64) : Word :=
  f.pieces.foldr (fun p w => p.place v.toBitVec ||| w) 0

def gather (f : BitField) (w : Word) : Int64 :=
  let v := f.pieces.foldr (fun p v => p.gather w ||| v) 0
  Int64.ofBitVec (if f.signed then (v.setWidth f.bits).signExtend 64 else v)

/-- The word with the value in the field and all other bits kept. -/
def patch (f : BitField) (w : Word) (v : Int64) : Word := (w &&& ~~~f.mask) ||| f.place v

def unit (f : BitField) : Nat := 1 <<< f.scale

def aligned (f : BitField) (v : Int64) : Bool := v.toInt % f.unit == 0

def inRange (f : BitField) (v : Int64) : Bool :=
  if f.signed then fitsSigned v f.bits else fitsUnsigned v f.bits

def fault? (f : BitField) (v : Int64) : Option FieldFault :=
  if !f.aligned v then some .misaligned
  else if f.nonzero && v == 0 then some .zero
  else if !f.inRange v then some .range
  else none

def relocate (f : BitField) (w : Word) (v : Int64) : Except RelocFault Word :=
  if !f.aligned v then .error .misaligned
  else if !f.inRange v then .error .range
  else .ok (f.patch w v)

end BitField

end MachineCode
