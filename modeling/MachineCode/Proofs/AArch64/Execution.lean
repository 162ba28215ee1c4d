import MachineCode.Proofs.AArch64.Layout
import MachineCode.Proofs.AArch64.Patterns
import MachineCode.Proofs.AArch64.Rotations

/-!
What moves of constants do. A word is executed on the general registers as the architecture says:
MOVZ and MOVN write a chunk of sixteen bits or its complement, ORR with an immediate adds a bitmask
to a register. Register 31 is the zero register, but the stack pointer as a destination of ORR.
-/
namespace MachineCode.AArch64

open Bitmask (visible)

structure Registers where
  general : Fin 31 → BitVec 64
  stack : BitVec 64

inductive Destination where
  | general (i : Fin 31)
  | zero
  | stackPointer
  deriving DecidableEq, Repr

/-- The destination of a number, of which 31 may stand for the stack pointer. -/
def Destination.ofNum (num : Nat) (stack : Bool) : Destination :=
  if h : num < 31 then .general ⟨num, h⟩ else if stack then .stackPointer else .zero

namespace Registers

def read (s : Registers) (num : Nat) : BitVec 64 :=
  if h : num < 31 then s.general ⟨num, h⟩ else 0

def write (s : Registers) (d : Destination) (v : BitVec 64) : Registers :=
  match d with
  | .general i => { s with general := fun j => if j = i then v else s.general j }
  | .zero => s
  | .stackPointer => { s with stack := v }

end Registers

/-- The mask of a logical instruction. An element has a power of two of bits, of which the lowest
`imms + 1` are set before it is rotated to the right; the numbers of elements of one bit and of
full elements are reserved. -/
def mask? (n immr imms : Nat) : Option (BitVec 64) :=
  let size := 2 ^ (n * 64 + (63 - imms)).log2
  if size = 1 ∨ imms % size = size - 1 then none
  else some ((BitVec.ofBoolListLE ((List.range 64).map fun i =>
    decide ((i + immr) % size ≤ imms % size))).setWidth 64)

/-- The registers after a move of a constant. Instructions on 32 bits clear the upper half of their
destination; they have no chunks there and no elements of 64 bits. -/
def execute (w : Word) (s : Registers) : Option Registers :=
  let is64 := Stretch.read ⟨31, 1⟩ w == 1
  let result (stack : Bool) (v : BitVec 64) : Registers :=
    s.write (.ofNum (Stretch.read ⟨0, 5⟩ w) stack) (visible v is64)
  let hw := Stretch.read ⟨21, 2⟩ w
  let chunk := BitVec.ofNat 64 (Stretch.read ⟨5, 16⟩ w) <<< (16 * hw)
  match Stretch.read ⟨23, 8⟩ w with
  | 0xa5 => if is64 || hw < 2 then some (result false chunk) else none
  | 0x25 => if is64 || hw < 2 then some (result false (~~~chunk)) else none
  | 0x64 =>
    let n := Stretch.read ⟨22, 1⟩ w
    if is64 || n = 0 then
      (mask? n (Stretch.read ⟨16, 6⟩ w) (Stretch.read ⟨10, 6⟩ w)).map fun mask =>
        result true (s.read (Stretch.read ⟨5, 5⟩ w) ||| mask)
    else none
  | _ => none

theorem getLsbD_ofBits (f : Nat → Bool) {i : Nat} (hi : i < 64) :
    ((BitVec.ofBoolListLE ((List.range 64).map f)).setWidth 64).getLsbD i = f i := by
  rw [BitVec.getLsbD_setWidth, BitVec.getLsbD_ofBoolListLE]
  simp [hi]

/-- Values of bitmasks are the masks that the architecture makes of their numbers. -/
theorem exists_mask {m : Bitmask} {is64 : Bool} {v : BitVec 64} (h : m.decode is64 = some v) :
    ∃ mask, mask? m.n m.immr m.imms = some mask ∧ visible mask is64 = v := by
  obtain ⟨hn, himms, -, hlog, hlt, rfl⟩ := Bitmask.decode_eq_some h
  have hsize : 2 ^ (m.n * 64 + (63 - m.imms)).log2 = m.size := (Nat.one_shiftLeft _).symm
  have hpow : 2 ^ 1 ≤ m.size := by
    rw [← hsize]
    exact Nat.pow_le_pow_right (by decide) hlog
  have hdvd : m.size ∣ 64 := by
    have : m.size ∣ if m.n = 0 then 32 else 64 := Bitmask.size_dvd hn himms
    split at this
    · exact Nat.dvd_trans this (by decide)
    · exact this
  have hruns := Bitmask.repeats_replicate hdvd (Nat.succ_pos (m.imms % m.size)) hlt
    (Nat.mod_lt m.immr (by omega))
  unfold mask?
  dsimp only
  rw [hsize, if_neg (by omega)]
  refine ⟨_, rfl, congrArg (visible · is64) (BitVec.eq_of_getLsbD_eq fun i hi => ?_)⟩
  rw [getLsbD_ofBits _ hi, hruns.bit i hi, Nat.add_mod_mod]
  exact decide_eq_decide.mpr Nat.lt_succ_iff.symm

/-! ### Words that are filled with numbers -/

/-- Stretches that lie in the word and apart from each other, where the fixed bits are clear. -/
def Vacant (base : Word) (ss : List Stretch) : Prop :=
  (∀ s ∈ ss, s.stop ≤ 32 ∧ s.read base = 0) ∧ ss.Pairwise Stretch.Apart

instance (base : Word) (ss : List Stretch) : Decidable (Vacant base ss) :=
  inferInstanceAs (Decidable (_ ∧ _))

theorem laid_of_sets {ss : List Stretch} {ns : List Nat} {bits base : Word} (h : Sets ss ns bits)
    (hvacant : Vacant base ss) : Laid (ss.zip ns) where
  fits _ hf := List.forall₂_zip h.fits hf
  inside _ hf := (hvacant.1 _ (List.of_mem_zip hf).1).1
  apart := by
    rw [List.map_fst_zip (Nat.le_of_eq h.fits.length_eq)]
    exact hvacant.2

theorem map_read_of_sets {ss : List Stretch} {ns : List Nat} {bits base : Word}
    (h : Sets ss ns bits) (hvacant : Vacant base ss) : ss.map (·.read (base ||| bits)) = ns := by
  refine map_read h.fits fun f hf => ?_
  rw [h.bits_eq]
  exact (laid_of_sets h hvacant).read_join hf (hvacant.1 _ (List.of_mem_zip hf).1).2

theorem agreeOutside_of_sets {ss : List Stretch} {ns : List Nat} {bits base : Word}
    (h : Sets ss ns bits) (hvacant : Vacant base ss) :
    AgreeOutside (covered ss) base (base ||| bits) := by
  have hagree := agreeOutside_of_laid base (laid_of_sets h hvacant)
  rwa [List.map_fst_zip (Nat.le_of_eq h.fits.length_eq), ← h.bits_eq] at hagree

theorem read_of_sets_apart {ss : List Stretch} {ns : List Nat} {bits base : Word}
    (h : Sets ss ns bits) (hvacant : Vacant base ss) {t : Stretch} (ht : ∀ s ∈ ss, t.Apart s) :
    t.read (base ||| bits) = t.read base :=
  (agreeOutside_of_sets h hvacant).read_eq ht

section Words

variable {num chunk hw n immr imms : Nat} {is64 inverted : Bool} {bits : Word}

def widthBit (is64 : Bool) : Word := if is64 then 1 <<< 31 else 0

def wideBase (is64 inverted : Bool) : Word :=
  (if inverted then 0x12800000 else 0x52800000) ||| widthBit is64

def logicalBase (is64 : Bool) : Word := 0x320003e0 ||| widthBit is64

/-- A wide move writes its chunk, or the complement of it. -/
theorem execute_wide (hbits : Sets [⟨0, 5⟩, ⟨5, 16⟩, ⟨21, 2⟩] [num, chunk, hw] bits)
    (hhw : is64 = true ∨ hw < 2) (s : Registers) :
    execute (wideBase is64 inverted ||| bits) s =
      some (s.write (.ofNum num false) (visible (movedBits is64 inverted chunk hw) is64)) := by
  have hvacant : Vacant (wideBase is64 inverted) [⟨0, 5⟩, ⟨5, 16⟩, ⟨21, 2⟩] := by
    cases is64 <;> cases inverted <;> decide
  have hnumbers := map_read_of_sets hbits hvacant
  have hwidth := read_of_sets_apart hbits hvacant (t := ⟨31, 1⟩) (by decide)
  have hop := read_of_sets_apart hbits hvacant (t := ⟨23, 8⟩) (by decide)
  generalize wideBase is64 inverted ||| bits = w at hnumbers hwidth hop ⊢
  obtain ⟨hrd, hchunk, hhw'⟩ : Stretch.read ⟨0, 5⟩ w = num ∧ Stretch.read ⟨5, 16⟩ w = chunk ∧
      Stretch.read ⟨21, 2⟩ w = hw := by simpa using hnumbers
  have hvalid : (is64 || decide (hw < 2)) = true := by simpa using hhw
  have hsame : (Stretch.read ⟨31, 1⟩ w == 1) = is64 := by
    rw [hwidth]
    cases is64 <;> cases inverted <;> decide
  unfold execute
  dsimp only
  rw [hop, hsame, hrd, hchunk, hhw', hvalid]
  cases inverted with
  | true =>
    have hread : Stretch.read ⟨23, 8⟩ (wideBase is64 true) = 0x25 := by cases is64 <;> decide
    rw [hread]
    cases is64 <;> simp [movedBits, invertBits, visible]
  | false =>
    have hread : Stretch.read ⟨23, 8⟩ (wideBase is64 false) = 0xa5 := by cases is64 <;> decide
    rw [hread]
    rfl

/-- ORR with the zero register writes its mask. -/
theorem execute_logical (hbits : Sets [⟨0, 5⟩, ⟨22, 1⟩, ⟨16, 6⟩, ⟨10, 6⟩] [num, n, immr, imms] bits)
    (hn : is64 = true ∨ n = 0) {mask : BitVec 64} (hmask : mask? n immr imms = some mask)
    (s : Registers) : execute (logicalBase is64 ||| bits) s =
      some (s.write (.ofNum num true) (visible mask is64)) := by
  have hvacant : Vacant (logicalBase is64) [⟨0, 5⟩, ⟨22, 1⟩, ⟨16, 6⟩, ⟨10, 6⟩] := by
    cases is64 <;> decide
  have hnumbers := map_read_of_sets hbits hvacant
  have hwidth := read_of_sets_apart hbits hvacant (t := ⟨31, 1⟩) (by decide)
  have hop := read_of_sets_apart hbits hvacant (t := ⟨23, 8⟩) (by decide)
  have hsource := read_of_sets_apart hbits hvacant (t := ⟨5, 5⟩) (by decide)
  generalize logicalBase is64 ||| bits = w at hnumbers hwidth hop hsource ⊢
  obtain ⟨hrd, hn', hr, hs⟩ : Stretch.read ⟨0, 5⟩ w = num ∧ Stretch.read ⟨22, 1⟩ w = n ∧
      Stretch.read ⟨16, 6⟩ w = immr ∧ Stretch.read ⟨10, 6⟩ w = imms := by simpa using hnumbers
  have hvalid : (is64 || decide (n = 0)) = true := by simpa using hn
  have hsame : (Stretch.read ⟨31, 1⟩ w == 1) = is64 := by
    rw [hwidth]
    cases is64 <;> decide
  have hread : Stretch.read ⟨23, 8⟩ (logicalBase is64) = 0x64 := by cases is64 <;> decide
  have hzero : Stretch.read ⟨5, 5⟩ (logicalBase is64) = 31 := by cases is64 <;> decide
  unfold execute
  dsimp only
  rw [hop, hread, hsame, hrd, hn', hr, hs, hsource, hzero, hvalid, if_pos rfl, hmask]
  simp [Registers.read]

end Words

end MachineCode.AArch64
