import Mathlib.Data.List.Find
import MachineCode.Proofs.AArch64.Execution
import MachineCode.Proofs.AArch64.StackPointer

/-!
Moves of constants. Three templates for each width take a register and a number: a chunk, the
complement of a chunk, and a bitmask, of which the last reads register 31 as the stack pointer. The
first one that takes the operands emits a word that leaves the number in the register.
-/
namespace MachineCode.AArch64

open Bitmask (visible)

def bitsOf (is64 : Bool) : Nat := if is64 then 64 else 32

def residue (bits : Nat) (v : Int64) : Nat := (v.toInt % (2 ^ bits : Nat)).toNat

/-- The residue of a number at a width of the registers. -/
def bitsIn (is64 : Bool) (v : Int64) : BitVec 64 := BitVec.ofNat 64 (residue (bitsOf is64) v)

/-- The residue, or its complement at the width. -/
def chunked (is64 inverted : Bool) (v : Int64) : Nat :=
  if inverted then 2 ^ bitsOf is64 - 1 - residue (bitsOf is64) v else residue (bitsOf is64) v

/-- At 32 bits, a number is written with a sign or without one. -/
def InRange (is64 : Bool) (v : Int64) : Prop :=
  is64 = false → -2 ^ 31 ≤ v.toInt ∧ v.toInt ≤ 2 ^ 32 - 1

instance (is64 : Bool) (v : Int64) : Decidable (InRange is64 v) :=
  inferInstanceAs (Decidable (_ → _))

/-- The numbers of sixteen bits, shifted by a multiple of sixteen. -/
def IsChunk (bits u : Nat) : Prop :=
  ∃ chunk hw, chunk < 2 ^ 16 ∧ 16 * hw < bits ∧ u = chunk * 2 ^ (16 * hw)

/-- The numbers that repeat a run of ones, rotated within elements of a power of two of bits. -/
def IsBitmask (bits u : Nat) : Prop :=
  ∃ p ones r, 0 < p ∧ 2 ^ p ≤ bits ∧ 0 < ones ∧ ones < 2 ^ p ∧
    ∀ i < bits, u.testBit i = decide ((i + r) % 2 ^ p < ones)

/-- The slot of a register at a width, that may be the stack pointer or else the zero register. -/
def registerSlot (is64 stack : Bool) : Slot :=
  match is64, stack with
  | false, false => .gpW
  | false, true => .gpWsp
  | true, false => .gpX
  | true, true => .gpXsp

def wideSlot (is64 inverted : Bool) : Slot :=
  if inverted then .wideInvImm is64 else .wideImm is64

def wideLoad (is64 inverted : Bool) : Template :=
  ⟨wideBase is64 inverted, [registerSlot is64 false, wideSlot is64 inverted],
    [Instructions.rd, .movWide is64 inverted]⟩

def logicalLoad (is64 : Bool) : Template :=
  ⟨logicalBase is64, [registerSlot is64 true, .logicalImm is64],
    [Instructions.rd, .logical is64]⟩

/-- The templates of one width, in the order in which they are tried. -/
def loads (is64 : Bool) : List Template :=
  [wideLoad is64 false, wideLoad is64 true, logicalLoad is64]

section Values

variable {is64 inverted : Bool} {v : Int64} {u : BitVec 64} {chunk hw : Nat}

theorem lt_of_wideImm (h : wideImm u is64 = some (chunk, hw)) : 16 * hw < bitsOf is64 := by
  obtain ⟨hw', hfind, heq⟩ := Option.map_eq_some_iff.mp h
  cases heq
  have hmem := List.mem_range.mp (List.mem_of_find?_eq_some hfind)
  cases is64
  · have : hw < 2 := hmem
    show 16 * hw < 32
    omega
  · have : hw < 4 := hmem
    show 16 * hw < 64
    omega

theorem toNat_shifted (hchunk : chunk < 2 ^ 16) (hhw : hw < 4) :
    (BitVec.ofNat 64 chunk <<< (16 * hw)).toNat = chunk * 2 ^ (16 * hw) := by
  have hlt : chunk * 2 ^ (16 * hw) < 2 ^ 64 := calc
    chunk * 2 ^ (16 * hw) < 2 ^ 16 * 2 ^ (16 * hw) :=
      Nat.mul_lt_mul_of_pos_right hchunk (Nat.two_pow_pos _)
    _ = 2 ^ (16 + 16 * hw) := (Nat.pow_add _ _ _).symm
    _ ≤ 2 ^ 64 := Nat.pow_le_pow_right (by decide) (by omega)
  rw [BitVec.toNat_shiftLeft, BitVec.toNat_ofNat, Nat.mod_eq_of_lt (a := chunk) (by omega),
    Nat.shiftLeft_eq, Nat.mod_eq_of_lt hlt]

theorem shifted_and_not (hchunk : chunk < 2 ^ 16) :
    BitVec.ofNat 64 chunk <<< (16 * hw) &&& ~~~(0xffff#64 <<< (16 * hw)) = 0 := by
  have hones : 0xffff#64 = (BitVec.allOnes 16).setWidth 64 := by decide
  apply BitVec.eq_of_getLsbD_eq
  intro i hi
  simp only [hones, BitVec.getLsbD_and, BitVec.getLsbD_not, BitVec.getLsbD_shiftLeft, hi,
    decide_true, Bool.true_and, BitVec.getLsbD_setWidth, BitVec.getLsbD_allOnes,
    BitVec.getLsbD_ofNat, BitVec.ofNat_eq_ofNat]
  by_cases hlow : i < 16 * hw
  · simp [hlow]
  · by_cases hhigh : i - 16 * hw < 16
    · simp [hlow, hhigh, show i - 16 * hw < 64 by omega]
    · have hbit : chunk.testBit (i - 16 * hw) = false :=
        Nat.testBit_lt_two_pow (Nat.lt_of_lt_of_le hchunk (Nat.pow_le_pow_right (by decide)
          (by omega)))
      simp [hbit]

theorem wideImm_isSome_iff : (wideImm u is64).isSome = true ↔ IsChunk (bitsOf is64) u.toNat := by
  constructor
  · intro h
    obtain ⟨⟨chunk, hw⟩, hsome⟩ := Option.isSome_iff_exists.mp h
    obtain ⟨hchunk, hlt, rfl⟩ := wideImm_spec hsome
    exact ⟨chunk, hw, hchunk, lt_of_wideImm hsome, toNat_shifted hchunk hlt⟩
  · rintro ⟨chunk, hw, hchunk, hlt, hu⟩
    have hrange : hw < if is64 then 4 else 2 := by
      cases is64
      · have : 16 * hw < 32 := hlt
        show hw < 2
        omega
      · have : 16 * hw < 64 := hlt
        show hw < 4
        omega
    have hshift : u = BitVec.ofNat 64 chunk <<< (16 * hw) := by
      apply BitVec.eq_of_toNat_eq
      rw [hu, toNat_shifted hchunk (Nat.lt_of_lt_of_le hrange (by cases is64 <;> decide))]
    rw [wideImm, Option.isSome_map, List.find?_isSome]
    refine ⟨hw, List.mem_range.mpr hrange, ?_⟩
    rw [decide_eq_true_eq, hshift]
    exact shifted_and_not hchunk

theorem toNat_toBitVec_mod {bits : Nat} (h : bits ≤ 64) :
    v.toBitVec.toNat % 2 ^ bits = residue bits v := by
  have hnum := BitField.extract_emod v (q := v.toInt) (s := 0) (w := bits) (by simp) (by omega)
  rw [BitVec.extractLsb'_toNat, Nat.shiftRight_zero] at hnum
  rw [residue, ← hnum, Int.toNat_natCast]

theorem residue_lt (bits : Nat) (v : Int64) : residue bits v < 2 ^ bits := by
  have hpos : (0 : Int) < (2 ^ bits : Nat) := by exact_mod_cast Nat.two_pow_pos bits
  have hlow := Int.emod_nonneg v.toInt (Int.ne_of_gt hpos)
  have hhigh := Int.emod_lt_of_pos v.toInt hpos
  unfold residue
  omega

theorem toNat_bitsIn : (bitsIn is64 v).toNat = residue (bitsOf is64) v := by
  have hlt := residue_lt (bitsOf is64) v
  have hle : 2 ^ bitsOf is64 ≤ 2 ^ 64 := by cases is64 <;> decide
  exact Nat.mod_eq_of_lt (Nat.lt_of_lt_of_le hlt hle)

theorem immBits_eq : immBits v is64 = if InRange is64 v then some (bitsIn is64 v) else none := by
  cases is64 with
  | true =>
    rw [if_pos nofun]
    refine congrArg some (BitVec.eq_of_toNat_eq ?_)
    rw [toNat_bitsIn, bitsOf, if_pos rfl, ← toNat_toBitVec_mod (Nat.le_refl 64),
      Nat.mod_eq_of_lt v.toBitVec.isLt]
  | false =>
    have hv : (v.toBitVec.setWidth 32).setWidth 64 = bitsIn false v := by
      apply BitVec.eq_of_toNat_eq
      rw [toNat_bitsIn, bitsOf, if_neg Bool.false_ne_true,
        ← toNat_toBitVec_mod (by decide : 32 ≤ 64), BitVec.toNat_setWidth, BitVec.toNat_setWidth]
      omega
    have hrange : (-0x80000000 ≤ v.toInt && v.toInt < 0x100000000) = true ↔ InRange false v := by
      simp only [Bool.and_eq_true, decide_eq_true_eq, InRange, forall_const]
      omega
    rw [immBits, if_neg Bool.false_ne_true, hv]
    exact if_congr hrange rfl rfl

theorem toNat_invertBits (h : u.toNat < 2 ^ bitsOf is64) :
    (invertBits u is64).toNat = 2 ^ bitsOf is64 - 1 - u.toNat := by
  cases is64 with
  | true => simp [invertBits, bitsOf]
  | false =>
    have h32 : u.toNat < 2 ^ 32 := h
    rw [invertBits, if_neg Bool.false_ne_true, BitVec.toNat_setWidth, BitVec.toNat_setWidth,
      BitVec.toNat_not]
    show _ = 2 ^ 32 - 1 - u.toNat
    omega

theorem takesImm_wideSlot_eq : (wideSlot is64 inverted).takesImm v =
    ((immBits v is64).bind fun u =>
      wideImm (if inverted then invertBits u is64 else u) is64).isSome := by
  cases inverted <;> rfl

theorem takesImm_wideSlot : (wideSlot is64 inverted).takesImm v = true ↔
    InRange is64 v ∧ IsChunk (bitsOf is64) (chunked is64 inverted v) := by
  rw [takesImm_wideSlot_eq, immBits_eq]
  split
  next hrange =>
    have hu : (if inverted then invertBits (bitsIn is64 v) is64 else bitsIn is64 v).toNat =
        chunked is64 inverted v := by
      cases inverted with
      | true =>
        rw [if_pos rfl, toNat_invertBits, toNat_bitsIn]
        · rfl
        · rw [toNat_bitsIn]
          exact residue_lt _ v
      | false => exact toNat_bitsIn
    rw [Option.bind_some, wideImm_isSome_iff, hu]
    exact (and_iff_right hrange).symm
  next hrange => exact ⟨fun h => absurd h Bool.false_ne_true, fun h => absurd h.1 hrange⟩

theorem takesImm_logicalImm : (Slot.logicalImm is64).takesImm v = true ↔
    InRange is64 v ∧ IsBitmask (bitsOf is64) (residue (bitsOf is64) v) := by
  rw [Slot.takesImm, immBits_eq]
  split
  next hrange =>
    rw [Option.bind_some, Bitmask.encode_isSome_iff, ← toNat_bitsIn]
    exact (and_iff_right hrange).symm
  next hrange => exact ⟨fun h => absurd h Bool.false_ne_true, fun h => absurd h.1 hrange⟩

theorem visible_bitsIn (h : InRange is64 v) : visible (bitsIn is64 v) is64 = bitsIn is64 v := by
  cases is64 with
  | true => rfl
  | false =>
    have hbits : immBits v false = some (bitsIn false v) := by rw [immBits_eq, if_pos h]
    exact immBits_of_narrow hbits

/-- The bits of a wide move, and what they leave in the register. -/
theorem movWideBits_of_takes (name : String) (h : (wideSlot is64 inverted).takesImm v = true) :
    ∃ chunk hw, Filling.movWideBits name v is64 inverted = .ok (bitsAt chunk 5 ||| bitsAt hw 21) ∧
      chunk < 2 ^ 16 ∧ hw < 4 ∧ (is64 = true ∨ hw < 2) ∧
      movedBits is64 inverted chunk hw = bitsIn is64 v := by
  have hbits : immBits v is64 = some (bitsIn is64 v) := by
    rw [immBits_eq, if_pos (takesImm_wideSlot.mp h).1]
  rw [takesImm_wideSlot_eq, hbits, Option.bind_some] at h
  obtain ⟨⟨chunk, hw⟩, hwide⟩ := Option.isSome_iff_exists.mp h
  obtain ⟨hchunk, hlt, hvalue⟩ := wideImm_spec hwide
  refine ⟨chunk, hw, ?_, hchunk, hlt, ?_, ?_⟩
  · rw [Filling.movWideBits, hbits, Option.getD_some, hwide]
  · have hstop := lt_of_wideImm hwide
    cases is64 with
    | true => exact Or.inl rfl
    | false =>
      have : 16 * hw < 32 := hstop
      exact Or.inr (by omega)
  · rw [movedBits, ← hvalue]
    cases inverted with
    | true => exact invertBits_invertBits hbits
    | false => rfl

/-- The bits of a logical instruction, and the mask that they stand for. -/
theorem logicalBits_of_takes (name : String) (h : (Slot.logicalImm is64).takesImm v = true) :
    ∃ m : Bitmask, ∃ mask, Filling.logicalBits name v is64 =
        .ok (bitsAt m.n 22 ||| (bitsAt m.immr 16 ||| bitsAt m.imms 10)) ∧
      m.n < 2 ∧ m.immr < 64 ∧ m.imms < 64 ∧ (is64 = true ∨ m.n = 0) ∧
      mask? m.n m.immr m.imms = some mask ∧ visible mask is64 = bitsIn is64 v := by
  have hrange := (takesImm_logicalImm.mp h).1
  have hbits : immBits v is64 = some (bitsIn is64 v) := by rw [immBits_eq, if_pos hrange]
  rw [Slot.takesImm, hbits, Option.bind_some] at h
  obtain ⟨m, hm⟩ := Option.isSome_iff_exists.mp h
  have hdecode : m.decode is64 = some (visible (bitsIn is64 v) is64) := Bitmask.decode_encode hm
  rw [visible_bitsIn hrange] at hdecode
  obtain ⟨hn, himmr, himms⟩ := Bitmask.bounds_of_decode hdecode
  obtain ⟨mask, hmask, hvalue⟩ := exists_mask hdecode
  refine ⟨m, mask, ?_, hn, himmr, himms, ?_, hmask, hvalue⟩
  · rw [Filling.logicalBits, hbits]
    dsimp only
    rw [hm, ← BitVec.or_assoc]
  · obtain ⟨-, -, hnarrow, -⟩ := Bitmask.decode_eq_some hdecode
    cases is64 with
    | true => exact Or.inl rfl
    | false => exact Or.inr (hnarrow rfl)

end Values

/-! ### The templates that load a number -/

def Slot.takesNumbers : Slot → Bool
  | imm | fzero | wideImm _ | wideInvImm _ | logicalImm _ => true
  | _ => false

def Template.isLoad (t : Template) (is64 : Bool) : Bool :=
  match t.slots with
  | [s, s'] => (s == registerSlot is64 false || s == registerSlot is64 true) && s'.takesNumbers
  | _ => false

theorem filter_isLoad : ∀ is64, (templatesOf "mov").filter (·.isLoad is64) = loads is64 := by
  decide +kernel

theorem length_slots_of_mov : ∀ t ∈ templatesOf "mov", t.slots.length = 2 := by
  decide +kernel

namespace Register

variable {r : Register}

def IsGeneral (r : Register) : Prop :=
  r.family = Family.w ∨ r.family = Family.x ∨ r.family = Family.wsp ∨ r.family = Family.sp

def is64 (r : Register) : Bool := r.family == Family.x || r.family == Family.sp

def isStack (r : Register) : Bool := r.family == Family.wsp || r.family == Family.sp

/-- Where an instruction leaves a result that it has for the register. -/
def destination (r : Register) : Destination := .ofNum r.num r.isStack

theorem slot_of_takesRegister (hr : r.IsGeneral) {s : Slot} (h : s.takesRegister r = true) :
    s = registerSlot r.is64 false ∨ s = registerSlot r.is64 true := by
  have hcases : (r.family = Family.w ∨ r.family = Family.wsp) ∧ r.is64 = false ∨
      (r.family = Family.x ∨ r.family = Family.sp) ∧ r.is64 = true := by
    rcases hr with hr | hr | hr | hr <;> simp [is64, hr, Family.w, Family.x, Family.wsp, Family.sp]
  rcases hcases with ⟨hr, h64⟩ | ⟨hr, h64⟩ <;> rw [h64] <;> rcases hr with hr | hr <;>
    cases s <;> simp [Slot.takesRegister, hr, Family.w, Family.x, Family.wsp, Family.sp, Family.b,
      Family.h, Family.s, Family.d, Family.q] at h <;> simp [registerSlot]

theorem takesRegister_plain (hr : r.IsGeneral) :
    (registerSlot r.is64 false).takesRegister r = !r.isStack := by
  rcases hr with hr | hr | hr | hr <;>
    simp [is64, isStack, registerSlot, Slot.takesRegister, hr, Family.w, Family.x, Family.wsp,
      Family.sp]

/-- The stack pointer's slot takes a register that turns out not to be the zero register. -/
theorem takesRegister_stack (hr : r.IsGeneral) (hfault : r.fault? = none) :
    ((registerSlot r.is64 true).takesRegister r = true ∧
      registerFault? (registerSlot r.is64 true) r = none) ↔ ¬ r.IsZero := by
  rcases hr with hr | hr | hr | hr <;> by_cases hnum : r.num = 31 <;> cases hd : r.isDynamic <;>
    simp [is64, registerFault?, registerSlot, Slot.takesRegister, IsZero, hr, hnum, hfault, hd,
      Family.w, Family.x, Family.wsp, Family.sp]

/-- A register that is not the zero register may stand where 31 is the stack pointer. -/
theorem ofNum_of_not_isZero (hr : r.IsGeneral) (hnum : r.num < 32) (h : ¬ r.IsZero) :
    .ofNum r.num true = r.destination := by
  unfold destination Destination.ofNum
  by_cases hlt : r.num < 31
  · rw [dif_pos hlt, dif_pos hlt]
  · have hstack : r.isStack = true := by
      unfold IsZero at h
      unfold isStack
      rw [Bool.or_eq_true, beq_iff_eq, beq_iff_eq]
      rcases hr with hr | hr | hr
      · exact absurd ⟨Or.inl hr, by omega⟩ h
      · exact absurd ⟨Or.inr hr, by omega⟩ h
      · exact hr
    rw [hstack]

end Register

section Loading

variable {r : Register} {v : Int64}

theorem accepts_pair {base : Word} {s s' : Slot} {as : List Action} :
    (⟨base, [s, s'], as⟩ : Template).accepts [.reg r, .imm v] =
      (s.takesRegister r && s'.takesImm v) := by
  cases s <;> simp [Template.accepts, Template.accepts.go, Slot.takes]

theorem takesNumbers_of_takesImm {s : Slot} (h : s.takesImm v = true) : s.takesNumbers = true := by
  cases s <;> first | rfl | cases h

/-- The result is a word that leaves the number in the register, at the register's width. -/
def Moves (r : Register) (v : Int64) (result : Except Refusal (Encoded Reloc)) : Prop :=
  ∃ w, result = .ok ⟨Bytes.ofWord w, []⟩ ∧
    ∀ s, execute w s = some (s.write r.destination (bitsIn r.is64 v))

/-- The templates of other operands do not get in the way. -/
theorem find?_mov (hr : r.IsGeneral) :
    (templatesOf "mov").find? (·.accepts [.reg r, .imm v]) =
      (loads r.is64).find? (·.accepts [.reg r, .imm v]) := by
  rw [← filter_isLoad, List.find?_filter]
  refine List.find?_congr fun t ht => ?_
  obtain ⟨base, slots, actions⟩ := t
  obtain ⟨s, s', rfl⟩ := List.length_eq_two.mp (length_slots_of_mov _ ht)
  rw [accepts_pair, Bool.eq_iff_iff, decide_eq_true_eq]
  refine ⟨fun h => ⟨?_, h⟩, And.right⟩
  obtain ⟨hregister, hnumber⟩ := Bool.and_eq_true_iff.mp h
  have hslot := Register.slot_of_takesRegister hr hregister
  simpa [Template.isLoad, takesNumbers_of_takesImm hnumber] using hslot

theorem encode_pair {base : Word} {s s' : Slot} {a : Action} {name : String} {bits : Word}
    (hfault : registerFault? s r = none)
    (hstep : ∀ st : Filling, st.part 0 = .imm v → st.step name a = .ok (st.set 1 bits)) :
    (⟨base, [s, s'], [Instructions.rd, a]⟩ : Template).encode name [.reg r, .imm v] =
      .ok ⟨Bytes.ofWord (base ||| (bitsAt (r.num % 32) 0 ||| bits)), []⟩ := by
  have hparts : partsOfAll name [s, s'] [.reg r, .imm v] = .ok ([r].map .reg ++ [Part.imm v]) := by
    simp only [partsOfAll, partsOf, hfault]
    rfl
  have hlast : ∀ st : Filling, st.parts = [.imm v] →
      st.step name a = (Except.ok bits).map (st.set 1) := by
    rintro ⟨w, ps, refs, n⟩ rfl
    exact hstep _ rfl
  have hactions : [Instructions.rd, a] = [0].map .reg ++ [a] := rfl
  have hregister : registerBits [0] [r] = bitsAt (r.num % 32) 0 := BitVec.or_zero
  rw [encode_registers rfl hparts hactions hlast, hregister]
  rfl

/-- A wide move of a number that its slot takes. -/
theorem moves_wide {inverted : Bool} (hfault : r.fault? = none) (hplain : r.isStack = false)
    (htakes : (wideSlot r.is64 inverted).takesImm v = true) :
    Moves r v ((wideLoad r.is64 inverted).encode "mov" [.reg r, .imm v]) := by
  obtain ⟨chunk, hw, hbits, hchunk, hlt, hhw, hmoved⟩ := movWideBits_of_takes "mov" htakes
  have hregister : registerFault? (registerSlot r.is64 false) r = none := by
    refine registerFault?_of_fault? ?_ hfault
    cases r.is64 <;> decide
  have hsets : Sets [⟨0, 5⟩, ⟨5, 16⟩, ⟨21, 2⟩] [r.num % 32, chunk, hw]
      (bitsAt (r.num % 32) 0 ||| (bitsAt chunk 5 ||| bitsAt hw 21)) :=
    Sets.cons (Nat.mod_lt _ (by decide)) (Sets.cons hchunk (Sets.one hlt))
  have hstep : ∀ st : Filling, st.part 0 = .imm v → st.step "mov" (.movWide r.is64 inverted) =
      .ok (st.set 1 (bitsAt chunk 5 ||| bitsAt hw 21)) := by
    intro st hst
    rw [Filling.step, hst, Part.value, hbits]
    rfl
  refine ⟨_, encode_pair hregister hstep, fun s => ?_⟩
  rw [execute_wide hsets hhw s, hmoved, visible_bitsIn (takesImm_wideSlot.mp htakes).1,
    Nat.mod_eq_of_lt (num_lt_of_fault? hfault), Register.destination, hplain]

/-- ORR with the mask of a number that its slot takes. -/
theorem moves_logical (hr : r.IsGeneral)
    (hfault : registerFault? (registerSlot r.is64 true) r = none)
    (hzero : ¬ r.IsZero) (htakes : (Slot.logicalImm r.is64).takesImm v = true) :
    Moves r v ((logicalLoad r.is64).encode "mov" [.reg r, .imm v]) := by
  obtain ⟨m, mask, hbits, hn, himmr, himms, hwide, hmask, hvalue⟩ :=
    logicalBits_of_takes "mov" htakes
  have hsets : Sets [⟨0, 5⟩, ⟨22, 1⟩, ⟨16, 6⟩, ⟨10, 6⟩] [r.num % 32, m.n, m.immr, m.imms]
      (bitsAt (r.num % 32) 0 ||| (bitsAt m.n 22 ||| (bitsAt m.immr 16 ||| bitsAt m.imms 10))) :=
    Sets.cons (Nat.mod_lt _ (by decide)) (Sets.cons hn (Sets.cons himmr (Sets.one himms)))
  have hstep : ∀ st : Filling, st.part 0 = .imm v → st.step "mov" (.logical r.is64) =
      .ok (st.set 1 (bitsAt m.n 22 ||| (bitsAt m.immr 16 ||| bitsAt m.imms 10))) := by
    intro st hst
    rw [Filling.step, hst, Part.value, hbits]
    rfl
  have hnum := num_lt_of_fault? (fault?_of_registerFault? hfault)
  refine ⟨_, encode_pair hfault hstep, fun s => ?_⟩
  rw [execute_logical hsets hwide hmask s, hvalue, Nat.mod_eq_of_lt hnum,
    Register.ofNum_of_not_isZero hr hnum hzero]

structure Movable (r : Register) (v : Int64) : Prop where
  range : InRange r.is64 v
  form : (¬ r.IsStackPointer ∧ ∃ inverted, IsChunk (bitsOf r.is64) (chunked r.is64 inverted v)) ∨
    (¬ r.IsZero ∧ IsBitmask (bitsOf r.is64) (residue (bitsOf r.is64) v))

theorem encode_mov : encode "mov" [.operand (.reg r), .operand (.imm v)] =
    match (templatesOf "mov").find? (·.accepts [.reg r, .imm v]) with
    | none => .error (.mismatch "mov" (forms "mov"))
    | some t => t.encode "mov" [.reg r, .imm v] := by
  have hname : Text.toLower (Text.trim "mov") = "mov" := by decide +kernel
  have hresolve : resolve "mov" = some ("mov", []) := by decide +kernel
  change encodeArgs "mov" [.reg r, .imm v] = _
  unfold encodeArgs
  dsimp only
  rw [hname, hresolve]
  dsimp only
  cases hall : templatesOf "mov" with
  | nil => exact absurd hall (by decide +kernel)
  | cons t ts => rfl

theorem isStack_iff : r.isStack = true ↔ r.IsStackPointer := by
  rw [Register.isStack, Bool.or_eq_true, beq_iff_eq, beq_iff_eq, Register.IsStackPointer]

theorem accepts_wideLoad (hr : r.IsGeneral) {inverted : Bool} :
    (wideLoad r.is64 inverted).accepts [.reg r, .imm v] = true ↔
      ¬ r.IsStackPointer ∧ (wideSlot r.is64 inverted).takesImm v = true := by
  rw [wideLoad, accepts_pair, Register.takesRegister_plain hr, Bool.and_eq_true, Bool.not_eq_true',
    ← Bool.not_eq_true, isStack_iff]

theorem accepts_logicalLoad : (logicalLoad r.is64).accepts [.reg r, .imm v] = true ↔
    (registerSlot r.is64 true).takesRegister r = true ∧
      (Slot.logicalImm r.is64).takesImm v = true := by
  rw [logicalLoad, accepts_pair, Bool.and_eq_true]

/-- A number that can be moved is moved by the first template that takes it. -/
theorem moves_of_movable (hr : r.IsGeneral) (hfault : r.fault? = none) (h : Movable r v) :
    Moves r v (encode "mov" [.operand (.reg r), .operand (.imm v)]) := by
  have hwide : ∀ inverted, (wideLoad r.is64 inverted).accepts [.reg r, .imm v] = true →
      Moves r v ((wideLoad r.is64 inverted).encode "mov" [.reg r, .imm v]) := by
    intro inverted haccepts
    obtain ⟨hplain, htakes⟩ := (accepts_wideLoad hr).mp haccepts
    exact moves_wide hfault (Bool.eq_false_iff.mpr fun hs => hplain (isStack_iff.mp hs)) htakes
  rw [encode_mov, find?_mov hr, loads]
  cases hchunk : (wideLoad r.is64 false).accepts [.reg r, .imm v] with
  | true => simpa only [List.find?_cons, hchunk] using hwide false hchunk
  | false =>
    cases hinverse : (wideLoad r.is64 true).accepts [.reg r, .imm v] with
    | true => simpa only [List.find?_cons, hchunk, hinverse] using hwide true hinverse
    | false =>
      -- The number is not a chunk for this register, so it is a bitmask.
      obtain ⟨hzero, hmask⟩ := h.form.resolve_left fun ⟨hplain, inverted, hform⟩ => by
        have haccepts := (accepts_wideLoad hr).mpr
          ⟨hplain, takesImm_wideSlot.mpr ⟨h.range, hform⟩⟩
        cases inverted <;> simp_all
      have htakes := takesImm_logicalImm.mpr ⟨h.range, hmask⟩
      obtain ⟨hregister, hnone⟩ := (Register.takesRegister_stack hr hfault).mpr hzero
      have haccepts := accepts_logicalLoad.mpr ⟨hregister, htakes⟩
      simpa only [List.find?_cons, hchunk, hinverse, haccepts] using
        moves_logical hr hnone hzero htakes

theorem movable_of_ok (hr : r.IsGeneral) (hfault : r.fault? = none) {e : Encoded Reloc}
    (h : encode "mov" [.operand (.reg r), .operand (.imm v)] = .ok e) : Movable r v := by
  rw [encode_mov, find?_mov hr] at h
  split at h
  · cases h
  next t hfind =>
    have hwide : ∀ inverted, (wideLoad r.is64 inverted).accepts [.reg r, .imm v] = true →
        Movable r v := by
      intro inverted haccepts
      obtain ⟨hplain, htakes⟩ := (accepts_wideLoad hr).mp haccepts
      obtain ⟨hrange, hform⟩ := takesImm_wideSlot.mp htakes
      exact ⟨hrange, Or.inl ⟨hplain, inverted, hform⟩⟩
    have haccepts := List.find?_some hfind
    have hmem := List.mem_of_find?_eq_some hfind
    simp only [loads, List.mem_cons, List.not_mem_nil, or_false] at hmem
    rcases hmem with rfl | rfl | rfl
    · exact hwide false haccepts
    · exact hwide true haccepts
    · obtain ⟨hregister, htakes⟩ := accepts_logicalLoad.mp haccepts
      obtain ⟨hrange, hform⟩ := takesImm_logicalImm.mp htakes
      -- A zero register that was chosen at run time is only found out now.
      obtain ⟨parts, s', hparts, -, -⟩ := of_template_encode h
      have hnone : registerFault? (registerSlot r.is64 true) r = none := by
        cases hf : registerFault? (registerSlot r.is64 true) r with
        | none => rfl
        | some f =>
          simp only [logicalLoad, partsOfAll, partsOf, hf] at hparts
          cases hparts
      exact ⟨hrange, Or.inr ⟨(Register.takesRegister_stack hr hfault).mp ⟨hregister, hnone⟩, hform⟩⟩

end Loading

/-- Moving a number to a general register or the stack pointer is possible exactly if the number is
in the range of the register, and a chunk or the complement of one, unless the register is the stack
pointer, or a bitmask, unless it is the zero register. The word then leaves the number in that
register and nothing else, at the width of the register. -/
theorem constants_moved (r : Register) (v : Int64) (hr : r.IsGeneral) (hfault : r.fault? = none) :
    ((∃ e, encode "mov" [.operand (.reg r), .operand (.imm v)] = .ok e) ↔ Movable r v) ∧
      ∀ e, encode "mov" [.operand (.reg r), .operand (.imm v)] = .ok e →
        ∃ w, e = ⟨Bytes.ofWord w, []⟩ ∧
          ∀ s, execute w s = some (s.write r.destination (bitsIn r.is64 v)) := by
  refine ⟨⟨fun ⟨e, he⟩ => movable_of_ok hr hfault he, fun h => ?_⟩, fun e he => ?_⟩
  · obtain ⟨w, hw, -⟩ := moves_of_movable hr hfault h
    exact ⟨_, hw⟩
  · obtain ⟨w, hw, hexecute⟩ := moves_of_movable hr hfault (movable_of_ok hr hfault he)
    exact ⟨w, Except.ok.inj (he.symm.trans hw), hexecute⟩

theorem mask_moved_to_stack_pointer :
    (Register.of Family.sp 31).IsGeneral ∧ (Register.of Family.sp 31).fault? = none ∧
      ∃ w, encode "mov" [.operand (.reg (.of Family.sp 31)), .operand (.imm 0xf0)] =
          .ok ⟨Bytes.ofWord w, []⟩ ∧
        ∀ s, execute w s = some (s.write .stackPointer 0xf0) := by
  have hgeneral : (Register.of Family.sp 31).IsGeneral := Or.inr (Or.inr (Or.inr (by decide)))
  have hfault : (Register.of Family.sp 31).fault? = none := by decide
  obtain ⟨hmovable, hmoves⟩ := constants_moved (.of Family.sp 31) 0xf0 hgeneral hfault
  have hbitmask : IsBitmask 64 (residue 64 0xf0) := ⟨6, 4, 60, by decide +kernel⟩
  obtain ⟨e, he⟩ := hmovable.mpr ⟨nofun, Or.inr ⟨by unfold Register.IsZero; decide, hbitmask⟩⟩
  obtain ⟨w, rfl, hw⟩ := hmoves e he
  exact ⟨hgeneral, hfault, w, he, hw⟩

end MachineCode.AArch64
