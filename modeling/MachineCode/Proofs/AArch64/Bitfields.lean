import MachineCode.Proofs.AArch64.Moves

/-!
Moves of bitfields. An alias names the lowest bit and the width of a field: it extracts the field
to the lowest bits of its destination, or inserts the lowest bits of its source there. Words are
executed as the architecture says of SBFM, BFM and UBFM: the source is rotated, and two masks choose
between its bits and those around the field.
-/
namespace MachineCode.AArch64

inductive Around where
  /-- Copies of the highest bit above the field and zeros below it, as SBFM does. -/
  | sign
  /-- What the destination held, as BFM does. -/
  | kept
  /-- Zeros, as UBFM does. -/
  | zeros
  deriving DecidableEq

structure BitfieldAlias where
  around : Around
  inserts : Bool
  deriving DecidableEq

namespace BitfieldAlias

def name (b : BitfieldAlias) : String :=
  match b.around, b.inserts with
  | .sign, false => "sbfx"
  | .kept, false => "bfxil"
  | .zeros, false => "ubfx"
  | .sign, true => "sbfiz"
  | .kept, true => "bfi"
  | .zeros, true => "ubfiz"

def base (b : BitfieldAlias) (is64 : Bool) : Word :=
  (match b.around with
    | .sign => 0x13000000
    | .kept => 0x33000000
    | .zeros => 0x53000000) ||| if is64 then 0x80400000 else 0

def template (b : BitfieldAlias) (is64 : Bool) : Template :=
  ⟨b.base is64, [registerSlot is64 false, registerSlot is64 false, .imm, .imm],
    [Instructions.rd, Instructions.rn,
      if b.inserts then .insert (bitsOf is64) else .extract (bitsOf is64)]⟩

def source (b : BitfieldAlias) (lsb : Nat) : Nat := if b.inserts then 0 else lsb

def target (b : BitfieldAlias) (lsb : Nat) : Nat := if b.inserts then lsb else 0

def immr (b : BitfieldAlias) (size lsb : Nat) : Nat :=
  if b.inserts then (size - lsb) % size else lsb

def imms (b : BitfieldAlias) (lsb width : Nat) : Nat := b.source lsb + width - 1

theorem templatesOf_name (b : BitfieldAlias) :
    templatesOf b.name = [b.template false, b.template true] := by
  -- One evaluation goes through the table for all aliases.
  have hall : ∀ around ∈ [Around.sign, .kept, .zeros], ∀ inserts, let b := mk around inserts
      templatesOf b.name = [b.template false, b.template true] := by
    decide +kernel
  obtain ⟨around, inserts⟩ := b
  exact hall around (by cases around <;> decide) inserts

theorem resolve_name (b : BitfieldAlias) : resolve b.name = some (b.name, []) := by
  obtain ⟨around, inserts⟩ := b
  cases around <;> cases inserts <;> decide +kernel

end BitfieldAlias

/-! ### Execution -/

/-- A bit of a move with the numbers `immr` and `imms`: the rotated source where both masks are
set, what is around the field elsewhere. -/
def rotatedBit (around : Around) (size immr imms : Nat) (src dst : BitVec 64) (i : Nat) : Bool :=
  let outside := around == .kept && dst.getLsbD i
  let bottom :=
    if (i + immr) % size ≤ imms then src.getLsbD ((i + immr) % size) else outside
  let top := if around = .sign then src.getLsbD imms else outside
  if i ≤ (imms + size - immr) % size then bottom else top

/-- A bit of a move of `width` bits, from bit `source` on to bit `target` on. -/
def copiedBit (around : Around) (source target width : Nat) (src dst : BitVec 64) (i : Nat) :
    Bool :=
  if target ≤ i ∧ i < target + width then src.getLsbD (source + (i - target))
  else match around with
    | .sign => decide (target ≤ i) && src.getLsbD (source + width - 1)
    | .kept => dst.getLsbD i
    | .zeros => false

def bitsBelow (size : Nat) (f : Nat → Bool) : BitVec 64 :=
  (BitVec.ofBoolListLE ((List.range 64).map fun i => decide (i < size) && f i)).setWidth 64

def around? : Nat → Option Around
  | 0 => some .sign
  | 1 => some .kept
  | 2 => some .zeros
  | _ => none

/-- The registers after a bitfield move. The bit beside the numbers is that of the width, and
instructions on 32 bits have no numbers above 31. -/
def executeBitfield (w : Word) (s : Registers) : Option Registers :=
  let is64 := Stretch.read ⟨31, 1⟩ w == 1
  let size := bitsOf is64
  let immr := Stretch.read ⟨16, 6⟩ w
  let imms := Stretch.read ⟨10, 6⟩ w
  if Stretch.read ⟨23, 6⟩ w = 0x26 ∧ Stretch.read ⟨22, 1⟩ w = is64.toNat ∧ immr < size ∧
      imms < size then
    (around? (Stretch.read ⟨29, 2⟩ w)).map fun around =>
      s.write (.ofNum (Stretch.read ⟨0, 5⟩ w) false) (bitsBelow size
        (rotatedBit around size immr imms (s.read (Stretch.read ⟨5, 5⟩ w))
          (s.read (Stretch.read ⟨0, 5⟩ w))))
  else none

section Execution

variable {b : BitfieldAlias} {is64 : Bool} {lsb width rd rn : Nat}

def Inside (is64 : Bool) (lsb width : Nat) : Prop := 0 < width ∧ lsb + width ≤ bitsOf is64

/-- The masks of the move select the field. -/
theorem masks_spec (b : BitfieldAlias) (h : Inside is64 lsb width) :
    (b.imms lsb width + bitsOf is64 - b.immr (bitsOf is64) lsb) % bitsOf is64 =
        b.target lsb + width - 1 ∧
      ∀ i < b.target lsb + width,
        ((i + b.immr (bitsOf is64) lsb) % bitsOf is64 ≤ b.imms lsb width ↔ b.target lsb ≤ i) ∧
        (b.target lsb ≤ i →
          (i + b.immr (bitsOf is64) lsb) % bitsOf is64 = b.source lsb + (i - b.target lsb)) := by
  obtain ⟨hpos, hin⟩ := h
  obtain ⟨around, inserts⟩ := b
  cases inserts <;> cases is64 <;>
    simp only [BitfieldAlias.imms, BitfieldAlias.immr, BitfieldAlias.target, BitfieldAlias.source,
      bitsOf, if_true, if_false, Bool.false_eq_true] at hin ⊢ <;>
    refine ⟨by omega, fun i hi => ⟨by omega, by omega⟩⟩

/-- The move with the numbers of an alias copies the field. -/
theorem rotatedBit_eq (b : BitfieldAlias) (h : Inside is64 lsb width) (src dst : BitVec 64)
    (i : Nat) :
    rotatedBit b.around (bitsOf is64) (b.immr (bitsOf is64) lsb) (b.imms lsb width) src dst i =
      copiedBit b.around (b.source lsb) (b.target lsb) width src dst i := by
  obtain ⟨htop, hbits⟩ := masks_spec b h
  have hpos := h.1
  unfold rotatedBit copiedBit
  rw [htop]
  dsimp only
  by_cases hlow : i < b.target lsb + width
  · obtain ⟨hmask, hturn⟩ := hbits i hlow
    rw [if_pos (by omega)]
    by_cases hin : b.target lsb ≤ i
    · rw [if_pos (hmask.mpr hin), hturn hin, if_pos ⟨hin, hlow⟩]
    · -- Below the field nothing is a copy of its sign.
      rw [if_neg (mt hmask.mp hin), if_neg fun h => hin h.1]
      cases b.around <;> simp [hin]
  · have habove : b.target lsb ≤ i := by omega
    have hout : ¬ (b.target lsb ≤ i ∧ i < b.target lsb + width) := fun h => hlow h.2
    rw [if_neg (show ¬ i ≤ b.target lsb + width - 1 by omega), if_neg hout]
    cases b.around <;> simp [habove, BitfieldAlias.imms]

def fieldsOfMove (rd rn immr imms : Nat) : List Field :=
  [(⟨0, 5⟩, rd), (⟨5, 5⟩, rn), (⟨16, 6⟩, immr), (⟨10, 6⟩, imms)]

structure Composed (base : Word) (fields : List Field) (w : Word) : Prop where
  word : w = base ||| join fields
  laid : Laid fields
  clear : ∀ f ∈ fields, f.1.read base = 0

theorem composed_of_sets {ss : List Stretch} {ns : List Nat} {bits base : Word}
    (h : Sets ss ns bits) (hvacant : Vacant base ss) :
    Composed base (ss.zip ns) (base ||| bits) where
  word := congrArg (base ||| ·) h.bits_eq
  laid := laid_of_sets h hvacant
  clear _ hf := (hvacant.1 _ (List.of_mem_zip hf).1).2

theorem numbers_lt (b : BitfieldAlias) (h : Inside is64 lsb width) :
    b.immr (bitsOf is64) lsb < bitsOf is64 ∧ b.imms lsb width < bitsOf is64 := by
  obtain ⟨hpos, hin⟩ := h
  obtain ⟨around, inserts⟩ := b
  cases inserts <;> cases is64 <;>
    simp only [BitfieldAlias.imms, BitfieldAlias.immr, BitfieldAlias.source, bitsOf, if_true,
      if_false, Bool.false_eq_true] at hin ⊢ <;> omega

theorem vacant_base (b : BitfieldAlias) (is64 : Bool) :
    Vacant (b.base is64) [⟨0, 5⟩, ⟨5, 5⟩, ⟨16, 6⟩, ⟨10, 6⟩] := by
  obtain ⟨around, inserts⟩ := b
  cases around <;> cases inserts <;> cases is64 <;> decide

theorem fixed_base (b : BitfieldAlias) (is64 : Bool) :
    Stretch.read ⟨31, 1⟩ (b.base is64) = is64.toNat ∧ Stretch.read ⟨23, 6⟩ (b.base is64) = 0x26 ∧
      Stretch.read ⟨22, 1⟩ (b.base is64) = is64.toNat ∧
      around? (Stretch.read ⟨29, 2⟩ (b.base is64)) = some b.around := by
  obtain ⟨around, inserts⟩ := b
  cases around <;> cases inserts <;> cases is64 <;> decide

/-- A word with the numbers of an alias copies the field and changes nothing but its destination. -/
theorem execute_alias {bits : Word} (h : Inside is64 lsb width)
    (hbits : Sets [⟨0, 5⟩, ⟨5, 5⟩, ⟨16, 6⟩, ⟨10, 6⟩]
      [rd, rn, b.immr (bitsOf is64) lsb, b.imms lsb width] bits) (s : Registers) :
    executeBitfield (b.base is64 ||| bits) s = some (s.write (.ofNum rd false)
      (bitsBelow (bitsOf is64) (copiedBit b.around (b.source lsb) (b.target lsb) width
        (s.read rn) (s.read rd)))) := by
  have hvacant := vacant_base b is64
  have hnumbers := map_read_of_sets hbits hvacant
  have hwidth := read_of_sets_apart hbits hvacant (t := ⟨31, 1⟩) (by decide)
  have hclass := read_of_sets_apart hbits hvacant (t := ⟨23, 6⟩) (by decide)
  have hsame := read_of_sets_apart hbits hvacant (t := ⟨22, 1⟩) (by decide)
  have hmove := read_of_sets_apart hbits hvacant (t := ⟨29, 2⟩) (by decide)
  obtain ⟨hwidth', hclass', hsame', hmove'⟩ := fixed_base b is64
  rw [hwidth'] at hwidth
  rw [hclass'] at hclass
  rw [hsame'] at hsame
  rw [← hmove] at hmove'
  generalize b.base is64 ||| bits = w at hnumbers hwidth hclass hsame hmove' ⊢
  obtain ⟨hrd, hrn, himmr, himms⟩ : Stretch.read ⟨0, 5⟩ w = rd ∧ Stretch.read ⟨5, 5⟩ w = rn ∧
      Stretch.read ⟨16, 6⟩ w = b.immr (bitsOf is64) lsb ∧
      Stretch.read ⟨10, 6⟩ w = b.imms lsb width := by simpa using hnumbers
  have his64 : (Stretch.read ⟨31, 1⟩ w == 1) = is64 := by
    rw [hwidth]
    cases is64 <;> rfl
  obtain ⟨hr, hs⟩ := numbers_lt b h
  unfold executeBitfield
  dsimp only
  rw [his64, himmr, himms, hrd, hrn, hmove', if_pos ⟨hclass, hsame, hr, hs⟩, Option.map_some]
  congr 3
  funext i
  exact rotatedBit_eq b h _ _ i

end Execution

/-! ### Encoding -/

def generalFamily (is64 : Bool) : Family := if is64 then Family.x else Family.w

def bitfieldOperands (rd rn : Register) (lsb width : Int64) : List Operand :=
  [.reg rd, .reg rn, .imm lsb, .imm width]

section Encoding

variable {b : BitfieldAlias} {is64 : Bool} {rd rn : Register} {lsb width : Int64}

theorem toInt_size (is64 : Bool) : (Int64.ofNat (bitsOf is64)).toInt = bitsOf is64 := by
  cases is64 <;> decide

/-- The two numbers pass their tests, of which the second adds them as numbers of 64 bits. -/
def Passes (is64 : Bool) (lsb width : Int64) : Prop :=
  (0 ≤ lsb.toInt ∧ lsb.toInt < bitsOf is64) ∧ 1 ≤ width.toInt ∧
    (lsb + width).toInt ≤ bitsOf is64

def computedBits (b : BitfieldAlias) (is64 : Bool) (lsb width : Int64) : Word :=
  let n := Int64.ofNat (bitsOf is64)
  if b.inserts then wordAt ((n - lsb) % n) 16 ||| wordAt (width - 1) 10
  else wordAt lsb 16 ||| wordAt (lsb + width - 1) 10

theorem bitfieldBits_eq_ok_iff {name : String} {bits : Word} :
    Filling.bitfieldBits name lsb width (bitsOf is64) b.inserts = .ok bits ↔
      Passes is64 lsb width ∧ bits = computedBits b is64 lsb width := by
  have hlow : (decide (lsb < 0) || decide (Int64.ofNat (bitsOf is64) ≤ lsb)) = true ↔
      ¬ (0 ≤ lsb.toInt ∧ lsb.toInt < bitsOf is64) := by
    rw [Bool.or_eq_true, decide_eq_true_eq, decide_eq_true_eq, Int64.lt_iff_toInt_lt,
      Int64.le_iff_toInt_le, toInt_size, Int64.toInt_zero]
    omega
  have hhigh : (decide (width < 1) || decide (Int64.ofNat (bitsOf is64) < lsb + width)) = true ↔
      ¬ (1 ≤ width.toInt ∧ (lsb + width).toInt ≤ bitsOf is64) := by
    rw [Bool.or_eq_true, decide_eq_true_eq, decide_eq_true_eq, Int64.lt_iff_toInt_lt,
      Int64.lt_iff_toInt_lt, toInt_size, Int64.toInt_one]
    omega
  unfold Filling.bitfieldBits computedBits
  dsimp only
  constructor
  · intro h
    obtain ⟨hl, h⟩ := eq_ok_of_guard h
    obtain ⟨hh, h⟩ := eq_ok_of_guard h
    refine ⟨⟨not_not.mp (mt hlow.mpr hl), not_not.mp (mt hhigh.mpr hh)⟩, ?_⟩
    cases hinserts : b.inserts <;> rw [hinserts] at h <;> cases h <;> rfl
  · rintro ⟨⟨hl, hh⟩, rfl⟩
    rw [if_neg (mt hlow.mp (not_not.mpr hl)), if_neg (mt hhigh.mp (not_not.mpr hh))]
    cases b.inserts <;> rfl

def Describes (is64 : Bool) (lsb width : Int64) : Prop :=
  (0 ≤ lsb.toInt ∧ lsb.toInt < bitsOf is64) ∧ 1 ≤ width.toInt ∧
    lsb.toInt + width.toInt ≤ bitsOf is64

theorem bitsOf_le (is64 : Bool) : bitsOf is64 ≤ 64 := by
  cases is64 <;> decide

/-- Where the sum of the numbers does not wrap around, the tests are those of the field. A lowest
bit outside the register fails before the sum is formed. -/
theorem passes_iff (hsum : 0 ≤ lsb.toInt ∧ lsb.toInt < bitsOf is64 →
    lsb.toInt + width.toInt < 2 ^ 63) : Passes is64 lsb width ↔ Describes is64 lsb width := by
  unfold Passes Describes
  by_cases h : (0 ≤ lsb.toInt ∧ lsb.toInt < bitsOf is64) ∧ 1 ≤ width.toInt
  · have hwrap := hsum h.1
    rw [Int64.toInt_add, Int.bmod_eq_of_le (by omega) (by omega)]
  · omega

theorem computedBits_eq (h : Describes is64 lsb width) :
    computedBits b is64 lsb width = bitsAt (b.immr (bitsOf is64) lsb.toInt.toNat) 16 |||
      bitsAt (b.imms lsb.toInt.toNat width.toInt.toNat) 10 := by
  obtain ⟨⟨hl, hlt⟩, hw, hsum⟩ := h
  have hsize := bitsOf_le is64
  have hnumber : ∀ {v : Int64} {n : Nat} (pos : Nat), v.toInt = n →
      wordAt v pos = bitsAt n pos := by
    intro v n pos hv
    rw [wordAt_eq_bitsAt (by omega), hv, Int.toNat_natCast]
  have hone : (1 : Int64).toInt = 1 := rfl
  have hfrom : (width - 1).toInt = (width.toInt.toNat - 1 : Nat) := by
    rw [Int64.toInt_sub, hone, Int.bmod_eq_of_le (by omega) (by omega)]
    omega
  have hend : (lsb + width - 1).toInt = (lsb.toInt.toNat + width.toInt.toNat - 1 : Nat) := by
    have hadd : (lsb + width).toInt = lsb.toInt + width.toInt := by
      rw [Int64.toInt_add, Int.bmod_eq_of_le (by omega) (by omega)]
    rw [Int64.toInt_sub, hadd, hone, Int.bmod_eq_of_le (by omega) (by omega)]
    omega
  have hturn : ((Int64.ofNat (bitsOf is64) - lsb) % Int64.ofNat (bitsOf is64)).toInt =
      ((bitsOf is64 - lsb.toInt.toNat) % bitsOf is64 : Nat) := by
    rw [Int64.toInt_mod, Int64.toInt_sub, toInt_size, Int.bmod_eq_of_le (by omega) (by omega),
      Int.tmod_eq_emod_of_nonneg (by omega), Int.natCast_emod]
    congr 1
    omega
  unfold computedBits BitfieldAlias.immr BitfieldAlias.imms BitfieldAlias.source
  cases b.inserts with
  | true =>
    simp only [if_true, hnumber 16 hturn, hnumber 10 hfrom, Nat.zero_add]
  | false =>
    simp only [Bool.false_eq_true, if_false, hnumber 10 hend,
      hnumber 16 (Int.toNat_of_nonneg hl).symm]

theorem fill_eq_ok_iff {name : String} (hd : rd.fault? = none) (hn : rn.fault? = none)
    {e : Encoded Reloc} :
    (b.template is64).encode name (bitfieldOperands rd rn lsb width) = .ok e ↔
      Passes is64 lsb width ∧ e = ⟨Bytes.ofWord (b.base is64 |||
        (registerBits [0, 5] [rd, rn] ||| computedBits b is64 lsb width)), []⟩ := by
  have hplain : registerSlot is64 false ≠ .gpWsp ∧ registerSlot is64 false ≠ .gpXsp := by
    cases is64 <;> decide
  have hparts : partsOfAll name (b.template is64).slots (bitfieldOperands rd rn lsb width) =
      .ok ([rd, rn].map .reg ++ [Part.imm lsb, .imm width]) := by
    simp only [BitfieldAlias.template, bitfieldOperands, partsOfAll, partsOf,
      registerFault?_of_fault? hplain hd, registerFault?_of_fault? hplain hn]
    rfl
  have hactions : (b.template is64).actions = [0, 5].map .reg ++
      [if b.inserts then Action.insert (bitsOf is64) else .extract (bitsOf is64)] := rfl
  have hstep : ∀ s : Filling, s.parts = [.imm lsb, .imm width] →
      s.step name (if b.inserts then .insert (bitsOf is64) else .extract (bitsOf is64)) =
        (Filling.bitfieldBits name lsb width (bitsOf is64) b.inserts).map (s.set 2) := by
    rintro ⟨w, ps, refs, n⟩ rfl
    cases b.inserts <;> rfl
  rw [encode_registers rfl hparts hactions hstep]
  constructor
  · intro h
    obtain ⟨bits, hbits, rfl⟩ := map_eq_ok h
    obtain ⟨hpasses, rfl⟩ := bitfieldBits_eq_ok_iff.mp hbits
    exact ⟨hpasses, rfl⟩
  · rintro ⟨hpasses, rfl⟩
    rw [bitfieldBits_eq_ok_iff.mpr ⟨hpasses, rfl⟩]
    rfl

theorem encode_alias_eq_ok_iff (lsb width : Int64) {mnemonic : String}
    (hname : Text.toLower (Text.trim mnemonic) = b.name)
    (hd : rd.family = generalFamily is64 ∧ rd.fault? = none)
    (hn : rn.family = generalFamily is64 ∧ rn.fault? = none) (e : Encoded Reloc) :
    encode mnemonic ((bitfieldOperands rd rn lsb width).map .operand) = .ok e ↔
      Passes is64 lsb width ∧ e = ⟨Bytes.ofWord (b.base is64 |||
        (registerBits [0, 5] [rd, rn] ||| computedBits b is64 lsb width)), []⟩ := by
  have hfind : (templatesOf b.name).find? (·.accepts (bitfieldOperands rd rn lsb width)) =
      some (b.template is64) := by
    rw [b.templatesOf_name]
    cases is64 <;>
      simp [bitfieldOperands, BitfieldAlias.template, Template.accepts, Template.accepts.go,
        Slot.takes, Slot.takesRegister, Slot.takesImm, registerSlot, hd.1, hn.1, generalFamily,
        Family.w, Family.x]
  rw [encode_eq_ok_iff_find? hname b.resolve_name]
  constructor
  · rintro ⟨t, ht, h⟩
    rw [hfind] at ht
    cases ht
    exact (fill_eq_ok_iff hd.2 hn.2).mp h
  · intro h
    exact ⟨_, hfind, (fill_eq_ok_iff hd.2 hn.2).mpr h⟩

/-- A sum of the numbers that wraps around passes for one inside the register. -/
theorem wrapped_alias_accepted {mnemonic : String}
    (hname : Text.toLower (Text.trim mnemonic) = b.name)
    (hd : rd.family = generalFamily is64 ∧ rd.fault? = none)
    (hn : rn.family = generalFamily is64 ∧ rn.fault? = none)
    (hlsb : 0 ≤ lsb.toInt ∧ lsb.toInt < bitsOf is64) (hsum : 2 ^ 63 ≤ lsb.toInt + width.toInt) :
    ∃ e, encode mnemonic ((bitfieldOperands rd rn lsb width).map .operand) = .ok e := by
  have hsize := bitsOf_le is64
  have hwidth := Int64.toInt_lt width
  refine ⟨_, (encode_alias_eq_ok_iff lsb width hname hd hn _).mpr ⟨⟨hlsb, by omega, ?_⟩, rfl⟩⟩
  rw [Int64.toInt_add, Int.bmod_def]
  omega

end Encoding

/-- Unless its lowest bit is in the register and the sum of its numbers wraps around, a bitfield
alias is encoded exactly if its field lies in the register. The word then has the two
registers and the two numbers of the move in fields of their own, and copies just that field. -/
theorem bitfields_moved (b : BitfieldAlias) (is64 : Bool) {mnemonic : String}
    (hname : Text.toLower (Text.trim mnemonic) = b.name) {rd rn : Register}
    (hd : rd.family = generalFamily is64 ∧ rd.fault? = none)
    (hn : rn.family = generalFamily is64 ∧ rn.fault? = none) (lsb width : Int64)
    (hsum : 0 ≤ lsb.toInt ∧ lsb.toInt < bitsOf is64 → lsb.toInt + width.toInt < 2 ^ 63) :
    ((∃ e, encode mnemonic ((bitfieldOperands rd rn lsb width).map .operand) = .ok e) ↔
      (0 ≤ lsb.toInt ∧ lsb.toInt < bitsOf is64) ∧ 1 ≤ width.toInt ∧
        lsb.toInt + width.toInt ≤ bitsOf is64) ∧
    ∀ e, encode mnemonic ((bitfieldOperands rd rn lsb width).map .operand) = .ok e →
      ∃ (l k : Nat) (w : Word), l = lsb.toInt ∧ k = width.toInt ∧ e = ⟨Bytes.ofWord w, []⟩ ∧
        Composed (b.base is64)
          (fieldsOfMove rd.num rn.num (b.immr (bitsOf is64) l) (b.imms l k)) w ∧
        ∀ s, executeBitfield w s = some (s.write (.ofNum rd.num false)
          (bitsBelow (bitsOf is64) (copiedBit b.around (b.source l) (b.target l) k
            (s.read rn.num) (s.read rd.num)))) := by
  have haccepted := encode_alias_eq_ok_iff lsb width hname hd hn
  constructor
  · constructor
    · rintro ⟨e, he⟩
      exact (passes_iff hsum).mp ((haccepted e).mp he).1
    · intro h
      exact ⟨_, (haccepted _).mpr ⟨(passes_iff hsum).mpr h, rfl⟩⟩
  · intro e he
    obtain ⟨hpasses, rfl⟩ := (haccepted e).mp he
    have hdescribes := (passes_iff hsum).mp hpasses
    have hinside : Inside is64 lsb.toInt.toNat width.toInt.toNat := by
      obtain ⟨hl, hw, hle⟩ := hdescribes
      exact ⟨by omega, by omega⟩
    obtain ⟨himmr, himms⟩ := numbers_lt b hinside
    have hsize := bitsOf_le is64
    have hregisters := sets_registers [0, 5] [rd, rn] rfl
      (List.forall_mem_cons.mpr ⟨hd.2, List.forall_mem_singleton.mpr hn.2⟩)
    have hsets := hregisters.append (Sets.cons (s := ⟨16, 6⟩)
      (show b.immr (bitsOf is64) lsb.toInt.toNat < 2 ^ 6 by omega) (Sets.one (s := ⟨10, 6⟩)
        (show b.imms lsb.toInt.toNat width.toInt.toNat < 2 ^ 6 by omega)))
    refine ⟨lsb.toInt.toNat, width.toInt.toNat, _, Int.toNat_of_nonneg hdescribes.1.1,
      Int.toNat_of_nonneg (by have := hdescribes.2.1; omega), rfl, ?_, ?_⟩
    · rw [computedBits_eq hdescribes]
      exact composed_of_sets hsets (vacant_base b is64)
    · intro s
      rw [computedBits_eq hdescribes]
      exact execute_alias hinside hsets s

/-- The second byte of a register. -/
theorem bitfields_moved_byte :
    Text.toLower (Text.trim " UBFX") = BitfieldAlias.name ⟨.zeros, false⟩ ∧
      (Register.of Family.x 0).family = generalFamily true ∧
      (0 ≤ (8 : Int64).toInt ∧ (8 : Int64).toInt < bitsOf true →
        (8 : Int64).toInt + (8 : Int64).toInt < 2 ^ 63) ∧
      encode " UBFX" ((bitfieldOperands (.of Family.x 0) (.of Family.x 1) 8 8).map .operand) =
        .ok ⟨Bytes.ofWord 0xd3483c20#32, []⟩ ∧
      ∃ (l k : Nat) (w : Word), l = (8 : Int64).toInt ∧ k = (8 : Int64).toInt ∧
        Bytes.ofWord 0xd3483c20#32 = Bytes.ofWord w ∧
        ∀ s, executeBitfield w s = some (s.write (.ofNum 0 false)
          (bitsBelow 64 (copiedBit .zeros l 0 k (s.read 1) (s.read 0)))) := by
  have hname : Text.toLower (Text.trim " UBFX") = BitfieldAlias.name ⟨.zeros, false⟩ := by
    decide +kernel
  have hregister : ∀ n < 32, (Register.of Family.x n).family = generalFamily true ∧
      (Register.of Family.x n).fault? = none := by
    decide
  obtain ⟨-, hmoves⟩ := bitfields_moved ⟨.zeros, false⟩ true hname
    (hregister 0 (by decide)) (hregister 1 (by decide)) 8 8 (by decide)
  have hok : encode " UBFX" ((bitfieldOperands (.of Family.x 0) (.of Family.x 1) 8 8).map
      .operand) = .ok ⟨Bytes.ofWord 0xd3483c20#32, []⟩ := by
    decide +kernel
  obtain ⟨l, k, w, hl, hk, hw, -, hexecute⟩ := hmoves _ hok
  exact ⟨hname, (hregister 0 (by decide)).1, by decide, hok, l, k, w, hl, hk,
    congrArg Encoded.code hw, hexecute⟩

/-- The width of a field that reaches far beyond the register is accepted, and its bits overwrite
the opcode. -/
theorem counterexample_wrapped_width :
    encode "ubfx" ((bitfieldOperands (.of Family.x 0) (.of Family.x 1) 1
        0x7fffffffffffffff).map .operand) = .ok ⟨Bytes.ofWord 0xfffffc20#32, []⟩ ∧
      ¬ (1 : Int64).toInt + (0x7fffffffffffffff : Int64).toInt ≤ 64 :=
  ⟨by decide +kernel, by decide⟩

end MachineCode.AArch64
