import Mathlib.Algebra.Ring.Int.Defs
import MachineCode.Proofs.Rewriting
import MachineCode.Proofs.Stretches

/-!
Values in fields. A field takes the multiples of its unit that lie in its range. If its pieces are
apart and have a place for every bit of such a value, then the value comes back from every word
that was clear in the field.
-/
namespace MachineCode

theorem toInt_of_nonneg {v : Int64} (h : 0 ≤ v.toInt) : v.toInt.toNat = v.toBitVec.toNat := by
  rw [← Int64.toInt_toBitVec, BitVec.toInt_eq_toNat_cond] at h ⊢
  have := v.toBitVec.isLt
  split at h
  next hlow => rw [if_pos hlow, Int.toNat_natCast]
  · omega

theorem toInt_shiftRight {v n : Int64} {k : Nat} (hn : n.toBitVec.smod 64 = BitVec.ofNat 64 k)
    (hk : k < 64) : (v >>> n).toInt = v.toInt / (2 ^ k : Nat) := by
  rw [← Int64.toInt_toBitVec, Int64.toBitVec_shiftRight, hn, BitVec.sshiftRight',
    BitVec.toInt_sshiftRight, Int.shiftRight_eq_div_pow, Int64.toInt_toBitVec, BitVec.toNat_ofNat,
    Nat.mod_eq_of_lt (by omega)]

theorem fitsUnsigned_iff {v : Int64} {bits : Nat} (hb : bits < 63) :
    fitsUnsigned v bits = true ↔ 0 ≤ v.toInt ∧ v.toInt < (2 ^ bits : Nat) := by
  simp only [fitsUnsigned, Nat.one_shiftLeft, Bool.and_eq_true, Bool.or_eq_true, decide_eq_true_eq]
  constructor
  · rintro ⟨hlow, hhigh⟩
    exact ⟨hlow, hhigh.resolve_left (by omega)⟩
  · rintro ⟨hlow, hhigh⟩
    exact ⟨hlow, Or.inr hhigh⟩

theorem fitsSigned_iff {v : Int64} {bits : Nat} (h0 : 0 < bits) (hb : bits < 64) :
    fitsSigned v bits = true ↔
      -(2 ^ (bits - 1) : Nat) ≤ v.toInt ∧ v.toInt < (2 ^ (bits - 1) : Nat) := by
  simp only [fitsSigned, Nat.one_shiftLeft, Bool.or_eq_true, Bool.and_eq_true, decide_eq_true_eq,
    bne_iff_ne]
  constructor
  · intro h
    obtain ⟨⟨-, hlow⟩, hhigh⟩ := h.resolve_left (by omega)
    exact ⟨hlow, hhigh⟩
  · rintro ⟨hlow, hhigh⟩
    exact Or.inr ⟨⟨by omega, hlow⟩, hhigh⟩

namespace BitField

/-- The value of a number in a field of one piece. -/
def undo (f : BitField) (n : Nat) : Int :=
  (if f.signed then Int.bmod n (2 ^ (f.bits - f.scale)) else n) * 2 ^ f.scale

/-- The field is one piece that holds all bits of a value but those below the unit. -/
def isPlain (f : BitField) : Bool :=
  match f.pieces with
  | [p] => p.source == f.scale && p.width == f.bits - f.scale && f.scale < f.bits && f.bits < 63
  | _ => false

theorem of_fault?_eq_none {f : BitField} {v : Int64} (h : f.fault? v = none) :
    v.toInt % (2 ^ f.scale : Nat) = 0 ∧ f.inRange v = true := by
  unfold fault? aligned unit at h
  rw [Nat.one_shiftLeft] at h
  split at h
  · cases h
  next halign =>
    split at h
    · cases h
    · split at h
      · cases h
      next hrange =>
        simp only [Bool.not_eq_true', Bool.not_eq_false, beq_iff_eq] at halign hrange
        exact ⟨halign, hrange⟩

theorem extract_emod (v : Int64) {q : Int} {s w : Nat} (hq : v.toInt = q * (2 ^ s : Nat))
    (hw : s + w ≤ 64) : ((v.toBitVec.extractLsb' s w).toNat : Int) = q % (2 ^ w : Nat) := by
  -- The bits as a number differ from the value by a multiple that lies above the window.
  obtain ⟨c, hc⟩ : ∃ c : Int, (v.toBitVec.toNat : Int) = v.toInt + c * (2 ^ 64 : Nat) := by
    rw [← Int64.toInt_toBitVec, BitVec.toInt_eq_toNat_cond]
    split
    · exact ⟨0, by omega⟩
    · exact ⟨1, by omega⟩
  have hsplit : (2 ^ 64 : Nat) = 2 ^ s * (2 ^ w * 2 ^ (64 - s - w)) := by
    rw [← Nat.pow_add, ← Nat.pow_add]
    congr 1
    omega
  have hpos : (2 : Int) ^ s ≠ 0 := Int.pow_ne_zero (by decide)
  have hquot : ((v.toBitVec.toNat / 2 ^ s : Nat) : Int) =
      q + (2 ^ w : Nat) * (c * (2 ^ (64 - s - w) : Nat)) := by
    rw [Int.natCast_ediv, hc, hq, hsplit]
    push_cast
    rw [show q * 2 ^ s + c * (2 ^ s * (2 ^ w * 2 ^ (64 - s - w))) =
      (q + 2 ^ w * (c * 2 ^ (64 - s - w))) * 2 ^ s by grind]
    exact Int.mul_ediv_cancel _ hpos
  rw [BitVec.extractLsb'_toNat, Nat.shiftRight_eq_div_pow, Int.natCast_emod, hquot,
    Int.add_mul_emod_self_left]

/-- The low bits of a value, as a number with a sign, are the value modulo their count. -/
theorem bmod_toNat (v : Int64) {k : Nat} (hk : k ≤ 64) :
    (v.toBitVec.toNat : Int).bmod (2 ^ k) = v.toInt.bmod (2 ^ k) := by
  have hnum := extract_emod v (q := v.toInt) (s := 0) (w := k) (by simp) (by omega)
  rw [BitVec.extractLsb'_toNat, Nat.shiftRight_zero, Int.natCast_emod] at hnum
  rw [← Int.emod_bmod, hnum, Int.emod_bmod]

theorem undo_extract {f : BitField} {v : Int64} (hs : f.scale < f.bits) (hb : f.bits < 63)
    (h : f.fault? v = none) :
    f.undo (v.toBitVec.extractLsb' f.scale (f.bits - f.scale)).toNat = v.toInt := by
  obtain ⟨halign, hrange⟩ := of_fault?_eq_none h
  obtain ⟨q, hq⟩ := Int.dvd_of_emod_eq_zero halign
  rw [Int.mul_comm] at hq
  have hpos : (0 : Int) < (2 ^ f.scale : Nat) := by exact_mod_cast Nat.two_pow_pos _
  have hnum := extract_emod v hq (show f.scale + (f.bits - f.scale) ≤ 64 by omega)
  unfold inRange at hrange
  unfold undo
  rw [hnum]
  cases hsigned : f.signed with
  | true =>
    have hhalf : (2 ^ (f.bits - 1) : Nat) = 2 ^ (f.bits - f.scale - 1) * 2 ^ f.scale := by
      rw [← Nat.pow_add]
      congr 1
      omega
    have hwhole : (2 ^ (f.bits - f.scale) : Nat) = 2 ^ (f.bits - f.scale - 1) * 2 := by
      rw [← Nat.pow_succ]
      congr 1
      omega
    simp only [hsigned, if_true, fitsSigned, Nat.one_shiftLeft, Bool.or_eq_true, Bool.and_eq_true,
      decide_eq_true_eq] at hrange
    obtain ⟨⟨-, hlow⟩, hhigh⟩ := hrange.resolve_left (by omega)
    -- The bounds of the value are those of its multiple, times the unit.
    rw [hhalf, hq] at hlow hhigh
    have hlow' : -((2 ^ (f.bits - f.scale - 1) : Nat) : Int) ≤ q := by
      refine Int.le_of_mul_le_mul_right ?_ hpos
      rw [Int.neg_mul]
      exact_mod_cast hlow
    have hhigh' : q < ((2 ^ (f.bits - f.scale - 1) : Nat) : Int) := by
      refine Int.lt_of_mul_lt_mul_right ?_ (Int.le_of_lt hpos)
      exact_mod_cast hhigh
    rw [if_pos rfl, Int.emod_bmod, Int.bmod_eq_of_le (by omega) (by omega), hq]
    push_cast
    rfl
  | false =>
    have hwhole : (2 ^ f.bits : Nat) = 2 ^ (f.bits - f.scale) * 2 ^ f.scale := by
      rw [← Nat.pow_add]
      congr 1
      omega
    simp only [hsigned, Bool.false_eq_true, if_false, fitsUnsigned, Nat.one_shiftLeft,
      Bool.or_eq_true, Bool.and_eq_true, decide_eq_true_eq] at hrange
    obtain ⟨hlow, hhigh⟩ := hrange
    have hhigh := hhigh.resolve_left (by omega)
    rw [hwhole, hq] at hhigh
    rw [hq] at hlow
    have hlow' : 0 ≤ q := Int.nonneg_of_mul_nonneg_left hlow hpos
    have hhigh' : q < ((2 ^ (f.bits - f.scale) : Nat) : Int) := by
      refine Int.lt_of_mul_lt_mul_right ?_ (Int.le_of_lt hpos)
      exact_mod_cast hhigh
    rw [if_neg Bool.false_ne_true, Int.emod_eq_of_lt hlow' hhigh', hq]
    push_cast
    rfl

def stretches (f : BitField) : List Stretch := f.pieces.map fun p => ⟨p.pos, p.width⟩

theorem sets_place {f : BitField} {v : Int64} (hplain : f.isPlain = true)
    (h : f.fault? v = none) : ∃ n, Sets f.stretches [n] (f.place v) ∧ f.undo n = v.toInt := by
  unfold isPlain at hplain
  split at hplain
  next p hp =>
    simp only [Bool.and_eq_true, beq_iff_eq, decide_eq_true_eq] at hplain
    obtain ⟨⟨⟨hsource, hwidth⟩, hscale⟩, hbits⟩ := hplain
    refine ⟨_, ?_, undo_extract hscale hbits h⟩
    have hplace : f.place v = Stretch.place ⟨p.pos, p.width⟩
        (v.toBitVec.extractLsb' f.scale (f.bits - f.scale)).toNat := by
      rw [← hwidth, ← hsource, place, hp, Stretch.place, BitVec.ofNat_toNat]
      simp [Piece.place]
    rw [stretches, hp, hplace, ← hwidth]
    exact Sets.one (BitVec.isLt _)
  · cases hplain

end BitField

namespace Piece

/-- The bits of a value that belong to a piece. -/
def Holds (p : Piece) (i : Nat) : Prop := p.source ≤ i ∧ i < p.source + p.width

instance (p : Piece) (i : Nat) : Decidable (p.Holds i) := inferInstanceAs (Decidable (_ ∧ _))

def bitPos (p : Piece) (i : Nat) : Nat := p.pos + (i - p.source)

theorem covers_bitPos {p : Piece} {i : Nat} (h : p.Holds i) :
    Stretch.Covers ⟨p.pos, p.width⟩ (p.bitPos i) := by
  unfold Holds at h
  unfold bitPos
  rw [Stretch.covers_mk]
  omega

theorem getLsbD_gather (p : Piece) (w : Word) {i : Nat} (hi : i < 64) :
    (p.gather w).getLsbD i = (decide (p.Holds i) && w.getLsbD (p.bitPos i)) := by
  unfold gather Holds bitPos
  rw [BitVec.getLsbD_shiftLeft, BitVec.getLsbD_setWidth, BitVec.getLsbD_extractLsb']
  by_cases hlow : p.source ≤ i
  · have hin : i - p.source < 64 := by omega
    by_cases hhigh : i < p.source + p.width
    · simp [hi, hlow, hhigh, hin, show i - p.source < p.width by omega]
    · simp [hhigh, show ¬ i - p.source < p.width by omega]
  · simp [hlow, Nat.lt_of_not_le hlow]

theorem getLsbD_place_bitPos {p : Piece} {i : Nat} (v : BitVec 64) (h : p.Holds i)
    (hin : p.bitPos i < 32) : (p.place v).getLsbD (p.bitPos i) = v.getLsbD i := by
  unfold Holds at h
  unfold bitPos at hin
  have hsub : p.bitPos i - p.pos = i - p.source := by
    unfold bitPos
    omega
  have hnot : decide (p.bitPos i < p.pos) = false := by
    unfold bitPos
    simp
  rw [place, BitVec.getLsbD_shiftLeft, BitVec.getLsbD_setWidth, BitVec.getLsbD_extractLsb', hsub,
    hnot, show p.source + (i - p.source) = i by omega]
  simp [bitPos, hin, show i - p.source < 32 by omega, show i - p.source < p.width by omega]

theorem covers_of_getLsbD_place {p : Piece} {v : BitVec 64} {i : Nat}
    (h : (p.place v).getLsbD i = true) : Stretch.Covers ⟨p.pos, p.width⟩ i := by
  rw [place, BitVec.getLsbD_shiftLeft, BitVec.getLsbD_setWidth, BitVec.getLsbD_extractLsb'] at h
  simp only [Bool.and_eq_true, decide_eq_true_eq, Bool.not_eq_true', decide_eq_false_iff_not] at h
  rw [Stretch.covers_mk]
  omega

theorem getLsbD_mask_of_covers {p : Piece} {i : Nat} (h : Stretch.Covers ⟨p.pos, p.width⟩ i)
    (hi : i < 32) : p.mask.getLsbD i = true := by
  rw [Stretch.covers_mk] at h
  simp only [mask, BitVec.getLsbD_shiftLeft, BitVec.getLsbD_setWidth, BitVec.getLsbD_allOnes,
    Bool.and_eq_true, decide_eq_true_eq, Bool.not_eq_true', decide_eq_false_iff_not]
  omega

end Piece

namespace BitField

/-- What the field is for: a multiple of its unit, in its range, and not zero where that has
another meaning. -/
structure Admits (f : BitField) (v : Int64) : Prop where
  multiple : ((2 ^ f.scale : Nat) : Int) ∣ v.toInt
  range : if f.signed then -((2 ^ (f.bits - 1) : Nat) : Int) ≤ v.toInt ∧
      v.toInt < (2 ^ (f.bits - 1) : Nat)
    else 0 ≤ v.toInt ∧ v.toInt < (2 ^ f.bits : Nat)
  nonzero : f.nonzero = true → v.toInt ≠ 0

/-- The pieces are apart and inside the word, and they have a place for every bit of the values
that the field admits. -/
structure Proper (f : BitField) : Prop where
  positive : 0 < f.bits
  narrow : f.bits < 63
  small : f.scale ≤ f.bits
  inside : ∀ s ∈ f.stretches, s.stop ≤ 32
  apart : f.stretches.Pairwise Stretch.Apart
  full : ∀ i < f.bits, f.scale ≤ i → ∃ p ∈ f.pieces, p.Holds i

instance (f : BitField) : Decidable f.Proper :=
  decidable_of_iff (0 < f.bits ∧ f.bits < 63 ∧ f.scale ≤ f.bits ∧
    (∀ s ∈ f.stretches, s.stop ≤ 32) ∧ f.stretches.Pairwise Stretch.Apart ∧
    ∀ i < f.bits, f.scale ≤ i → ∃ p ∈ f.pieces, p.Holds i)
    ⟨fun ⟨h1, h2, h3, h4, h5, h6⟩ => ⟨h1, h2, h3, h4, h5, h6⟩,
      fun ⟨h1, h2, h3, h4, h5, h6⟩ => ⟨h1, h2, h3, h4, h5, h6⟩⟩

variable {f : BitField} {v : Int64} {w : Word} {i : Nat}

theorem inRange_iff (hf : f.Proper) : f.inRange v = true ↔
    if f.signed then -((2 ^ (f.bits - 1) : Nat) : Int) ≤ v.toInt ∧
      v.toInt < (2 ^ (f.bits - 1) : Nat)
    else 0 ≤ v.toInt ∧ v.toInt < (2 ^ f.bits : Nat) := by
  have hnarrow := hf.narrow
  unfold inRange
  cases f.signed with
  | true => exact fitsSigned_iff hf.positive (by omega)
  | false => exact fitsUnsigned_iff hnarrow

theorem fault?_eq_none_iff (hf : f.Proper) : f.fault? v = none ↔ f.Admits v := by
  constructor
  · intro h
    obtain ⟨halign, hrange⟩ := of_fault?_eq_none h
    refine ⟨Int.dvd_of_emod_eq_zero halign, (inRange_iff hf).mp hrange, ?_⟩
    intro hnonzero hzero
    have hv : v = 0 := Int64.toInt_inj.mp hzero
    rw [hv] at h
    simp [fault?, aligned, hnonzero] at h
  · rintro ⟨hmultiple, hrange, hnonzero⟩
    have haligned : f.aligned v = true := by
      rw [aligned, unit, Nat.one_shiftLeft, beq_iff_eq]
      exact Int.emod_eq_zero_of_dvd hmultiple
    have hzero : ¬ (f.nonzero && v == 0) = true := by
      rw [Bool.and_eq_true, beq_iff_eq]
      rintro ⟨hn, rfl⟩
      exact hnonzero hn rfl
    rw [fault?, haligned, (inRange_iff hf).mpr hrange, if_neg hzero]
    rfl

theorem getLsbD_mask_of_covers {s : Stretch} (hs : s ∈ f.stretches) (hc : s.Covers i)
    (hi : i < 32) : f.mask.getLsbD i = true := by
  obtain ⟨p, hp, rfl⟩ := List.mem_map.mp hs
  unfold mask
  clear hs
  revert hp
  induction f.pieces with
  | nil => exact fun hp => by cases hp
  | cons q qs ih =>
    intro hp
    rw [List.foldr_cons, BitVec.getLsbD_or, Bool.or_eq_true]
    rcases List.mem_cons.mp hp with rfl | hp
    · exact Or.inl (Piece.getLsbD_mask_of_covers hc hi)
    · exact Or.inr (ih hp)

theorem getLsbD_place (f : BitField) (v : Int64) (i : Nat) :
    (f.place v).getLsbD i = f.pieces.any fun p => (p.place v.toBitVec).getLsbD i := by
  unfold place
  induction f.pieces with
  | nil => simp
  | cons p ps ih => rw [List.foldr_cons, BitVec.getLsbD_or, ih, List.any_cons]

/-- A bit of the value stands at its place, and no other piece gets in its way. -/
theorem getLsbD_place_bitPos (hf : f.Proper) {p : Piece} (hp : p ∈ f.pieces) (hi : p.Holds i) :
    (f.place v).getLsbD (p.bitPos i) = v.toBitVec.getLsbD i := by
  have hcovers := Piece.covers_bitPos hi
  have hinside := hf.inside _ (List.mem_map_of_mem hp)
  have hin : p.bitPos i < 32 := by
    have := hcovers.2
    omega
  rw [← Piece.getLsbD_place_bitPos v.toBitVec hi hin, getLsbD_place, Bool.eq_iff_iff,
    List.any_eq_true]
  constructor
  · rintro ⟨q, hq, hbit⟩
    have hsymm : Std.Symm fun p q : Piece =>
        Stretch.Apart ⟨p.pos, p.width⟩ ⟨q.pos, q.width⟩ := ⟨fun _ _ => Stretch.Apart.symm⟩
    by_cases heq : p = q
    · rwa [heq] at hbit ⊢
    · have hapart := (List.pairwise_map.mp hf.apart).forall hp hq heq
      exact absurd (Piece.covers_of_getLsbD_place hbit) (hapart.not_covers hcovers)
  · intro hbit
    exact ⟨p, hp, hbit⟩

def gathered (f : BitField) (w : Word) : BitVec 64 :=
  f.pieces.foldr (fun p v => p.gather w ||| v) 0

theorem getLsbD_gathered (f : BitField) (w : Word) (hi : i < 64) :
    (f.gathered w).getLsbD i =
      f.pieces.any fun p => decide (p.Holds i) && w.getLsbD (p.bitPos i) := by
  unfold gathered
  induction f.pieces with
  | nil => simp
  | cons p ps ih =>
    rw [List.foldr_cons, BitVec.getLsbD_or, ih, List.any_cons, Piece.getLsbD_gather p w hi]

theorem getLsbD_gathered_or_place (hf : f.Proper) (hw : w &&& f.mask = 0) (hi : i < 64) :
    (f.gathered (w ||| f.place v)).getLsbD i =
      (decide (∃ p ∈ f.pieces, p.Holds i) && v.toBitVec.getLsbD i) := by
  have hbit : ∀ p ∈ f.pieces, p.Holds i →
      (w ||| f.place v).getLsbD (p.bitPos i) = v.toBitVec.getLsbD i := by
    intro p hp hholds
    have hcovers := Piece.covers_bitPos hholds
    have hin : p.bitPos i < 32 := by
      have := hf.inside _ (List.mem_map_of_mem hp)
      have := hcovers.2
      omega
    have hclear := congrArg (BitVec.getLsbD · (p.bitPos i)) hw
    simp only [BitVec.getLsbD_and, getLsbD_mask_of_covers (List.mem_map_of_mem hp) hcovers hin,
      Bool.and_true, BitVec.ofNat_eq_ofNat, BitVec.getLsbD_zero] at hclear
    rw [BitVec.getLsbD_or, hclear, Bool.false_or, getLsbD_place_bitPos hf hp hholds]
  rw [getLsbD_gathered f _ hi, Bool.eq_iff_iff, List.any_eq_true, Bool.and_eq_true,
    decide_eq_true_eq]
  constructor
  · rintro ⟨p, hp, hpi⟩
    rw [Bool.and_eq_true, decide_eq_true_eq] at hpi
    rw [hbit p hp hpi.1] at hpi
    exact ⟨⟨p, hp, hpi.1⟩, hpi.2⟩
  · rintro ⟨⟨p, hp, hholds⟩, hv⟩
    refine ⟨p, hp, ?_⟩
    rw [decide_eq_true hholds, hbit p hp hholds, hv]
    rfl

theorem getLsbD_of_lt_scale (hf : f.Proper) (h : f.Admits v) (hi : i < f.scale) :
    v.toBitVec.getLsbD i = false := by
  have hscale : f.scale ≤ 64 := by
    have := hf.narrow
    have := hf.small
    omega
  have hnum := extract_emod v (q := v.toInt) (s := 0) (w := f.scale) (by simp) (by omega)
  rw [Int.emod_eq_zero_of_dvd h.multiple] at hnum
  have hzero : v.toBitVec.extractLsb' 0 f.scale = 0 := by
    apply BitVec.eq_of_toNat_eq
    exact_mod_cast hnum
  have hbit := congrArg (BitVec.getLsbD · i) hzero
  simpa [hi] using hbit

/-- The gathered bits agree with those of the value below the width of the field. -/
theorem getLsbD_gathered_of_lt (hf : f.Proper) (h : f.Admits v) (hw : w &&& f.mask = 0)
    (hi : i < f.bits) :
    (f.gathered (w ||| f.place v)).getLsbD i = v.toBitVec.getLsbD i := by
  have hnarrow := hf.narrow
  rw [getLsbD_gathered_or_place hf hw (by omega)]
  by_cases hscale : f.scale ≤ i
  · rw [decide_eq_true (hf.full i hi hscale), Bool.true_and]
  · rw [getLsbD_of_lt_scale hf h (by omega), Bool.and_false]

/-- A value that the field admits comes back from every word that was clear in the field. -/
theorem gather_or_place (hf : f.Proper) (h : f.Admits v) (hw : w &&& f.mask = 0) :
    f.gather (w ||| f.place v) = v := by
  have hrange := h.range
  have hpos := hf.positive
  have hnarrow := hf.narrow
  change Int64.ofBitVec (if f.signed = true then
    ((f.gathered (w ||| f.place v)).setWidth f.bits).signExtend 64
    else f.gathered (w ||| f.place v)) = v
  cases hsigned : f.signed with
  | true =>
    rw [hsigned, if_pos rfl] at hrange
    have hwhole : (2 ^ f.bits : Nat) = 2 ^ (f.bits - 1) * 2 := by
      rw [← Nat.pow_succ]
      congr 1
      omega
    have hlow : (f.gathered (w ||| f.place v)).setWidth f.bits = v.toBitVec.setWidth f.bits := by
      apply BitVec.eq_of_getLsbD_eq
      intro i hi
      rw [BitVec.getLsbD_setWidth, BitVec.getLsbD_setWidth, getLsbD_gathered_of_lt hf h hw hi]
    rw [if_pos rfl, hlow]
    apply Int64.toInt_inj.mp
    rw [Int64.toInt_ofBitVec, BitVec.toInt_signExtend_of_le (by omega), BitVec.toInt_setWidth,
      bmod_toNat v (by omega)]
    exact Int.bmod_eq_of_le (by omega) (by omega)
  | false =>
    rw [hsigned, if_neg Bool.false_ne_true] at hrange
    rw [if_neg Bool.false_ne_true]
    apply Int64.toBitVec_inj.mp
    rw [Int64.toBitVec_ofBitVec]
    apply BitVec.eq_of_getLsbD_eq
    intro i hi
    by_cases hlow : i < f.bits
    · exact getLsbD_gathered_of_lt hf h hw hlow
    · have hlt : v.toBitVec.toNat < 2 ^ i := by
        rw [← toInt_of_nonneg hrange.1]
        have : (2 ^ f.bits : Nat) ≤ 2 ^ i := Nat.pow_le_pow_right (by omega) (by omega)
        omega
      have hbit : v.toBitVec.getLsbD i = false := Nat.testBit_lt_two_pow hlt
      rw [getLsbD_gathered_or_place hf hw hi, hbit, Bool.and_false]

/-- A value stays within the mask of its field. -/
theorem place_and_not_mask (f : BitField) (v : Int64) : f.place v &&& ~~~f.mask = 0 := by
  apply BitVec.eq_of_getLsbD_eq
  intro i hi
  have hm := mask_of_place (f := f) (v := v) (i := i)
  cases hv : (f.place v).getLsbD i with
  | true => simp [hv, hm hv]
  | false => simp [hv]

/-- What a field holds depends on nothing but its stretches. -/
theorem gather_congr {w' : Word} (h : ∀ s ∈ f.stretches, s.read w = s.read w') :
    f.gather w = f.gather w' := by
  have hgathered : f.gathered w = f.gathered w' := by
    unfold gathered
    unfold stretches at h
    revert h
    induction f.pieces with
    | nil => exact fun _ => rfl
    | cons p ps ih =>
      intro h
      have hread := h ⟨p.pos, p.width⟩ List.mem_cons_self
      have hpiece : p.gather w = p.gather w' := by
        rw [Piece.gather, Piece.gather, BitVec.eq_of_toNat_eq hread]
      rw [List.foldr_cons, List.foldr_cons, hpiece,
        ih fun s hs => h s (List.mem_cons_of_mem _ hs)]
  change Int64.ofBitVec (if f.signed = true then ((f.gathered w).setWidth f.bits).signExtend 64
    else f.gathered w) = Int64.ofBitVec (if f.signed = true then
      ((f.gathered w').setWidth f.bits).signExtend 64 else f.gathered w')
  rw [hgathered]

end BitField

end MachineCode
