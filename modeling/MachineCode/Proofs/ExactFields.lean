import MachineCode.Proofs.Fields

/-!
Fields that are patched and read. If a field has a place for every bit of its values and for no
other bits, then patching and gathering undo each other: a value that was patched in is gathered
again, what is gathered is always a value of the field, and to patch it in once more changes
nothing. Bits outside the field stay as they were.
-/
namespace MachineCode.BitField

variable {f : BitField} {v : Int64} {w : Word} {i : Nat}

/-- Every bit of a value has one place: no piece reaches outside the number, and no bit of the
number stands in two of them. -/
structure Exact (f : BitField) : Prop where
  proper : f.Proper
  signed : f.signed = true
  nonzero : f.nonzero = false
  low : ∀ p ∈ f.pieces, f.scale ≤ p.source
  high : ∀ p ∈ f.pieces, p.source + p.width ≤ f.bits
  once : f.pieces.Pairwise fun p q => Stretch.Apart ⟨p.source, p.width⟩ ⟨q.source, q.width⟩

instance (f : BitField) : Decidable f.Exact :=
  decidable_of_iff (f.Proper ∧ f.signed = true ∧ f.nonzero = false ∧
    (∀ p ∈ f.pieces, f.scale ≤ p.source) ∧ (∀ p ∈ f.pieces, p.source + p.width ≤ f.bits) ∧
    f.pieces.Pairwise fun p q => Stretch.Apart ⟨p.source, p.width⟩ ⟨q.source, q.width⟩)
    ⟨fun ⟨h1, h2, h3, h4, h5, h6⟩ => ⟨h1, h2, h3, h4, h5, h6⟩,
      fun ⟨h1, h2, h3, h4, h5, h6⟩ => ⟨h1, h2, h3, h4, h5, h6⟩⟩

theorem Exact.toInt_ne_zero (hf : f.Exact) (h : f.nonzero = true) : v.toInt ≠ 0 := by
  rw [hf.nonzero] at h
  cases h

theorem covers_of_getLsbD_mask (h : f.mask.getLsbD i = true) : ∃ s ∈ f.stretches, s.Covers i := by
  revert h
  unfold mask stretches
  induction f.pieces with
  | nil => simp
  | cons p ps ih =>
    intro h
    rw [List.foldr_cons, BitVec.getLsbD_or, Bool.or_eq_true] at h
    rcases h with h | h
    · refine ⟨⟨p.pos, p.width⟩, List.mem_cons_self, ?_⟩
      simp only [Piece.mask, BitVec.getLsbD_shiftLeft, BitVec.getLsbD_setWidth,
        BitVec.getLsbD_allOnes, Bool.and_eq_true, decide_eq_true_eq, Bool.not_eq_true',
        decide_eq_false_iff_not] at h
      rw [Stretch.covers_mk]
      omega
    · obtain ⟨s, hs, hc⟩ := ih h
      exact ⟨s, List.mem_cons_of_mem _ hs, hc⟩

theorem getLsbD_patch (f : BitField) (w : Word) (v : Int64) (i : Nat) :
    (f.patch w v).getLsbD i = (w.getLsbD i && !f.mask.getLsbD i || (f.place v).getLsbD i) := by
  by_cases hi : i < 32
  · simp [patch, hi]
  · simp [patch, BitVec.getLsbD_of_ge _ i (Nat.le_of_not_lt hi)]

/-- Bits outside the field stay. -/
theorem getLsbD_patch_of_not_covers (hi : ∀ s ∈ f.stretches, ¬ s.Covers i) :
    (f.patch w v).getLsbD i = w.getLsbD i := by
  have hmask : f.mask.getLsbD i = false := by
    rw [Bool.eq_false_iff]
    intro h
    obtain ⟨s, hs, hc⟩ := covers_of_getLsbD_mask h
    exact hi s hs hc
  have hplace : (f.place v).getLsbD i = false := by
    rw [Bool.eq_false_iff]
    intro h
    rw [mask_of_place h] at hmask
    cases hmask
  rw [getLsbD_patch, hmask, hplace]
  simp

/-- A value that the field admits comes back from every word into which it is patched. -/
theorem gather_patch (hf : f.Proper) (h : f.Admits v) : f.gather (f.patch w v) = v := by
  refine gather_or_place hf h ?_
  rw [BitVec.and_assoc, BitVec.and_comm (~~~f.mask), BitVec.and_not_self]
  exact BitVec.and_zero

theorem relocate_of_admits (hf : f.Proper) (h : f.Admits v) :
    f.relocate w v = .ok (f.patch w v) := by
  have haligned : f.aligned v = true := by
    rw [aligned, unit, Nat.one_shiftLeft, beq_iff_eq]
    exact Int.emod_eq_zero_of_dvd h.multiple
  rw [relocate, haligned, (inRange_iff hf).mpr h.range]
  rfl

theorem admits_of_relocate {w' : Word} (hf : f.Exact) (h : f.relocate w v = .ok w') :
    f.Admits v := by
  unfold relocate at h
  split at h
  · cases h
  next haligned =>
    split at h
    · cases h
    next hrange =>
      simp only [Bool.not_eq_true', Bool.not_eq_false, aligned, unit, Nat.one_shiftLeft,
        beq_iff_eq] at haligned hrange
      exact ⟨Int.dvd_of_emod_eq_zero haligned, (inRange_iff hf.proper).mp hrange,
        hf.toInt_ne_zero⟩

/-- Of a value, a field takes no more than the bits below its width. -/
theorem place_congr {u : Int64} (hf : f.Exact)
    (h : ∀ i < f.bits, v.toBitVec.getLsbD i = u.toBitVec.getLsbD i) : f.place v = f.place u := by
  have hhigh := hf.high
  unfold place
  revert hhigh
  induction f.pieces with
  | nil => exact fun _ => rfl
  | cons p ps ih =>
    intro hhigh
    obtain ⟨hp, hps⟩ := List.forall_mem_cons.mp hhigh
    have hbits : v.toBitVec.extractLsb' p.source p.width =
        u.toBitVec.extractLsb' p.source p.width := by
      apply BitVec.eq_of_getLsbD_eq
      intro j hj
      rw [BitVec.getLsbD_extractLsb', BitVec.getLsbD_extractLsb', h _ (by omega)]
    rw [List.foldr_cons, List.foldr_cons, ih hps, Piece.place, Piece.place, hbits]

theorem getLsbD_gathered_of_holds (hf : f.Exact) {p : Piece} (hp : p ∈ f.pieces)
    (hi : p.Holds i) : (f.gathered w).getLsbD i = w.getLsbD (p.bitPos i) := by
  have hbound := hf.high p hp
  have hnarrow := hf.proper.narrow
  have hlt := hi.2
  rw [getLsbD_gathered f w (by omega), Bool.eq_iff_iff, List.any_eq_true]
  constructor
  · rintro ⟨q, hq, hbit⟩
    rw [Bool.and_eq_true, decide_eq_true_eq] at hbit
    have hsymm : Std.Symm fun p q : Piece =>
        Stretch.Apart ⟨p.source, p.width⟩ ⟨q.source, q.width⟩ := ⟨fun _ _ => Stretch.Apart.symm⟩
    by_cases heq : p = q
    · rw [heq]
      exact hbit.2
    · have hapart := hf.once.forall hp hq heq
      exact absurd hbit.1 (hapart.not_covers hi)
  · intro hbit
    refine ⟨p, hp, ?_⟩
    rw [decide_eq_true hi, hbit]
    rfl

theorem getLsbD_gathered_of_lt_scale (hf : f.Exact) (hi : i < f.scale) :
    (f.gathered w).getLsbD i = false := by
  have hsmall := hf.proper.small
  have hnarrow := hf.proper.narrow
  rw [getLsbD_gathered f w (by omega), List.any_eq_false]
  intro p hp hbit
  rw [Bool.and_eq_true, decide_eq_true_eq] at hbit
  have hlow := hf.low p hp
  have hsource := hbit.1.1
  omega

theorem gather_eq_signExtend (hf : f.Exact) (w : Word) :
    f.gather w = Int64.ofBitVec (((f.gathered w).setWidth f.bits).signExtend 64) := by
  have hgather : f.gather w = Int64.ofBitVec (if f.signed = true then
      ((f.gathered w).setWidth f.bits).signExtend 64 else f.gathered w) := rfl
  rw [hgather, if_pos hf.signed]

theorem toInt_gather (hf : f.Exact) (w : Word) :
    (f.gather w).toInt = ((f.gathered w).setWidth f.bits).toInt := by
  have hnarrow := hf.proper.narrow
  rw [gather_eq_signExtend hf, Int64.toInt_ofBitVec, BitVec.toInt_signExtend_of_le (by omega)]

/-- Below the width of the field, the bits of the number are the bits that stand in it. -/
theorem getLsbD_gather (hf : f.Exact) (hi : i < f.bits) :
    (f.gather w).toBitVec.getLsbD i = (f.gathered w).getLsbD i := by
  have hnarrow := hf.proper.narrow
  rw [gather_eq_signExtend hf, Int64.toBitVec_ofBitVec, BitVec.getLsbD_signExtend,
    BitVec.getLsbD_setWidth]
  simp [hi, show i < 64 by omega]

theorem dvd_gathered (hf : f.Exact) (w : Word) : 2 ^ f.scale ∣ (f.gathered w).toNat := by
  have hlow : (f.gathered w).extractLsb' 0 f.scale = 0 := by
    apply BitVec.eq_of_getLsbD_eq
    intro i hi
    rw [BitVec.getLsbD_extractLsb', Nat.zero_add, getLsbD_gathered_of_lt_scale hf hi]
    simp
  have hmod := congrArg BitVec.toNat hlow
  rw [BitVec.extractLsb'_toNat, Nat.shiftRight_zero] at hmod
  exact Nat.dvd_of_mod_eq_zero hmod

/-- Whatever stands in a field is a value of it. -/
theorem admits_gather (hf : f.Exact) (w : Word) : f.Admits (f.gather w) := by
  have hunit : ((2 ^ f.scale : Nat) : Int) ∣ (2 ^ f.bits : Nat) :=
    Int.natCast_dvd_natCast.mpr (Nat.pow_dvd_pow 2 hf.proper.small)
  have hgathered : ((2 ^ f.scale : Nat) : Int) ∣ (f.gathered w).toNat :=
    Int.natCast_dvd_natCast.mpr (dvd_gathered hf w)
  refine ⟨?_, ?_, hf.toInt_ne_zero⟩
  · rw [toInt_gather hf, BitVec.toInt_setWidth, Int.bmod_eq_self_sub_mul_bdiv]
    exact Int.dvd_sub hgathered (Int.dvd_mul_of_dvd_left hunit)
  · have hlow := BitVec.le_toInt ((f.gathered w).setWidth f.bits)
    have hhigh := BitVec.toInt_lt (x := (f.gathered w).setWidth f.bits)
    rw [if_pos hf.signed, toInt_gather hf]
    push_cast
    exact ⟨hlow, hhigh⟩

/-- To patch in what stands in a field changes nothing. -/
theorem patch_gather (hf : f.Exact) (w : Word) : f.patch w (f.gather w) = w := by
  apply BitVec.eq_of_getLsbD_eq
  intro i hi
  by_cases hcovered : ∃ s ∈ f.stretches, s.Covers i
  · obtain ⟨s, hs, hc⟩ := hcovered
    obtain ⟨p, hp, rfl⟩ := List.mem_map.mp hs
    rw [Stretch.covers_mk] at hc
    -- The position is the place of one bit of the number.
    obtain ⟨k, hholds, rfl⟩ : ∃ k, p.Holds k ∧ p.bitPos k = i := by
      refine ⟨p.source + (i - p.pos), ⟨by omega, by omega⟩, ?_⟩
      unfold Piece.bitPos
      omega
    have hk : k < f.bits := Nat.lt_of_lt_of_le hholds.2 (hf.high p hp)
    rw [getLsbD_patch, getLsbD_mask_of_covers hs (Piece.covers_bitPos hholds) hi,
      getLsbD_place_bitPos hf.proper hp hholds, getLsbD_gather hf hk,
      getLsbD_gathered_of_holds hf hp hholds]
    simp
  · refine getLsbD_patch_of_not_covers ?_
    intro s hs hc
    exact hcovered ⟨s, hs, hc⟩

end MachineCode.BitField
