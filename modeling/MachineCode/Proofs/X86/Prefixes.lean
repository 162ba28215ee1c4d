import MachineCode.Proofs.X86.Placements

/-!
Prefixes that are read back. What stands in front of an opcode says the segment, the size of the
address, and the fourth bits of the registers, and a REX, VEX or XOP prefix that is not there says
zeros.
-/
namespace MachineCode.X86

theorem scan_legacy {mode : Mode} {bs : Bytes} (h : ∀ b ∈ bs, isLegacyPrefix b = true)
    (p : Prefixes) (rest : Bytes) :
    scan mode p (bs ++ rest) = scan mode (bs.foldl Prefixes.add p) rest := by
  induction bs generalizing p with
  | nil => rfl
  | cons b bs ih =>
    obtain ⟨hb, hbs⟩ := List.forall_mem_cons.mp h
    rw [List.cons_append, scan, if_pos hb, ih hbs, List.foldl_cons]

/-- Bytes at which the prefixes end. -/
def Stops (mode : Mode) (b : UInt8) : Prop :=
  isLegacyPrefix b = false ∧ (mode = .x64 → b / 16 ≠ 4) ∧ b ≠ 0x9b

theorem scan_stop {mode : Mode} {b : UInt8} (h : Stops mode b) (p : Prefixes) (rest : Bytes) :
    scan mode p (b :: rest) = (p, b :: rest) := by
  obtain ⟨hlegacy, hrex, hwait⟩ := h
  have hnot : (mode == .x64 && b / 16 == 4) = false := by
    rw [Bool.and_eq_false_iff, beq_eq_false_iff_ne, beq_eq_false_iff_ne]
    by_cases hmode : mode = .x64
    · exact Or.inr (hrex hmode)
    · exact Or.inl hmode
  have hfwait : (b == 0x9b && !rest.isEmpty) = false := by
    rw [Bool.and_eq_false_iff, beq_eq_false_iff_ne]
    exact Or.inl hwait
  rw [scan, hlegacy, hnot, hfwait]
  simp

theorem scan_wait (mode : Mode) (p : Prefixes) {rest : Bytes} (h : rest ≠ []) :
    scan mode p (0x9b :: rest) = scan mode {} rest := by
  have hrest : rest.isEmpty = false := List.isEmpty_eq_false_iff.mpr h
  rw [scan, if_neg (by decide), if_neg (by cases mode <;> decide), hrest, if_pos (by decide)]

section Bytes

theorem toNat_num8 (r : Register) : r.num8.toNat = r.num := by
  have hnum : r.num < 16 := Nat.mod_lt _ (by decide)
  rw [Register.num8, UInt8.toNat_ofNat']
  omega

theorem toNat_fourthBit (n : UInt8) : (fourthBit n).toNat = n.toNat / 8 % 2 := by
  simp [fourthBit]

theorem fourthBit_cases (n : UInt8) : fourthBit n = 0 ∨ fourthBit n = 1 := by
  rcases Nat.mod_two_eq_zero_or_one (n.toNat / 8) with h | h
  · exact Or.inl (UInt8.toNat_inj.mp ((toNat_fourthBit n).trans h))
  · exact Or.inr (UInt8.toNat_inj.mp ((toNat_fourthBit n).trans h))

theorem toNat_modByte (mode : UInt8) (hmode : mode.toNat < 4) (reg rm : UInt8) :
    (modByte mode reg rm).toNat = 64 * mode.toNat + 8 * (reg.toNat % 8) + rm.toNat % 8 := by
  have hlow : ∀ n : UInt8, (n &&& 7).toNat = n.toNat % 8 := by
    intro n
    rw [UInt8.toNat_and]
    exact Nat.and_two_pow_sub_one_eq_mod n.toNat 3
  have hbytes : ∀ a < 4, ∀ b < 8, ∀ c < 8,
      (UInt8.ofNat a <<< 6 ||| UInt8.ofNat b <<< 3 ||| UInt8.ofNat c).toNat =
        64 * a + 8 * b + c := by
    decide
  unfold modByte
  rw [← UInt8.ofNat_toNat (x := mode), ← UInt8.ofNat_toNat (x := reg &&& 7),
    ← UInt8.ofNat_toNat (x := rm &&& 7), hlow, hlow, UInt8.ofNat_toNat,
    ← UInt8.ofNat_toNat (x := mode)]
  have h := hbytes mode.toNat hmode (reg.toNat % 8) (Nat.mod_lt _ (by decide)) (rm.toNat % 8)
    (Nat.mod_lt _ (by decide))
  rw [h, UInt8.ofNat_toNat]

end Bytes

def Placement.bits (p : Placement) : HighBits :=
  ⟨(fourthBit p.numbers.reg).toNat, (fourthBit p.numbers.index).toNat,
    (fourthBit p.numbers.base).toNat⟩

section Rex

theorem rex_spec (p : Placement) (wide : Bool) :
    p.rex wide / 16 = 4 ∧ isLegacyPrefix (p.rex wide) = false ∧ rexBits (p.rex wide) = p.bits ∧
      ((p.rex wide).toNat / 8 % 2 == 1) = wide := by
  unfold Placement.rex Placement.bits
  dsimp only
  rcases fourthBit_cases p.numbers.reg with hr | hr <;>
    rcases fourthBit_cases p.numbers.index with hx | hx <;>
    rcases fourthBit_cases p.numbers.base with hb | hb <;>
    rw [hr, hx, hb] <;> cases wide <;> decide

theorem scan_rex {wide : Bool} {p : Placement} (pre : Prefixes) (rest : Bytes) :
    scan .x64 pre (p.rex wide :: rest) = scan .x64 { pre with rex := some (p.rex wide) } rest := by
  obtain ⟨hrex, hlegacy, -⟩ := rex_spec p wide
  rw [scan, hlegacy, if_neg Bool.false_ne_true, if_pos (by rw [hrex]; decide)]

end Rex

section Vex

variable {p : Placement} {map pref : UInt8} {bits : SizeBits}

def Placement.extraNum (p : Placement) : UInt8 := regNum8 (p.extra.bind (·.reg?))

theorem toNat_last {extra : UInt8} (h : extra.toNat < 16) (long : Bool) (pref : UInt8) :
    (8 * (15 - extra) + (if long then 4 else 0) + pref % 4).toNat =
      8 * (15 - extra.toNat) + (if long then 4 else 0) + pref.toNat % 4 := by
  have hsub : (15 - extra).toNat = 15 - extra.toNat :=
    UInt8.toNat_sub_of_le _ _ (UInt8.le_iff_toNat_le.mpr (Nat.le_of_lt_succ h))
  have hpref : (pref % 4).toNat = pref.toNat % 4 := UInt8.toNat_mod pref 4
  rw [UInt8.toNat_add, UInt8.toNat_add, UInt8.toNat_mul, hsub, hpref]
  cases long <;> simp <;> omega

theorem toNat_mapByte (r x b : UInt8) (hr : r = 0 ∨ r = 1) (hx : x = 0 ∨ x = 1)
    (hb : b = 0 ∨ b = 1) (map : UInt8) :
    (128 * (1 - r) + (64 * (1 - x) + 32 * (1 - b) + map % 32)).toNat =
      128 * (1 - r.toNat) + 64 * (1 - x.toNat) + 32 * (1 - b.toNat) + map.toNat % 32 := by
  have hmap : (map % 32).toNat = map.toNat % 32 := UInt8.toNat_mod map 32
  rcases hr with rfl | rfl <;> rcases hx with rfl | rfl <;> rcases hb with rfl | rfl <;>
    rw [UInt8.toNat_add, UInt8.toNat_add, hmap] <;> simp <;> omega

/-- Numbers that VEX prefixes can hold: in 32-bit mode, only those of three bits. -/
def Placement.Encodable (p : Placement) (mode : Mode) : Prop :=
  p.extraNum.toNat < 16 ∧
    (mode = .x86 → fourthBit p.numbers.reg = 0 ∧ fourthBit p.numbers.index = 0 ∧
      p.extraNum.toNat < 8)

theorem ofByte_eq {b : UInt8} {extra : Nat} {long : Bool} (isVex : Bool) (map : Nat) (wide : Bool)
    (hextra : extra < 16)
    (h : b.toNat % 128 = 8 * (15 - extra) + (if long then 4 else 0) + pref.toNat % 4) :
    VectorPrefix.ofByte isVex map wide b = ⟨isVex, map, wide, extra, long, pref.toNat % 4⟩ := by
  have hextra' : 15 - b.toNat / 8 % 16 = extra := by
    cases long <;> simp at h <;> omega
  have hlong : (b.toNat / 4 % 2 == 1) = long := by
    cases long <;> simp at h ⊢ <;> omega
  have hpref : b.toNat % 4 = pref.toNat % 4 := by
    cases long <;> simp at h <;> omega
  rw [VectorPrefix.ofByte, hextra', hlong, hpref]

theorem opensVector_of_vex {mode : Mode} {first second : UInt8}
    (hfirst : first = 0xc4 ∨ first = 0xc5) (hmode : mode = .x86 → 192 ≤ second.toNat) :
    opensVector mode first second = true := by
  have hle : mode = .x86 → 0xc0 ≤ second := fun h => UInt8.le_iff_toNat_le.mpr (hmode h)
  unfold opensVector
  rcases hfirst with rfl | rfl <;> cases mode <;> simp_all

theorem decodeOpcode_short {mode : Mode} {second op : UInt8} {body : Bytes}
    (hmode : mode = .x86 → 192 ≤ second.toNat) (pre : Prefixes) :
    decodeOpcode mode pre (0xc5 :: second :: op :: body) =
      { mode, segment := pre.segment, otherSize := pre.otherSize, short := pre.short, rex := pre.rex
        bits := { reg := 1 - second.toNat / 128 }
        vector := some (.ofByte true 1 false second)
        opcode := [op], body } := by
  have hopens : opensVector mode 0xc5 second = true :=
    opensVector_of_vex (Or.inr rfl) hmode
  unfold decodeOpcode
  dsimp only
  rw [hopens]
  rfl

theorem decodeOpcode_long {mode : Mode} {isVex : Bool} {second third op : UInt8} {body : Bytes}
    (hmode : isVex = true → mode = .x86 → 192 ≤ second.toNat)
    (hmap : isVex = false → 8 ≤ second.toNat % 32) (pre : Prefixes) :
    decodeOpcode mode pre ((if isVex then 0xc4 else 0x8f) :: second :: third :: op :: body) =
      { mode, segment := pre.segment, otherSize := pre.otherSize, short := pre.short, rex := pre.rex
        bits := ⟨1 - second.toNat / 128, 1 - second.toNat / 64 % 2, 1 - second.toNat / 32 % 2⟩
        vector := some (.ofByte isVex (second.toNat % 32) (third.toNat / 128 == 1) third)
        opcode := [op], body } := by
  cases isVex with
  | true =>
    have hopens : opensVector mode 0xc4 second = true :=
      opensVector_of_vex (Or.inl rfl) (hmode rfl)
    unfold decodeOpcode
    dsimp only
    rw [if_pos rfl, hopens]
    rfl
  | false =>
    have hopens : opensVector mode 0x8f second = true := by
      have hle := hmap rfl
      simp [opensVector, hle]
    unfold decodeOpcode
    dsimp only
    rw [if_neg Bool.false_ne_true, hopens]
    rfl

def Placement.longVex (p : Placement) (isVex : Bool) (map pref : UInt8) (bits : SizeBits) : Bytes :=
  let n := p.numbers
  [if isVex then 0xc4 else 0x8f,
    128 * (1 - fourthBit n.reg) +
      (64 * (1 - fourthBit n.index) + 32 * (1 - fourthBit n.base) + map % 32),
    (if bits.wide then 128 else 0) +
      (8 * (15 - p.extraNum) + (if bits.long then 4 else 0) + pref % 4)]

def Placement.Says (p : Placement) (mode : Mode) (isVex : Bool) (map pref : UInt8)
    (bits : SizeBits) (vex : Bytes) : Prop :=
  ∀ (pre : Prefixes) (op : UInt8) (body : Bytes), decodeOpcode mode pre (vex ++ op :: body) =
    { mode, segment := pre.segment, otherSize := pre.otherSize, short := pre.short, rex := pre.rex
      bits := p.bits
      vector := some ⟨isVex, map.toNat % 32, bits.wide, p.extraNum.toNat, bits.long,
        pref.toNat % 4⟩
      opcode := [op], body }

theorem says_longVex {mode : Mode} {isVex : Bool} (hencodable : p.Encodable mode)
    (hmap : isVex = false → 8 ≤ map.toNat % 32) :
    p.Says mode isVex map pref bits (p.longVex isVex map pref bits) := by
  intro pre op body
  obtain ⟨hextra, hmode⟩ := hencodable
  unfold Placement.longVex Placement.bits
  dsimp only
  have hr := fourthBit_cases p.numbers.reg
  have hx := fourthBit_cases p.numbers.index
  have hb := fourthBit_cases p.numbers.base
  generalize fourthBit p.numbers.reg = r at *
  generalize fourthBit p.numbers.index = x at *
  generalize fourthBit p.numbers.base = b at *
  generalize p.extraNum = extra at *
  have hsecond := toNat_mapByte r x b hr hx hb map
  have hlast := toNat_last hextra bits.long pref
  generalize 8 * (15 - extra) + (if bits.long = true then 4 else 0) + pref % 4 = last at *
  generalize 64 * (1 - x) + 32 * (1 - b) + map % 32 = rest at *
  have hsmall : ∀ n : UInt8, n = 0 ∨ n = 1 → n.toNat < 2 := by
    rintro n (rfl | rfl) <;> decide
  have hr' := hsmall r hr
  have hx' := hsmall x hx
  have hb' := hsmall b hb
  have hlong : (if bits.long = true then 4 else 0) < 5 := by
    split <;> decide
  have hwide : ((if bits.wide then 128 else 0) + last : UInt8).toNat =
      (if bits.wide then 128 else 0) + last.toNat := by
    cases bits.wide <;> simp
    omega
  have hbit : (((if bits.wide then 128 else 0) + last : UInt8).toNat / 128 == 1) = bits.wide := by
    rw [hwide]
    cases bits.wide <;> simp <;> omega
  have hfields : VectorPrefix.ofByte isVex (map.toNat % 32) bits.wide
      ((if bits.wide then 128 else 0) + last) =
      ⟨isVex, map.toNat % 32, bits.wide, extra.toNat, bits.long, pref.toNat % 4⟩ := by
    refine ofByte_eq isVex _ _ hextra ?_
    rw [hwide]
    cases bits.wide <;> simp <;> omega
  rw [List.cons_append, List.cons_append, List.cons_append, List.nil_append, decodeOpcode_long,
    hbit, show (128 * (1 - r) + rest).toNat % 32 = map.toNat % 32 by omega, hfields, hsecond]
  · congr 2 <;> omega
  · rintro - h
    obtain ⟨rfl, rfl, -⟩ := hmode h
    rw [hsecond]
    simp
    omega
  · intro h
    have := hmap h
    omega

/-- Both forms of the prefix are read as what was to be said. -/
theorem says_vex {mode : Mode} {isVex : Bool} (hencodable : p.Encodable mode)
    (hmap : isVex = false → 8 ≤ map.toNat % 32) :
    p.Says mode isVex map pref bits (p.vex isVex map pref bits) := by
  have hrestored : p.Says mode isVex map pref bits _ := says_longVex hencodable hmap
  intro pre op body
  unfold Placement.vex
  dsimp only
  rw [show regNum8 (p.extra.bind (·.reg?)) = p.extraNum from rfl]
  split
  next hshort =>
    -- The short form leaves out two bits that are zero and the number of the first map.
    obtain ⟨hextra, hmode⟩ := hencodable
    unfold Placement.bits
    have hr := fourthBit_cases p.numbers.reg
    have hx := fourthBit_cases p.numbers.index
    have hb := fourthBit_cases p.numbers.base
    generalize fourthBit p.numbers.reg = r at *
    generalize fourthBit p.numbers.index = x at *
    generalize fourthBit p.numbers.base = b at *
    generalize p.extraNum = extra at *
    have hlast := toNat_last hextra bits.long pref
    have hrest : (64 * (1 - x) + 32 * (1 - b) + map % 32).toNat =
        64 * (1 - x.toNat) + 32 * (1 - b.toNat) + map.toNat % 32 := by
      have h := toNat_mapByte 1 x b (Or.inr rfl) hx hb map
      simpa using h
    generalize 8 * (15 - extra) + (if bits.long = true then 4 else 0) + pref % 4 = last at *
    generalize 64 * (1 - x) + 32 * (1 - b) + map % 32 = rest at *
    have hsmall : ∀ n : UInt8, n = 0 ∨ n = 1 → n.toNat < 2 := by
      rintro n (rfl | rfl) <;> decide
    have hr' := hsmall r hr
    have hx' := hsmall x hx
    have hb' := hsmall b hb
    have hlong : (if bits.long = true then 4 else 0) < 5 := by
      split <;> decide
    simp only [Bool.and_eq_true, beq_iff_eq, Bool.not_eq_true'] at hshort
    obtain ⟨⟨rfl, hrest'⟩, hwide⟩ := hshort
    rw [hrest'] at hrest
    have h97 : (0x61 : UInt8).toNat = 97 := rfl
    have hbyte : (128 * (1 - r) + last).toNat = 128 * (1 - r.toNat) + last.toNat := by
      rcases hr with rfl | rfl
      · rw [UInt8.toNat_add]
        simp
        omega
      · simp
    have hless : last.toNat < 128 := by omega
    have hfields : VectorPrefix.ofByte true 1 false (128 * (1 - r) + last) =
        ⟨true, 1, false, extra.toNat, bits.long, pref.toNat % 4⟩ :=
      ofByte_eq true 1 false hextra
        (by rw [hbyte, Nat.mul_add_mod, Nat.mod_eq_of_lt hless, hlast])
    have hfirst : map.toNat % 32 = 1 := by omega
    have htop : (128 * (1 - r.toNat) + last.toNat) / 128 = 1 - r.toNat := by
      rw [Nat.mul_add_div (by decide), Nat.div_eq_of_lt hless, Nat.add_zero]
    rw [List.cons_append, List.cons_append, List.nil_append, decodeOpcode_short, hfields, hbyte,
      htop, hwide, hfirst]
    · congr 2 <;> omega
    · intro h
      obtain ⟨rfl, rfl, hless⟩ := hmode h
      rw [hbyte]
      simp
      omega
  next hnot => exact hrestored pre op body

end Vex

end MachineCode.X86
