import MachineCode.Proofs.RoundTrips

/-!
Offsets of branches, jumps and long addresses. A branch holds its offset in many pieces of one
instruction. A long offset is the sum of an upper part, which an AUIPC adds, and of a signed low
part: the upper part is rounded, so that the rest always has twelve bits, and the range of the sum
lies below that of a signed word by half a unit of the upper part.
-/
namespace MachineCode.Riscv

namespace Reloc

variable {v : Int64} {w : Word} {low : BitField} {buf d : Bytes}

def InReach (v : Int64) : Prop := -0x80000800 ≤ v.toInt ∧ v.toInt ≤ 0x7ffff7ff

instance (v : Int64) : Decidable (InReach v) := inferInstanceAs (Decidable (_ ∧ _))

def upperPart (v : Int64) : Int64 := upper v <<< 12

theorem toInt_upper_eq (v : Int64) :
    (upper v).toInt = (v.toInt + 0x800).bmod (2 ^ 64) / 4096 := by
  have hshift : (upper v).toInt = (v + 0x800).toInt / (2 ^ 12 : Nat) :=
    toInt_shiftRight (n := 12) (k := 12) (by decide) (by decide)
  rw [hshift, Int64.toInt_add]
  rfl

/-- The sum with the rounding constant wraps around only far outside the reach. -/
theorem fits_upper_iff (v : Int64) : fitsSigned (upper v) 20 = true ↔ InReach v := by
  have hlow := v.le_toInt
  have hhigh := v.toInt_lt
  rw [fitsSigned_iff (by decide) (by decide), toInt_upper_eq, Int.bmod_def, InReach]
  split <;> omega

theorem toInt_upperPart (h : InReach v) :
    (upperPart v).toInt = (v.toInt + 0x800) / 4096 * 4096 := by
  obtain ⟨hlow, hhigh⟩ := h
  have hshift : upperPart v = upper v * 4096 := by
    apply Int64.toBitVec_inj.mp
    rw [upperPart, Int64.toBitVec_shiftLeft, Int64.toBitVec_mul,
      show (12 : Int64).toBitVec.smod 64 = 12#64 by decide, BitVec.shiftLeft_eq',
      BitVec.shiftLeft_eq_mul_twoPow]
    rfl
  have hupper := toInt_upper_eq v
  rw [Int.bmod_eq_of_le (by omega) (by omega)] at hupper
  rw [hshift, Int64.toInt_mul, hupper, show (4096 : Int64).toInt = 4096 by decide,
    Int.bmod_eq_of_le (by omega) (by omega)]

theorem upperPart_add_lower (v : Int64) : upperPart v + lower v = v := by
  unfold upperPart lower
  grind

theorem toInt_lower (h : InReach v) :
    (lower v).toInt = v.toInt - (v.toInt + 0x800) / 4096 * 4096 := by
  have hlow := v.le_toInt
  have hhigh := v.toInt_lt
  have hpart := toInt_upperPart h
  rw [upperPart] at hpart
  rw [lower, Int64.toInt_sub, hpart, Int.bmod_eq_of_le (by omega) (by omega)]

theorem exact_u : Field.u.Exact := by decide

theorem admits_upperPart (h : InReach v) : Field.u.Admits (upperPart v) := by
  rw [BitField.admits_iff exact_u, toInt_upperPart h]
  obtain ⟨hlow, hhigh⟩ := h
  refine ⟨Int.dvd_mul_left _ _, ?_⟩
  change -2147483648 ≤ _ ∧ _ < 2147483648
  omega

structure Low (f : BitField) : Prop where
  exact_field : f.Exact
  bits : f.bits = 12
  scale : f.scale = 0

theorem low_i : Low Field.i := ⟨by decide, rfl, rfl⟩

theorem low_s : Low Field.s := ⟨by decide, rfl, rfl⟩

theorem Low.admits_iff (h : Low low) : low.Admits v ↔ -2048 ≤ v.toInt ∧ v.toInt < 2048 := by
  rw [BitField.admits_iff h.exact_field, h.bits, h.scale]
  constructor
  · exact fun h => h.2
  · exact fun h => ⟨Int.one_dvd _, h⟩

theorem Low.admits_lower (hl : Low low) (h : InReach v) : low.Admits (lower v) := by
  rw [hl.admits_iff, toInt_lower h]
  omega

/-- An AUIPC takes the upper part as any field takes its value. -/
theorem writeUpper_eq (w : Word) (v : Int64) : writeUpper w v =
    if fitsSigned (upper v) 20 then .ok (Field.u.patch w (upperPart v))
    else .error .upperRange := by
  have hmask : ~~~Field.u.mask = 0xfff#32 := by decide
  have hplace : Field.u.place (upperPart v) =
      ((upper v).toBitVec.setWidth 32 &&& 0xfffff#32) <<< 12 := by
    have hbits : (upperPart v).toBitVec = (upper v).toBitVec <<< 12 := by
      rw [upperPart, Int64.toBitVec_shiftLeft]
      rfl
    have honly : Field.u.place (upperPart v) =
        ((upperPart v).toBitVec.extractLsb' 12 20).setWidth 32 <<< 12 ||| 0#32 := rfl
    rw [honly, hbits, BitVec.or_zero, show 0xfffff#32 = (BitVec.allOnes 20).setWidth 32 by decide]
    apply BitVec.eq_of_getLsbD_eq
    intro i hi
    simp only [BitVec.getLsbD_shiftLeft, BitVec.getLsbD_setWidth, BitVec.getLsbD_extractLsb',
      BitVec.getLsbD_and, BitVec.getLsbD_allOnes]
    by_cases hlow : i < 12
    · simp [hlow]
    · simp [hlow, hi, show i - 12 < 32 by omega, show 12 + (i - 12) < 64 by omega,
        show ¬ 12 + (i - 12) < 12 by omega, Bool.and_comm]
  rw [writeUpper, BitField.patch, hmask, hplace]

theorem writeUpper_of_inReach (h : InReach v) :
    writeUpper w v = .ok (Field.u.patch w (upperPart v)) := by
  rw [writeUpper_eq, if_pos ((fits_upper_iff v).mpr h)]

theorem inReach_of_writeUpper {w' : Word} (h : writeUpper w v = .ok w') : InReach v := by
  rw [writeUpper_eq] at h
  exact (fits_upper_iff v).mp (ok_of_when h).1

/-- The numbers in the two fields are those into which their sum is split. -/
theorem split_add {x y : Int64} (hx : Field.u.Admits x) (hl : Low low) (hy : low.Admits y) :
    InReach (x + y) ∧ upperPart (x + y) = x ∧ lower (x + y) = y := by
  rw [BitField.admits_iff exact_u] at hx
  rw [hl.admits_iff] at hy
  obtain ⟨⟨q, hq⟩, hx⟩ := hx
  change -2147483648 ≤ _ ∧ _ < 2147483648 at hx
  change _ = 4096 * q at hq
  have hsum : (x + y).toInt = x.toInt + y.toInt := by
    rw [Int64.toInt_add, Int.bmod_eq_of_le (by omega) (by omega)]
  have hreach : InReach (x + y) := by
    rw [InReach, hsum]
    omega
  have hpart : upperPart (x + y) = x := by
    apply Int64.toInt_inj.mp
    rw [toInt_upperPart hreach, hsum]
    omega
  refine ⟨hreach, hpart, ?_⟩
  apply Int64.toInt_inj.mp
  rw [toInt_lower hreach, hsum]
  omega

def second (ss : List Stretch) : List Stretch := ss.map fun s => ⟨32 + s.pos, s.width⟩

def patches (low : BitField) (buf : Bytes) (v : Int64) : Bytes :=
  Bytes.ofWord (Field.u.patch (Bytes.toWord 32 buf) (upperPart v)) ++
    Bytes.ofWord (low.patch (Bytes.toWord 32 (buf.drop 4)) (lower v))

theorem writeSplit_eq_ok_iff (hbuf : buf.length = 8) :
    writeSplit low buf v = .ok d ↔ InReach v ∧ d = patches low buf v := by
  have hrest : buf.drop 8 = [] := List.drop_eq_nil_of_le (by omega)
  rw [writeSplit_eq, hrest]
  constructor
  · intro h
    obtain ⟨w, hw, rfl⟩ := map_eq_ok h
    have hreach := inReach_of_writeUpper hw
    rw [writeUpper_of_inReach hreach] at hw
    obtain rfl := Except.ok.inj hw
    exact ⟨hreach, List.append_nil _⟩
  · rintro ⟨hreach, rfl⟩
    rw [writeUpper_of_inReach hreach, Except.map, List.append_nil]
    rfl

def readSplit (low : BitField) (buf : Bytes) : Int64 :=
  Field.u.gather (readWord buf) + low.gather (readWord (buf.drop 4))

theorem readSplit_append (low : BitField) (x y : Word) :
    readSplit low (Bytes.ofWord x ++ Bytes.ofWord y) = Field.u.gather x + low.gather y := by
  rw [readSplit, readWord, readWord, Bytes.toWord_ofWord_append (w := 32) rfl,
    List.drop_left' (Bytes.length_ofWord x), Bytes.toWord_ofWord (w := 32) rfl]

theorem toWord_take (buf : Bytes) : Bytes.toWord 32 buf = Bytes.toWord 32 (buf.take 4) := by
  rw [Bytes.toWord, Bytes.toWord, List.take_take]
  rfl

theorem ofWord_append_ofWord (hbuf : buf.length = 8) :
    Bytes.ofWord (Bytes.toWord 32 buf) ++ Bytes.ofWord (Bytes.toWord 32 (buf.drop 4)) = buf := by
  rw [toWord_take, Bytes.ofWord_toWord (w := 32) rfl (by simp [hbuf]),
    Bytes.ofWord_toWord (w := 32) rfl (by simp [hbuf]), List.take_append_drop]

theorem bit_two (x y : Word) (i : Nat) : (Bytes.ofWord x ++ Bytes.ofWord y).bit i =
    if i < 32 then x.getLsbD i else y.getLsbD (i - 32) := by
  rw [Bytes.bit_append, Bytes.length_ofWord, Bytes.bit_ofWord rfl, Bytes.bit_ofWord rfl]

/-- Bits outside both fields stay. -/
theorem bit_patches (hbuf : buf.length = 8) {i : Nat}
    (hi : ∀ s ∈ Field.u.stretches ++ second low.stretches, ¬ s.Covers i) :
    (patches low buf v).bit i = buf.bit i := by
  conv_rhs => rw [← ofWord_append_ofWord hbuf]
  rw [patches, bit_two, bit_two]
  by_cases hfirst : i < 32
  · rw [if_pos hfirst, if_pos hfirst]
    refine BitField.getLsbD_patch_of_not_covers ?_
    intro s hs
    exact hi s (List.mem_append_left _ hs)
  · rw [if_neg hfirst, if_neg hfirst]
    refine BitField.getLsbD_patch_of_not_covers ?_
    intro s hs hc
    refine hi ⟨32 + s.pos, s.width⟩ (List.mem_append_right _ (List.mem_map_of_mem hs)) ?_
    have hlow : s.pos ≤ i - 32 := hc.1
    have hhigh : i - 32 < s.pos + s.width := hc.2
    rw [Stretch.covers_mk]
    omega

/-- An offset that is split over two words comes back. -/
theorem roundTrips_split (hl : Low low) :
    RoundTrips (fun v => do Store.upper v; Store.patch low 4 (lower v)) (writeSplit low)
      (readSplit low) 8 InReach (Field.u.stretches ++ second low.stretches) := by
  refine (rewritable_writeSplit low).roundTrips (fun _ hbuf => Store.split_does hbuf) ?_ ?_ ?_ ?_
  · intro buf v hbuf
    simp only [writeSplit_eq_ok_iff hbuf, exists_eq_right]
  · intro buf d v hbuf hd
    obtain ⟨hreach, rfl⟩ := (writeSplit_eq_ok_iff hbuf).mp hd
    rw [patches, readSplit_append,
      BitField.gather_patch exact_u.proper (admits_upperPart hreach),
      BitField.gather_patch hl.exact_field.proper (hl.admits_lower hreach), upperPart_add_lower]
  · intro buf d v hbuf hd i hi
    obtain ⟨-, rfl⟩ := (writeSplit_eq_ok_iff hbuf).mp hd
    exact bit_patches hbuf hi
  · intro buf hbuf
    have hfirst := BitField.admits_gather exact_u (Bytes.toWord 32 buf)
    have hsecond := BitField.admits_gather hl.exact_field (Bytes.toWord 32 (buf.drop 4))
    obtain ⟨hreach, hupper, hlower⟩ := split_add hfirst hl hsecond
    have hread : readSplit low buf = Field.u.gather (Bytes.toWord 32 buf) +
        low.gather (Bytes.toWord 32 (buf.drop 4)) := rfl
    rw [hread, writeSplit_eq_ok_iff hbuf, patches, hupper, hlower, BitField.patch_gather exact_u,
      BitField.patch_gather hl.exact_field, ofWord_append_ofWord hbuf]
    exact ⟨hreach, rfl⟩

/-- The bits that hold an offset. Of a split field, those of the second word count on from the
first. -/
def held : Reloc → List Stretch
  | b => [⟨8, 4⟩, ⟨25, 6⟩, ⟨7, 1⟩, ⟨31, 1⟩]
  | j => [⟨21, 10⟩, ⟨20, 1⟩, ⟨12, 8⟩, ⟨31, 1⟩]
  | bc => [⟨12, 1⟩, ⟨10, 2⟩, ⟨5, 2⟩, ⟨3, 2⟩, ⟨2, 1⟩]
  | jc => [⟨12, 1⟩, ⟨11, 1⟩, ⟨9, 2⟩, ⟨8, 1⟩, ⟨7, 1⟩, ⟨6, 1⟩, ⟨3, 3⟩, ⟨2, 1⟩]
  | hi20 => [⟨12, 20⟩]
  | lo12 => [⟨20, 12⟩]
  | lo12s => [⟨7, 5⟩, ⟨25, 7⟩]
  | split32 => [⟨12, 20⟩, ⟨52, 12⟩]
  | split32s => [⟨12, 20⟩, ⟨39, 5⟩, ⟨57, 7⟩]
  | plain n => [⟨0, 8 * n.toNat⟩]

/-- Whether the field holds an offset, and not one of its two parts. -/
def isWhole : Reloc → Bool
  | hi20 | lo12 | lo12s => false
  | _ => true

/-- The offsets that a field takes. A low part takes all, since the upper part has the check. -/
def Takes : Reloc → Int64 → Prop
  | b, v => 2 ∣ v.toInt ∧ InSigned 13 v.toInt
  | j, v => 2 ∣ v.toInt ∧ InSigned 21 v.toInt
  | bc, v => 2 ∣ v.toInt ∧ InSigned 9 v.toInt
  | jc, v => 2 ∣ v.toInt ∧ InSigned 12 v.toInt
  | hi20, v | split32, v | split32s, v => InReach v
  | lo12, _ | lo12s, _ => True
  | plain n, v => InSigned (8 * n.toNat) v.toInt

theorem takes_eq {f : BitField} (hf : f.Exact) (bits : Nat) (hbits : f.bits = bits)
    (hscale : f.scale = 1) : (fun v : Int64 => 2 ∣ v.toInt ∧ InSigned bits v.toInt) = f.Admits := by
  funext v
  rw [eq_iff_iff, BitField.admits_iff hf, hbits, hscale]
  rfl

end Reloc

/-- Offsets go into their fields and come back, whole or split over two instructions. -/
theorem offsets_kept (r : Reloc) (hwhole : r.isWhole = true) (hsize : r.size ∈ dataSizes) :
    RoundTrips r.store r.write r.read r.size r.Takes r.held := by
  have hagain := r.rewritable_write
  have hruns : ∀ {buf : Bytes} (v : Int64), buf.length = r.size →
      (r.store v).Does buf (r.write buf v) := fun v hbuf => Reloc.store_does hbuf v
  cases r with
  | hi20 | lo12 | lo12s => cases hwhole
  | plain n => exact roundTrips_signed hsize
  | b =>
    have hf : Field.b.Exact := by decide
    have htrips := carries_word.roundTrips hf hf.proper.inside hagain hruns
    rwa [← Reloc.takes_eq hf 13 rfl rfl] at htrips
  | j =>
    have hf : Field.j.Exact := by decide
    have htrips := carries_word.roundTrips hf hf.proper.inside hagain hruns
    rwa [← Reloc.takes_eq hf 21 rfl rfl] at htrips
  | bc =>
    have hf : Field.cb.Exact := by decide
    have htrips := carries_half.roundTrips hf (by decide) hagain hruns
    rwa [← Reloc.takes_eq hf 9 rfl rfl] at htrips
  | jc =>
    have hf : Field.cj.Exact := by decide
    have htrips := carries_half.roundTrips hf (by decide) hagain hruns
    rwa [← Reloc.takes_eq hf 12 rfl rfl] at htrips
  | split32 => exact Reloc.roundTrips_split Reloc.low_i
  | split32s => exact Reloc.roundTrips_split Reloc.low_s

/-- The offset farthest back, in an AUIPC and a store, and the first one that is too far ahead. -/
theorem offsets_kept_store :
    Reloc.split32s.isWhole = true ∧ Reloc.split32s.size ∈ dataSizes ∧
      Reloc.split32s.Takes (-0x80000800) ∧
      Reloc.split32s.write [0x97, 0x02, 0x00, 0x00, 0x23, 0xa0, 0xa2, 0x00] (-0x80000800) =
        .ok [0x97, 0x02, 0x00, 0x80, 0x23, 0xa0, 0xa2, 0x80] ∧
      Reloc.split32s.read [0x97, 0x02, 0x00, 0x80, 0x23, 0xa0, 0xa2, 0x80] = -0x80000800 ∧
      (Reloc.split32s.store 0x7ffff800).outcome [0x97, 0x02, 0x00, 0x00, 0x23, 0xa0, 0xa2, 0x00] =
        some (.error .upperRange, [0x97, 0x02, 0x00, 0x00, 0x23, 0xa0, 0xa2, 0x00]) := by
  have hbuf : ([0x97, 0x02, 0x00, 0x00, 0x23, 0xa0, 0xa2, 0x00] : Bytes).length = 8 := rfl
  have hwrite : Reloc.split32s.write [0x97, 0x02, 0x00, 0x00, 0x23, 0xa0, 0xa2, 0x00]
      (-0x80000800) = .ok [0x97, 0x02, 0x00, 0x80, 0x23, 0xa0, 0xa2, 0x80] := by decide +kernel
  have hrefused : Reloc.split32s.write [0x97, 0x02, 0x00, 0x00, 0x23, 0xa0, 0xa2, 0x00]
      0x7ffff800 = .error .upperRange := by decide +kernel
  have htrips := offsets_kept .split32s rfl (by decide)
  have hrun := htrips.runs 0x7ffff800 hbuf
  rw [hrefused] at hrun
  exact ⟨rfl, by decide, (htrips.accepts hbuf).mp ⟨_, hwrite⟩, hwrite, htrips.reads hbuf hwrite,
    hrun⟩

end MachineCode.Riscv
