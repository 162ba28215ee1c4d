import MachineCode.Proofs.ByteNumbers
import MachineCode.Proofs.Courses
import MachineCode.Proofs.ExactFields

/-!
Values that come back from where they were written. A relocation writes a value into the bytes of
its field and reads it from there. It takes the values of its field and no others, and those that
it takes are read back; all other bits of the bytes stay. A second value is written as if it were
the first, a refused one changes nothing, and what stands in the field can be written there again.
All of this is shown once for data fields, which are replaced as a whole, and once for the
scattered fields of an instruction word.
-/
namespace MachineCode

def InSigned (bits : Nat) (n : Int) : Prop :=
  -((2 ^ (bits - 1) : Nat) : Int) ≤ n ∧ n < (2 ^ (bits - 1) : Nat)

instance (bits : Nat) (n : Int) : Decidable (InSigned bits n) := inferInstanceAs (Decidable (_ ∧ _))

def dataSizes : List Nat := [1, 2, 4, 8]

/-- Writing and reading a field whose bytes are `size` many. The course `store` writes in place what
`write` gives. `Takes` says which values are values of the field, and `held` which bits of the bytes
hold one. -/
structure RoundTrips (store : Int64 → Store) (write : Bytes → Int64 → Except RelocFault Bytes)
    (read : Bytes → Int64) (size : Nat) (Takes : Int64 → Prop) (held : List Stretch) : Prop where
  runs : ∀ {buf} (v), buf.length = size → (store v).Does buf (write buf v)
  accepts : ∀ {buf v}, buf.length = size → ((∃ d, write buf v = .ok d) ↔ Takes v)
  reads : ∀ {buf d v}, buf.length = size → write buf v = .ok d → read d = v
  keeps : ∀ {buf d v}, buf.length = size → write buf v = .ok d →
    d.length = size ∧ ∀ i, (∀ s ∈ held, ¬ s.Covers i) → d.bit i = buf.bit i
  forgets : ∀ {buf d v}, buf.length = size → write buf v = .ok d → ∀ u, write d u = write buf u
  refuses : ∀ {buf v}, buf.length = size → ¬ Takes v →
    ∃ e, write buf v = .error e ∧ (store v).outcome buf = some (.error e, buf)
  restores : ∀ {buf}, buf.length = size → write buf (read buf) = .ok buf

/-- Of a field that can be written again, it is left to show which values it takes, and what it
holds of them. -/
theorem Rewritable.roundTrips {store : Int64 → Store}
    {write : Bytes → Int64 → Except RelocFault Bytes} {read : Bytes → Int64} {size : Nat}
    {Takes : Int64 → Prop} {held : List Stretch} (hagain : Rewritable write size)
    (hruns : ∀ {buf} (v), buf.length = size → (store v).Does buf (write buf v))
    (haccepts : ∀ {buf v}, buf.length = size → ((∃ d, write buf v = .ok d) ↔ Takes v))
    (hreads : ∀ {buf d v}, buf.length = size → write buf v = .ok d → read d = v)
    (hkeeps : ∀ {buf d v}, buf.length = size → write buf v = .ok d →
      ∀ i, (∀ s ∈ held, ¬ s.Covers i) → d.bit i = buf.bit i)
    (hrestores : ∀ {buf}, buf.length = size → write buf (read buf) = .ok buf) :
    RoundTrips store write read size Takes held := by
  refine ⟨hruns, haccepts, hreads, ?_, hagain.again, ?_, hrestores⟩
  · intro buf d v hbuf hd
    exact ⟨hagain.length hbuf hd, hkeeps hbuf hd⟩
  · intro buf v hbuf hv
    cases hwrite : write buf v with
    | ok d => exact absurd ((haccepts hbuf).mp ⟨d, hwrite⟩) hv
    | error e =>
      have hrun := hruns v hbuf
      rw [hwrite] at hrun
      exact ⟨e, rfl, hrun⟩

section numbers

variable {k bits scale : Nat} {n : Int}

theorem bmod_of_inSigned (hk : 0 < k) (h : InSigned k n) : n.bmod (2 ^ k) = n := by
  have hpow := Nat.two_pow_pred_add_two_pow_pred hk
  obtain ⟨hlow, hhigh⟩ := h
  exact Int.bmod_eq_of_le (by omega) (by omega)

theorem inSigned_bmod (hk : 0 < k) (n : Int) : InSigned k (n.bmod (2 ^ k)) := by
  have hpow := Nat.two_pow_pred_add_two_pow_pred hk
  have hlow := Int.le_bmod (x := n) (m := 2 ^ k) (Nat.two_pow_pos k)
  have hhigh := Int.bmod_lt (x := n) (m := 2 ^ k) (Nat.two_pow_pos k)
  constructor <;> omega

theorem inSigned_sixtyFour (v : Int64) : InSigned 64 v.toInt := ⟨v.le_toInt, v.toInt_lt⟩

/-- A multiple of the unit is in range if the number of units is. -/
theorem inSigned_ediv (hs : scale < bits) (h : ((2 ^ scale : Nat) : Int) ∣ n) :
    InSigned (bits - scale) (n / (2 ^ scale : Nat)) ↔ InSigned bits n := by
  obtain ⟨q, rfl⟩ := h
  have hpos : (0 : Int) < (2 ^ scale : Nat) := by exact_mod_cast Nat.two_pow_pos scale
  have hhalf : ((2 ^ (bits - 1) : Nat) : Int) =
      (2 ^ scale : Nat) * (2 ^ (bits - scale - 1) : Nat) := by
    rw [← Int.natCast_mul, ← Nat.pow_add]
    congr 2
    omega
  rw [Int.mul_ediv_cancel_left _ (Int.ne_of_gt hpos), InSigned, InSigned, hhalf, ← Int.mul_neg]
  constructor
  · rintro ⟨hlow, hhigh⟩
    exact ⟨Int.mul_le_mul_of_nonneg_left hlow (Int.le_of_lt hpos),
      Int.mul_lt_mul_of_pos_left hhigh hpos⟩
  · rintro ⟨hlow, hhigh⟩
    exact ⟨Int.le_of_mul_le_mul_left hlow hpos, Int.lt_of_mul_lt_mul_left hhigh (Int.le_of_lt hpos)⟩

theorem BitField.admits_iff {f : BitField} (hf : f.Exact) {v : Int64} :
    f.Admits v ↔ ((2 ^ f.scale : Nat) : Int) ∣ v.toInt ∧ InSigned f.bits v.toInt := by
  constructor
  · intro h
    have hrange := h.range
    rw [if_pos hf.signed] at hrange
    exact ⟨h.multiple, hrange⟩
  · rintro ⟨hmultiple, hrange⟩
    refine ⟨hmultiple, ?_, hf.toInt_ne_zero⟩
    rwa [if_pos hf.signed]

end numbers

/-! ### Data fields -/

section data

variable {n : Nat} {buf d : Bytes} {v : Int64}

theorem bounds_of_mem_dataSizes (hn : n ∈ dataSizes) : 0 < n ∧ 8 * n ≤ 64 := by
  revert n
  decide

theorem cases_of_mem_dataSizes (hn : n ∈ dataSizes) : n = 1 ∨ n = 2 ∨ n = 4 ∨ n = 8 := by
  simpa [dataSizes] using hn

theorem writeSigned_of_inSigned (hn : n ∈ dataSizes) (hbuf : buf.length = n)
    (hv : InSigned (8 * n) v.toInt) :
    writeSigned buf v = .ok (Bytes.ofNat n v.toBitVec.toNat) := by
  have hfits : ∀ k, 0 < k → k < 64 → InSigned k v.toInt → fitsSigned v k = true :=
    fun k h0 hk h => (fitsSigned_iff h0 hk).mpr h
  unfold writeSigned
  rw [hbuf]
  rcases cases_of_mem_dataSizes hn with rfl | rfl | rfl | rfl
  · exact if_pos (hfits 8 (by decide) (by decide) hv)
  · exact if_pos (hfits 16 (by decide) (by decide) hv)
  · exact if_pos (hfits 32 (by decide) (by decide) hv)
  · rfl

theorem inSigned_of_writeSigned (hn : n ∈ dataSizes) (hbuf : buf.length = n)
    (h : writeSigned buf v = .ok d) : InSigned (8 * n) v.toInt := by
  have hfits : ∀ k, 0 < k → k < 64 → fitsSigned v k = true → InSigned k v.toInt :=
    fun k h0 hk h => (fitsSigned_iff h0 hk).mp h
  unfold writeSigned at h
  rw [hbuf] at h
  rcases cases_of_mem_dataSizes hn with rfl | rfl | rfl | rfl
  · exact hfits 8 (by decide) (by decide) (ok_of_when h).1
  · exact hfits 16 (by decide) (by decide) (ok_of_when h).1
  · exact hfits 32 (by decide) (by decide) (ok_of_when h).1
  · exact inSigned_sixtyFour v

theorem toInt_readSigned (hn : n ∈ dataSizes) (hbuf : buf.length = n) :
    (readSigned buf).toInt = (buf.toNat : Int).bmod (2 ^ (8 * n)) := by
  have hword : ∀ w, w ≤ 64 → w / 8 = n →
      (Int64.ofInt (Bytes.toWord w buf).toInt).toInt = (buf.toNat : Int).bmod (2 ^ w) := by
    intro w hw hlen
    have hnarrow : (2 : Int) ^ (w - 1) ≤ 2 ^ 63 := by
      exact_mod_cast Nat.pow_le_pow_right (n := 2) (by decide) (show w - 1 ≤ 63 by omega)
    have hmin := BitVec.le_toInt (Bytes.toWord w buf)
    have hmax := BitVec.toInt_lt (x := Bytes.toWord w buf)
    rw [Int64.toInt_ofInt_of_le (by omega) (by omega), Bytes.toWord,
      List.take_of_length_le (by omega), BitVec.toInt_ofNat']
  unfold readSigned
  rw [hbuf]
  rcases cases_of_mem_dataSizes hn with rfl | rfl | rfl | rfl
  · exact hword 8 (by decide) rfl
  · exact hword 16 (by decide) rfl
  · exact hword 32 (by decide) rfl
  · exact hword 64 (by decide) rfl

theorem toInt_readSigned_ofNat (hn : n ∈ dataSizes) (v : Int64) :
    (readSigned (Bytes.ofNat n v.toBitVec.toNat)).toInt = v.toInt.bmod (2 ^ (8 * n)) := by
  have hle := (bounds_of_mem_dataSizes hn).2
  rw [toInt_readSigned hn (Bytes.length_ofNat ..), Bytes.toNat_ofNat, Nat.one_shiftLeft,
    Int.natCast_emod, Int.emod_bmod, BitField.bmod_toNat v hle]

theorem ofNat_readSigned (hn : n ∈ dataSizes) (hbuf : buf.length = n) :
    Bytes.ofNat n (readSigned buf).toBitVec.toNat = buf := by
  have hle := (bounds_of_mem_dataSizes hn).2
  have hlt := Bytes.toNat_lt_two_pow buf
  rw [hbuf] at hlt
  have hmod : ((readSigned buf).toBitVec.toNat : Int) % (2 ^ (8 * n) : Nat) = buf.toNat := by
    have hbmod := BitField.bmod_toNat (readSigned buf) hle
    rw [toInt_readSigned hn hbuf, Int.bmod_bmod] at hbmod
    rw [← Int.bmod_emod, hbmod, Int.bmod_emod, Int.emod_eq_of_lt (by omega) (by omega)]
  apply Bytes.eq_of_toNat_eq
  · rw [Bytes.length_ofNat, hbuf]
  · rw [Bytes.toNat_ofNat, Nat.one_shiftLeft]
    exact_mod_cast hmod

theorem roundTrips_signed (hn : n ∈ dataSizes) :
    RoundTrips Store.signed writeSigned readSigned n (fun v => InSigned (8 * n) v.toInt)
      [⟨0, 8 * n⟩] := by
  have hpos := (bounds_of_mem_dataSizes hn).1
  refine (rewritable_writeSigned n).roundTrips (fun _ _ => Store.signed_does) ?_ ?_ ?_ ?_
  · intro buf v hbuf
    constructor
    · rintro ⟨d, h⟩
      exact inSigned_of_writeSigned hn hbuf h
    · intro h
      exact ⟨_, writeSigned_of_inSigned hn hbuf h⟩
  · intro buf d v hbuf h
    have hv := inSigned_of_writeSigned hn hbuf h
    obtain rfl := Except.ok.inj ((writeSigned_of_inSigned hn hbuf hv).symm.trans h)
    apply Int64.toInt_inj.mp
    rw [toInt_readSigned_ofNat hn, bmod_of_inSigned (by omega) hv]
  · intro buf d v hbuf h i hi
    have hlen := (rewritable_writeSigned n).length hbuf h
    -- No bit of the bytes is outside the field.
    have hout : ¬ Stretch.Covers ⟨0, 8 * n⟩ i := hi _ (List.mem_singleton_self _)
    rw [Stretch.covers_mk] at hout
    rw [Bytes.bit_of_le (by omega), Bytes.bit_of_le (by omega)]
  · intro buf hbuf
    have hv : InSigned (8 * n) (readSigned buf).toInt := by
      rw [toInt_readSigned hn hbuf]
      exact inSigned_bmod (by omega) _
    rw [writeSigned_of_inSigned hn hbuf hv, ofNat_readSigned hn hbuf]

end data

/-! ### Fields of an instruction -/

structure Carries (get : Bytes → Word) (put : Bytes → Word → Bytes) (size : Nat) : Prop where
  getLsbD_get : ∀ {buf}, buf.length = size → ∀ i, (get buf).getLsbD i = buf.bit i
  length_put : ∀ {buf}, buf.length = size → ∀ w, (put buf w).length = size
  bit_put : ∀ {buf}, buf.length = size → ∀ w, ∀ i < 8 * size, (put buf w).bit i = w.getLsbD i

theorem carries_word :
    Carries (Bytes.toWord 32) (fun buf w => Bytes.ofWord w ++ buf.drop 4) 4 := by
  constructor
  · intro buf hbuf i
    exact Bytes.getLsbD_toWord rfl hbuf i
  · intro buf hbuf w
    simp [hbuf]
  · intro buf hbuf w i hi
    rw [Bytes.bit_append, Bytes.length_ofWord, if_pos hi, Bytes.bit_ofWord rfl]

theorem carries_half : Carries Riscv.Reloc.readHalf Riscv.Reloc.writeHalf 2 := by
  constructor
  · intro buf hbuf i
    rw [Riscv.Reloc.readHalf, BitVec.getLsbD_setWidth, Bytes.getLsbD_toWord rfl hbuf]
    by_cases hi : i < 32
    · rw [decide_eq_true hi, Bool.true_and]
    · rw [Bytes.bit_of_le (by omega), Bool.and_false]
  · intro buf hbuf w
    simp [Riscv.Reloc.writeHalf, hbuf]
  · intro buf hbuf w i hi
    rw [Riscv.Reloc.writeHalf, Bytes.bit_append, Bytes.length_ofWord, if_pos hi,
      Bytes.bit_ofWord rfl, BitVec.getLsbD_setWidth, decide_eq_true (by omega), Bool.true_and]

namespace Carries

variable {get : Bytes → Word} {put : Bytes → Word → Bytes} {size : Nat} {f : BitField}
  {buf : Bytes} {v : Int64}

theorem gather_get_put (h : Carries get put size) (hin : ∀ s ∈ f.stretches, s.stop ≤ 8 * size)
    (hbuf : buf.length = size) (w : Word) : f.gather (get (put buf w)) = f.gather w := by
  apply BitField.gather_congr
  intro s hs
  have hstop : s.pos + s.width ≤ 8 * size := hin s hs
  apply Nat.eq_of_testBit_eq
  intro j
  rw [Stretch.testBit_read, Stretch.testBit_read]
  by_cases hj : j < s.width
  · rw [h.getLsbD_get (h.length_put hbuf w), h.bit_put hbuf w _ (by omega)]
  · rw [decide_eq_false hj, Bool.false_and, Bool.false_and]

theorem put_get (h : Carries get put size) (hbuf : buf.length = size) :
    put buf (get buf) = buf := by
  have hlen := h.length_put hbuf (get buf)
  apply Bytes.eq_of_bit_eq (hlen.trans hbuf.symm)
  intro i
  by_cases hi : i < 8 * size
  · rw [h.bit_put hbuf _ i hi, h.getLsbD_get hbuf]
  · rw [Bytes.bit_of_le (by omega), Bytes.bit_of_le (by omega)]

theorem bit_patch (h : Carries get put size) (hbuf : buf.length = size) {i : Nat}
    (hi : ∀ s ∈ f.stretches, ¬ s.Covers i) :
    (put buf (f.patch (get buf) v)).bit i = buf.bit i := by
  have hlen := h.length_put hbuf (f.patch (get buf) v)
  by_cases hlt : i < 8 * size
  · rw [h.bit_put hbuf _ i hlt, BitField.getLsbD_patch_of_not_covers hi, h.getLsbD_get hbuf]
  · rw [Bytes.bit_of_le (by omega), Bytes.bit_of_le (by omega)]

/-- Fields of an instruction take the values that they admit. -/
theorem roundTrips {store : Int64 → Store} (h : Carries get put size) (hf : f.Exact)
    (hin : ∀ s ∈ f.stretches, s.stop ≤ 8 * size)
    (hagain : Rewritable (fun buf v => (f.relocate (get buf) v).map (put buf)) size)
    (hruns : ∀ {buf} (v), buf.length = size →
      (store v).Does buf ((f.relocate (get buf) v).map (put buf))) :
    RoundTrips store (fun buf v => (f.relocate (get buf) v).map (put buf))
      (fun buf => f.gather (get buf)) size f.Admits f.stretches := by
  refine hagain.roundTrips hruns ?_ ?_ ?_ ?_
  · intro buf v _
    constructor
    · rintro ⟨d, hd⟩
      obtain ⟨w, hw, -⟩ := map_eq_ok hd
      exact BitField.admits_of_relocate hf hw
    · intro hv
      rw [BitField.relocate_of_admits hf.proper hv]
      exact ⟨_, rfl⟩
  · intro buf d v hbuf hd
    obtain ⟨w, hw, rfl⟩ := map_eq_ok hd
    have hv := BitField.admits_of_relocate hf hw
    rw [BitField.relocate_of_ok hw, h.gather_get_put hin hbuf, BitField.gather_patch hf.proper hv]
  · intro buf d v hbuf hd i hi
    obtain ⟨w, hw, rfl⟩ := map_eq_ok hd
    rw [BitField.relocate_of_ok hw, h.bit_patch hbuf hi]
  · intro buf hbuf
    rw [BitField.relocate_of_admits hf.proper (BitField.admits_gather hf _),
      BitField.patch_gather hf]
    exact congrArg Except.ok (h.put_get hbuf)

end Carries

end MachineCode
