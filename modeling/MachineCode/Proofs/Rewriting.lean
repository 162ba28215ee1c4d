import MachineCode.Proofs.Bytes
import MachineCode.Proofs.Results
import MachineCode.Reloc

/-!
Fields can be written again and again. What a relocation keeps of a field is the same before and
after a value was written, so a second value gives what it would have given at first; whether it
is accepted does not depend on the field at all. Fields keep their length, and a field that
accepts a value is not empty.
-/
namespace MachineCode

theorem Piece.mask_of_place {p : Piece} {v : BitVec 64} {i : Nat}
    (h : (p.place v).getLsbD i = true) : p.mask.getLsbD i = true := by
  simp only [place, mask, BitVec.getLsbD_shiftLeft, BitVec.getLsbD_setWidth,
    BitVec.getLsbD_extractLsb', BitVec.getLsbD_allOnes, Bool.and_eq_true, decide_eq_true_eq,
    Bool.not_eq_true'] at h ⊢
  exact ⟨h.1, h.2.1, h.2.2.1⟩

namespace BitField

/-- A value only sets bits that belong to the field. -/
theorem mask_of_place {f : BitField} {v : Int64} {i : Nat}
    (h : (f.place v).getLsbD i = true) : f.mask.getLsbD i = true := by
  revert h
  unfold place mask
  induction f.pieces with
  | nil => simp
  | cons p ps ih =>
    simp only [List.foldr_cons, BitVec.getLsbD_or, Bool.or_eq_true]
    exact fun h => h.imp Piece.mask_of_place ih

theorem patch_patch (f : BitField) (w : Word) (v u : Int64) :
    f.patch (f.patch w v) u = f.patch w u := by
  apply BitVec.eq_of_getLsbD_eq
  intro i hi
  have hm := mask_of_place (f := f) (v := v) (i := i)
  simp only [patch, BitVec.getLsbD_or, BitVec.getLsbD_and, BitVec.getLsbD_not, hi, decide_true,
    Bool.true_and]
  cases hv : (f.place v).getLsbD i with
  | true => simp [hm hv]
  | false => simp

theorem setWidth_patch_setWidth (f : BitField) (w : Word) (u : Int64) :
    (f.patch ((w.setWidth 16).setWidth 32) u).setWidth 16 = (f.patch w u).setWidth 16 := by
  apply BitVec.eq_of_getLsbD_eq
  intro i hi
  simp [patch, hi, show i < 32 by omega]

theorem relocate_of_ok {f : BitField} {w w' : Word} {v : Int64} (h : f.relocate w v = .ok w') :
    w' = f.patch w v := by
  unfold relocate at h
  split at h
  · cases h
  split at h
  · cases h
  exact (Except.ok.inj h).symm

end BitField

theorem writeSigned_of_length {buf buf' : Bytes} (h : buf.length = buf'.length) (v : Int64) :
    writeSigned buf v = writeSigned buf' v := by
  unfold writeSigned
  rw [h]

theorem length_writeSigned {buf d : Bytes} {v : Int64} (h : writeSigned buf v = .ok d) :
    d.length = buf.length ∧ 0 < buf.length := by
  unfold writeSigned at h
  split at h <;> (try split at h) <;> cases h <;> simp [*]

/-- What holds of every way to write a field: lengths are kept, and only the last value counts. -/
structure Rewritable (write : Bytes → Int64 → Except RelocFault Bytes) (size : Nat) : Prop where
  length : ∀ {buf d : Bytes} {v : Int64}, buf.length = size → write buf v = .ok d →
    d.length = size
  nonempty : ∀ {buf d : Bytes} {v : Int64}, buf.length = size → write buf v = .ok d → 0 < size
  again : ∀ {buf d : Bytes} {v : Int64}, buf.length = size → write buf v = .ok d →
    ∀ u, write d u = write buf u

theorem rewritable_writeSigned (size : Nat) : Rewritable writeSigned size where
  length hb h := (length_writeSigned h).1.trans hb
  nonempty hb h := hb ▸ (length_writeSigned h).2
  again _ h u := writeSigned_of_length (length_writeSigned h).1 u

/-- A field in the first word: it is enough that the word can be written again. -/
theorem rewritable_word {g : Word → Int64 → Except RelocFault Word} {size : Nat}
    (hsize : 4 ≤ size)
    (hagain : ∀ {w w' : Word} {v : Int64}, g w v = .ok w' → ∀ u, g w' u = g w u) :
    Rewritable (fun buf v => (g (Bytes.toWord 32 buf) v).map (Bytes.ofWord · ++ buf.drop 4))
      size where
  length {buf d v} hb h := by
    obtain ⟨w, -, rfl⟩ := map_eq_ok h
    simp [hb]
    omega
  nonempty _ _ := by omega
  again {buf d v} hb h u := by
    obtain ⟨w, hw, rfl⟩ := map_eq_ok h
    simp only [Bytes.toWord_ofWord_append (w := 32) rfl, hagain hw]
    rw [List.drop_left' (Bytes.length_ofWord w)]

/-- A field in a word of two bytes: its upper half does not count. -/
theorem rewritable_half {g : Word → Int64 → Except RelocFault Word}
    (hagain : ∀ {w w' : Word} {v : Int64}, g w v = .ok w' → ∀ u,
      (g ((w'.setWidth 16).setWidth 32) u).map (BitVec.setWidth 16) =
        (g w u).map (BitVec.setWidth 16)) :
    Rewritable (fun buf v => (g (Riscv.Reloc.readHalf buf) v).map (Riscv.Reloc.writeHalf buf))
      2 where
  length {buf d v} hb h := by
    obtain ⟨w, -, rfl⟩ := map_eq_ok h
    simp [Riscv.Reloc.writeHalf, hb]
  nonempty _ _ := by omega
  again {buf d v} hb h u := by
    obtain ⟨w, hw, rfl⟩ := map_eq_ok h
    have hr : Riscv.Reloc.readHalf (Riscv.Reloc.writeHalf buf w) = (w.setWidth 16).setWidth 32 := by
      rw [Riscv.Reloc.readHalf, Riscv.Reloc.writeHalf, Bytes.toWord_ofWord_append (w := 16) rfl]
    have hd : (Riscv.Reloc.writeHalf buf w).drop 2 = buf.drop 2 :=
      List.drop_left' (Bytes.length_ofWord _)
    have split : ∀ (rest : Bytes) (x : Word), (g x u).map (Riscv.Reloc.writeHalf rest) =
        ((g x u).map (BitVec.setWidth 16)).map (Bytes.ofWord · ++ rest.drop 2) := by
      intro rest x
      cases g x u <;> rfl
    rw [split, split, hr, hd, hagain hw]

theorem BitField.relocate_again {f : BitField} {w w' : Word} {v : Int64}
    (h : f.relocate w v = .ok w') (u : Int64) : f.relocate w' u = f.relocate w u := by
  obtain rfl := relocate_of_ok h
  unfold relocate
  rw [patch_patch]

theorem BitField.relocate_half_again {f : BitField} {w w' : Word} {v : Int64}
    (h : f.relocate w v = .ok w') (u : Int64) :
    (f.relocate ((w'.setWidth 16).setWidth 32) u).map (BitVec.setWidth 16) =
      (f.relocate w u).map (BitVec.setWidth 16) := by
  obtain rfl := relocate_of_ok h
  have hp : (f.patch (((f.patch w v).setWidth 16).setWidth 32) u).setWidth 16 =
      (f.patch w u).setWidth 16 := by
    rw [setWidth_patch_setWidth, patch_patch]
  unfold relocate
  split
  · rfl
  split
  · rfl
  exact congrArg Except.ok hp

namespace Riscv.Reloc

theorem writeUpper_again {w w' : Word} {v : Int64} (h : writeUpper w v = .ok w') (u : Int64) :
    writeUpper w' u = writeUpper w u := by
  unfold writeUpper at h ⊢
  split at h
  · obtain rfl := Except.ok.inj h
    have low (x : Word) : ((w &&& 0xfff#32) ||| (x <<< 12)) &&& 0xfff#32 = w &&& 0xfff#32 := by
      have hm : 0xfff#32 = (BitVec.allOnes 12).setWidth 32 := by decide
      apply BitVec.eq_of_getLsbD_eq
      intro i hi
      rw [hm]
      simp only [BitVec.getLsbD_and, BitVec.getLsbD_or, BitVec.getLsbD_setWidth,
        BitVec.getLsbD_allOnes, BitVec.getLsbD_shiftLeft, hi]
      by_cases h12 : i < 12 <;> simp [h12]
    rw [low]
  · cases h

theorem writeSplit_eq (low : BitField) (buf : Bytes) (v : Int64) :
    writeSplit low buf v = (writeUpper (Bytes.toWord 32 buf) v).map fun first =>
      Bytes.ofWord first ++ Bytes.ofWord (low.patch (Bytes.toWord 32 (buf.drop 4)) (lower v)) ++
        buf.drop 8 := by
  unfold writeSplit
  cases writeUpper (Bytes.toWord 32 buf) v <;> rfl

/-- Both words of a split field can be written again, each on its own. -/
theorem rewritable_writeSplit (low : BitField) : Rewritable (writeSplit low) 8 where
  length {buf d v} hb h := by
    rw [writeSplit_eq] at h
    obtain ⟨w, -, rfl⟩ := map_eq_ok h
    simp [hb]
  nonempty _ _ := by omega
  again {buf d v} hb h u := by
    rw [writeSplit_eq] at h
    obtain ⟨w, hw, rfl⟩ := map_eq_ok h
    have h8 : buf.drop 8 = [] := List.drop_eq_nil_of_le (by omega)
    have hfirst (x y : Word) : (Bytes.ofWord x ++ Bytes.ofWord y).drop 4 = Bytes.ofWord y :=
      List.drop_left' (Bytes.length_ofWord x)
    have hsecond (y : Word) : Bytes.toWord 32 (Bytes.ofWord y) = y := Bytes.toWord_ofWord rfl y
    have hboth (x y : Word) : (Bytes.ofWord x ++ Bytes.ofWord y).drop 8 = [] :=
      List.drop_eq_nil_of_le (by simp)
    rw [writeSplit_eq, writeSplit_eq, h8, List.append_nil,
      Bytes.toWord_ofWord_append (w := 32) rfl, hfirst, hsecond, hboth, BitField.patch_patch,
      writeUpper_again hw]

/-- A low part is written unchecked. -/
theorem rewritable_patch (f : BitField) :
    Rewritable (fun buf v => .ok (writeWord buf (f.patch (readWord buf) v))) 4 := by
  refine rewritable_word (g := fun w v => .ok (f.patch w v)) (Nat.le_refl 4) ?_
  intro w w' v h u
  rw [← Except.ok.inj h, BitField.patch_patch]

theorem rewritable_write (r : Reloc) : Rewritable r.write r.size := by
  cases r with
  | plain n => exact rewritable_writeSigned n.toNat
  | b | j => exact rewritable_word (Nat.le_refl 4) BitField.relocate_again
  | bc | jc => exact rewritable_half BitField.relocate_half_again
  | hi20 => exact rewritable_word (g := writeUpper) (Nat.le_refl 4) writeUpper_again
  | lo12 => exact rewritable_patch Field.i
  | lo12s => exact rewritable_patch Field.s
  | split32 | split32s => exact rewritable_writeSplit _

end Riscv.Reloc

theorem AArch64.Reloc.rewritable_write (r : AArch64.Reloc) : Rewritable r.write r.size := by
  cases r with
  | plain n => exact rewritable_writeSigned n.toNat
  | branch | condBranch | adr | adrp | testBranch =>
    exact rewritable_word (Nat.le_refl 4) BitField.relocate_again

/-- An absolute address of four bytes replaces the field as a whole, as any other number does. -/
theorem X86.Reloc.rewritable_write (r : X86.Reloc) : Rewritable r.write r.size := by
  have same : ∀ {buf buf' : Bytes} (u : Int64), buf.length = buf'.length →
      r.write buf u = r.write buf' u := by
    intro buf buf' u h
    unfold write
    rw [h, writeSigned_of_length h]
  have length : ∀ {buf d : Bytes} {v : Int64}, r.write buf v = .ok d →
      d.length = buf.length ∧ 0 < buf.length := by
    intro buf d v h
    unfold write at h
    split at h
    · rename_i hk
      split at h
      · obtain rfl := Except.ok.inj h
        simp_all
      · cases h
    · exact length_writeSigned h
  exact ⟨fun hb h => (length h).1.trans hb, fun hb h => hb ▸ (length h).2,
    fun _ h u => same u (length h).1⟩

theorem Relocation.rewritable_write (r : Relocation) : Rewritable r.write r.size := by
  cases r with
  | x86 r => exact r.rewritable_write
  | aarch64 r => exact r.rewritable_write
  | riscv r => exact r.rewritable_write

end MachineCode
