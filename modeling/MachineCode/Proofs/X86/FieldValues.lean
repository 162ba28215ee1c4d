import MachineCode.Proofs.RoundTrips

/-!
Values in the displacement and immediate fields of an instruction. A field takes the signed numbers
of its size and gives them back. An absolute address of four bytes may also be an unsigned number,
as code of 32 bits has them; such an address comes back as the signed number of the same bits.
-/
namespace MachineCode.X86

namespace Reloc

def IsAddress (r : Reloc) : Prop := r.kind = .absToRel ∧ r.size = 4

instance (r : Reloc) : Decidable r.IsAddress := inferInstanceAs (Decidable (_ ∧ _))

/-- An address that four bytes hold as an unsigned number only. -/
def Wraps (r : Reloc) (v : Int64) : Prop :=
  r.IsAddress ∧ 0x80000000 ≤ v.toInt ∧ v.toInt < 0x100000000

instance (r : Reloc) (v : Int64) : Decidable (r.Wraps v) := inferInstanceAs (Decidable (_ ∧ _))

variable {r : Reloc} {buf d : Bytes} {v : Int64}

theorem write_of_not_isAddress (hbuf : buf.length = r.size) (h : ¬ r.IsAddress) (v : Int64) :
    r.write buf v = writeSigned buf v := by
  unfold write
  refine if_neg ?_
  simp only [Bool.and_eq_true, decide_eq_true_eq]
  rintro ⟨hkind, hlen⟩
  exact h ⟨hkind, hbuf.symm.trans hlen⟩

theorem write_of_isAddress (hbuf : buf.length = r.size) (h : r.IsAddress) (v : Int64) :
    r.write buf v = if -0x80000000 ≤ v.toInt ∧ v.toInt < 0x100000000 then
      .ok (Bytes.ofNat 4 v.toBitVec.toNat) else .error .addressDword := by
  unfold write
  have hcond : (decide (r.kind = .absToRel) && decide (buf.length = 4)) = true := by
    rw [hbuf, decide_eq_true h.1, decide_eq_true h.2]
    rfl
  rw [if_pos hcond]
  simp only [Bool.and_eq_true, decide_eq_true_eq]

theorem inSigned_dword : InSigned 32 v.toInt ↔ -0x80000000 ≤ v.toInt ∧ v.toInt < 0x80000000 :=
  Iff.rfl

theorem exists_write_iff (hsize : r.size ∈ dataSizes) (hbuf : buf.length = r.size) :
    (∃ d, r.write buf v = .ok d) ↔ InSigned (8 * r.size) v.toInt ∨ r.Wraps v := by
  by_cases haddress : r.IsAddress
  · rw [write_of_isAddress hbuf haddress, haddress.2, inSigned_dword]
    constructor
    · rintro ⟨d, h⟩
      obtain ⟨hlow, hhigh⟩ := (ok_of_when h).1
      by_cases hsigned : v.toInt < 0x80000000
      · exact Or.inl ⟨hlow, hsigned⟩
      · exact Or.inr ⟨haddress, by omega, hhigh⟩
    · intro h
      refine ⟨_, if_pos ?_⟩
      rcases h with h | ⟨-, h⟩ <;> omega
  · rw [write_of_not_isAddress hbuf haddress, (roundTrips_signed hsize).accepts hbuf]
    constructor
    · exact Or.inl
    · rintro (h | h)
      · exact h
      · exact absurd h.1 haddress

theorem toInt_read (hsize : r.size ∈ dataSizes) (hbuf : buf.length = r.size)
    (h : r.write buf v = .ok d) :
    (r.read d).toInt = if r.Wraps v then v.toInt - 0x100000000 else v.toInt := by
  by_cases haddress : r.IsAddress
  · rw [write_of_isAddress hbuf haddress] at h
    obtain ⟨⟨hlow, hhigh⟩, rfl⟩ := ok_of_when h
    rw [read, toInt_readSigned_ofNat (n := 4) (by decide), Int.bmod_def]
    by_cases hwraps : r.Wraps v
    · have hunsigned := hwraps.2
      rw [if_pos hwraps]
      split <;> omega
    · have hsigned : ¬ 0x80000000 ≤ v.toInt := fun hle => hwraps ⟨haddress, hle, hhigh⟩
      rw [if_neg hwraps]
      split <;> omega
  · have hwraps : ¬ r.Wraps v := fun hw => haddress hw.1
    rw [write_of_not_isAddress hbuf haddress] at h
    rw [if_neg hwraps, read, (roundTrips_signed hsize).reads hbuf h]

end Reloc

/-- What a field does with a value: it takes the signed numbers of its size, and the addresses that
wrap around. All but the latter come back as they were, and these less the size of the address
space. A value that is refused leaves the bytes as they are. -/
structure Reloc.Keeps (r : Reloc) (buf : Bytes) (v : Int64) : Prop where
  runs : (r.store v).Does buf (r.write buf v)
  signed : InSigned (8 * r.size) v.toInt → ∃ d, r.write buf v = .ok d
  taken : ∀ {d}, r.write buf v = .ok d → InSigned (8 * r.size) v.toInt ∨ r.Wraps v
  back : ∀ {d}, r.write buf v = .ok d → ¬ r.Wraps v → r.read d = v
  wrapped : r.Wraps v → ∃ d, r.write buf v = .ok d ∧ (r.read d).toInt = v.toInt - 0x100000000
  refused : ∀ {e}, r.write buf v = .error e → (r.store v).outcome buf = some (.error e, buf)

theorem values_kept {r : Reloc} (hsize : r.size ∈ dataSizes) {buf : Bytes}
    (hbuf : buf.length = r.size) (v : Int64) : r.Keeps buf v := by
  have haccepts := Reloc.exists_write_iff (v := v) hsize hbuf
  have hruns := r.store_does buf v
  constructor
  · exact hruns
  · intro h
    exact haccepts.mpr (Or.inl h)
  · intro d hd
    exact haccepts.mp ⟨d, hd⟩
  · intro d hd hwraps
    apply Int64.toInt_inj.mp
    rw [Reloc.toInt_read hsize hbuf hd, if_neg hwraps]
  · intro hwraps
    obtain ⟨d, hd⟩ := haccepts.mpr (Or.inr hwraps)
    refine ⟨d, hd, ?_⟩
    rw [Reloc.toInt_read hsize hbuf hd, if_pos hwraps]
  · intro e he
    rw [he] at hruns
    exact hruns

/-- The last address of 32 bits, the last number that is not taken for one, and the first address
that is refused. -/
theorem values_kept_last :
    let r : Reloc := ⟨0, 4, .absToRel⟩
    r.size ∈ dataSizes ∧ r.Wraps 0xffffffff ∧ ¬ r.Wraps 0x7fffffff ∧
      (∃ d, r.write [0, 0, 0, 0] 0xffffffff = .ok d ∧ (r.read d).toInt = -1) ∧
      r.write [0, 0, 0, 0] 0x7fffffff = .ok [0xff, 0xff, 0xff, 0x7f] ∧
      r.read [0xff, 0xff, 0xff, 0x7f] = 0x7fffffff ∧
      (r.store 0x100000000).outcome [0, 0, 0, 0] = some (.error .addressDword, [0, 0, 0, 0]) := by
  intro r
  have hsize : r.size ∈ dataSizes := by decide
  have hwraps : r.Wraps 0xffffffff := by decide
  have hplain : ¬ r.Wraps 0x7fffffff := by decide
  have hwrite : r.write [0, 0, 0, 0] 0x7fffffff = .ok [0xff, 0xff, 0xff, 0x7f] := by decide
  have hrefused : r.write [0, 0, 0, 0] 0x100000000 = .error .addressDword := by decide
  exact ⟨hsize, hwraps, hplain, (values_kept hsize rfl _).wrapped hwraps, hwrite,
    (values_kept hsize rfl _).back hwrite hplain, (values_kept hsize rfl _).refused hrefused⟩

/-- Not every value that is taken comes back: the first address beyond the signed numbers. -/
theorem counterexample_unsigned_address : ∃ d,
    (⟨0, 4, .absToRel⟩ : Reloc).write [0, 0, 0, 0] 0x80000000 = .ok d ∧
      (⟨0, 4, .absToRel⟩ : Reloc).read d ≠ 0x80000000 :=
  ⟨[0x00, 0x00, 0x00, 0x80], by decide, by decide⟩

end MachineCode.X86
