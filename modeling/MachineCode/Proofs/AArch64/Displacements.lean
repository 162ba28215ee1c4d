import MachineCode.Proofs.RoundTrips

/-!
Displacements of branches, of addresses and of data. Each field counts in a unit of its own: in
instructions, in pages or in bytes. Whatever multiple of the unit has the width of the field is
taken and comes back, from the two parts of an address as well as from a field in one piece.
-/
namespace MachineCode.AArch64

namespace Reloc

def held : Reloc → List Stretch
  | branch => [⟨0, 26⟩]
  | condBranch => [⟨5, 19⟩]
  | adr | adrp => [⟨29, 2⟩, ⟨5, 19⟩]
  | testBranch => [⟨5, 14⟩]
  | plain n => [⟨0, 8 * n.toNat⟩]

/-- The distance that the number in a field counts. -/
def unit : Reloc → Nat
  | branch | condBranch | testBranch => 4
  | adrp => 4096
  | adr | plain _ => 1

def width : Reloc → Nat
  | branch => 26
  | condBranch => 19
  | adr | adrp => 21
  | testBranch => 14
  | plain n => 8 * n.toNat

/-- The displacement is so many units, and their number has the width of the field. -/
def Takes (r : Reloc) (v : Int64) : Prop :=
  (r.unit : Int) ∣ v.toInt ∧ InSigned r.width (v.toInt / r.unit)

instance (r : Reloc) (v : Int64) : Decidable (r.Takes v) := inferInstanceAs (Decidable (_ ∧ _))

end Reloc

structure Reloc.Matches (r : Reloc) (f : BitField) : Prop where
  exact_field : f.Exact
  unit : r.unit = 2 ^ f.scale
  width : r.width = f.bits - f.scale
  wide : f.scale < f.bits
  held : f.stretches = r.held

theorem Reloc.matches_field {r : Reloc} {f : BitField} (h : r.field? = some f) : r.Matches f := by
  cases r with
  | plain n => cases h
  | branch | condBranch | adr | adrp | testBranch =>
    cases h
    exact ⟨by decide, by decide, by decide, by decide, by decide⟩

theorem Reloc.Matches.takes_iff {r : Reloc} {f : BitField} (h : r.Matches f) (v : Int64) :
    r.Takes v ↔ f.Admits v := by
  rw [BitField.admits_iff h.exact_field, Takes, h.unit, h.width]
  constructor
  · rintro ⟨hunit, hwidth⟩
    exact ⟨hunit, (inSigned_ediv h.wide hunit).mp hwidth⟩
  · rintro ⟨hunit, hbits⟩
    exact ⟨hunit, (inSigned_ediv h.wide hunit).mpr hbits⟩

/-- Displacements go into their fields and come back, and nothing else of an instruction changes. -/
theorem displacements_kept (r : Reloc) (hsize : r.size ∈ dataSizes) :
    RoundTrips r.store r.write r.read r.size r.Takes r.held := by
  have hagain := r.rewritable_write
  have hruns : ∀ {buf : Bytes} (v : Int64), buf.length = r.size →
      (r.store v).Does buf (r.write buf v) := fun v hbuf => Reloc.store_does hbuf v
  cases hfield : r.field? with
  | none =>
    cases r with
    | plain n =>
      have htakes : (Reloc.plain n).Takes = fun v => InSigned (8 * n.toNat) v.toInt := by
        funext v
        simp [Reloc.Takes, Reloc.unit, Reloc.width]
      rw [htakes]
      exact roundTrips_signed hsize
    | branch | condBranch | adr | adrp | testBranch => cases hfield
  | some f =>
    have hf := Reloc.matches_field hfield
    have hr : r.size = 4 := by
      cases r with
      | plain n => cases hfield
      | branch | condBranch | adr | adrp | testBranch => rfl
    have hwrite : r.write = fun buf v =>
        (f.relocate (Bytes.toWord 32 buf) v).map (Bytes.ofWord · ++ buf.drop 4) := by
      funext buf v
      rw [Reloc.write, hfield]
    have hread : r.read = fun buf => f.gather (Bytes.toWord 32 buf) := by
      funext buf
      rw [Reloc.read, hfield]
    have htakes : r.Takes = f.Admits := funext fun v => propext (hf.takes_iff v)
    rw [hwrite, hr] at hagain hruns
    rw [hwrite, hread, htakes, hr, ← hf.held]
    exact carries_word.roundTrips hf.exact_field hf.exact_field.proper.inside hagain hruns

/-- The page that an ADRP reaches farthest back, and a distance that is not one between pages. -/
theorem displacements_kept_page :
    Reloc.adrp.size ∈ dataSizes ∧ Reloc.adrp.Takes (-0x100000000) ∧
      Reloc.adrp.write [0x05, 0x00, 0x00, 0x90] (-0x100000000) = .ok [0x05, 0x00, 0x80, 0x90] ∧
      Reloc.adrp.read [0x05, 0x00, 0x80, 0x90] = -0x100000000 ∧
      (Reloc.adrp.store 0x800).outcome [0x05, 0x00, 0x00, 0x90] =
        some (.error .misaligned, [0x05, 0x00, 0x00, 0x90]) := by
  have hbuf : ([0x05, 0x00, 0x00, 0x90] : Bytes).length = 4 := rfl
  have hwrite : Reloc.adrp.write [0x05, 0x00, 0x00, 0x90] (-0x100000000) =
      .ok [0x05, 0x00, 0x80, 0x90] := by decide
  have hrefused : Reloc.adrp.write [0x05, 0x00, 0x00, 0x90] 0x800 = .error .misaligned := by
    decide
  have htrips := displacements_kept .adrp (by decide)
  have hrun := htrips.runs 0x800 hbuf
  rw [hrefused] at hrun
  exact ⟨by decide, (htrips.accepts hbuf).mp ⟨_, hwrite⟩, hwrite, htrips.reads hbuf hwrite, hrun⟩

end MachineCode.AArch64
