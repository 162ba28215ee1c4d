import MachineCode.Proofs.X86.AddressParts
import MachineCode.Proofs.X86.Families
import MachineCode.Proofs.X86.Sizing

/-!
Operands of eight bytes in 32-bit mode. No row is marked as one for 64-bit mode alone; what refuses
wide operands there is that they come in registers that do not exist or need a REX prefix. Rows that
need neither are named.
-/
namespace MachineCode.X86

namespace Slot

def isOpen (s : Slot) : Bool :=
  s.size == .any &&
    match s.kind with
    | .gpr | .gprOrMem | .fixed _ => true
    | _ => false

def isOpenRegister (s : Slot) : Bool := s.isOpen && s.kind != .gprOrMem

end Slot

namespace Form

/-- Whether the form has a slot for general purpose registers of any size. -/
def isOpen (f : Form) : Bool := f.slots.any (·.isOpen)

def choosesWide (f : Form) : Bool :=
  (f.has .autoSize || f.has .autoRexW) && !f.has .autoNo32 &&
    (f.has .autoRexW || !f.has .autoVexL)

/-- A form that refuses wide operands in 32-bit mode: what leaves the size of general purpose
operands open is a register, a stack operation, or asks for a REX prefix, and a number has eight
bytes only next to a register of eight. -/
structure Narrow (f : Form) : Prop where
  size : f.isOpen = true → f.slots.any (·.isOpenRegister) = true ∨ f.has .autoNo32 = true ∨
    f.choosesWide = true ∧ f.isVector = false
  number : ∀ s ∈ f.slots, s.kind.isTrailing = true → s.size = .byte ∨ s.size = .word ∨
    s.size = .dword ∨ s.size = .qword ∧ Slot.rq ∈ f.slots ∨
      s.size = .any ∧ f.has .autoSize = true ∧ f.has .autoNo32 = false ∧ f.has .autoRexW = false ∧
        f.has .autoVexL = false

instance (f : Form) : Decidable f.Narrow :=
  decidable_of_iff (_ ∧ _) ⟨fun ⟨h1, h2⟩ => ⟨h1, h2⟩, fun ⟨h1, h2⟩ => ⟨h1, h2⟩⟩

end Form

/-- The conversions from an integer of four or eight bytes that have a VEX prefix. -/
def conversions : List String := ["VCVTSI2SD", "VCVTSI2SS"]

section Refused

variable {m : Match} {bits : SizeBits}

theorem operandSize_of_autoSize (h : m.form.has .autoSize = true)
    (hno32 : m.form.has .autoNo32 = false) (hrexW : m.form.has .autoRexW = false)
    (hvexL : m.form.has .autoVexL = false) (hbits : m.sizeBits = .ok bits) :
    m.operandSize = some 2 ∨ m.operandSize = some 4 ∨ m.operandSize = some 8 := by
  obtain ⟨auto, hauto, rfl⟩ := map_eq_ok hbits
  rcases Match.autoSize_cases hauto with ⟨hnone, -⟩ | ⟨n, hn, hchooses⟩
  · simp [Form.sizes, h] at hnone
  cases hchooses with
  | no32 hflag => cases hflag.symm.trans hno32
  | rexW _ hflag => cases hflag.symm.trans hrexW
  | vexL _ _ hflag => cases hflag.symm.trans hvexL
  | any _ _ _ _ hbits =>
    rcases hbits with ⟨rfl, -⟩ | ⟨rfl, -⟩ | ⟨rfl, -⟩
    · exact Or.inl hn
    · exact Or.inr (Or.inr hn)
    · exact Or.inr (Or.inl hn)

end Refused

theorem SlotKind.exists_reg {k : SlotKind} {a : Operand} (h : k.takes a = true)
    (hk : k = .gpr ∨ ∃ n, k = .fixed n) : ∃ r, a = .reg r := by
  have hreg : ∃ p : Register → Bool, a.reg?.any p = true := by
    rcases hk with rfl | ⟨n, rfl⟩ <;> exact ⟨_, h⟩
  obtain ⟨p, hp⟩ := hreg
  obtain ⟨r, hr, -⟩ := (Option.any_eq_true _ _).mp hp
  exact ⟨r, Operand.eq_reg hr⟩

theorem SlotKind.isGeneral_of_takes {k : SlotKind} {r : Register} (h : k.takes (.reg r) = true)
    (hk : k = .gpr ∨ k = .gprOrMem ∨ ∃ n, k = .fixed n) : r.isGeneral = true := by
  rcases hk with rfl | rfl | ⟨n, rfl⟩
  · exact h
  · exact h
  · have hfixed : (r.isClass .legacy && r.num == n) = true := h
    rw [Register.isGeneral, (Bool.and_eq_true_iff.mp hfixed).1]
    rfl

/-- General purpose registers that exist in 32-bit mode do not have eight bytes. -/
theorem Register.IsGiven.not_wide {r : Register} (h : r.IsGiven) (hgeneral : r.isGeneral = true)
    (hexists : Scratch.existsIn32 r = true) : r.width ≠ 8 := by
  intro hwidth
  obtain ⟨k, hclass, -, hwidths⟩ := h.spec
  rw [hwidth] at hwidths
  unfold Register.isGeneral Register.isClass at hgeneral
  rw [hclass] at hgeneral
  cases k with
  | legacy =>
    unfold Scratch.existsIn32 Register.isClass at hexists
    rw [hclass, hwidth] at hexists
    simp at hexists
  | highByte => simp [RegClass.widths] at hwidths
  | _ => cases hgeneral

namespace Matched

variable {c : Matcher} {inst : Inst} {ops settled : List Operand} {m : Match} {votes : SizeVotes}
  {imm : Nat} {bits : SizeBits} {s : Slot} {r : Register}

theorem exists_operand (h : Matched c inst ops settled m) (hs : s ∈ m.form.slots) :
    ∃ x, (s, x) ∈ m.slots := by
  have hslots : (m.form.slots.zip m.args).map (·.1) = m.form.slots :=
    List.map_fst_zip (Nat.le_of_eq h.length_slots)
  rw [← hslots] at hs
  obtain ⟨⟨s', x⟩, hx, rfl⟩ := List.mem_map.mp hs
  exact ⟨x, hx⟩

theorem not_wide_reg (h : Matched c inst ops settled m) (hmode : c.mode = .x86)
    (hgiven : ∀ r, .reg r ∈ ops → r.IsGiven) (hx : (s, .reg r) ∈ m.slots)
    (hk : s.kind = .gpr ∨ s.kind = .gprOrMem ∨ ∃ n, s.kind = .fixed n) : r.width ≠ 8 := by
  have hr : .reg r ∈ ops := h.reg_mem_ops.mp (List.of_mem_zip hx).2
  exact (hgiven r hr).not_wide (SlotKind.isGeneral_of_takes (h.takes_reg hx) hk)
    (h.checked hmode r (.inl hr))

theorem exists_narrow_reg (h : Matched c inst ops settled m) (hmode : c.mode = .x86)
    (hgiven : ∀ r, .reg r ∈ ops → r.IsGiven) (hs : s ∈ m.form.slots)
    (hk : s.kind = .gpr ∨ ∃ n, s.kind = .fixed n) :
    ∃ r, (s, .reg r) ∈ m.slots ∧ s.takes (.reg r) (m.form.has .exactSize) = true ∧
      r.width ≠ 8 := by
  obtain ⟨x, hx⟩ := h.exists_operand hs
  obtain ⟨y, -, htakes, hsame, -⟩ := h.slot_takes hx
  obtain ⟨r, rfl⟩ := SlotKind.exists_reg (Bool.and_eq_true_iff.mp htakes).1 hk
  obtain rfl := Operand.eq_reg hsame
  exact ⟨r, hx, htakes, h.not_wide_reg hmode hgiven hx (hk.imp_right Or.inr)⟩

theorem width_le (h : Matched c inst ops settled m)
    (hsizing : Sizing inst.name c.mode settled m votes imm) (hmode : c.mode = .x86)
    (hgiven : ∀ r, .reg r ∈ ops → r.IsGiven) (hnarrow : m.form.Narrow)
    (hbits : m.sizeBits = .ok bits) {x : Operand} (hx : x ∈ m.trailing) : x.width ≤ 4 := by
  obtain ⟨⟨s, x⟩, hslot, rfl⟩ := List.mem_map.mp hx
  obtain ⟨hslot, htrailing⟩ := List.mem_filter.mp hslot
  dsimp only at htrailing ⊢
  have hs : s ∈ m.form.slots := (List.of_mem_zip hslot).1
  have hwidth := hsizing.width_trailing h hslot htrailing
  unfold Slot.numberSize at hwidth
  rcases hnarrow.number s hs htrailing with hsize | hsize | hsize | ⟨hsize, hrq⟩ |
    ⟨hsize, hauto, hno32, hrexW, hvexL⟩
  · rw [hsize] at hwidth
    simp [SlotSize.bytes] at hwidth
    omega
  · rw [hsize] at hwidth
    simp [SlotSize.bytes] at hwidth
    omega
  · rw [hsize] at hwidth
    simp [SlotSize.bytes] at hwidth
    omega
  · obtain ⟨r, -, htakes, hne⟩ := h.exists_narrow_reg hmode hgiven hrq (.inl rfl)
    exact absurd (eq_of_beq (Bool.and_eq_true_iff.mp htakes).2).symm hne
  · have himm : imm = 2 ∨ imm = 4 := by
      rcases operandSize_of_autoSize hauto hno32 hrexW hvexL hbits with hop | hop | hop <;>
        have hmin := hsizing.operandSize_eq.2.2 _ hop <;> simp at hmin <;> omega
    rw [hsize, if_pos rfl] at hwidth
    rcases himm with rfl | rfl <;> simp [SlotSize.bytes] at hwidth <;> omega

end Matched

end MachineCode.X86
