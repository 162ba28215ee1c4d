import MachineCode.Proofs.Results
import MachineCode.Proofs.X86.Decoding

/-!
Registers as words. The fields of a word that was packed are read back, and every register that has
a name or was chosen at run time is of a class that has its number.
-/
namespace MachineCode.X86

namespace Register

section Pack

variable (code width num : Nat)

theorem toNat_pack : (pack code width num).word.toNat =
    (width % 64) * 65536 + (code % 256) * 256 + num % 16 := by
  unfold pack
  rw [BitVec.toNat_ofNat, Nat.shiftLeft_eq, Nat.shiftLeft_eq, Nat.mod_eq_of_lt (by omega)]

theorem num_pack : (pack code width num).num = num % 16 := by
  unfold Register.num
  rw [toNat_pack]
  omega

theorem family_pack : (pack code width num).family = code % 256 := by
  unfold family
  rw [toNat_pack, Nat.shiftRight_eq_div_pow]
  omega

theorem width_pack : (pack code width num).width = width % 64 := by
  unfold Register.width
  rw [toNat_pack, Nat.shiftRight_eq_div_pow]
  omega

end Pack

theorem num_lt (r : Register) : r.num < 16 := Nat.mod_lt _ (by decide)

theorem num_make {n : Nat} (c : RegClass) (width : Nat) (h : n < 16) :
    (make c width n).num = n := by
  rw [make, num_pack, Nat.mod_eq_of_lt h]

theorem class_make (c : RegClass) (width n : Nat) : (make c width n).class? = some c := by
  rw [class?, make, family_pack]
  cases c <;> rfl

/-- The registers that programs can have: those with a name, and those chosen at run time. -/
def IsGiven (r : Register) : Prop :=
  (∃ name, (r, name) ∈ named) ∨ ∃ family width num, choose family width num = .ok r

theorem isGiven_of_name {n : String} {r : Register} (h : (r, n) ∈ named) : r.IsGiven :=
  Or.inl ⟨n, h⟩

theorem class_of_named : ∀ x ∈ named, (x.1.class?.any fun c =>
    c.hasNumber x.1.num && c.widths.contains x.1.width) = true := by
  decide +kernel

theorem make_of_named : ∀ x ∈ named,
    (x.1.class?.any fun c => x.1 == make c x.1.width x.1.num) = true := by
  decide +kernel

theorem width_make {n : Nat} (c : RegClass) (num : Nat) (h : n < 64) :
    (make c n num).width = n := by
  rw [make, width_pack, Nat.mod_eq_of_lt h]

theorem choose_eq_ok {family width num : UInt8} {r : Register}
    (h : choose family width num = .ok r) : ∃ c, r = make c width.toNat num.toNat ∧
      num.toNat < 16 ∧ width.toNat < 64 ∧ c.hasNumber num.toNat = true ∧
      width.toNat ∈ c.widths := by
  unfold choose at h
  split at h
  · cases h
  next hsmall =>
    simp only [Bool.or_eq_true, decide_eq_true_eq, not_or, Nat.not_lt] at hsmall
    split at h
    · cases h
    next c hc =>
      split at h
      · cases h
      next hnum =>
        obtain ⟨hwidth, rfl⟩ := ok_of_when h
        exact ⟨c, rfl, by omega, by omega, by simpa using hnum, List.contains_iff_mem.mp hwidth⟩

theorem IsGiven.spec {r : Register} (h : r.IsGiven) :
    ∃ c, r.class? = some c ∧ c.hasNumber r.num = true ∧ r.width ∈ c.widths := by
  rcases h with ⟨name, hname⟩ | ⟨family, width, num, hchoose⟩
  · have hspec := class_of_named _ hname
    simp only [Option.any_eq_true, Bool.and_eq_true] at hspec
    obtain ⟨c, hc, hnumber, hwidth⟩ := hspec
    exact ⟨c, hc, hnumber, List.contains_iff_mem.mp hwidth⟩
  · obtain ⟨c, rfl, hnum, hwide, hnumber, hwidth⟩ := choose_eq_ok hchoose
    refine ⟨c, class_make _ _ _, ?_, ?_⟩
    · rwa [num_make _ _ hnum]
    · rwa [width_make _ _ hwide]

theorem IsGiven.eq_make {r : Register} {c : RegClass} (h : r.IsGiven) (hc : r.class? = some c) :
    r = make c r.width r.num := by
  rcases h with ⟨name, hname⟩ | ⟨family, width, num, hchoose⟩
  · have hmake := make_of_named _ hname
    rw [hc, Option.any_some, beq_iff_eq] at hmake
    exact hmake
  · obtain ⟨k, rfl, hnum, hwide, -, -⟩ := choose_eq_ok hchoose
    obtain rfl := Option.some.inj ((class_make _ _ _).symm.trans hc)
    rw [num_make _ _ hnum, width_make _ _ hwide]

theorem IsGiven.exists_class {r : Register} (h : r.IsGiven) :
    ∃ c, r.class? = some c ∧ c.hasNumber r.num = true := by
  obtain ⟨c, hc, hnumber, -⟩ := h.spec
  exact ⟨c, hc, hnumber⟩

theorem IsGiven.width_mem {r : Register} {c : RegClass} (h : r.IsGiven) (hc : r.class? = some c) :
    r.width ∈ c.widths := by
  obtain ⟨c', hc', -, hwidth⟩ := h.spec
  obtain rfl := Option.some.inj (hc.symm.trans hc')
  exact hwidth

end Register

def Register.source (r : Register) : Source :=
  if r.isClass .ip then .ip else if r.isVector then .lane r.num else .general r.num

theorem Register.isVector_of_class {r : Register} {c : RegClass} (h : r.class? = some c) :
    r.isVector = (c == .xmm || c == .ymm) := by
  unfold isVector isClass
  rw [h]
  cases c <;> rfl

theorem Register.source_of_legacy {r : Register} (h : r.class? = some .legacy) :
    r.source = .general r.num := by
  unfold source
  rw [isVector_of_class h, isClass, h]
  rfl

theorem Register.source_of_vector {r : Register} (h : r.isVector = true) :
    r.source = .lane r.num := by
  have hip : r.isClass .ip = false := by
    unfold isVector isClass at *
    cases hc : r.class? with
    | none => rfl
    | some c =>
      rw [hc] at h
      cases c <;> first | rfl | cases h
  unfold source
  rw [hip, h]
  rfl

theorem Register.source_of_ip {r : Register} (h : r.class? = some .ip) : r.source = .ip := by
  unfold source
  rw [isClass, h]
  rfl

end MachineCode.X86
