import MachineCode.Proofs.Results
import MachineCode.X86.Address

/-!
Parts of addresses. The registers of an address are put into their fields without a look at its
displacement, its segment and the width of what it points to, and these stay as they are.
-/
namespace MachineCode.X86

namespace Mem

def withRest (m r : Mem) : Mem := { m with disp := r.disp, seg := r.seg, width := r.width }

def restored (r : Mem) (x : Mem × Option Nat) : Mem × Option Nat := (x.1.withRest r, x.2)

section Rest

variable (m r : Mem)

@[simp] theorem withRest_base : (m.withRest r).base = m.base := rfl
@[simp] theorem withRest_index : (m.withRest r).index = m.index := rfl
@[simp] theorem withRest_scale : (m.withRest r).scale = m.scale := rfl
@[simp] theorem withRest_noSplit : (m.withRest r).noSplit = m.noSplit := rfl

theorem placeIp_withRest (size : Nat) :
    (m.withRest r).placeIp size = (m.placeIp size).map (restored r) := by
  unfold placeIp
  rw [withRest_base, withRest_index, withRest_scale]
  split_ifs <;> rfl

theorem placeVector_withRest : (m.withRest r).placeVector = m.placeVector.map (restored r) := by
  unfold placeVector checkScale
  rw [withRest_base, withRest_index, withRest_scale]
  split_ifs <;> rfl

theorem placeVsib_withRest (size : Nat) :
    (m.withRest r).placeVsib size = (m.placeVsib size).map (restored r) := by
  unfold placeVsib checkScale
  rw [withRest_base, withRest_index, withRest_scale]
  dsimp only
  split_ifs <;> rfl

theorem placeWord_withRest : (m.withRest r).placeWord = m.placeWord.map (restored r) := by
  unfold placeWord
  rw [withRest_base, withRest_index, withRest_scale]
  split_ifs
  · rfl
  · rcases m.base with _ | b <;> rcases m.index with _ | i
    · rfl
    · dsimp only
      cases wordBaseCode i <;> rfl
    · dsimp only
      cases wordBaseCode b <;> rfl
    · dsimp only
      cases wordCode b i <;> rfl

theorem split_withRest : (m.withRest r).split = m.split.withRest r := by
  unfold split
  rw [withRest_base, withRest_index, withRest_scale, withRest_noSplit]
  split_ifs
  · split <;> rfl
  · rfl

theorem swapStack_withRest : (m.withRest r).swapStack = m.swapStack.map (·.withRest r) := by
  unfold swapStack
  rw [withRest_base, withRest_index, withRest_scale]
  cases m.index with
  | none => rfl
  | some i =>
    dsimp only
    split_ifs <;> rfl

theorem escape_withRest (size : Nat) : (m.withRest r).escape size = (m.escape size).withRest r := by
  unfold escape
  rw [withRest_base, withRest_index]
  split_ifs <;> rfl

theorem placeLegacy_withRest (size : Nat) :
    (m.withRest r).placeLegacy size = (m.placeLegacy size).map (restored r) := by
  unfold placeLegacy
  dsimp only
  rw [split_withRest, swapStack_withRest, withRest_scale]
  cases checkScale m.split.scale with
  | error e => rfl
  | ok u =>
    cases m.split.swapStack with
    | error e => rfl
    | ok s =>
      exact congrArg (fun x => Except.ok (x, some size)) (escape_withRest s r size)

def placeShaped (m : Mem) (size family : Nat) (vsib : Bool) :
    Except MemFault (Mem × Option Nat) :=
  match RegClass.ofCode? family with
  | some .ip => m.placeIp size
  | some .xmm | some .ymm => m.placeVector
  | some .legacy =>
    if size = 2 then
      if vsib then .error .vsibWord else m.placeWord
    else if size = 4 || size = 8 then
      if vsib then m.placeVsib size else m.placeLegacy size
    else .error (.legacySize size)
  | _ => .error (.family family)

def placeRegisters (m : Mem) : Except MemFault (Mem × Option Nat) :=
  match m.base, m.index with
  | none, none => .ok (m, none)
  | some r, none | none, some r => m.placeShaped r.width r.family false
  | some b, some i => combine b i >>= fun x => m.placeShaped x.1 x.2.1 x.2.2

theorem place_eq (m : Mem) :
    m.place = placeRegisters { m with scale := max m.scale 1 } := by
  unfold place placeRegisters
  rcases m.base with _ | b <;> rcases m.index with _ | i
  · rfl
  · rfl
  · rfl
  · dsimp only
    cases combine b i <;> rfl

theorem placeShaped_withRest (size family : Nat) (vsib : Bool) :
    (m.withRest r).placeShaped size family vsib =
      (m.placeShaped size family vsib).map (restored r) := by
  unfold placeShaped
  rw [placeIp_withRest, placeVector_withRest, placeVsib_withRest, placeWord_withRest,
    placeLegacy_withRest]
  split
  · rfl
  · rfl
  · rfl
  · split_ifs <;> rfl
  · rfl

theorem placeRegisters_withRest :
    (m.withRest r).placeRegisters = m.placeRegisters.map (restored r) := by
  unfold placeRegisters
  rw [withRest_base, withRest_index]
  rcases m.base with _ | b <;> rcases m.index with _ | i
  · rfl
  · exact placeShaped_withRest ..
  · exact placeShaped_withRest ..
  · dsimp only
    cases combine b i with
    | error e => rfl
    | ok x => exact placeShaped_withRest ..

theorem place_withRest : (m.withRest r).place = m.place.map (restored r) := by
  rw [place_eq, place_eq]
  exact placeRegisters_withRest { m with scale := max m.scale 1 } r

end Rest

variable {m m' : Mem} {size : Option Nat}

/-- What is not a register stays as it is. -/
theorem rest_of_place (h : m.place = .ok (m', size)) : m'.withRest m = m' := by
  have hplace := place_withRest m m
  rw [show m.withRest m = m from rfl, h] at hplace
  exact (congrArg Prod.fst (Except.ok.inj hplace)).symm

theorem settle_eq_ok (h : m.settle = .ok (m', size)) : ∃ p, m.place = .ok (p, size) ∧
    p.settleDisp size = .ok m'.disp ∧ m' = { p with disp := m'.disp } := by
  obtain ⟨⟨⟩, -, h⟩ := bind_eq_ok h
  obtain ⟨⟨p, size'⟩, hplace, h⟩ := bind_eq_ok h
  obtain ⟨d, hd, h⟩ := bind_eq_ok h
  cases h
  exact ⟨p, mapError_eq_ok hplace, hd, rfl⟩

theorem segment_of_settle (h : m.settle = .ok (m', size)) :
    m'.seg = m.seg ∧ ∀ r ∈ m.seg, r.isClass .segment = true := by
  obtain ⟨p, hplace, -, hm⟩ := settle_eq_ok h
  obtain ⟨⟨⟩, hsegment, -⟩ := bind_eq_ok h
  refine ⟨by rw [hm, ← rest_of_place hplace]; rfl, fun r hr => ?_⟩
  have hchecked := mapError_eq_ok hsegment
  unfold checkSegment at hchecked
  rw [Option.mem_def.mp hr] at hchecked
  exact (ok_of_when hchecked).1

theorem width_of_settle (h : m.settle = .ok (m', size)) : m'.width = m.width := by
  obtain ⟨p, hplace, -, hm⟩ := settle_eq_ok h
  rw [hm, ← rest_of_place hplace]
  rfl

end Mem

end MachineCode.X86
