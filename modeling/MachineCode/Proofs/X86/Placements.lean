import MachineCode.Proofs.X86.Matches

/-!
Where the operands of a match are put. A place holds the one operand that the form assigns to it,
and the numbers of all registers in places are bounded by what is known of the operands.
-/
namespace MachineCode.X86

def Form.assigned (f : Form) (as : List Operand) : List (Role × Operand) :=
  f.places.zip (((f.slots.zip as).filter fun x =>
    !x.1.kind.isImplied && !x.1.kind.isTrailing).map (·.2))

section Assigned

variable {f : Form} {as : List Operand} {role : Role} {a : Operand} {s : Slot}

theorem Form.placed_eq (h : f.slots.length = as.length) :
    f.placed = ((f.slots.zip as).filter fun x =>
      !x.1.kind.isImplied && !x.1.kind.isTrailing).map (·.1) := by
  have hslots : f.slots = (f.slots.zip as).map (·.1) :=
    (List.map_fst_zip (Nat.le_of_eq h)).symm
  unfold Form.placed
  conv_lhs => rw [hslots]
  exact List.filter_map

theorem Form.Regular.exists_role (hregular : f.Regular) (hlength : f.slots.length = as.length)
    (h : (s, a) ∈ f.slots.zip as) (himplied : s.kind.isImplied = false)
    (htrailing : s.kind.isTrailing = false) :
    ∃ role, (role, a) ∈ f.assigned as ∧ (s, role) ∈ f.placed.zip f.places := by
  have hmem : (s, a) ∈ (f.slots.zip as).filter fun x =>
      !x.1.kind.isImplied && !x.1.kind.isTrailing :=
    List.mem_filter.mpr ⟨h, by rw [himplied, htrailing]; rfl⟩
  have hplaces := hregular.length
  rw [Form.placed_eq hlength] at hplaces ⊢
  unfold Form.assigned
  generalize (f.slots.zip as).filter _ = xs at hmem hplaces ⊢
  obtain ⟨i, hi⟩ := List.mem_iff_getElem?.mp hmem
  rw [List.length_map] at hplaces
  have hlt : i < f.places.length := by
    rw [hplaces]
    exact (List.getElem?_eq_some_iff.mp hi).1
  have hrole : f.places[i]? = some f.places[i] := List.getElem?_eq_getElem hlt
  refine ⟨f.places[i], ?_, ?_⟩
  · refine List.mem_iff_getElem?.mpr ⟨i, List.getElem?_zip_eq_some.mpr ⟨hrole, ?_⟩⟩
    rw [List.getElem?_map, hi]
    rfl
  · refine List.mem_iff_getElem?.mpr ⟨i, List.getElem?_zip_eq_some.mpr ⟨?_, hrole⟩⟩
    rw [List.getElem?_map, hi]
    rfl

theorem Form.exists_slot (hlength : f.slots.length = as.length) (h : (role, a) ∈ f.assigned as) :
    ∃ s, (s, a) ∈ f.slots.zip as ∧ s.kind.isImplied = false ∧ s.kind.isTrailing = false ∧
      (s, role) ∈ f.placed.zip f.places := by
  rw [Form.placed_eq hlength]
  unfold Form.assigned at h
  generalize hxs : (f.slots.zip as).filter _ = xs at h ⊢
  obtain ⟨i, hi⟩ := List.mem_iff_getElem?.mp h
  obtain ⟨hrole, ha⟩ := List.getElem?_zip_eq_some.mp hi
  rw [List.getElem?_map] at ha
  obtain ⟨⟨s, a'⟩, hx, rfl⟩ := Option.map_eq_some_iff.mp ha
  have hmem : (s, a') ∈ (f.slots.zip as).filter _ := hxs ▸ List.mem_of_getElem? hx
  obtain ⟨hzip, hkind⟩ := List.mem_filter.mp hmem
  simp only [Bool.and_eq_true, Bool.not_eq_true'] at hkind
  refine ⟨s, hzip, hkind.1, hkind.2, ?_⟩
  refine List.mem_iff_getElem?.mpr ⟨i, List.getElem?_zip_eq_some.mpr ⟨?_, hrole⟩⟩
  rw [List.getElem?_map, hx]
  rfl

end Assigned

namespace Placement

def get (p : Placement) : Role → Option Operand
  | .rm => p.rm
  | .reg => p.reg
  | .extra => p.extra
  | .last => p.last

def put (p : Placement) (role : Role) (a : Operand) : Placement :=
  match role with
  | .rm => { p with rm := some a }
  | .reg => { p with reg := some a }
  | .extra => { p with extra := some a }
  | .last => { p with last := some a }

theorem get_put_self (p : Placement) (role : Role) (a : Operand) :
    (p.put role a).get role = some a := by
  cases role <;> rfl

theorem get_put_of_ne (p : Placement) {role other : Role} (a : Operand) (h : other ≠ role) :
    (p.put role a).get other = p.get other := by
  cases role <;> cases other <;> first | rfl | exact absurd rfl h

theorem get_foldl_put {xs : List (Role × Operand)} (hnodup : (xs.map (·.1)).Nodup) (p : Placement)
    (role : Role) (a : Operand) : (xs.foldl (fun p x => p.put x.1 x.2) p).get role = some a ↔
      (role, a) ∈ xs ∨ role ∉ xs.map (·.1) ∧ p.get role = some a := by
  induction xs generalizing p with
  | nil => simp
  | cons x xs ih =>
    obtain ⟨role', a'⟩ := x
    obtain ⟨hhead, htail⟩ := List.nodup_cons.mp hnodup
    rw [List.foldl_cons, ih htail]
    by_cases hrole : role = role'
    · subst hrole
      have hnone : ∀ b, (role, b) ∉ xs := fun b hb => hhead (List.mem_map.mpr ⟨_, hb, rfl⟩)
      rw [get_put_self]
      simp only [hnone, false_or, List.mem_cons, Prod.mk.injEq, true_and, or_false, List.map_cons,
        true_or, not_true_eq_false, false_and]
      constructor
      · rintro ⟨-, h⟩
        exact (Option.some.inj h).symm
      · rintro rfl
        exact ⟨hhead, rfl⟩
    · rw [get_put_of_ne _ _ hrole]
      simp [hrole]

end Placement

theorem Matched.placement_get {c : Matcher} {inst : Inst} {ops settled : List Operand} {m : Match}
    (h : Matched c inst ops settled m) (role : Role) (a : Operand) :
    m.placement.get role = some a ↔ (role, a) ∈ m.form.assigned m.args := by
  have hregular := h.regular
  have hplaced : m.form.placed = m.placed.map (·.1) := Form.placed_eq h.length_slots
  have hplaces : roles m.placed.length (m.placed.findIdx? (·.1.kind.takesMem))
      (m.placed.findIdx? (·.1.kind.isSpecial)) m.form = m.form.places := by
    unfold Form.places
    rw [hplaced, List.length_map, List.findIdx?_map, List.findIdx?_map]
    rfl
  have hfold : m.placement =
      (m.form.assigned m.args).foldl (fun p x => p.put x.1 x.2) {} := by
    unfold Match.placement
    dsimp only
    rw [hplaces]
    rfl
  have hnodup : ((m.form.assigned m.args).map (·.1)).Nodup := by
    have hlength : m.form.places.length ≤ (m.placed.map (·.2)).length := by
      rw [hregular.length, hplaced, List.length_map, List.length_map]
    have hfst : (m.form.assigned m.args).map (·.1) = m.form.places := List.map_fst_zip hlength
    rw [hfst]
    exact hregular.nodup
  rw [hfold, Placement.get_foldl_put hnodup]
  cases role <;> simp [Placement.get]

end MachineCode.X86
