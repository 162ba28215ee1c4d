import Mathlib.Algebra.Ring.Nat
import Mathlib.Data.List.Forall2
import MachineCode.AArch64.Encoding

/-!
What a template knows of its parts. The slots of a template fix the kind of each part, and the
operands that they take have parts of those kinds; the parts leave nothing of an operand out.
-/
namespace MachineCode.AArch64

/-- The parts of an operand in a slot, without the checks of its registers. -/
def partsIn (s : Slot) : Operand → List Part
  | .reg r => [.reg r]
  | .vec v => [.vec v.reg v.arr]
  | .elem r size lane => [.elem r size lane]
  | .list vs => (vs.head?.map fun v => Part.list v.reg v.arr vs.length).toList
  | .imm v => [.imm v]
  | .fimm bits => [.float bits]
  | .mod m => [.mod m]
  | .cond c => [.cond c]
  | .label l => [.label l]
  | .sysReg n => [.imm (Int64.ofNat n.toNat)]
  | .barrier n => [.imm (Int64.ofNat n.toNat)]
  | .mem m => match s with
    | .memIdx => [.reg m.base, .reg m.index, if m.mod.kind = .none then .absent else .mod m.mod]
    | .memBase => [.reg m.base]
    | _ => [.reg m.base, .imm m.offset]

def Checked (s : Slot) : Operand → Prop
  | .reg r => registerFault? s r = none
  | .vec v => v.reg.fault? = none
  | .elem r size lane => r.fault? = none ∧ lane.toNat < size.lanes
  | .list vs => ∀ v j, vs[j]? = some v → v.reg.fault? = none ∧
      v.reg.num = ((vs.head?.map (·.reg.num)).getD 0 + j) % 32
  | .mem m => m.base.fault? = none ∧ (s = .memIdx → m.index.fault? = none)
  | _ => True

theorem of_listFault?_eq_none {name : String} {vs : List Vec} (h : listFault? name vs = none)
    {v : Vec} {j : Nat} (hv : vs[j]? = some v) :
    v.reg.fault? = none ∧ v.reg.num = ((vs.head?.map (·.reg.num)).getD 0 + j) % 32 := by
  have hmem : (v, j) ∈ vs.zipIdx := List.mk_mem_zipIdx_iff_getElem?.mpr hv
  have hnone := List.findSome?_eq_none_iff.mp h (v, j) hmem
  dsimp only at hnone
  split at hnone
  · cases hnone
  next hfault =>
    split at hnone
    next hnum => exact ⟨hfault, hnum⟩
    · cases hnone

theorem partsOf_eq_ok {name : String} {s : Slot} {a : Operand} {ps : List Part}
    (h : partsOf name s a = .ok ps) : ps = partsIn s a ∧ Checked s a := by
  unfold partsOf at h
  cases a with
  | reg r =>
    dsimp only at h
    split at h
    · cases h
    next hfault =>
      cases h
      exact ⟨rfl, hfault⟩
  | vec v =>
    dsimp only at h
    split at h
    · cases h
    next hfault =>
      cases h
      exact ⟨rfl, hfault⟩
  | elem r size lane =>
    dsimp only at h
    split at h
    · cases h
    next hfault =>
      change (if lane.toNat < size.lanes then Except.ok [Part.elem r size lane]
        else Except.error (Refusal.lane name lane size)) = Except.ok ps at h
      split at h
      next hlane =>
        cases h
        exact ⟨rfl, hfault, hlane⟩
      · cases h
  | list vs =>
    dsimp only at h
    split at h
    · cases h
    next hfault =>
      cases h
      exact ⟨rfl, fun v j hv => of_listFault?_eq_none hfault hv⟩
  | mem m =>
    dsimp only at h
    cases hbase : m.base.fault? with
    | some f =>
      rw [hbase] at h
      cases h
    | none =>
      rw [hbase] at h
      by_cases hidx : s = .memIdx
      · subst hidx
        cases hindex : m.index.fault? with
        | some f =>
          rw [hindex] at h
          cases h
        | none =>
          rw [hindex] at h
          cases h
          exact ⟨rfl, hbase, fun _ => hindex⟩
      · cases s with
        | memIdx => exact absurd rfl hidx
        | _ =>
          cases h
          exact ⟨rfl, hbase, fun hs => absurd hs hidx⟩
  | _ =>
    cases h
    exact ⟨rfl, trivial⟩

/-- What is known of a part before any operand is: the slot of a register, the choices that an
operand has, and where it may be left out. -/
inductive Kind where
  | register (s : Slot)
  /-- The base of a memory operand. -/
  | base
  /-- The index of a memory operand. -/
  | index
  | indexMod
  | vec (arrs : List Arrangement)
  | elem (sizes : List ElemSize)
  | list (arrs : List Arrangement)
  | imm
  /-- A value of a register of the given width. -/
  | wide (is64 : Bool)
  | zero
  | float
  | mod (kinds : List ModKind)
  | cond
  | condInv
  | label
  deriving DecidableEq, Repr

def Slot.kinds (s : Slot) : List Kind :=
  match s with
  | vec arrs _ => [.vec arrs]
  | elem sizes => [.elem sizes]
  | list arrs => [.list arrs]
  | imm | logicalImm _ | sysReg | barrier => [.imm]
  | wideImm is64 | wideInvImm is64 => [.wide is64]
  | fimm => [.float]
  | fzero => [.zero]
  | mod kinds _ => [.mod kinds]
  | cond => [.cond]
  | condInv => [.condInv]
  | label => [.label]
  | memU12 _ | memImm | memPre | memPost => [.base, .imm]
  | memIdx => [.base, .index, .indexMod]
  | memBase => [.base]
  | gpW | gpX | gpWsp | gpXsp | fpB | fpH | fpS | fpD | fpQ => [.register s]

inductive Kind.Holds : Kind → Part → Prop
  | register {s : Slot} {r : Register} (htakes : s.takesRegister r = true)
      (hfault : registerFault? s r = none) : Holds (.register s) (.reg r)
  | base {r : Register} (hfamily : r.family = Family.x ∨ r.family = Family.sp)
      (hfault : r.fault? = none) : Holds .base (.reg r)
  | index {r : Register} (hfamily : r.family = Family.w ∨ r.family = Family.x)
      (hfault : r.fault? = none) : Holds .index (.reg r)
  | indexMod (m : Mod) : Holds .indexMod (.mod m)
  | indexPlain : Holds .indexMod .absent
  | vec {arrs : List Arrangement} {r : Register} {a : Arrangement} (hfamily : r.family = Family.v)
      (ha : a ∈ arrs) (hfault : r.fault? = none) : Holds (.vec arrs) (.vec r a)
  | elem {sizes : List ElemSize} {r : Register} {size : ElemSize} {lane : UInt8}
      (hfamily : r.family = Family.v) (hsize : size ∈ sizes) (hfault : r.fault? = none)
      (hlane : lane.toNat < size.lanes) : Holds (.elem sizes) (.elem r size lane)
  | list {arrs : List Arrangement} {r : Register} {a : Arrangement} {n : Nat}
      (hfamily : r.family = Family.v) (ha : a ∈ arrs) (hfault : r.fault? = none) (hpos : 0 < n)
      (hle : n ≤ 4) : Holds (.list arrs) (.list r a n)
  | imm (v : Int64) : Holds .imm (.imm v)
  | wide {is64 : Bool} {v : Int64} (hv : (immBits v is64).isSome = true) :
      Holds (.wide is64) (.imm v)
  | zero (v : Int64) : Holds .zero (.imm v)
  | zeroFloat (bits : UInt64) : Holds .zero (.float bits)
  | float (bits : UInt64) : Holds .float (.float bits)
  | mod {kinds : List ModKind} {m : Mod} (hkind : m.kind ∈ kinds) : Holds (.mod kinds) (.mod m)
  | omitted (kinds : List ModKind) : Holds (.mod kinds) .absent
  | cond (c : Cond) : Holds .cond (.cond c)
  | condInv {c : Cond} (hc : c.isConditional = true) : Holds .condInv (.cond c)
  | label (l : LabelRef) : Holds .label (.label l)

def Template.kinds (t : Template) : List Kind := t.slots.flatMap (·.kinds)

theorem kinds_of_takesRegister {s : Slot} {r : Register} (h : s.takesRegister r = true) :
    s.kinds = [.register s] := by
  cases s with
  | gpW | gpX | gpWsp | gpXsp | fpB | fpH | fpS | fpD | fpQ => rfl
  | _ => cases h

theorem kinds_of_takesImm {s : Slot} {v : Int64} (h : s.takesImm v = true) :
    List.Forall₂ Kind.Holds s.kinds [.imm v] := by
  have bits_isSome : ∀ {is64 : Bool} {α : Type} {f : BitVec 64 → Option α},
      ((immBits v is64).bind f).isSome = true → (immBits v is64).isSome = true := by
    intro is64 α f hbind
    cases hbits : immBits v is64 with
    | none =>
      rw [hbits] at hbind
      cases hbind
    | some u => rfl
  cases s with
  | imm | logicalImm _ => exact .cons (.imm v) .nil
  | fzero => exact .cons (.zero v) .nil
  | wideImm is64 | wideInvImm is64 => exact .cons (.wide (bits_isSome h)) .nil
  | _ => cases h

theorem kinds_of_takesMem {s : Slot} {m : Mem} (h : s.takesMem m = true)
    (hbase : m.base.fault? = none) (hindex : s = .memIdx → m.index.fault? = none) :
    List.Forall₂ Kind.Holds s.kinds (partsIn s (.mem m)) := by
  unfold Slot.takesMem at h
  simp only [Bool.and_eq_true, Bool.or_eq_true, beq_iff_eq] at h
  obtain ⟨hfamily, hslot⟩ := h
  have hb : Kind.Holds .base (.reg m.base) := .base hfamily hbase
  cases s with
  | memIdx =>
    simp only [Bool.and_eq_true, Bool.or_eq_true, beq_iff_eq] at hslot
    refine .cons hb (.cons (.index hslot.1.1 (hindex rfl)) (.cons ?_ .nil))
    split
    · exact .indexPlain
    · exact .indexMod _
  | memBase => exact .cons hb .nil
  | memU12 _ | memImm | memPre | memPost => exact .cons hb (.cons (.imm _) .nil)
  | _ => cases hslot

/-- The parts of an operand that a slot takes are of the slot's kinds. -/
theorem holds_of_takes {s : Slot} {a : Operand} (h : s.takes a = true) (hc : Checked s a) :
    List.Forall₂ Kind.Holds s.kinds (partsIn s a) := by
  cases a with
  | reg r =>
    rw [kinds_of_takesRegister h]
    exact .cons (.register h hc) .nil
  | vec v =>
    cases s with
    | vec arrs same =>
      simp only [Slot.takes, Bool.and_eq_true, beq_iff_eq, List.contains_iff_mem] at h
      exact .cons (.vec h.1 h.2 hc) .nil
    | _ => cases h
  | elem r size lane =>
    cases s with
    | elem sizes =>
      simp only [Slot.takes, Bool.and_eq_true, beq_iff_eq, List.contains_iff_mem] at h
      exact .cons (.elem h.1 h.2 hc.1 hc.2) .nil
    | _ => cases h
  | list vs =>
    cases s with
    | list arrs =>
      cases vs with
      | nil => cases h
      | cons first rest =>
        simp only [Slot.takes, Bool.and_eq_true, decide_eq_true_eq, List.all_eq_true] at h
        have hfirst := h.2 first List.mem_cons_self
        simp only [beq_iff_eq, List.contains_iff_mem] at hfirst
        have hfault := (hc first 0 rfl).1
        exact .cons (.list hfirst.1.1 hfirst.2 hfault (by simp) h.1) .nil
    | _ => cases h
  | imm v => exact kinds_of_takesImm h
  | fimm bits =>
    simp only [Slot.takes, Bool.or_eq_true, Bool.and_eq_true, beq_iff_eq] at h
    rcases h with rfl | ⟨rfl, -⟩
    · exact .cons (.float bits) .nil
    · exact .cons (.zeroFloat bits) .nil
  | mod m =>
    cases s with
    | mod kinds _ => exact .cons (.mod (List.contains_iff_mem.mp h)) .nil
    | _ => cases h
  | mem m => exact kinds_of_takesMem h hc.1 hc.2
  | cond c =>
    simp only [Slot.takes, Bool.or_eq_true, Bool.and_eq_true, beq_iff_eq] at h
    rcases h with rfl | ⟨rfl, hcond⟩
    · exact .cons (.cond c) .nil
    · exact .cons (.condInv hcond) .nil
  | label l =>
    simp only [Slot.takes, beq_iff_eq] at h
    subst h
    exact .cons (.label l) .nil
  | barrier n =>
    simp only [Slot.takes, beq_iff_eq] at h
    subst h
    exact .cons (.imm _) .nil
  | sysReg n =>
    simp only [Slot.takes, beq_iff_eq] at h
    subst h
    exact .cons (.imm _) .nil

def optionalLast : List Slot → Bool
  | [] => true
  | s :: ss => (!s.isOptional || ss.isEmpty) && optionalLast ss

/-- What it takes to accept one more operand: its slot takes it, and a vector sets the arrangement
or keeps to it. -/
theorem go_cons {arr : Option Arrangement} {s : Slot} {ss : List Slot} {a : Operand}
    {as : List Operand} (h : Template.accepts.go arr (s :: ss) (a :: as) = true) :
    s.takes a = true ∧
      ((∃ arrs same v, s = .vec arrs same ∧ a = .vec v ∧ (∀ first, arr = some first →
          same = true → v.arr = first) ∧
          Template.accepts.go (some (arr.getD v.arr)) ss as = true) ∨
        (∀ v, a ≠ .vec v) ∧ Template.accepts.go arr ss as = true) := by
  unfold Template.accepts.go at h
  rw [Bool.and_eq_true] at h
  obtain ⟨htakes, hrest⟩ := h
  refine ⟨htakes, ?_⟩
  split at hrest
  next arrs same v =>
    refine Or.inl ⟨arrs, same, v, rfl, rfl, ?_⟩
    split at hrest
    · exact ⟨fun first hfirst => (by cases hfirst), hrest⟩
    next first =>
      simp only [Bool.and_eq_true, Bool.or_eq_true, Bool.not_eq_true', beq_iff_eq] at hrest
      refine ⟨fun first' hfirst hsame => ?_, hrest.2⟩
      cases hfirst
      exact hrest.1.resolve_left (by simp [hsame])
  next hne =>
    refine Or.inr ⟨?_, hrest⟩
    rintro v rfl
    cases s with
    | vec arrs same => exact hne arrs same v rfl rfl
    | _ => cases htakes

theorem go_tail {arr : Option Arrangement} {s : Slot} {ss : List Slot} {a : Operand}
    {as : List Operand} (h : Template.accepts.go arr (s :: ss) (a :: as) = true) :
    s.takes a = true ∧ ∃ arr', Template.accepts.go arr' ss as = true := by
  obtain ⟨htakes, ⟨arrs, same, v, -, -, -, hrest⟩ | ⟨-, hrest⟩⟩ := go_cons h
  · exact ⟨htakes, _, hrest⟩
  · exact ⟨htakes, _, hrest⟩

/-- Each operand stands in its slot: taken by it, with its parts among all parts. -/
inductive Seated : List Slot → List Operand → List Part → Prop
  | nil : Seated [] [] []
  | omitted {s : Slot} (h : s.isOptional = true) : Seated [s] [] [.absent]
  | cons {s : Slot} {ss : List Slot} {a : Operand} {as : List Operand} {ps : List Part}
      (htakes : s.takes a = true) (hchecked : Checked s a) (hrest : Seated ss as ps) :
      Seated (s :: ss) (a :: as) (partsIn s a ++ ps)

theorem seated_of_accepts {name : String} {arr : Option Arrangement} {slots : List Slot}
    {args : List Operand} {parts : List Part} (hlast : optionalLast slots = true)
    (haccepts : Template.accepts.go arr slots args = true)
    (hparts : partsOfAll name slots args = .ok parts) : Seated slots args parts := by
  induction slots generalizing arr args parts with
  | nil =>
    cases args with
    | nil =>
      cases hparts
      exact .nil
    | cons a as => cases haccepts
  | cons s ss ih =>
    rw [optionalLast, Bool.and_eq_true] at hlast
    cases args with
    | nil =>
      have hoptional : s.isOptional = true := haccepts
      rw [hoptional, Bool.not_true, Bool.false_or, List.isEmpty_iff] at hlast
      obtain ⟨rfl, -⟩ := hlast
      cases hparts
      exact .omitted hoptional
    | cons a as =>
      obtain ⟨htakes, arr', hrest⟩ := go_tail haccepts
      rw [partsOfAll] at hparts
      cases hfront : partsOf name s a with
      | error e =>
        rw [hfront] at hparts
        cases hparts
      | ok front =>
        cases hback : partsOfAll name ss as with
        | error e =>
          rw [hfront, hback] at hparts
          cases hparts
        | ok back =>
          rw [hfront, hback] at hparts
          cases hparts
          obtain ⟨rfl, hchecked⟩ := partsOf_eq_ok hfront
          exact .cons htakes hchecked (ih hlast.2 hrest hback)

namespace Seated

variable {slots : List Slot} {args : List Operand} {parts : List Part}

/-- All parts are of the kinds that the slots fix. -/
theorem holds (h : Seated slots args parts) :
    List.Forall₂ Kind.Holds (slots.flatMap (·.kinds)) parts := by
  induction h with
  | nil => exact .nil
  | @omitted s hoptional =>
    cases s with
    | mod kinds _ => exact .cons (.omitted kinds) .nil
    | _ => cases hoptional
  | cons htakes hchecked hrest ih =>
    rw [List.flatMap_cons]
    exact List.rel_append (holds_of_takes htakes hchecked) ih

theorem mem (h : Seated slots args parts) {p : Part} (hp : p ∈ parts) :
    p = .absent ∨ ∃ s a, a ∈ args ∧ p ∈ partsIn s a := by
  induction h with
  | nil => cases hp
  | omitted hoptional =>
    rw [List.mem_singleton] at hp
    exact Or.inl hp
  | @cons s ss a as ps htakes hchecked hrest ih =>
    rcases List.mem_append.mp hp with hp | hp
    · exact Or.inr ⟨s, a, List.mem_cons_self, hp⟩
    · rcases ih hp with hp | ⟨s', a', ha', hp⟩
      · exact Or.inl hp
      · exact Or.inr ⟨s', a', List.mem_cons_of_mem _ ha', hp⟩

/-- Every operand with a slot has its parts among all parts. -/
theorem zip (h : Seated slots args parts) {s : Slot} {a : Operand} (hsa : (s, a) ∈ slots.zip args) :
    s.takes a = true ∧ Checked s a ∧ ∀ p ∈ partsIn s a, p ∈ parts := by
  induction h with
  | nil => cases hsa
  | omitted hoptional => cases hsa
  | cons htakes hchecked hrest ih =>
    rw [List.zip_cons_cons] at hsa
    cases hsa with
    | head => exact ⟨htakes, hchecked, fun p hp => List.mem_append_left _ hp⟩
    | tail _ hsa =>
      obtain ⟨ht, hc, hps⟩ := ih hsa
      exact ⟨ht, hc, fun p hp => List.mem_append_right _ (hps p hp)⟩

theorem exists_slot (h : Seated slots args parts) {a : Operand} (ha : a ∈ args) :
    ∃ s, (s, a) ∈ slots.zip args := by
  induction h with
  | nil => cases ha
  | omitted _ => cases ha
  | @cons s ss b as ps _ _ _ ih =>
    rcases List.mem_cons.mp ha with rfl | ha
    · exact ⟨s, List.mem_cons_self⟩
    · obtain ⟨s', hs'⟩ := ih ha
      exact ⟨s', List.mem_cons_of_mem _ hs'⟩

end Seated

/-- Two operands of the same meaning: the same, or lists with the same numbers in the same
arrangements, or memory operands that have no modifier. -/
inductive Alike : Operand → Operand → Prop
  | refl (a : Operand) : Alike a a
  | list {vs ws : List Vec} (hnums : vs.map (·.reg.num) = ws.map (·.reg.num))
      (harrs : vs.map (·.arr) = ws.map (·.arr)) : Alike (.list vs) (.list ws)
  | mem {m : Mem} {mod : Mod} (hm : m.mod.kind = .none) (hmod : mod.kind = .none) :
      Alike (.mem m) (.mem { m with mod })

theorem nums_of_checked {s : Slot} {vs : List Vec} {v : Vec} (hc : Checked s (.list (v :: vs))) :
    (v :: vs).map (·.reg.num) =
      (List.range (v :: vs).length).map fun j => (v.reg.num + j) % 32 := by
  apply List.ext_getElem?
  intro j
  rw [List.getElem?_map, List.getElem?_map]
  by_cases hj : j < (v :: vs).length
  · have hget : (v :: vs)[j]? = some (v :: vs)[j] := List.getElem?_eq_getElem hj
    rw [hget, List.getElem?_range hj, Option.map_some, Option.map_some, (hc _ j hget).2]
    rfl
  · rw [List.getElem?_eq_none (by omega), List.getElem?_eq_none (by simpa using hj)]
    rfl

theorem arrs_of_takes {s : Slot} {vs : List Vec} {v : Vec} (h : s.takes (.list (v :: vs)) = true) :
    (v :: vs).map (·.arr) = List.replicate (v :: vs).length v.arr := by
  cases s with
  | list arrs =>
    simp only [Slot.takes, Bool.and_eq_true, List.all_eq_true, beq_iff_eq] at h
    rw [List.eq_replicate_iff, List.length_map]
    refine ⟨rfl, fun a ha => ?_⟩
    obtain ⟨w, hw, rfl⟩ := List.mem_map.mp ha
    exact (h.2 w hw).1.2
  | _ => cases h

theorem alike_list {s : Slot} {vs ws : List Vec} (hv : s.takes (.list vs) = true)
    (hcv : Checked s (.list vs)) (hw : s.takes (.list ws) = true) (hcw : Checked s (.list ws))
    (h : partsIn s (.list vs) = partsIn s (.list ws)) : Alike (.list vs) (.list ws) := by
  cases vs with
  | nil => cases s <;> cases hv
  | cons v vs =>
    cases ws with
    | nil => cases h
    | cons w ws =>
      simp only [partsIn, List.head?_cons, Option.map_some, Option.toList_some, List.cons.injEq,
        Part.list.injEq, and_true] at h
      obtain ⟨hreg, harr, hlength⟩ := h
      refine .list ?_ ?_
      · rw [nums_of_checked hcv, nums_of_checked hcw, hreg, hlength]
      · rw [arrs_of_takes hv, arrs_of_takes hw, harr, hlength]

theorem alike_mem {s : Slot} {m k : Mem} (hm : s.takes (.mem m) = true)
    (hk : s.takes (.mem k) = true) (h : partsIn s (.mem m) = partsIn s (.mem k)) :
    Alike (.mem m) (.mem k) := by
  obtain ⟨base, index, mod, offset, mode⟩ := m
  obtain ⟨base', index', mod', offset', mode'⟩ := k
  simp only [Slot.takes, Slot.takesMem, Bool.and_eq_true] at hm hk
  cases s with
  | memIdx =>
    simp only [Bool.and_eq_true, beq_iff_eq] at hm hk
    obtain ⟨-, ⟨-, rfl⟩, rfl⟩ := hm
    obtain ⟨-, ⟨-, rfl⟩, rfl⟩ := hk
    simp only [partsIn, List.cons.injEq, Part.reg.injEq, and_true] at h
    obtain ⟨rfl, rfl, hmod⟩ := h
    by_cases hnone : mod.kind = .none
    · by_cases hnone' : mod'.kind = .none
      · exact .mem hnone hnone'
      · rw [if_pos hnone, if_neg hnone'] at hmod
        cases hmod
    · by_cases hnone' : mod'.kind = .none
      · rw [if_neg hnone, if_pos hnone'] at hmod
        cases hmod
      · rw [if_neg hnone, if_neg hnone'] at hmod
        cases hmod
        exact .refl _
  | memBase =>
    simp only [Bool.and_eq_true, beq_iff_eq] at hm hk
    obtain ⟨-, ⟨⟨rfl, hnone⟩, rfl⟩, rfl⟩ := hm
    obtain ⟨-, ⟨⟨rfl, hnone'⟩, rfl⟩, rfl⟩ := hk
    simp only [partsIn, List.cons.injEq, Part.reg.injEq, and_true] at h
    subst h
    exact .mem hnone hnone'
  | memU12 _ =>
    simp only [Bool.and_eq_true, beq_iff_eq] at hm hk
    simp only [partsIn, List.cons.injEq, Part.reg.injEq, Part.imm.injEq, and_true] at h
    obtain ⟨rfl, rfl⟩ := h
    obtain ⟨-, ⟨⟨⟨⟨rfl, hnone⟩, rfl⟩, -⟩, -⟩, -⟩ := hm
    obtain ⟨-, ⟨⟨⟨⟨rfl, hnone'⟩, rfl⟩, -⟩, -⟩, -⟩ := hk
    exact .mem hnone hnone'
  | memImm | memPre | memPost =>
    simp only [Bool.and_eq_true, beq_iff_eq] at hm hk
    simp only [partsIn, List.cons.injEq, Part.reg.injEq, Part.imm.injEq, and_true] at h
    obtain ⟨rfl, rfl⟩ := h
    obtain ⟨-, ⟨rfl, hnone⟩, rfl⟩ := hm
    obtain ⟨-, ⟨rfl, hnone'⟩, rfl⟩ := hk
    exact .mem hnone hnone'
  | _ => cases hm.2

theorem toInt64_injective {m n k : Nat} (hm : m < 2 ^ k) (hn : n < 2 ^ k) (hk : k < 63)
    (h : Int64.ofNat m = Int64.ofNat n) : m = n := by
  have hle : 2 ^ k ≤ 2 ^ 62 := Nat.pow_le_pow_right (by decide) (by omega)
  have hval := congrArg Int64.toInt h
  rw [Int64.toInt_ofNat_of_lt (by omega), Int64.toInt_ofNat_of_lt (by omega)] at hval
  omega

def Slot.Fits (s : Slot) (a : Operand) : Prop :=
  match s with
  | gpW | gpX | gpWsp | gpXsp | fpB | fpH | fpS | fpD | fpQ => ∃ r, a = .reg r
  | vec _ _ => ∃ v, a = .vec v
  | elem _ => ∃ r size lane, a = .elem r size lane
  | list _ => ∃ vs, a = .list vs
  | imm | wideImm _ | wideInvImm _ | logicalImm _ => ∃ v, a = .imm v
  | fimm => ∃ bits, a = .fimm bits
  | fzero => (∃ v, a = .imm v) ∨ ∃ bits, a = .fimm bits
  | mod _ _ => ∃ m, a = .mod m
  | cond | condInv => ∃ c, a = .cond c
  | label => ∃ l, a = .label l
  | memU12 _ | memImm | memPre | memPost | memIdx | memBase => ∃ m, a = .mem m
  | sysReg => ∃ n, a = .sysReg n
  | barrier => ∃ n, a = .barrier n

theorem fits_of_takes {s : Slot} {a : Operand} (h : s.takes a = true) : s.Fits a := by
  cases a with
  | reg r =>
    cases s with
    | gpW | gpX | gpWsp | gpXsp | fpB | fpH | fpS | fpD | fpQ => exact ⟨r, rfl⟩
    | _ => cases h
  | vec v =>
    cases s with
    | vec => exact ⟨v, rfl⟩
    | _ => cases h
  | elem r size lane =>
    cases s with
    | elem => exact ⟨r, size, lane, rfl⟩
    | _ => cases h
  | list vs =>
    cases s with
    | list => exact ⟨vs, rfl⟩
    | _ => cases h
  | imm v =>
    cases s with
    | imm | wideImm | wideInvImm | logicalImm => exact ⟨v, rfl⟩
    | fzero => exact Or.inl ⟨v, rfl⟩
    | _ => cases h
  | fimm bits =>
    simp only [Slot.takes, Bool.or_eq_true, Bool.and_eq_true, beq_iff_eq] at h
    obtain rfl | ⟨rfl, -⟩ := h
    · exact ⟨bits, rfl⟩
    · exact Or.inr ⟨bits, rfl⟩
  | mod m =>
    cases s with
    | mod => exact ⟨m, rfl⟩
    | _ => cases h
  | mem m =>
    have hform := (Bool.and_eq_true_iff.mp h).2
    cases s with
    | memU12 | memImm | memPre | memPost | memIdx | memBase => exact ⟨m, rfl⟩
    | _ => cases hform
  | cond c =>
    simp only [Slot.takes, Bool.or_eq_true, Bool.and_eq_true, beq_iff_eq] at h
    obtain rfl | ⟨rfl, -⟩ := h <;> exact ⟨c, rfl⟩
  | label l =>
    obtain rfl := beq_iff_eq.mp h
    exact ⟨l, rfl⟩
  | barrier n =>
    obtain rfl := beq_iff_eq.mp h
    exact ⟨n, rfl⟩
  | sysReg n =>
    obtain rfl := beq_iff_eq.mp h
    exact ⟨n, rfl⟩

/-- An operand is known by its parts in its slot. -/
theorem alike_of_partsIn {s : Slot} {a b : Operand} (ha : s.takes a = true) (hca : Checked s a)
    (hb : s.takes b = true) (hcb : Checked s b) (h : partsIn s a = partsIn s b) : Alike a b := by
  have hfa := fits_of_takes ha
  have hfb := fits_of_takes hb
  cases s with
  | gpW | gpX | gpWsp | gpXsp | fpB | fpH | fpS | fpD | fpQ =>
    obtain ⟨r, rfl⟩ := hfa
    obtain ⟨r', rfl⟩ := hfb
    cases h
    exact .refl _
  | vec arrs same =>
    obtain ⟨⟨r, a⟩, rfl⟩ := hfa
    obtain ⟨⟨r', a'⟩, rfl⟩ := hfb
    cases h
    exact .refl _
  | elem sizes =>
    obtain ⟨r, size, lane, rfl⟩ := hfa
    obtain ⟨r', size', lane', rfl⟩ := hfb
    cases h
    exact .refl _
  | list arrs =>
    obtain ⟨vs, rfl⟩ := hfa
    obtain ⟨ws, rfl⟩ := hfb
    exact alike_list ha hca hb hcb h
  | imm | wideImm _ | wideInvImm _ | logicalImm _ =>
    obtain ⟨v, rfl⟩ := hfa
    obtain ⟨v', rfl⟩ := hfb
    cases h
    exact .refl _
  | fimm =>
    obtain ⟨bits, rfl⟩ := hfa
    obtain ⟨bits', rfl⟩ := hfb
    cases h
    exact .refl _
  | fzero =>
    rcases hfa with ⟨v, rfl⟩ | ⟨bits, rfl⟩ <;> rcases hfb with ⟨v', rfl⟩ | ⟨bits', rfl⟩ <;>
      cases h <;> exact .refl _
  | mod kinds _ =>
    obtain ⟨m, rfl⟩ := hfa
    obtain ⟨m', rfl⟩ := hfb
    cases h
    exact .refl _
  | cond | condInv =>
    obtain ⟨c, rfl⟩ := hfa
    obtain ⟨c', rfl⟩ := hfb
    cases h
    exact .refl _
  | label =>
    obtain ⟨l, rfl⟩ := hfa
    obtain ⟨l', rfl⟩ := hfb
    cases h
    exact .refl _
  | memU12 _ | memImm | memPre | memPost | memIdx | memBase =>
    obtain ⟨m, rfl⟩ := hfa
    obtain ⟨m', rfl⟩ := hfb
    exact alike_mem ha hb h
  | sysReg =>
    obtain ⟨n, rfl⟩ := hfa
    obtain ⟨n', rfl⟩ := hfb
    simp only [partsIn, List.cons.injEq, Part.imm.injEq, and_true] at h
    rw [UInt16.toNat_inj.mp (toInt64_injective n.toNat_lt n'.toNat_lt (by decide) h)]
    exact .refl _
  | barrier =>
    obtain ⟨n, rfl⟩ := hfa
    obtain ⟨n', rfl⟩ := hfb
    simp only [partsIn, List.cons.injEq, Part.imm.injEq, and_true] at h
    rw [UInt8.toNat_inj.mp (toInt64_injective n.toNat_lt n'.toNat_lt (by decide) h)]
    exact .refl _

end MachineCode.AArch64
