import MachineCode.Proofs.AArch64.Layout
import MachineCode.Proofs.AArch64.Patterns

/-!
Register number 31. In some fields of some instructions it is the stack pointer, in all others the
zero register; which one is decided by fixed bits of the word. Operands keep the two apart, so that
neither is ever encoded where the other would be read, but for the base of a memory operand, where
the zero register is taken.
-/
namespace MachineCode.AArch64

/-- The fixed bits of instructions whose register at a position is the stack pointer if its number
is 31. -/
structure StackField where
  mask : Word
  value : Word
  pos : Nat
  deriving DecidableEq, Repr

namespace StackField

def Matches (f : StackField) (w : Word) : Prop := w &&& f.mask = f.value

instance (f : StackField) (w : Word) : Decidable (f.Matches w) :=
  inferInstanceAs (Decidable (_ = _))

/-- Addition and subtraction of an immediate: the source, and the destination unless the flags are
set. -/
def addImmediate : List StackField := [⟨0x1f800000, 0x11000000, 5⟩, ⟨0x3f800000, 0x11000000, 0⟩]

/-- Addition and subtraction of an extended register. -/
def addExtended : List StackField := [⟨0x1fe00000, 0x0b200000, 5⟩, ⟨0x3fe00000, 0x0b200000, 0⟩]

/-- Logical operations with an immediate: the destination of those that do not set the flags. -/
def logicalImmediate : List StackField :=
  [⟨0x7f800000, 0x12000000, 0⟩, ⟨0x7f800000, 0x32000000, 0⟩, ⟨0x7f800000, 0x52000000, 0⟩]

/-- The base of loads and stores: of one register, of pairs, exclusive and ordered ones, and of
whole vectors. -/
def memoryBase : List StackField :=
  [⟨0x3a000000, 0x38000000, 5⟩, ⟨0x3a000000, 0x28000000, 5⟩, ⟨0x3f000000, 0x08000000, 5⟩,
    ⟨0xbe000000, 0x0c000000, 5⟩]

def all : List StackField := addImmediate ++ addExtended ++ logicalImmediate ++ memoryBase

end StackField

/-- The register at a position of an instruction is the stack pointer if its number is 31. -/
def ReadsStackPointer (w : Word) (pos : Nat) : Prop :=
  ∃ f ∈ StackField.all, f.pos = pos ∧ f.Matches w

def Register.IsZero (r : Register) : Prop :=
  (r.family = Family.w ∨ r.family = Family.x) ∧ r.num = 31

def Register.IsStackPointer (r : Register) : Prop := r.family = Family.wsp ∨ r.family = Family.sp

def Action.home? : Action → Option Nat
  | reg pos | peek pos | elemImm5 pos | list pos => some pos
  | memIndex _ => some 16
  | _ => none

/-- An action puts a register at a position. -/
def Places (parts : List Part) (as : List Action) (r : Register) (pos : Nat) : Prop :=
  ∃ a p ps, (a, p :: ps) ∈ seen parts as ∧ a.home? = some pos ∧ p.register = r

def Operand.registers : Operand → List Register
  | reg r => [r]
  | mem m => if m.index = .absent then [m.base] else [m.base, m.index]
  | _ => []

/-- Whether a register of a kind may be the stack pointer, or else the zero register. -/
def Kind.stack? : Kind → Option Bool
  | .register .gpWsp | .register .gpXsp | .base => some true
  | .register .gpW | .register .gpX | .index => some false
  | _ => none

namespace Template

def Fixes (t : Template) (f : StackField) : Prop :=
  f.Matches t.base ∧ f.mask &&& covered t.stretches = 0

def Excludes (t : Template) (f : StackField) : Prop :=
  (t.base ^^^ f.value) &&& f.mask &&& (t.base ||| ~~~covered t.stretches) ≠ 0

instance (t : Template) (f : StackField) : Decidable (t.Fixes f) :=
  inferInstanceAs (Decidable (_ ∧ _))

instance (t : Template) (f : StackField) : Decidable (t.Excludes f) :=
  inferInstanceAs (Decidable (_ ≠ _))

def Admits (t : Template) (pos : Nat) (k : Kind) : Prop :=
  (k.stack? = some true → ∃ f ∈ StackField.all, f.pos = pos ∧ t.Fixes f) ∧
    (k.stack? = some false → ∀ f ∈ StackField.all, f.pos = pos → t.Excludes f)

instance (t : Template) (pos : Nat) (k : Kind) : Decidable (t.Admits pos k) :=
  inferInstanceAs (Decidable (_ ∧ _))

def Orderly (t : Template) : Prop :=
  ∀ x ∈ seen t.kinds t.actions, ∀ pos ∈ x.1.home?, (∀ s ∈ x.1.stretches, s.read t.base = 0) ∧
    ∀ k ∈ x.2.head?, t.Admits pos k

instance (t : Template) : Decidable t.Orderly :=
  inferInstanceAs (Decidable (∀ x ∈ seen t.kinds t.actions, _))

end Template

theorem entries_orderly : ∀ e ∈ entries, e.template.Orderly := by
  decide +kernel

section Words

variable {t : Template} {fields : List Field} {f : StackField}

/-- Bits that no stretch covers are the fixed ones. -/
theorem agreeOutside_stretches (hlaid : Laid fields)
    (hfields : fields.map (·.1) = t.stretches) :
    AgreeOutside (covered t.stretches) t.base (t.base ||| join fields) := by
  rw [← hfields]
  exact agreeOutside_of_laid t.base hlaid

theorem matches_of_fixes (hlaid : Laid fields) (hfields : fields.map (·.1) = t.stretches)
    (h : t.Fixes f) : f.Matches (t.base ||| join fields) := by
  obtain ⟨hbase, hmask⟩ := h
  exact (and_mask_congr (agreeOutside_stretches hlaid hfields) hmask).trans hbase

theorem not_matches_of_excludes (hlaid : Laid fields) (hfields : fields.map (·.1) = t.stretches)
    (h : t.Excludes f) : ¬ f.Matches (t.base ||| join fields) := by
  intro hmatches
  apply h
  apply BitVec.eq_of_getLsbD_eq
  intro i hi
  have hbit := congrArg (BitVec.getLsbD · i) hmatches
  simp only [BitVec.getLsbD_and, BitVec.getLsbD_or] at hbit
  simp only [BitVec.getLsbD_and, BitVec.getLsbD_or, BitVec.getLsbD_xor, BitVec.getLsbD_not, hi,
    decide_true, Bool.true_and]
  by_cases hb : t.base.getLsbD i = true
  · -- A fixed bit that is set is set in the word.
    rw [hb, Bool.true_or, Bool.true_and] at hbit
    rw [hb, ← hbit]
    cases f.mask.getLsbD i <;> simp
  · by_cases hc : (covered t.stretches).getLsbD i = true
    · simp [hb, hc]
    · have hkeep := agreeOutside_stretches hlaid hfields i hi (Bool.eq_false_iff.mpr hc)
      rw [BitVec.getLsbD_or] at hkeep
      rw [hkeep, Bool.eq_false_iff.mpr hb, Bool.false_and] at hbit
      simp [← hbit, hb]

end Words

theorem num_of_meant {a : Action} {p : Part} {ps : List Part} {pos : Nat} {w : Word}
    (hpos : a.home? = some pos)
    (h : a.meant (p :: ps) = some (a.interpret (a.stretches.map (·.read w)))) :
    Stretch.read ⟨pos, 5⟩ w = p.register.num := by
  cases a with
  | reg _ | peek _ =>
    cases hpos
    cases p with
    | reg r | vec r _ => exact (Reading.register.inj (Option.some.inj h)).symm
    | _ => cases h
  | elemImm5 _ =>
    cases hpos
    cases p with
    | elem r size lane => exact (Reading.element.inj (Option.some.inj h)).1.symm
    | _ => cases h
  | list _ =>
    cases hpos
    cases p with
    | list r arr count => exact (Reading.registers.inj (Option.some.inj h)).1.symm
    | _ => cases h
  | memIndex _ =>
    cases hpos
    cases p with
    | reg r =>
      cases ps with
      | nil => cases h
      | cons q ps =>
        cases q with
        | mod m | absent => exact (Reading.index.inj (Option.some.inj h)).1.symm
        | _ => cases h
    | _ => cases h
  | _ => cases hpos

theorem not_isZero_of_family {r : Register} (hw : r.family ≠ Family.w) (hx : r.family ≠ Family.x) :
    ¬ r.IsZero := fun h => h.1.elim hw hx

theorem not_isStackPointer_of_family {r : Register} (hwsp : r.family ≠ Family.wsp)
    (hsp : r.family ≠ Family.sp) : ¬ r.IsStackPointer := fun h => h.elim hwsp hsp

theorem not_isZero_of_stackSlot {s : Slot} {r : Register} (hs : s = .gpWsp ∨ s = .gpXsp)
    (htakes : s.takesRegister r = true) (hfault : registerFault? s r = none) : ¬ r.IsZero := by
  rintro ⟨hfamily, hnum⟩
  -- The slot does not take the zero register by its name, so the number was chosen at run time.
  have hdynamic : r.isDynamic = true := by
    by_contra hstatic
    rcases hs with rfl | rfl <;> rcases hfamily with hf | hf <;>
      simp [Slot.takesRegister, hf, hnum, hstatic, Family.w, Family.x, Family.wsp, Family.sp]
        at htakes
  unfold registerFault? at hfault
  rw [fault?_of_registerFault? hfault] at hfault
  rcases hs with rfl | rfl <;> rcases hfamily with hf | hf <;>
    simp [hdynamic, hnum, hf] at hfault

theorem stack?_of_holds {k : Kind} {p : Part} (h : k.Holds p) :
    (k.stack? = some true ∧ (k = .base ∨ ¬ p.register.IsZero)) ∨
      (k.stack? = some false ∧ ¬ p.register.IsStackPointer) ∨
      (¬ p.register.IsZero ∧ ¬ p.register.IsStackPointer) := by
  have hother : ∀ {r : Register} {f : Family}, r.family = f → f ≠ Family.w → f ≠ Family.x →
      f ≠ Family.wsp → f ≠ Family.sp → ¬ r.IsZero ∧ ¬ r.IsStackPointer := by
    rintro r f rfl hw hx hwsp hsp
    exact ⟨not_isZero_of_family hw hx, not_isStackPointer_of_family hwsp hsp⟩
  have hgeneral : ∀ {r : Register}, r.family = Family.w ∨ r.family = Family.x →
      ¬ r.IsStackPointer := by
    intro r hr
    rcases hr with hr | hr <;> rintro (h | h) <;> rw [hr] at h <;> cases h
  have habsent : Register.absent.family = 0 := by decide
  cases h with
  | @register s r htakes hfault =>
    cases s with
    | gpWsp => exact Or.inl ⟨rfl, Or.inr (not_isZero_of_stackSlot (Or.inl rfl) htakes hfault)⟩
    | gpXsp => exact Or.inl ⟨rfl, Or.inr (not_isZero_of_stackSlot (Or.inr rfl) htakes hfault)⟩
    | gpW => exact Or.inr (Or.inl ⟨rfl, hgeneral (Or.inl (beq_iff_eq.mp htakes))⟩)
    | gpX => exact Or.inr (Or.inl ⟨rfl, hgeneral (Or.inr (beq_iff_eq.mp htakes))⟩)
    | fpB | fpH | fpS | fpD | fpQ =>
      exact Or.inr (Or.inr (hother (beq_iff_eq.mp htakes) (by decide) (by decide) (by decide)
        (by decide)))
    | _ => cases htakes
  | base hfamily hfault => exact Or.inl ⟨rfl, Or.inl rfl⟩
  | index hfamily hfault => exact Or.inr (Or.inl ⟨rfl, hgeneral hfamily⟩)
  | vec hfamily | elem hfamily | list hfamily =>
    exact Or.inr (Or.inr (hother hfamily (by decide) (by decide) (by decide) (by decide)))
  | _ => exact Or.inr (Or.inr (hother habsent (by decide) (by decide) (by decide) (by decide)))

theorem home_of_consumed {a : Action} {ks : List Kind} {ps : List Part} {r : Register}
    (hk : List.Forall₂ Kind.Holds ks ps) (hs : a.suits ks = true)
    (hr : .reg r ∈ ps.take a.consumed) : ∃ pos ps', a.home? = some pos ∧ ps = .reg r :: ps' := by
  cases a with
  | peek _ | vecQ _ | vecSize _ | vecSz _ | vecImm5 => cases hr
  | reg pos =>
    cases hk with
    | nil => cases hs
    | @cons k p ks ps hp hrest =>
      cases List.mem_singleton.mp hr
      exact ⟨pos, ps, rfl, rfl⟩
  | memIndex scale =>
    rcases paired_of_suits hk hs rfl hr with ⟨v, h⟩ | ⟨m, h⟩ | h | ⟨-, rest, -, -, rfl, -⟩
    · cases h
    · cases h
    · cases h
    · exact ⟨16, rest, rfl, rfl⟩
  | addImm | wide _ | extract _ | insert _ =>
    rcases paired_of_suits hk hs rfl hr with ⟨v, h⟩ | ⟨m, h⟩ | h | ⟨-, -, scale, -, -, h⟩ <;>
      cases h
  | _ =>
    cases hk with
    | nil => cases hs
    | cons hp hrest =>
      cases List.mem_singleton.mp hr
      cases hp <;> cases hs

/-- Only memory operands have a part of the kind of a base. -/
theorem base_of_takes {s : Slot} {a : Operand} (htakes : s.takes a = true) (hc : Checked s a) :
    List.Forall₂ (fun k p => k.Holds p ∧ (k = .base → ∃ m, a = .mem m ∧ p = .reg m.base))
      s.kinds (partsIn s a) := by
  have hholds := holds_of_takes htakes hc
  have hfits := fits_of_takes htakes
  cases s with
  | memBase =>
    obtain ⟨m, rfl⟩ := hfits
    cases hholds with
    | cons hb hrest => exact .cons ⟨hb, fun _ => ⟨m, rfl, rfl⟩⟩ .nil
  | memU12 _ | memImm | memPre | memPost =>
    obtain ⟨m, rfl⟩ := hfits
    cases hholds with
    | cons hb hrest =>
      cases hrest with
      | cons hv hnil =>
        exact .cons ⟨hb, fun _ => ⟨m, rfl, rfl⟩⟩ (.cons ⟨hv, fun hk => by cases hk⟩ .nil)
  | memIdx =>
    obtain ⟨m, rfl⟩ := hfits
    cases hholds with
    | cons hb hrest =>
      cases hrest with
      | cons hi hrest =>
        cases hrest with
        | cons hm hnil =>
          exact .cons ⟨hb, fun _ => ⟨m, rfl, rfl⟩⟩
            (.cons ⟨hi, fun hk => by cases hk⟩ (.cons ⟨hm, fun hk => by cases hk⟩ .nil))
  | _ =>
    generalize partsIn _ a = ps at hholds ⊢
    cases hholds with
    | cons hk hnil =>
      cases hnil
      exact .cons ⟨hk, fun hk => by cases hk⟩ .nil

namespace Seated

variable {slots : List Slot} {args : List Operand} {parts : List Part}

theorem register (h : Seated slots args parts) {a : Operand} (ha : a ∈ args) {r : Register}
    (hr : r ∈ a.registers) : .reg r ∈ parts := by
  obtain ⟨s, hsa⟩ := h.exists_slot ha
  obtain ⟨htakes, -, hparts⟩ := h.zip hsa
  apply hparts
  cases a with
  | reg r' =>
    cases List.mem_singleton.mp hr
    exact List.mem_singleton_self _
  | mem m =>
    have hbase : .reg m.base ∈ partsIn s (.mem m) := by
      cases s <;> exact List.mem_cons_self
    have hindex : m.index ≠ .absent → .reg m.index ∈ partsIn s (.mem m) := by
      intro hne
      have hslot : s = .memIdx := by
        cases s <;> simp_all [Slot.takes, Slot.takesMem]
      subst hslot
      exact List.mem_cons_of_mem _ List.mem_cons_self
    dsimp only [Operand.registers] at hr
    split at hr
    · cases List.mem_singleton.mp hr
      exact hbase
    next hne =>
      rcases List.mem_cons.mp hr with rfl | hr
      · exact hbase
      · cases List.mem_singleton.mp hr
        exact hindex hne
  | _ => cases hr

/-- A part of the kind of a base is the base of a memory operand. -/
theorem base (h : Seated slots args parts) :
    List.Forall₂ (fun k p => k.Holds p ∧ (k = .base → ∃ m, .mem m ∈ args ∧ p = .reg m.base))
      (slots.flatMap (·.kinds)) parts := by
  induction h with
  | nil => exact .nil
  | @omitted s hoptional =>
    cases s with
    | mod kinds _ => exact .cons ⟨.omitted kinds, fun hk => by cases hk⟩ .nil
    | _ => cases hoptional
  | @cons s ss a as ps htakes hchecked hrest ih =>
    rw [List.flatMap_cons]
    have hfront := base_of_takes htakes hchecked
    refine List.rel_append (hfront.imp fun k p hkp => ⟨hkp.1, fun hk => ?_⟩)
      (ih.imp fun k p hkp => ⟨hkp.1, fun hk => ?_⟩)
    · obtain ⟨m, rfl, hp⟩ := hkp.2 hk
      exact ⟨m, List.mem_cons_self, hp⟩
    · obtain ⟨m, hm, hp⟩ := hkp.2 hk
      exact ⟨m, List.mem_cons_of_mem _ hm, hp⟩

end Seated

/-- Register number 31 of an encoded instruction is the stack pointer exactly where an operand
names it, unless a memory operand has the zero register for its base. -/
theorem register_31_told_apart {mnemonic : String} {given : List (Given Operand)}
    {e : Encoded Reloc} (hbase : ∀ m, .operand (.mem m) ∈ given → ¬ m.base.IsZero)
    (h : encode mnemonic given = .ok e) :
    ∃ t args parts w, Chosen mnemonic given t args ∧ Seated t.slots args parts ∧
      e.code = Bytes.ofWord w ∧
      (∀ a ∈ args, ∀ r ∈ a.registers, ∃ pos, Places parts t.actions r pos) ∧
      ∀ r pos, Places parts t.actions r pos → Stretch.read ⟨pos, 5⟩ w = r.num ∧
        (r.IsZero → ¬ ReadsStackPointer w pos) ∧ (r.IsStackPointer → ReadsStackPointer w pos) := by
  obtain ⟨t, args, parts, s', nss, hchosen, -, hseated, hsound, hran, rfl⟩ := filled_of_encode h
  obtain ⟨entry, hentry, rfl, -⟩ := hchosen.exists_entry
  have horderly := entries_orderly entry hentry
  have hlength := hsound.length_le hseated
  refine ⟨entry.template, args, parts, s'.word, hchosen, hseated, rfl, ?_, ?_⟩
  · intro a ha r hr
    obtain ⟨⟨b, ps⟩, hx, hmem⟩ := exists_seen hlength (hseated.register ha hr)
    obtain ⟨ks, hks, hholds⟩ := exists_kinds hseated.holds hx
    obtain ⟨pos, ps', hpos, rfl⟩ := home_of_consumed hholds (hsound.suited _ hks) hmem
    exact ⟨pos, b, _, ps', hx, hpos, rfl⟩
  · rintro r pos ⟨a, p, ps, hx, hpos, rfl⟩
    obtain ⟨ks, hks, hholds⟩ := exists_kinds hseated.base hx
    cases hholds with
    | @cons k _ ks _ hk _ =>
      obtain ⟨hclear, hadmits⟩ := horderly _ hks pos hpos
      obtain ⟨hstack, hzero⟩ := hadmits k rfl
      have hfields := Ran.map_fieldsOf hran.tells
      have hlaid := Ran.laid hsound hran.tells
      have hmeant := meant_eq hsound hran hx hclear (by rintro rfl; cases hpos)
      refine ⟨num_of_meant hpos hmeant, ?_, ?_⟩
      · rintro hr ⟨f, hf, hfpos, hmatches⟩
        rw [hran.word] at hmatches
        rcases stack?_of_holds hk.1 with ⟨-, rfl | hnot⟩ | ⟨hkind, -⟩ | ⟨hnot, -⟩
        · -- The base is the one register that nothing else keeps from being the zero register.
          obtain ⟨m, hm, rfl⟩ := hk.2 rfl
          rcases hchosen.mem hm with hm | ⟨c, hc⟩
          · exact hbase m hm hr
          · cases hc
        · exact hnot hr
        · exact not_matches_of_excludes hlaid hfields (hzero hkind f hf hfpos) hmatches
        · exact hnot hr
      · intro hr
        rw [hran.word]
        rcases stack?_of_holds hk.1 with ⟨hkind, -⟩ | ⟨-, hnot⟩ | ⟨-, hnot⟩
        · obtain ⟨f, hf, hfpos, hfixes⟩ := hstack hkind
          exact ⟨f, hf, hfpos, matches_of_fixes hlaid hfields hfixes⟩
        · exact absurd hr hnot
        · exact absurd hr hnot

def pushedZero : List (Given Operand) :=
  [.operand (.reg (.of Family.x 31)),
    .operand (.mem { base := .of Family.sp 31, offset := -16, mode := .preIndex })]

theorem register_31_told_apart_pushed :
    (∀ m, .operand (.mem m) ∈ pushedZero → ¬ m.base.IsZero) ∧
      encode "str" pushedZero = .ok ⟨Bytes.ofWord 0xf81f0fff#32, []⟩ ∧
      ∃ t args parts w, Chosen "str" pushedZero t args ∧ Seated t.slots args parts ∧
        Bytes.ofWord 0xf81f0fff#32 = Bytes.ofWord w ∧
        (∀ a ∈ args, ∀ r ∈ a.registers, ∃ pos, Places parts t.actions r pos) ∧
        ∀ r pos, Places parts t.actions r pos → Stretch.read ⟨pos, 5⟩ w = r.num ∧
          (r.IsZero → ¬ ReadsStackPointer w pos) ∧
          (r.IsStackPointer → ReadsStackPointer w pos) := by
  have hbase : ∀ m, .operand (.mem m) ∈ pushedZero → ¬ m.base.IsZero := by
    intro m hm
    simp only [pushedZero, List.mem_cons, Given.operand.injEq, List.not_mem_nil, or_false,
      reduceCtorEq, Operand.mem.injEq, false_or] at hm
    subst hm
    exact not_isZero_of_family (by decide) (by decide)
  have hok : encode "str" pushedZero = .ok ⟨Bytes.ofWord 0xf81f0fff#32, []⟩ := by decide +kernel
  exact ⟨hbase, hok, register_31_told_apart hbase hok⟩

/-- A load from the zero register is a load from the stack pointer. -/
theorem counterexample_zero_base :
    (Register.of Family.x 31).IsZero ∧
      encode "ldr" [.operand (.reg (.of Family.x 0)), .operand (.mem { base := .of Family.x 31 })] =
        .ok ⟨Bytes.ofWord 0xf94003e0#32, []⟩ ∧
      Stretch.read ⟨5, 5⟩ 0xf94003e0#32 = 31 ∧ ReadsStackPointer 0xf94003e0#32 5 :=
  ⟨⟨Or.inr (by decide), by decide⟩, by decide +kernel, by decide,
    ⟨0x3a000000, 0x38000000, 5⟩, by decide, rfl, by decide⟩

end MachineCode.AArch64
