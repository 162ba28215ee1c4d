import MachineCode.Proofs.X86.Families
import MachineCode.Proofs.X86.OperandSizes
import MachineCode.Proofs.X86.RegisterFields

/-!
The order of operands. Of a register and an operand of another sort, an instruction that has forms
for both orders has opcodes that tell them apart. Where two forms share an opcode, the numbers of
the registers tell the order, or one of the forms is never used.
-/
namespace MachineCode.X86

/-! ### Sorts of operands -/

def SlotKind.takesClass (k : SlotKind) (c : RegClass) : Bool :=
  match k with
  | .gpr | .gprOrMem => c == .legacy || c == .highByte
  | .fixed _ => c == .legacy
  | .mmx | .mmxOrMem => c == .mmx
  | .vector | .vectorOrMem => c == .xmm || c == .ymm
  | .fpu | .st0 => c == .fpu
  | .segment | .fixedSegment _ => c == .segment
  | .control | .cr8 => c == .control
  | .debug => c == .debug
  | .bound => c == .bound
  | _ => false

namespace Slot

def takesRegWidth (s : Slot) (n : Nat) : Bool :=
  match s.size with
  | .any => s.kind.takesWidth n
  | .unsized => false
  | size => size.bytes == n

def takesSort (s : Slot) : Option RegClass → Bool
  | some c => s.kind.takesClass c && c.widths.any s.takesRegWidth
  | none => s.kind.takesMem

def covers (s t : Slot) : Bool :=
  s.size == t.size && s.size != .any &&
    (s.kind == .gpr && t.kind == .gpr || s.kind == .control && t.kind == .cr8)

end Slot

def Operand.IsOf : Operand → Option RegClass → Prop
  | .reg r, some c => r.IsGiven ∧ r.class? = some c
  | .mem _, none => True
  | _, _ => False

section Sorts

variable {k : SlotKind} {s : Slot} {r : Register} {c : RegClass} {a : Operand}
  {o : Option RegClass} {exact : Bool}

theorem SlotKind.takesClass_of_takes (h : k.takes (.reg r) = true) (hc : r.class? = some c) :
    k.takesClass c = true := by
  cases k with
  | cr8 =>
    obtain rfl : r = Register.cr8 := by simpa [takes, Operand.reg?] using h
    obtain rfl := Option.some.inj hc
    rfl
  | st0 =>
    obtain rfl : r = Register.st0 := by simpa [takes, Operand.reg?] using h
    obtain rfl := Option.some.inj hc
    rfl
  | _ =>
    simp_all [takes, takesClass, Operand.reg?, Operand.mem?, Register.isClass,
      Register.isGeneral, Register.isVector]

theorem Slot.takesRegWidth_of_takes (h : s.takes (.reg r) exact = true) :
    s.takesRegWidth r.width = true := by
  have hsize := (Bool.and_eq_true_iff.mp h).2
  unfold Slot.takesSize at hsize
  unfold Slot.takesRegWidth
  exact hsize

theorem Slot.takesSort_of_takes (h : s.takes a exact = true) (ha : a.IsOf o) :
    s.takesSort o = true := by
  cases a with
  | reg r =>
    cases o with
    | none => cases ha
    | some c =>
      obtain ⟨hgiven, hclass⟩ := ha
      have hkind := SlotKind.takesClass_of_takes (Bool.and_eq_true_iff.mp h).1 hclass
      have hwidth : c.widths.any s.takesRegWidth = true :=
        List.any_eq_true.mpr ⟨_, hgiven.width_mem hclass, Slot.takesRegWidth_of_takes h⟩
      exact Bool.and_eq_true_iff.mpr ⟨hkind, hwidth⟩
  | mem m =>
    cases o with
    | none => exact (Slot.takes_mem h).1
    | some c => cases ha
  | _ => cases o <;> cases ha

theorem Operand.IsOf.eq_reg (h : a.IsOf (some c)) : ∃ r, a = .reg r ∧ r.class? = some c := by
  cases a with
  | reg r => exact ⟨r, rfl, h.2⟩
  | _ => cases h

theorem Operand.IsOf.eq_mem (h : a.IsOf none) : ∃ m, a = .mem m := by
  cases a with
  | mem m => exact ⟨m, rfl⟩
  | _ => cases h

theorem Slot.eq_none_of_takesSort (hs : s.kind = .mem) (h : s.takesSort o = true) : o = none := by
  unfold Slot.takesSort at h
  rw [hs] at h
  cases o with
  | none => rfl
  | some c => cases h

theorem Slot.eq_segment_of_takesSort (hs : s.kind = .segment) (h : s.takesSort o = true) :
    o = some .segment := by
  unfold Slot.takesSort at h
  rw [hs] at h
  cases o with
  | none => cases h
  | some c =>
    have hclass := (Bool.and_eq_true_iff.mp h).1
    exact congrArg some (beq_iff_eq.mp hclass)

def SameSort (a a' : Operand) : Prop :=
  (∀ o, a.IsOf o → a'.IsOf o) ∧ ∀ r, a = .reg r → a' = .reg r

theorem Settled.sameSort {mode : Mode} {ops settled : List Operand} {size : Nat}
    (h : Settled mode ops settled size) : List.Forall₂ SameSort ops settled := by
  have hrefl : ∀ l : List Operand, List.Forall₂ SameSort l l := fun l =>
    List.forall₂_same.mpr fun _ _ => ⟨fun _ ha => ha, fun _ ha => ha⟩
  cases h with
  | absent h => exact hrefl _
  | present hfront h =>
    refine List.rel_append (hrefl _) (.cons ⟨fun o ho => ?_, nofun⟩ (hrefl _))
    cases o with
    | none => trivial
    | some c => cases ho

theorem SameSort.register {x : Register} {settled : List Operand}
    (h : List.Forall₂ SameSort [.reg x, a] settled) : ∃ a', settled = [.reg x, a'] := by
  rcases h with _ | ⟨hx, h⟩
  rcases h with _ | ⟨-, h⟩
  cases h
  exact ⟨_, by rw [hx.2 x rfl]⟩

theorem SameSort.registers {x y : Register} {settled : List Operand}
    (h : List.Forall₂ SameSort [.reg x, .reg y] settled) : settled = [.reg x, .reg y] := by
  rcases h with _ | ⟨hx, h⟩
  rcases h with _ | ⟨hy, h⟩
  cases h
  rw [hx.2 x rfl, hy.2 y rfl]

end Sorts

/-! ### Forms that take two operands in either order -/

namespace Form

/-- Whether a form takes a register and an operand of another sort that another form takes in the
other order. -/
def swaps (f g : Form) : Bool :=
  match f.slots, g.slots with
  | [s, t], [s', t'] =>
    RegClass.all.any fun c => s.takesSort (some c) && t'.takesSort (some c) &&
      (none :: RegClass.all.map some).any fun o => o != some c && t.takesSort o && s'.takesSort o
  | _, _ => false

def wide? (f : Form) : Option Bool :=
  if f.has .withRexW then some true else if f.sizes then none else some false

def isPlain (f : Form) : Bool := f.varies && f.code.headD 0 != 0x9b && !f.has .shortArg

/-- Whether the codes of two forms differ, whatever their operands. -/
def apart (f g : Form) : Bool :=
  f.isPlain && g.isPlain &&
    (f.isVector != g.isVector ||
      (if f.isVector then
        f.has .vex != g.has .vex ||
          (f.code.headD 0).toNat % 32 != (g.code.headD 0).toNat % 32 || f.code.tail != g.code.tail
      else f.code != g.code) ||
      f.wide?.any fun w => g.wide?.any (· != w))

/-- Whether a form has the operand size prefix for all registers with which another form has
none. -/
def showsWord (f g : Form) : Bool :=
  match f.slots, g.slots with
  | [s, t], [_, t'] =>
    f.isPlain && g.isPlain && !f.isVector && !g.isVector && s == .ra && t.size != .any &&
      t'.size == .word && f.flags == [.autoSize] && g.flags.isEmpty
  | _, _ => false

/-- Whether registers of differing classes in the slots are bytes, or vectors of one size. -/
def isUniform (f : Form) : Bool :=
  (!f.isVector &&
      f.slots.all (fun s => (s.kind == .gpr || s.kind == .gprOrMem) && s.size == .byte) ||
    f.slots.all fun s => (s.kind == .vector || s.kind == .vectorOrMem) && s.size == .any) &&
      f.slots.countP (·.kind.takesMem) ≤ 1

def covers (f g : Form) : Bool :=
  f.features == g.features && (!f.has .x86Only || g.has .x86Only) &&
    f.slots.length == g.slots.length && (f.slots.zip g.slots).all fun (s, t) => s.covers t

end Form

namespace Family

/-- Whether an earlier form takes whatever a form takes. -/
def shadows (F : Family) (x : Form × Nat) : Bool :=
  F.forms.zipIdx.any fun z => z.2 < x.2 && z.1.covers x.1

/-- Whether two forms keep the order of operands, or are known not to. -/
def keepsOrder (F : Family) (x y : Form × Nat) : Bool :=
  x.1.apart y.1 || !x.1.swaps y.1 || (x.1 == y.1 && x.1.isUniform) || F.shadows x || F.shadows y ||
    x.1.showsWord y.1 || y.1.showsWord x.1 || F.name == "XCHG" || F.name == "TEST" ||
      (F.name == "MOV" && x.1.slots.any (·.kind == .segment) && x.1.slots.any (·.kind == .mem))

def pairs (F : Family) : List (Form × Nat) := F.forms.zipIdx.filter (·.1.slots.length == 2)

end Family

theorem families_keepOrder :
    ∀ F ∈ families, ∀ x ∈ F.pairs, ∀ y ∈ F.pairs, F.keepsOrder x y = true := by
  -- Few forms take operands in both orders, so all else is only asked about those.
  have hswaps : ∀ F ∈ families, ∀ x ∈ F.pairs, ∀ y ∈ F.pairs, x.1.swaps y.1 = true →
      F.keepsOrder x y = true := by
    decide +kernel
  intro F hF x hx y hy
  cases h : x.1.swaps y.1 with
  | false => simp [Family.keepsOrder, h]
  | true => exact hswaps F hF x hx y hy h

/-! ### What tells the order -/

section Order

variable {c : Matcher} {inst : Inst} {ops ops' settled settled' : List Operand} {m m' : Match}
  {b b' : UInt8} {enc enc' : Encoded Reloc}

theorem Form.wide_of_sizeBits {bits : SizeBits} (hbits : m.sizeBits = .ok bits) {w : Bool}
    (hw : m.form.wide? = some w) : bits.wide = w := by
  obtain ⟨auto, hauto, rfl⟩ := map_eq_ok hbits
  unfold Form.wide? at hw
  dsimp only
  cases hrexW : m.form.has .withRexW with
  | true =>
    rw [hrexW] at hw
    rw [Bool.or_true]
    exact Option.some.inj hw
  | false =>
    rw [hrexW, if_neg Bool.false_ne_true] at hw
    split at hw
    · cases hw
    next hsizes =>
      rcases Match.autoSize_cases hauto with ⟨-, rfl⟩ | ⟨n, hn, hchooses⟩
      · rw [← Option.some.inj hw]
        rfl
      · exact absurd hchooses.sizes hsizes

theorem ne_of_apart (h : Matched c inst ops settled m) (h' : Matched c inst ops' settled' m')
    (hone : OneMem ops) (hone' : OneMem ops') (hgiven : ∀ a ∈ memories ops, a.IsGiven)
    (hgiven' : ∀ a ∈ memories ops', a.IsGiven) (hapart : m.form.apart m'.form = true)
    (hemit : m.emit b = .ok enc) (hemit' : m'.emit b' = .ok enc') : enc.code ≠ enc'.code := by
  intro hcode
  unfold Form.apart Form.isPlain at hapart
  simp only [Bool.and_eq_true, bne_iff_ne, Bool.not_eq_true'] at hapart
  obtain ⟨⟨⟨⟨hvaries, hwait⟩, hshort⟩, ⟨hvaries', hwait'⟩, hshort'⟩, hapart⟩ := hapart
  obtain ⟨bits, hbits, hframed⟩ := h.framed hone hgiven hvaries (fun h => absurd h hwait) hemit
  obtain ⟨bits', hbits', hframed'⟩ :=
    h'.framed hone' hgiven' hvaries' (fun h => absurd h hwait') hemit'
  rw [hcode] at hframed
  have hvector := hframed.vector.symm.trans hframed'.vector
  have hwide : m.form.wide?.any (fun w => m'.form.wide?.any (· != w)) = false := by
    cases hw : m.form.wide? with
    | none => rfl
    | some w =>
      cases hw' : m'.form.wide? with
      | none => rfl
      | some w' =>
        have heq : w = w' := by
          rw [← Form.wide_of_sizeBits hbits hw, ← Form.wide_of_sizeBits hbits' hw',
            ← hframed.wide hwait, ← hframed'.wide hwait']
        simp [heq]
  rw [hwide, Bool.or_false] at hapart
  cases hv : m.form.isVector <;> cases hv' : m'.form.isVector <;> rw [hv, hv'] at hapart hvector
  · have hop := (hframed.opcode hv hwait).symm.trans (hframed'.opcode hv' hwait')
    unfold Match.opcode Form.codeWith at hop
    rw [hshort, hshort', if_neg Bool.false_ne_true, if_neg Bool.false_ne_true] at hop
    simp [hop] at hapart
  · cases hvector
  · cases hvector
  · have hop := (hframed.tail hv).symm.trans (hframed'.tail hv')
    have hfields := Option.some.inj hvector
    unfold Match.vectorPrefix at hfields
    simp only [VectorPrefix.mk.injEq] at hfields
    rw [if_pos rfl, hfields.1, hfields.2.1, hop] at hapart
    simp at hapart

theorem SizeVotes.add_reg {name : String} {v : SizeVotes} {s : Slot} {r : Register}
    (hs : s.size = .any) : v.add name s (.reg r) =
      match v.operand with
      | none => .ok { v with anyOperand := true, operand := some r.width }
      | some u =>
        if u = r.width then .ok { v with anyOperand := true }
        else .error (.operandSizes name u r.width) := by
  unfold add
  rw [if_neg (not_not.mpr hs)]
  cases v.operand <;> rfl

theorem SizeVotes.add_sized {name : String} {v : SizeVotes} {s : Slot} {a : Operand}
    (hs : s.size ≠ .any) : v.add name s a = .ok v := by
  unfold add
  exact if_pos hs

section Pair

variable {mode : Mode} {f : Form} {s after : Scratch} {size : Option Nat} {x y : Register}
  {a a' : Operand} {t t' : Slot}

theorem votes_of_resizeArgs (hslots : f.slots = [t, t']) (hops : s.operands = [a, a'])
    (h : s.resizeArgs mode f = (after, .ok size)) : ∃ first votes imm,
      ({} : SizeVotes).add s.inst.name t a = .ok first ∧
      first.add s.inst.name t' a' = .ok votes ∧
      settleSizes s.inst.name mode f votes = .ok (size, imm) := by
  unfold Scratch.resizeArgs at h
  split at h
  · cases h
  next operandSize imm hsizes =>
    obtain rfl : operandSize = size := by
      split at h
      · cases h
      · exact Except.ok.inj (Prod.mk.inj h).2
    obtain ⟨votes, hvotes, hsettle⟩ := bind_eq_ok hsizes
    unfold SizeVotes.collect at hvotes
    rw [hslots, hops, List.zip_cons_cons, List.zip_cons_cons, List.zip_nil_left] at hvotes
    obtain ⟨first, hfirst, hvotes⟩ := bind_eq_ok hvotes
    obtain ⟨second, hsecond, hvotes⟩ := bind_eq_ok hvotes
    obtain rfl := Except.ok.inj hvotes
    exact ⟨first, second, imm, hfirst, hsecond, hsettle⟩

theorem width_eq_of_sized (hslots : f.slots = [t, t']) (hops : s.operands = [.reg x, .reg y])
    (ht : t.size = .any) (ht' : t'.size = .any) (h : s.resizeArgs mode f = (after, .ok size)) :
    x.width = y.width := by
  obtain ⟨first, votes, imm, hfirst, hvotes, -⟩ := votes_of_resizeArgs hslots hops h
  obtain rfl := Except.ok.inj ((SizeVotes.add_reg ht).symm.trans hfirst)
  exact (ok_of_when ((SizeVotes.add_reg ht').symm.trans hvotes)).1

/-- A register in the only slot for any size has the operand size. -/
theorem operandSize_of_sized (hslots : f.slots = [t, t']) (hops : s.operands = [.reg x, a])
    (ht : t.size = .any) (ht' : t'.size ≠ .any) (h : s.resizeArgs mode f = (after, .ok size)) :
    size = some x.width := by
  obtain ⟨first, votes, imm, hfirst, hvotes, hsettle⟩ := votes_of_resizeArgs hslots hops h
  obtain rfl := Except.ok.inj ((SizeVotes.add_reg ht).symm.trans hfirst)
  obtain rfl := Except.ok.inj ((SizeVotes.add_sized ht').symm.trans hvotes)
  unfold settleSizes at hsettle
  simp only [Option.some_or, ite_self, Option.any_none, Bool.false_eq_true, if_false] at hsettle
  exact (Prod.mk.inj (Except.ok.inj hsettle)).1.symm

end Pair

/-- A high byte and another byte can not both be in places whose numbers are swapped. -/
theorem ne_of_bytes (h : Matched c inst ops settled m) (h' : Matched c inst ops' settled' m')
    (hone : OneMem ops) (hone' : OneMem ops') (hform : m.form = m'.form) {x y : Register}
    (hops : ops = [.reg x, .reg y]) (hops' : ops' = [.reg y, .reg x]) (hx : x.IsGiven)
    (hy : y.IsGiven) {s t : Slot} (hvector : m.form.isVector = false)
    (hslots : m.form.slots = [s, t]) (himplied : s.kind.isImplied = false)
    (hhigh : x.class? = some .highByte) (hlegacy : y.class? = some .legacy) (hwidth : y.width = 1)
    (hemit : m.emit b = .ok enc) (hemit' : m'.emit b' = .ok enc') : enc.code ≠ enc'.code := by
  intro hcode
  have hnone : memories ops = [] ∧ memories ops' = [] := by
    rw [hops, hops']
    exact ⟨rfl, rfl⟩
  have hregs : ∀ r, .reg r ∈ ops ∨ .reg r ∈ ops' → r.IsGiven := by
    rw [hops, hops']
    intro r hr
    simp only [List.mem_cons, Operand.reg.injEq, List.not_mem_nil, or_false] at hr
    rcases hr with (rfl | rfl) | rfl | rfl <;> assumption
  have hread := h.registersRead hone (by rw [hnone.1]; exact nofun) (fun r hr => hregs r (.inl hr))
    hemit
  have hread' := h'.registersRead hone' (by rw [hnone.2]; exact nofun)
    (fun r hr => hregs r (.inr hr)) hemit'
  have hmode : m.mode = m'.mode := h.mode.trans h'.mode.symm
  obtain ⟨q, hq, hfield⟩ := hread.fields 0 s x (by rw [hslots]; rfl) (by rw [hops]; rfl) himplied
  obtain ⟨q', hq', hfield'⟩ := hread'.fields 0 s y (by rw [← hform, hslots]; rfl)
    (by rw [hops']; rfl) himplied
  rw [← hform, hq] at hq'
  obtain rfl := Option.some.inj hq'
  rw [← hform, ← hmode, ← hcode, hfield] at hfield'
  have hnum : x.num = y.num := Option.some.inj hfield'
  have hnumber : 4 ≤ x.num ∧ x.num < 8 := by
    obtain ⟨c, hc, hnumber⟩ := hx.exists_class
    obtain rfl := Option.some.inj (hhigh.symm.trans hc)
    simpa [RegClass.hasNumber] using hnumber
  have hlow : y.isLowByte = true := by
    simp [Register.isLowByte, Register.isClass, hlegacy, hwidth, ← hnum]
    omega
  have hmem : .reg x ∈ ops ∧ .reg y ∈ ops := by
    rw [hops]
    simp
  have hrex := hread.lowByte y hmem.2 hlow hvector
  rw [hread.highByte x hmem.1 hhigh] at hrex
  cases hrex

end Order

/-! ### Forms that are never used -/

section Shadows

variable {c : Matcher} {s : Scratch} {addrSize : Nat} {m : Match} {f : Form} {mode : Mode}

theorem Slot.takes_of_covers {s t : Slot} {a : Operand} {exact : Bool} (exact' : Bool)
    (hcovers : s.covers t = true) (h : t.takes a exact = true) :
    s.takes a exact' = true ∧ s.size ≠ .any ∧ ∃ r, a = .reg r := by
  unfold Slot.covers at hcovers
  simp only [Bool.and_eq_true, Bool.or_eq_true, beq_iff_eq, bne_iff_ne] at hcovers
  obtain ⟨⟨hsize, hany⟩, hkind⟩ := hcovers
  obtain ⟨htakes, hfits⟩ := Bool.and_eq_true_iff.mp h
  have hreg : ∃ r, a = .reg r ∧ s.kind.takes (.reg r) = true := by
    rcases hkind with ⟨hs, ht⟩ | ⟨hs, ht⟩ <;> rw [ht] at htakes <;> rw [hs]
    · cases a with
      | reg r => exact ⟨r, rfl, htakes⟩
      | _ => cases htakes
    · cases a with
      | reg r =>
        obtain rfl : r = Register.cr8 := by simpa [SlotKind.takes, Operand.reg?] using htakes
        exact ⟨_, rfl, by decide⟩
      | _ => cases htakes
  obtain ⟨r, rfl, hs⟩ := hreg
  refine ⟨Bool.and_eq_true_iff.mpr ⟨hs, ?_⟩, hany, r, rfl⟩
  unfold Slot.takesSize at hfits ⊢
  rw [← hsize] at hfits
  dsimp only at hfits ⊢
  cases hs : s.size <;> rw [hs] at hfits <;> first | exact hfits | exact absurd hs hany

theorem collect_of_sized {name : String} {xs : List (Slot × Operand)}
    (h : ∀ x ∈ xs, x.1.size ≠ .any) : SizeVotes.collect name xs = .ok {} := by
  unfold SizeVotes.collect
  generalize ({} : SizeVotes) = votes
  induction xs with
  | nil => rfl
  | cons x xs ih =>
    rw [List.foldlM_cons]
    dsimp only
    rw [SizeVotes.add_sized (h x List.mem_cons_self), ok_bind]
    exact ih fun y hy => h y (List.mem_cons_of_mem _ hy)

theorem resizeHeld_of_registers {name : String} {operand : Option Nat} {imm : Nat}
    {slots : List Slot} {args : List Held} (h : ∀ x ∈ args, ∃ r, x = .plain (.reg r)) :
    resizeHeld name operand imm slots args = (args, none) := by
  induction args generalizing slots with
  | nil => cases slots <;> simp [resizeHeld]
  | cons x args ih =>
    obtain ⟨r, rfl⟩ := h x List.mem_cons_self
    cases slots with
    | nil => rfl
    | cons slot slots =>
      rw [resizeHeld]
      dsimp only [resize]
      rw [ih fun y hy => h y (List.mem_cons_of_mem _ hy)]

theorem resizeArgs_of_registers (hslots : ∀ t ∈ f.slots, t.size ≠ .any)
    (hops : ∀ a ∈ s.operands, ∃ r, a = .reg r) : s.resizeArgs mode f = (s, .ok none) := by
  have hsizes : sizesIn s.inst.name mode f s.operands = .ok (none, 4) := by
    unfold sizesIn
    rw [collect_of_sized fun x hx => hslots _ (List.of_mem_zip hx).1]
    rfl
  have hargs : ∀ x ∈ s.args, ∃ r, x = .plain (.reg r) := by
    intro x hx
    obtain ⟨r, hr⟩ := hops _ (List.mem_map_of_mem hx)
    cases x with
    | plain a => exact ⟨r, congrArg Held.plain hr⟩
    | memory => cases hr
  unfold Scratch.resizeArgs
  rw [hsizes]
  dsimp only
  rw [resizeHeld_of_registers hargs]

theorem takes_of_covers {exact : Bool} (exact' : Bool) {ss ts : List Slot} {ops : List Operand}
    (hlength : ss.length = ts.length) (hlength' : ts.length = ops.length)
    (hcovers : ((ss.zip ts).all fun (s, t) => s.covers t) = true)
    (htakes : ∀ x ∈ ts.zip ops, x.1.takes x.2 exact = true) :
    (∀ x ∈ ss.zip ops, x.1.takes x.2 exact' = true) ∧ (∀ s ∈ ss, s.size ≠ .any) ∧
      ∀ a ∈ ops, ∃ r, a = .reg r := by
  induction ops generalizing ss ts with
  | nil =>
    obtain rfl := List.length_eq_zero_iff.mp hlength'
    obtain rfl := List.length_eq_zero_iff.mp hlength
    exact ⟨by simp, by simp, by simp⟩
  | cons a ops ih =>
    obtain ⟨t, ts, rfl⟩ := List.exists_cons_of_length_eq_add_one hlength'
    obtain ⟨s, ss, rfl⟩ := List.exists_cons_of_length_eq_add_one hlength
    rw [List.zip_cons_cons, List.all_cons, Bool.and_eq_true] at hcovers
    rw [List.zip_cons_cons, List.forall_mem_cons] at htakes
    obtain ⟨hs, hsize, hreg⟩ := Slot.takes_of_covers exact' hcovers.1 htakes.1
    obtain ⟨hss, hsizes, hregs⟩ := ih (Nat.succ.inj hlength) (Nat.succ.inj hlength') hcovers.2
      htakes.2
    rw [List.zip_cons_cons]
    exact ⟨List.forall_mem_cons.mpr ⟨hs, hss⟩, List.forall_mem_cons.mpr ⟨hsize, hsizes⟩,
      List.forall_mem_cons.mpr ⟨hreg, hregs⟩⟩

theorem candidate_of_covers (h : Candidate c s addrSize m) (hcovers : f.covers m.form = true)
    {name : String} {k : Nat} (hrow : ((⟨name, f⟩ : Row), k) ∈ s.inst.rows) :
    ∃ m', Candidate c s addrSize m' ∧ m'.row = k := by
  unfold Form.covers at hcovers
  simp only [Bool.and_eq_true, Bool.or_eq_true, Bool.not_eq_true', beq_iff_eq] at hcovers
  obtain ⟨⟨⟨hfeatures, honly⟩, hlength⟩, hall⟩ := hcovers
  obtain ⟨hslots, hsizes, hregs⟩ := takes_of_covers (f.has .exactSize) hlength h.length hall h.slots
  have hresize : s.resizeArgs c.mode f = (s, .ok none) := resizeArgs_of_registers hsizes hregs
  refine ⟨s.found c.mode f k addrSize none, ?_, rfl⟩
  exact {
    row := ⟨name, hrow⟩
    features := by
      have hsame : f.featureSet = m.form.featureSet := congrArg Features.ofList hfeatures
      exact hsame ▸ h.features
    mode := fun hx => h.mode (honly.resolve_left (Bool.not_eq_false _ ▸ hx))
    length := hlength.trans h.length
    slots := hslots
    sized := ⟨s, hresize, rfl⟩ }

/-- A form that is shadowed is not that of the first match. -/
theorem not_shadows {F : Family} {i : Nat} (h : Candidate c s addrSize m)
    (hrows : s.inst.rows = F.rows.zipIdx s.inst.first) (hrow : m.row = s.inst.first + i)
    (hleast : ∀ m', Candidate c s addrSize m' → m.row ≤ m'.row) :
    F.shadows (m.form, i) = false := by
  rw [← Bool.not_eq_true]
  intro hshadows
  obtain ⟨⟨f, j⟩, hj, hcovers⟩ := List.any_eq_true.mp hshadows
  obtain ⟨hless, hcovers⟩ := Bool.and_eq_true_iff.mp hcovers
  have hmem : ((⟨F.name, f⟩ : Row), s.inst.first + j) ∈ s.inst.rows := by
    rw [hrows, List.mk_mem_zipIdx_iff_le_and_getElem?_sub, Family.rows, List.getElem?_map,
      Nat.add_sub_cancel_left, List.mk_mem_zipIdx_iff_getElem?.mp hj]
    exact ⟨Nat.le_add_right .., rfl⟩
  obtain ⟨m', hm', hrow'⟩ := candidate_of_covers h hcovers hmem
  have hle := hleast m' hm'
  have hlt := of_decide_eq_true hless
  omega

end Shadows

/-! ### The order of operands -/

structure TakesPair (f : Form) (s t : Slot) (a b : Operand) : Prop where
  slots : f.slots = [s, t]
  left : ∀ o, a.IsOf o → s.takesSort o = true
  right : ∀ o, b.IsOf o → t.takesSort o = true
  leftWidth : ∀ r, a = .reg r → s.takesRegWidth r.width = true
  rightWidth : ∀ r, b = .reg r → t.takesRegWidth r.width = true

section Pairs

variable {c : Matcher} {inst : Inst} {a b : Operand} {settled : List Operand} {m : Match}

theorem Matched.takesPair (h : Matched c inst [a, b] settled m) :
    ∃ s t, TakesPair m.form s t a b := by
  obtain ⟨-, -, hlength, htakes⟩ := Form.takes_iff.mp h.takes
  have hsort := h.memory.sameSort
  rcases hsort with _ | ⟨⟨ha, hareg⟩, hsort⟩
  rcases hsort with _ | ⟨⟨hb, hbreg⟩, hsort⟩
  cases hsort
  obtain ⟨s, t, hslots⟩ := List.length_eq_two.mp hlength
  rw [hslots] at htakes
  have hs := htakes (s, _) List.mem_cons_self
  have ht := htakes (t, _) (List.mem_cons_of_mem _ List.mem_cons_self)
  exact ⟨s, t, {
    slots := hslots
    left := fun o ho => Slot.takesSort_of_takes hs (ha o ho)
    right := fun o ho => Slot.takesSort_of_takes ht (hb o ho)
    leftWidth := fun r hr => Slot.takesRegWidth_of_takes (hareg r hr ▸ hs)
    rightWidth := fun r hr => Slot.takesRegWidth_of_takes (hbreg r hr ▸ ht) }⟩

theorem TakesPair.swaps {f g : Form} {s t s' t' : Slot} {k : RegClass} {o : Option RegClass}
    (h : TakesPair f s t a b) (h' : TakesPair g s' t' b a) (ha : a.IsOf (some k)) (hb : b.IsOf o)
    (hne : o ≠ some k) : f.swaps g = true := by
  have hall : ∀ k : RegClass, k ∈ RegClass.all := by
    intro k
    cases k <;> decide
  have ho : o ∈ none :: RegClass.all.map some := by
    cases o with
    | none => exact List.mem_cons_self
    | some k => exact List.mem_cons_of_mem _ (List.mem_map_of_mem (hall k))
  unfold Form.swaps
  rw [h.slots, h'.slots]
  refine List.any_eq_true.mpr ⟨k, hall k, ?_⟩
  simp only [Bool.and_eq_true]
  exact ⟨⟨h.left _ ha, h'.right _ ha⟩,
    List.any_eq_true.mpr ⟨o, ho, by simp [hne, h.right _ hb, h'.left _ hb]⟩⟩

theorem TakesPair.eq_reg_of_showsWord {f g : Form} {s t s' t' : Slot} {o : Option RegClass}
    (h : TakesPair f s t a b) (h' : TakesPair g s' t' b a) (ha : a.IsOf o)
    (hshows : f.showsWord g = true) : ∃ r, a = .reg r := by
  unfold Form.showsWord at hshows
  rw [h.slots, h'.slots] at hshows
  simp only [Bool.and_eq_true, beq_iff_eq] at hshows
  obtain ⟨⟨⟨⟨⟨-, rfl⟩, -⟩, -⟩, -⟩, -⟩ := hshows
  have htakes := h.left o ha
  cases o with
  | none => cases htakes
  | some c =>
    obtain ⟨r, hr, -⟩ := ha.eq_reg
    exact ⟨r, hr⟩

end Pairs

inductive Register.Differs (x : Register) : Operand → Prop
  | mem {a : Mem} (ha : a.IsGiven) : x.Differs (.mem a)
  | reg {y : Register} (hy : y.IsGiven) (hclass : y.class? ≠ x.class?) : x.Differs (.reg y)

theorem Register.Differs.exists_sort {x : Register} {y : Operand} {c : RegClass}
    (h : x.Differs y) (hx : x.class? = some c) : ∃ o, y.IsOf o ∧ o ≠ some c := by
  cases h with
  | mem ha => exact ⟨none, trivial, nofun⟩
  | @reg r hr hclass =>
    obtain ⟨k, hk, -⟩ := hr.exists_class
    exact ⟨some k, ⟨hr, hk⟩, fun heq => hclass (hk.trans (heq.trans hx.symm))⟩

structure Used (c : Matcher) (inst : Inst) (F : Family) (a b : Operand) (m : Match) (i : Nat)
    (s t : Slot) : Prop where
  oneMem : OneMem [a, b]
  matched : ∃ settled, Matched c inst [a, b] settled m
  takes : TakesPair m.form s t a b
  pairs : (m.form, i) ∈ F.pairs
  notShadowed : F.shadows (m.form, i) = false
  widths : ∀ x y, a = .reg x → b = .reg y → s.size = .any → t.size = .any → x.width = y.width
  operandSize : ∀ x, a = .reg x → s.size = .any → t.size ≠ .any → m.operandSize = some x.width

section Used

variable {e : Encoder} {inst : Inst} {F : Family} {a b : Operand} {p p' : UInt8}
  {enc enc' : Encoded Reloc}

theorem exists_used (hrows : inst.rows = F.rows.zipIdx inst.first)
    (h : e.encodeInst p inst [some a, some b] = .ok enc) :
    ∃ m i s t, Used e inst F a b m i s t ∧ m.emit p = .ok enc := by
  obtain ⟨m, hfind, hemit⟩ := bind_eq_ok h
  have hfind' : Matcher.find e inst ([a, b].map some) = .ok m := mapError_eq_ok hfind
  obtain ⟨hone, settled, hmatched⟩ := (finds_of_find hfind').matched
  obtain ⟨s, t, htakes⟩ := hmatched.takesPair
  obtain ⟨held, after, addrSize, hholds, hprepared, hcandidate, hleast⟩ := least_of_find hfind'
  have hinst : after.inst = inst := (inst_of_settle hprepared.settled).trans hholds.inst
  obtain ⟨name, hrow⟩ := hcandidate.row
  rw [hinst, hrows] at hrow
  obtain ⟨hle, hget⟩ := List.mk_mem_zipIdx_iff_le_and_getElem?_sub.mp hrow
  rw [Family.rows, List.getElem?_map] at hget
  obtain ⟨f, hf, hfrow⟩ := Option.map_eq_some_iff.mp hget
  obtain rfl : f = m.form := (Row.mk.injEq .. ▸ hfrow).2
  refine ⟨m, m.row - inst.first, s, t, ?_, hemit⟩
  exact {
    oneMem := hone
    matched := ⟨settled, hmatched⟩
    takes := htakes
    pairs := by
      refine List.mem_filter.mpr ⟨List.mk_mem_zipIdx_iff_getElem?.mpr hf, ?_⟩
      rw [htakes.slots]
      rfl
    notShadowed := not_shadows hcandidate (by rw [hinst, hrows]) (by rw [hinst]; omega) hleast
    widths := by
      intro x y hx hy hs ht
      obtain ⟨after', hresize, -⟩ := hcandidate.sized
      have hops : after.operands = [.reg x, .reg y] :=
        SameSort.registers (hx ▸ hy ▸ (hholds.settled hprepared.settled).sameSort)
      exact width_eq_of_sized htakes.slots hops hs ht hresize
    operandSize := by
      intro x hx hs ht
      obtain ⟨after', hresize, -⟩ := hcandidate.sized
      obtain ⟨b', hops⟩ :=
        SameSort.register (hx ▸ (hholds.settled hprepared.settled).sameSort)
      exact operandSize_of_sized htakes.slots hops hs ht hresize }

theorem isGiven_of_memories {x : Register} (h : ∀ a, .mem a = b → a.IsGiven) :
    ∀ a, a ∈ memories [.reg x, b] ∨ a ∈ memories [b, .reg x] → a.IsGiven := by
  intro a ha
  rw [mem_memories, mem_memories] at ha
  exact h a (by simpa using ha)

/-- Bytes of both kinds, or vectors of two sizes: if one form takes them in both orders, the
numbers tell the order, or the form can not size them. -/
theorem ne_of_uniform {m m' : Match} {i j : Nat} {s t s' t' : Slot} {x : Register}
    (h : Used e inst F (.reg x) b m i s t) (h' : Used e inst F b (.reg x) m' j s' t')
    (hx : x.IsGiven) (hb : x.Differs b) (hform : m.form = m'.form)
    (huniform : m.form.isUniform = true) (hemit : m.emit p = .ok enc)
    (hemit' : m'.emit p' = .ok enc') : enc.code ≠ enc'.code := by
  obtain ⟨settled, hmatched⟩ := h.matched
  obtain ⟨settled', hmatched'⟩ := h'.matched
  obtain ⟨rfl, rfl⟩ : s = s' ∧ t = t' := by
    have hslots := h'.takes.slots
    rwa [← hform, h.takes.slots, List.cons.injEq, List.cons.injEq, eq_self, and_true] at hslots
  unfold Form.isUniform at huniform
  rw [h.takes.slots] at huniform
  simp only [List.all_cons, List.all_nil, Bool.and_true, Bool.and_eq_true, Bool.or_eq_true,
    Bool.not_eq_true', beq_iff_eq, decide_eq_true_eq] at huniform
  obtain ⟨huniform, hcount⟩ := huniform
  obtain ⟨cx, hcx, -⟩ := hx.exists_class
  have hxof : (Operand.reg x).IsOf (some cx) := ⟨hx, hcx⟩
  cases hb with
  | mem ha =>
    have hs := h'.takes.left none trivial
    have ht := h.takes.right none trivial
    simp [Slot.takesSort] at hs ht
    simp [hs, ht] at hcount
  | @reg y hy hclass =>
    obtain ⟨cy, hcy, -⟩ := hy.exists_class
    have hyof : (Operand.reg y).IsOf (some cy) := ⟨hy, hcy⟩
    have hne : cy ≠ cx := fun heq => hclass (hcy.trans (heq ▸ hcx.symm))
    have hsx := (Bool.and_eq_true_iff.mp (h.takes.left _ hxof)).1
    have hsy := (Bool.and_eq_true_iff.mp (h'.takes.left _ hyof)).1
    rcases huniform with ⟨hvector, ⟨hs, hsize⟩, -, hsize'⟩ | ⟨⟨hs, hsize⟩, -, hsize'⟩
    · have himplied : s.kind.isImplied = false := by rcases hs with hs | hs <;> rw [hs] <;> rfl
      have hclasses : ∀ k : RegClass, s.kind.takesClass k = true → k = .legacy ∨ k = .highByte := by
        intro k hk
        rcases hs with hs | hs <;> rw [hs] at hk <;> simpa [SlotKind.takesClass] using hk
      have hwidth : ∀ r : Register, s.takesRegWidth r.width = true → r.width = 1 := by
        intro r hr
        unfold Slot.takesRegWidth at hr
        rw [hsize] at hr
        exact (beq_iff_eq.mp hr).symm
      have hxwidth := hwidth x (h.takes.leftWidth x rfl)
      have hywidth := hwidth y (h'.takes.leftWidth y rfl)
      rcases hclasses cx hsx with rfl | rfl <;> rcases hclasses cy hsy with rfl | rfl
      · exact absurd rfl hne
      · exact (ne_of_bytes hmatched' hmatched h'.oneMem h.oneMem hform.symm rfl rfl hy hx
          (hform ▸ hvector) h'.takes.slots himplied hcy hcx hxwidth hemit' hemit).symm
      · exact ne_of_bytes hmatched hmatched' h.oneMem h'.oneMem hform rfl rfl hx hy hvector
          h.takes.slots himplied hcx hcy hywidth hemit hemit'
      · exact absurd rfl hne
    · have hclasses : ∀ k : RegClass, s.kind.takesClass k = true → k = .xmm ∨ k = .ymm := by
        intro k hk
        rcases hs with hs | hs <;> rw [hs] at hk <;> simpa [SlotKind.takesClass] using hk
      have hwidth := h.widths x y rfl rfl hsize hsize'
      have hxwidth := hx.width_mem hcx
      have hywidth := hy.width_mem hcy
      rw [← hwidth] at hywidth
      rcases hclasses cx hsx with rfl | rfl <;> rcases hclasses cy hsy with rfl | rfl <;>
        simp_all [RegClass.widths]

theorem ne_of_showsWord {m m' : Match} {i j : Nat} {s t s' t' : Slot} {x : Register}
    (h : Used e inst F (.reg x) b m i s t) (h' : Used e inst F b (.reg x) m' j s' t')
    (hgiven : ∀ a, .mem a = b → a.IsGiven) (hshows : m.form.showsWord m'.form = true)
    (hemit : m.emit p = .ok enc) (hemit' : m'.emit p' = .ok enc') : enc.code ≠ enc'.code := by
  intro hcode
  obtain ⟨settled, hmatched⟩ := h.matched
  obtain ⟨settled', hmatched'⟩ := h'.matched
  unfold Form.showsWord Form.isPlain at hshows
  rw [h.takes.slots, h'.takes.slots] at hshows
  simp only [Bool.and_eq_true, bne_iff_ne, beq_iff_eq, Bool.not_eq_true', List.isEmpty_iff]
    at hshows
  obtain ⟨⟨⟨⟨⟨⟨⟨⟨⟨⟨hvaries, hwait⟩, -⟩, ⟨hvaries', hwait'⟩, -⟩, hvector⟩, hvector'⟩, rfl⟩, ht⟩,
    hword⟩, hflags⟩, hnone⟩ := hshows
  have hmemories := isGiven_of_memories (x := x) hgiven
  obtain ⟨bits, hbits, hframed⟩ := hmatched.framed h.oneMem (fun a ha => hmemories a (.inl ha))
    hvaries (fun h => absurd h hwait) hemit
  obtain ⟨bits', hbits', hframed'⟩ := hmatched'.framed h'.oneMem
    (fun a ha => hmemories a (.inr ha)) hvaries' (fun h => absurd h hwait') hemit'
  rw [hcode] at hframed
  have hwidth : x.width = 2 := by
    have hfits := h'.takes.rightWidth x rfl
    unfold Slot.takesRegWidth at hfits
    rw [hword] at hfits
    exact (beq_iff_eq.mp hfits).symm
  have hsizes : m.form.sizes = true := by simp [Form.sizes, Form.has, hflags]
  have hsize := hmatched.operandSize_of_framed hsizes hbits hframed
  rw [h.operandSize x rfl rfl ht, hwidth] at hsize
  have hshort : (decode e.mode enc'.code).short = true := by
    by_contra hshort
    simp [Decoded.operandSize, Form.has, hflags, hshort] at hsize
    split at hsize <;> cases hsize
  have hshort' : (decode e.mode enc'.code).short = false := by
    rw [hframed'.short hvector' hwait']
    obtain ⟨auto, hauto, rfl⟩ := map_eq_ok hbits'
    simp [Match.autoSize, Form.has, hnone] at hauto
    simp [← hauto, Form.has, hnone]
  rw [hshort] at hshort'
  cases hshort'

end Used

/-- The order of a register and an operand of another sort is kept: if an instruction takes them in
both orders, its codes differ. Moves between segment registers and memory are left out. -/
theorem operand_order_kept {name : String} {e : Encoder} {inst : Inst} {x : Register} {y : Operand}
    {p p' : UInt8} {enc enc' : Encoded Reloc} (hname : Inst.lookup name = some inst)
    (hsymmetric : inst.name ≠ "XCHG" ∧ inst.name ≠ "TEST") (hx : x.IsGiven) (hy : x.Differs y)
    (hsegment : inst.name = "MOV" → x.class? = some .segment → ∀ a, y ≠ .mem a)
    (h : e.encodeInst p inst [some (.reg x), some y] = .ok enc)
    (h' : e.encodeInst p' inst [some y, some (.reg x)] = .ok enc') : enc.code ≠ enc'.code := by
  obtain ⟨F, hF, hFname, hrows⟩ := exists_family hname
  obtain ⟨m, i, s, t, hused, hemit⟩ := exists_used hrows h
  obtain ⟨m', j, s', t', hused', hemit'⟩ := exists_used hrows h'
  obtain ⟨settled, hmatched⟩ := hused.matched
  obtain ⟨settled', hmatched'⟩ := hused'.matched
  obtain ⟨cx, hcx, -⟩ := hx.exists_class
  obtain ⟨o, hyof, hne⟩ := hy.exists_sort hcx
  have hgiven : ∀ a, .mem a = y → a.IsGiven := by
    rintro a rfl
    cases hy with
    | mem ha => exact ha
  have hmemories := isGiven_of_memories (x := x) hgiven
  have hswaps := hused.takes.swaps hused'.takes ⟨hx, hcx⟩ hyof hne
  have hkeeps := families_keepOrder F hF _ hused.pairs _ hused'.pairs
  unfold Family.keepsOrder at hkeeps
  rw [hused.notShadowed, hused'.notShadowed] at hkeeps
  simp only [hswaps, Bool.not_true, Bool.or_false, Bool.or_eq_true, Bool.and_eq_true, beq_iff_eq,
    ← hFname, hsymmetric.1, hsymmetric.2, or_false] at hkeeps
  rcases hkeeps with (((hapart | ⟨hform, huniform⟩) | hword) | hword) | ⟨⟨hmov, hseg⟩, hmem⟩
  · exact ne_of_apart hmatched hmatched' hused.oneMem hused'.oneMem
      (fun a ha => hmemories a (.inl ha)) (fun a ha => hmemories a (.inr ha)) hapart hemit hemit'
  · exact ne_of_uniform hused hused' hx hy hform huniform hemit hemit'
  · exact ne_of_showsWord hused hused' hgiven hword hemit hemit'
  · obtain ⟨r, rfl⟩ := hused'.takes.eq_reg_of_showsWord hused.takes hyof hword
    exact (ne_of_showsWord hused' hused nofun hword hemit' hemit).symm
  · rw [hused.takes.slots] at hseg hmem
    simp only [List.any_cons, List.any_nil, Bool.or_false, Bool.or_eq_true, beq_iff_eq] at hseg hmem
    have hs := hused.takes.left (some cx) ⟨hx, hcx⟩
    have ht := hused.takes.right _ hyof
    rcases hmem with hkind | hkind
    · cases Slot.eq_none_of_takesSort hkind hs
    · obtain rfl := Slot.eq_none_of_takesSort hkind ht
      obtain ⟨a, rfl⟩ := hyof.eq_mem
      rcases hseg with hkind' | hkind'
      · exact absurd rfl (hsegment hmov (hcx.trans (Slot.eq_segment_of_takesSort hkind' hs)) a)
      · cases Slot.eq_segment_of_takesSort hkind' ht

def pointee (num width : Nat) : Mem := { base := some (.make .legacy 8 num), width }

theorem pointee_isGiven (num width : Nat) : (pointee num width).IsGiven where
  segment := nofun
  disp := nofun

theorem operand_order_kept_moved :
    ∃ enc enc', Inst.lookup "mov" = some ⟨0x32da02d1⟩ ∧
      Encoder.encodeInst ⟨.x64, .everything⟩ 0 ⟨0x32da02d1⟩
        [some (.reg (.make .legacy 4 0)), some (.mem (pointee 3 0))] = .ok enc ∧
      Encoder.encodeInst ⟨.x64, .everything⟩ 0 ⟨0x32da02d1⟩
        [some (.mem (pointee 3 0)), some (.reg (.make .legacy 4 0))] = .ok enc' ∧
      enc.code ≠ enc'.code := by
  obtain ⟨hname, hsymmetric, hload, hstore⟩ : Inst.lookup "mov" = some ⟨0x32da02d1⟩ ∧
      ((⟨0x32da02d1⟩ : Inst).name ≠ "XCHG" ∧ (⟨0x32da02d1⟩ : Inst).name ≠ "TEST") ∧
      Encoder.encodeInst ⟨.x64, .everything⟩ 0 ⟨0x32da02d1⟩
        [some (.reg (.make .legacy 4 0)), some (.mem (pointee 3 0))] = .ok ⟨[0x8b, 0x03], []⟩ ∧
      Encoder.encodeInst ⟨.x64, .everything⟩ 0 ⟨0x32da02d1⟩
        [some (.mem (pointee 3 0)), some (.reg (.make .legacy 4 0))] = .ok ⟨[0x89, 0x03], []⟩ := by
    decide +kernel
  have hx : (Register.make .legacy 4 0).IsGiven := Register.isGiven_of_name (n := "eax")
    (by decide +kernel)
  have hsegment : (⟨0x32da02d1⟩ : Inst).name = "MOV" →
      (Register.make .legacy 4 0).class? = some .segment →
        ∀ a, Operand.mem (pointee 3 0) ≠ .mem a :=
    fun _ hclass => absurd hclass (by decide)
  exact ⟨_, _, hname, hload, hstore, operand_order_kept hname hsymmetric hx
    (.mem (pointee_isGiven 3 0)) hsegment hload hstore⟩

/-- `mov ds, [rax]` has the code of `mov [rax], ds`. -/
theorem counterexample_segment :
    Encoder.encodeInst ⟨.x64, .everything⟩ 0 ⟨0x32da02d1⟩
        [some (.reg (.make .segment 2 3)), some (.mem (pointee 0 2))] = .ok ⟨[0x8c, 0x18], []⟩ ∧
      Encoder.encodeInst ⟨.x64, .everything⟩ 0 ⟨0x32da02d1⟩
        [some (.mem (pointee 0 2)), some (.reg (.make .segment 2 3))] = .ok ⟨[0x8c, 0x18], []⟩ ∧
      Inst.lookup "mov" = some ⟨0x32da02d1⟩ ∧
      (Register.make .segment 2 3).Differs (.mem (pointee 0 2)) := by
  refine and_assoc.mp (and_assoc.mp ⟨?_, .mem (pointee_isGiven 0 2)⟩)
  decide +kernel

end MachineCode.X86
