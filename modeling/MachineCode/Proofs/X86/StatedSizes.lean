import MachineCode.Proofs.X86.AddressParts
import MachineCode.Proofs.X86.OperandSizes
import MachineCode.Proofs.X86.Sizing

/-!
Sizes that operands state. Wherever a row leaves the size of an operand open, a register states its
width, memory the width of what it points at, and memory with a vector in its address the width of
the vector. All sizes that operands of one match state are its operand size, and it is encoded only
if the row can have that size. Memory of 128 bytes and more is the exception: its width is taken for
none.
-/
namespace MachineCode.X86

def Slot.stated? (s : Slot) (a : Operand) : Option Nat :=
  if s.size ≠ .any then none
  else
    match a with
    | .reg r => some r.width
    | .mem m =>
      if s.kind.isVsib then (m.registers.find? (·.isVector)).map (·.width)
      else if m.width = 0 then none
      else some m.width
    | _ => none

namespace Form

def statedSizes (f : Form) (ops : List Operand) : List Nat :=
  (f.slots.zip ops).filterMap fun (s, a) => s.stated? a

/-- The operand sizes that a form can have in a mode. -/
def operandSizes (f : Form) (mode : Mode) : List Nat :=
  if f.has .autoNo32 then [2, mode.addrSize]
  else if f.has .autoRexW then [4, 8]
  else if f.has .autoVexL then [16, 32]
  else if f.has .autoSize then [2, 4, 8]
  else [2, 4, 8, 16, 32]

end Form

namespace Mem

section Index

variable {m m' : Mem} {size : Option Nat} {w family : Nat} {vsib : Bool} {r : Register}

theorem index_of_placeVector (hr : r ∈ m.registers) (h : m.placeVector = .ok (m', size)) :
    m'.index = some r := by
  unfold placeVector at h
  dsimp only at h
  obtain ⟨hnot, h⟩ := eq_ok_of_guard h
  obtain ⟨-, h⟩ := eq_ok_of_guard h
  obtain ⟨⟨⟩, -, h⟩ := bind_eq_ok h
  cases h
  rw [registers] at hr
  rcases hb : m.base with _ | b <;> rcases hi : m.index with _ | i <;> rw [hb, hi] at hr hnot
  · cases hr
  · obtain rfl := List.mem_singleton.mp hr
    rfl
  · obtain rfl := List.mem_singleton.mp hr
    rfl
  · exact absurd rfl hnot

theorem index_of_placeVsib {b i : Register} {c : RegClass} (hb : m.base = some b)
    (hi : m.index = some i) (hc : RegClass.ofCode? family = some c)
    (hplain : (c == .xmm || c == .ymm) = false)
    (hside : (b.isVector = true ∧ i.family = family) ∨ (i.isVector = true ∧ b.family = family))
    (hr : r ∈ m.registers) (hvector : r.isVector = true)
    (h : m.placeVsib w = .ok (m', size)) : m'.index = some r := by
  have hother : ∀ x : Register, x.family = family → x.isVector = false := by
    intro x hx
    rw [Register.isVector_of_class (show x.class? = some c by rw [Register.class?, hx, hc])]
    exact hplain
  unfold placeVsib at h
  dsimp only at h
  obtain ⟨-, h⟩ := eq_ok_of_guard h
  obtain ⟨⟨⟩, -, h⟩ := bind_eq_ok h
  rw [registers, hb, hi] at hr
  rw [hb, Option.any_some] at h
  rcases List.mem_pair.mp hr with rfl | rfl
  · rw [if_pos hvector] at h
    cases h
    rfl
  · rcases hside with ⟨-, hfamily⟩ | ⟨-, hfamily⟩
    · rw [hother r hfamily] at hvector
      cases hvector
    · rw [hother b hfamily, if_neg Bool.false_ne_true] at h
      cases h
      exact hi

/-- A vector among the registers of an address ends up as its index. -/
theorem index_of_shaped (hshaped : Shaped m w family vsib) (hr : r ∈ m.registers)
    (hvector : r.isVector = true) (h : m.placeShaped w family vsib = .ok (m', size)) :
    m'.index = some r := by
  have hlone : ∀ c, RegClass.ofCode? family = some c → (c == .xmm || c == .ymm) = false →
      r.family ≠ family := by
    intro c hc hplain hfamily
    rw [Register.isVector_of_class (show r.class? = some c by rw [Register.class?, hfamily, hc]),
      hplain] at hvector
    cases hvector
  unfold placeShaped at h
  split at h
  next hc =>
    unfold placeIp at h
    obtain ⟨hnot, -⟩ := eq_ok_of_guard h
    obtain ⟨r', hregs, hfamily, -⟩ := hshaped.single_of_not_both (by simpa using hnot)
    rw [hregs] at hr
    obtain rfl := List.mem_singleton.mp hr
    exact absurd hfamily (hlone _ hc rfl)
  next => exact index_of_placeVector hr h
  next => exact index_of_placeVector hr h
  next hc =>
    cases hshaped with
    | single hregs hfamily hwidth =>
      rw [hregs] at hr
      obtain rfl := List.mem_singleton.mp hr
      exact absurd hfamily (hlone _ hc rfl)
    | both hb hi hbase hindex =>
      rw [registers, hb, hi] at hr
      rcases List.mem_pair.mp hr with rfl | rfl
      · exact absurd hbase.1 (hlone _ hc rfl)
      · exact absurd hindex.1 (hlone _ hc rfl)
    | vsib hb hi hside =>
      by_cases hword : w = 2
      · rw [if_pos hword] at h
        cases h
      · rw [if_neg hword, if_pos rfl] at h
        split at h
        · exact index_of_placeVsib hb hi hc rfl
            (hside.imp (fun hside => ⟨hside.1, hside.2.1⟩) fun hside => ⟨hside.1, hside.2.1⟩)
            hr hvector h
        · cases h
  next => cases h

theorem index_of_place (hr : r ∈ m.registers) (hvector : r.isVector = true)
    (h : m.place = .ok (m', size)) : m'.index = some r := by
  have hregisters : ∀ m : Mem, m.placeRegisters = .ok (m', size) → r ∈ m.registers →
      m'.index = some r := by
    intro m h hr
    unfold placeRegisters at h
    split at h
    next hb hi =>
      rw [registers, hb, hi] at hr
      cases hr
    next b hb hi =>
      exact index_of_shaped (.single (by rw [registers, hb, hi]; rfl) rfl rfl) hr hvector h
    next i hb hi =>
      exact index_of_shaped (.single (by rw [registers, hb, hi]; rfl) rfl rfl) hr hvector h
    next b i hb hi =>
      obtain ⟨⟨w, family, vsib⟩, hcombine, h⟩ := bind_eq_ok h
      rcases combine_spec hcombine with ⟨rfl, hbase, hindex⟩ | ⟨rfl, hside⟩
      · exact index_of_shaped (.both hb hi hbase hindex) hr hvector h
      · exact index_of_shaped (.vsib hb hi hside) hr hvector h
  rw [place_eq] at h
  exact hregisters _ h hr

end Index

end Mem

inductive Operand.Settles : Operand → Operand → Prop
  | kept {a : Operand} (h : a.mem? = none) : Settles a a
  | memory {m m' : Mem} {size : Option Nat} (h : m.settle = .ok (m', size)) :
    Settles (.mem m) (.mem m')

theorem Settled.settles {mode : Mode} {ops settled : List Operand} {size : Nat}
    (h : Settled mode ops settled size) (hone : OneMem ops) :
    List.Forall₂ Operand.Settles ops settled := by
  have hkept : ∀ {xs : List Operand}, (∀ a ∈ xs, a.mem? = none) →
      List.Forall₂ Operand.Settles xs xs := by
    intro xs hxs
    induction xs with
    | nil => exact .nil
    | cons a xs ih =>
      obtain ⟨ha, hxs⟩ := List.forall_mem_cons.mp hxs
      exact .cons (.kept ha) (ih hxs)
  cases h with
  | absent hnone => exact hkept hnone
  | @present front back m m' size hfront hsettle =>
    have hback : ∀ a ∈ back, a.mem? = none := by
      have hlength : (m :: back.filterMap (·.mem?)).length ≤ 1 := by
        rwa [OneMem, List.filterMap_append, List.filterMap_eq_nil_iff.mpr hfront] at hone
      rw [List.length_cons] at hlength
      exact List.filterMap_eq_nil_iff.mp (List.eq_nil_of_length_eq_zero
        (Nat.le_zero.mp (Nat.le_of_succ_le_succ hlength)))
    exact List.rel_append (hkept hfront) (.cons (.memory hsettle) (hkept hback))

theorem exists_mem_zip {R : Operand → Operand → Prop} {slots : List Slot} {xs ys : List Operand}
    (h : List.Forall₂ R xs ys) {s : Slot} {x : Operand} (hx : (s, x) ∈ slots.zip xs) :
    ∃ y, R x y ∧ (s, y) ∈ slots.zip ys := by
  obtain ⟨i, hi⟩ := List.mem_iff_getElem?.mp hx
  obtain ⟨hs, hx⟩ := List.getElem?_zip_eq_some.mp hi
  obtain ⟨hlt, rfl⟩ := List.getElem?_eq_some_iff.mp hx
  have hlt' : i < ys.length := h.length_eq ▸ hlt
  exact ⟨ys[i], h.get hlt hlt', List.mem_iff_getElem?.mpr
    ⟨i, List.getElem?_zip_eq_some.mpr ⟨hs, List.getElem?_eq_getElem hlt'⟩⟩⟩

theorem Register.width_lt (r : Register) : r.width < 64 := Nat.mod_lt _ (by decide)

section Votes

variable {s : Slot} {x y : Operand} {n : Nat}

theorem Slot.sizeVote_eq_some (h : s.sizeVote y = some n) : s.size = .any ∧
    ((∃ r, y = .reg r ∧ r.width = n) ∨ ∃ m, y = .mem m ∧ SizeVotes.widthIn s y = some n) := by
  by_cases hany : s.size = .any
  · cases y with
    | reg r =>
      rw [sizeVote, if_pos hany] at h
      exact ⟨hany, Or.inl ⟨r, rfl, Option.some.inj h⟩⟩
    | mem m =>
      rw [sizeVote, if_pos hany] at h
      exact ⟨hany, Or.inr ⟨m, rfl, h⟩⟩
    | imm _ | addr _ | disp _ => cases h
  · cases y with
    | reg _ | mem _ =>
      rw [sizeVote, if_neg hany] at h
      cases h
    | imm _ | addr _ | disp _ => cases h

theorem Slot.sizeVote_lt (h : s.sizeVote y = some n) : n < 128 := by
  have hreg : ∀ r : Register, r.width < 128 := fun r => Nat.lt_trans r.width_lt (by decide)
  obtain ⟨-, ⟨r, -, rfl⟩ | ⟨m, rfl, hwidth⟩⟩ := Slot.sizeVote_eq_some h
  · exact hreg r
  · unfold SizeVotes.widthIn at hwidth
    dsimp only at hwidth
    split at hwidth
    · obtain rfl := Option.some.inj hwidth
      cases m.index with
      | none => decide
      | some i => exact hreg i
    · obtain ⟨hsmall, rfl⟩ : ¬ (m.width = 0 ∨ 128 ≤ m.width) ∧ m.width = n := by
        simpa using hwidth
      omega

/-- A size that an operand states is its vote in normal form, unless it has 128 bytes or more. -/
theorem Slot.sizeVote_of_stated (hsettles : x.Settles y) (h : s.stated? x = some n)
    (hn : n < 128) : s.sizeVote y = some n := by
  unfold stated? at h
  obtain ⟨hany, h⟩ : s.size = .any ∧ _ := by
    by_cases hany : s.size = .any
    · rw [if_neg (not_not.mpr hany)] at h
      exact ⟨hany, h⟩
    · rw [if_pos hany] at h
      cases h
  cases hsettles with
  | kept hx =>
    cases x with
    | reg r =>
      rw [sizeVote, if_pos hany]
      exact h
    | mem m => cases hx
    | imm _ | addr _ | disp _ => cases h
  | @memory m m' size hsettle =>
    rw [sizeVote, if_pos hany, SizeVotes.widthIn]
    dsimp only at h
    split at h
    next hvsib =>
      obtain ⟨r, hr, rfl⟩ := Option.map_eq_some_iff.mp h
      obtain ⟨p, hplace, -, hm⟩ := Mem.settle_eq_ok hsettle
      have hindex : m'.index = some r := by
        rw [hm]
        show p.index = some r
        exact Mem.index_of_place (List.mem_of_find?_eq_some hr) (List.find?_some hr) hplace
      rw [if_pos hvsib, hindex]
      rfl
    next hvsib =>
      rw [if_neg hvsib, Mem.width_of_settle hsettle]
      split at h
      · cases h
      next hwidth =>
        obtain rfl := Option.some.inj h
        rw [if_neg (by simp only [Bool.or_eq_true, decide_eq_true_eq]; omega)]

theorem SlotKind.takesWidth_mem {k : SlotKind} (h : k.takesWidth n = true) (hk : k ≠ .imm) :
    n ∈ [2, 4, 8, 16, 32] := by
  cases k with
  | imm => exact absurd rfl hk
  | vector | vectorOrMem =>
    have hwidth : (n == 16 || n == 32) = true := h
    simp at hwidth ⊢
    omega
  | gpr | gprOrMem | fixed _ =>
    have hwidth : (n == 2 || n == 4 || n == 8) = true := h
    simp at hwidth ⊢
    omega
  | _ => cases h

theorem Slot.sizeVote_mem {exact : Bool} (htakes : s.takes y exact = true) (hs : s ≠ .ma)
    (h : s.sizeVote y = some n) : n ∈ [2, 4, 8, 16, 32] := by
  obtain ⟨kind, size⟩ := s
  obtain ⟨hkind, hsize⟩ := Bool.and_eq_true_iff.mp htakes
  obtain ⟨hany, ⟨r, rfl, rfl⟩ | ⟨m, rfl, hwidth⟩⟩ := Slot.sizeVote_eq_some h
  · obtain rfl : size = .any := hany
    refine SlotKind.takesWidth_mem hsize ?_
    rintro rfl
    cases hkind
  · obtain rfl : size = .any := hany
    cases kind with
    | mem => exact absurd rfl hs
    | vsibDword | vsibQword =>
      obtain rfl := Option.some.inj hwidth
      have hindex : ((m.index.map (·.width)).getD 0 == 16 ||
        (m.index.map (·.width)).getD 0 == 32) = true := hsize
      simp at hindex ⊢
      omega
    | gprOrMem =>
      have hwidths : (m.width == 0 || m.width == 2 || m.width == 4 || m.width == 8) = true := hsize
      simp [SizeVotes.widthIn, SlotKind.isVsib] at hwidth hwidths ⊢
      omega
    | vectorOrMem =>
      have hwidths : (m.width == 0 || m.width == 16 || m.width == 32) = true := hsize
      simp [SizeVotes.widthIn, SlotKind.isVsib] at hwidth hwidths ⊢
      omega
    | mmxOrMem => cases hsize
    | _ => cases hkind

end Votes

section Operands

variable {c : Matcher} {inst : Inst} {ops settled : List Operand} {m : Match} {votes : SizeVotes}
  {imm n : Nat}

/-- The operand size is what operands vote for, or the size of addresses. -/
theorem Sizing.vote_or_addrSize {name : String} {mode : Mode}
    (h : Sizing name mode settled m votes imm) (hn : m.operandSize = some n) :
    (∃ x ∈ m.form.slots.zip settled, x.1.sizeVote x.2 = some n) ∨ n = mode.addrSize := by
  have hvotes : ∀ n, votes.operand = some n →
      ∃ x ∈ m.form.slots.zip settled, x.1.sizeVote x.2 = some n := by
    intro n hvotes
    rcases (SizeVotes.counted_of_foldlM h.collected).2.2.2.1 n hvotes with h0 | hvote
    · cases h0
    · exact hvote
  have hsizes := h.sizes
  unfold settleSizes at hsizes
  dsimp only at hsizes
  split at hsizes
  next n' hn' =>
    obtain ⟨-, hpair⟩ := ok_of_unless hsizes
    obtain rfl : n' = n := Option.some.inj ((Prod.mk.inj hpair).1.trans hn)
    split at hn'
    · rcases Option.or_eq_some_iff.mp hn' with hn' | ⟨-, hn'⟩
      · exact Or.inl (hvotes _ hn')
      · exact Or.inr (Option.some.inj hn').symm
    · exact Or.inl (hvotes _ hn')
  next =>
    obtain ⟨-, hpair⟩ := ok_of_unless hsizes
    cases (Prod.mk.inj hpair).1.trans hn

theorem Sizing.operandSize_lt {name : String} {mode : Mode}
    (h : Sizing name mode settled m votes imm) (hn : m.operandSize = some n) : n < 128 := by
  rcases h.vote_or_addrSize hn with ⟨x, -, hvote⟩ | rfl
  · exact Slot.sizeVote_lt hvote
  · cases mode <;> decide

theorem operandSize_mem_of_sizes {bits : SizeBits} (hsizes : m.form.sizes = true)
    (hbits : m.sizeBits = .ok bits) (hn : m.operandSize = some n) :
    n ∈ m.form.operandSizes m.mode := by
  obtain ⟨auto, hauto, -⟩ := map_eq_ok hbits
  rcases Match.autoSize_cases hauto with ⟨hnone, -⟩ | ⟨k, hk, hchooses⟩
  · rw [hsizes] at hnone
    cases hnone
  obtain rfl := Option.some.inj (hn.symm.trans hk)
  unfold Form.operandSizes
  cases hchooses with
  | no32 hno32 hbits =>
    rw [if_pos hno32]
    rcases hbits with ⟨rfl, -⟩ | ⟨rfl, -⟩ <;> simp
  | rexW hno32 hrexW hbits =>
    rw [hno32, if_neg Bool.false_ne_true, if_pos hrexW]
    rcases hbits with ⟨rfl, -⟩ | ⟨rfl, -⟩ <;> simp
  | vexL hno32 hrexW hvexL hbits =>
    rw [hno32, hrexW, if_neg Bool.false_ne_true, if_neg Bool.false_ne_true, if_pos hvexL]
    rcases hbits with ⟨rfl, -⟩ | ⟨rfl, -⟩ <;> simp
  | any hno32 hrexW hvexL hany hbits =>
    rw [hno32, hrexW, hvexL, hany]
    rcases hbits with ⟨rfl, -⟩ | ⟨rfl, -⟩ | ⟨rfl, -⟩ <;> simp

theorem rows_size_memory : ∀ row ∈ rows, Slot.ma ∈ row.form.slots → row.form.sizes = true := by
  have hforms : ∀ f ∈ families, ∀ g ∈ f.forms, Slot.ma ∈ g.slots → g.sizes = true := by
    decide +kernel
  exact fun row => form_of_mem_rows hforms

/-- A size that an operand votes for is one that its form can have: its slot takes no other one, or
no prefix is chosen by another. -/
theorem Matched.vote_mem_operandSizes (h : Matched c inst ops settled m) {bits : SizeBits}
    (hbits : m.sizeBits = .ok bits) (hn : m.operandSize = some n) {s : Slot} {y : Operand}
    (hy : (s, y) ∈ m.form.slots.zip settled) (hvote : s.sizeVote y = some n) :
    n ∈ m.form.operandSizes m.mode := by
  by_cases hsizes : m.form.sizes = true
  · exact operandSize_mem_of_sizes hsizes hbits hn
  · have hma : s ≠ .ma := by
      rintro rfl
      obtain ⟨row, hrow, hform⟩ := h.mem_rows
      refine hsizes (hform ▸ rows_size_memory row hrow ?_)
      rw [hform]
      exact (List.of_mem_zip hy).1
    have htakes := (Form.takes_iff.mp h.takes).2.2.2 _ hy
    unfold Form.sizes at hsizes
    simp only [Bool.or_eq_true, not_or] at hsizes
    unfold Form.operandSizes
    rw [if_neg hsizes.1.1.2, if_neg hsizes.1.2, if_neg hsizes.2, if_neg hsizes.1.1.1]
    exact Slot.sizeVote_mem htakes hma hvote

/-- Sizes of less than 128 bytes that operands state are the operand size, and no other operand
size is that of an operand. What is encoded has a size that its row can have. -/
theorem stated_sizes_agree (h : c.Finds inst ops m) :
    (∀ n ∈ m.form.statedSizes ops, m.operandSize = some n ↔ n < 128) ∧
      ∀ b enc, m.emit b = .ok enc →
        ∀ n ∈ m.form.statedSizes ops, n < 128 → n ∈ m.form.operandSizes m.mode := by
  obtain ⟨hone, settled, votes, imm, hmatched, hsizing⟩ := h.sizing
  have hvote : ∀ n ∈ m.form.statedSizes ops, n < 128 →
      ∃ x ∈ m.form.slots.zip settled, x.1.sizeVote x.2 = some n := by
    intro n hn hlt
    obtain ⟨⟨s, x⟩, hx, hstated⟩ := List.mem_filterMap.mp hn
    obtain ⟨y, hsettles, hy⟩ := exists_mem_zip (hmatched.memory.settles hone) hx
    exact ⟨(s, y), hy, Slot.sizeVote_of_stated hsettles hstated hlt⟩
  have hsize : ∀ n ∈ m.form.statedSizes ops, n < 128 → m.operandSize = some n := by
    intro n hn hlt
    obtain ⟨x, hx, hvote⟩ := hvote n hn hlt
    exact hsizing.operandSize_eq.1 n
      ((SizeVotes.counted_of_foldlM hsizing.collected).2.2.1 x hx n hvote)
  constructor
  · intro n hn
    exact ⟨hsizing.operandSize_lt, hsize n hn⟩
  · intro b enc hemit n hn hlt
    obtain ⟨bits, rex, -, hbits, -⟩ := Match.emit_spec hemit
    obtain ⟨⟨s, y⟩, hy, hvote⟩ := hvote n hn hlt
    exact hmatched.vote_mem_operandSizes hbits (hsize n hn hlt) hy hvote

end Operands

def gatherLanes : List Operand :=
  [.reg (.make .ymm 32 1),
    .mem { base := some (.make .ymm 32 2), index := some (.make .legacy 8 0) },
    .reg (.make .ymm 32 3)]

theorem stated_sizes_agree_gathered : ∃ m,
    Matcher.Finds ⟨.x64, .everything⟩ ⟨0xa3a108d2⟩ gatherLanes m ∧
      m.form.statedSizes gatherLanes = [32, 32, 32] ∧
        (∀ n ∈ m.form.statedSizes gatherLanes, m.operandSize = some n ↔ n < 128) ∧
          ∀ b enc, m.emit b = .ok enc →
            ∀ n ∈ m.form.statedSizes gatherLanes, n < 128 → n ∈ m.form.operandSizes m.mode := by
  have hfind : ((Matcher.find ⟨.x64, .everything⟩ ⟨0xa3a108d2⟩
      (gatherLanes.map some)).toOption.any fun m =>
        m.form.statedSizes gatherLanes == [32, 32, 32]) = true := by decide +kernel
  obtain ⟨m, hm, hstated⟩ := exists_eq_ok hfind
  have hfinds := finds_of_find hm
  exact ⟨m, hfinds, eq_of_beq hstated, stated_sizes_agree hfinds⟩

def addToMemory (width : Nat) : List Operand :=
  [.mem { base := some (.make .legacy 8 0), width }, .reg (.make .legacy 4 0)]

/-- Memory of 200 bytes counts as memory without a width, and `add` takes it for as wide as its
register. Memory of 64 bytes is refused next to the same register. -/
theorem counterexample_wide_memory :
    ((Matcher.find ⟨.x64, .everything⟩ ⟨0x00ee0013⟩
      ((addToMemory 200).map some)).toOption.any fun m =>
        m.form.statedSizes (addToMemory 200) == [200, 4] && m.operandSize == some 4) = true ∧
    Encoder.encodeInst ⟨.x64, .everything⟩ 0 ⟨0x00ee0013⟩ ((addToMemory 200).map some) =
      .ok ⟨[0x01, 0x00], []⟩ ∧
    Encoder.encodeInst ⟨.x64, .everything⟩ 0 ⟨0x00ee0013⟩ ((addToMemory 64).map some) =
      .error (.operandSizes "ADD" 64 4) := by
  decide +kernel

end MachineCode.X86
