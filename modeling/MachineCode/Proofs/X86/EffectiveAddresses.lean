import MachineCode.Proofs.X86.Readings

/-!
Effective addresses. For all values of the registers, an emitted instruction addresses the memory
that its operand means, through the same segment. Rows that begin with an FWAIT lose the prefixes of
their addresses to it.
-/
namespace MachineCode.X86

structure Mem.IsPlain (a : Mem) (mode : Mode) : Prop where
  segment : a.seg = none
  width : a.addrSize mode = mode.addrSize
  registers : ∀ r ∈ a.registers, r.num < 8

def Inst.waits (i : Inst) : Bool := i.rows.any fun x => x.1.form.code.headD 0 == 0x9b

/-- A processor reads a memory operand as it was meant: the same sum of registers, scaled registers
and displacement, cut to the same width, and the same segment override. -/
structure Addresses (d : Decoded) (a : Mem) : Prop where
  memory : ∃ x, d.modRm?.map (·.rm) = some (.memory x) ∧ x.size = a.addrSize d.mode ∧
    ∀ v, x.eval v = (total a.terms v + a.dispNumber) % 2 ^ (8 * a.addrSize d.mode)
  segment : d.segment = a.seg.map (·.num)

namespace Matched

variable {c : Matcher} {inst : Inst} {ops settled : List Operand} {m : Match}

theorem waits (h : Matched c inst ops settled m) (hwait : m.form.code.headD 0 = 0x9b) :
    inst.waits = true := by
  obtain ⟨name, hrow⟩ := h.row
  exact List.any_eq_true.mpr ⟨_, hrow, beq_iff_eq.mpr hwait⟩

/-- A row that begins with an FWAIT has no register operands. -/
theorem bare_of_wait (h : Matched c inst ops settled m) (hwait : m.form.code.headD 0 = 0x9b)
    {s : Slot} {a' : Mem} (hslot : (s, .mem a') ∈ m.slots) (hmem : memories m.args = [a'])
    (hsegment : a'.seg = none) (hsize : m.addrSize = c.mode.addrSize)
    (hlow : ∀ r ∈ a'.registers, r.num < 8) : m.Bare := by
  refine ⟨?_, ?_, ?_⟩
  · rw [Match.segment?, mem?_eq, hmem]
    exact hsegment
  · rw [Match.addrPrefix, (h.rm_of_mem_slot hslot).2.2.1, hsize, h.mode]
    cases c.mode <;> rfl
  · rw [Match.needsRex, List.any_eq_false]
    rintro ⟨s', x⟩ hx
    cases x with
    | reg r =>
      have htakes := h.takes_reg hx
      have himplied : s'.kind.isImplied = true := by
        by_contra hnot
        have hplaced : s' ∈ m.form.placed := List.mem_filter.mpr
          ⟨(List.of_mem_zip hx).1, by simp [hnot, SlotKind.isTrailing_of_reg htakes]⟩
        rw [(h.regular.wait hwait).2 s' hplaced] at htakes
        cases htakes
      simp [himplied]
    | mem a =>
      have ha : a ∈ memories m.args := mem_memories.mpr (List.of_mem_zip hx).2
      rw [hmem, List.mem_singleton] at ha
      subst ha
      dsimp only
      rw [a.extended_eq_false_iff.mpr hlow, Bool.and_false]
      decide
    | _ => simp

theorem addresses (h : Matched c inst ops settled m) (hone : OneMem ops)
    (hgiven : ∀ a ∈ memories ops, a.IsGiven) {a : Mem} (ha : a ∈ memories ops)
    (hwait : inst.waits = true → a.IsPlain c.mode) {b : UInt8} {enc : Encoded Reloc}
    (hemit : m.emit b = .ok enc) : Addresses (decode c.mode enc.code) a := by
  obtain ⟨a', hargs⟩ : ∃ a', memories m.args = [a'] := by
    rcases h.memory_cases hone with ⟨hnone, -⟩ | ⟨-, a', -, -, hargs, -⟩
    · rw [hnone] at ha
      cases ha
    · exact ⟨a', hargs⟩
  have ha' : a' ∈ memories m.args := by
    rw [hargs]
    exact List.mem_cons_self
  obtain ⟨a₂, ha₂, size, harranged, -, hsize⟩ := h.arranged hone hgiven ha'
  obtain rfl : a₂ = a := by
    obtain ⟨x, hx⟩ := List.length_eq_one_iff.mp
      (Nat.le_antisymm hone (List.length_pos_of_mem ha))
    rw [memories, hx, List.mem_singleton] at ha ha₂
    rw [ha, ha₂]
  obtain ⟨s, hslot⟩ := h.mem_slots (mem_memories.mp ha')
  have hkind := SlotKind.kind_of_takesMem (h.takes_mem hslot).1
  have hvaries : m.form.varies = true := by
    have hplaced : s ∈ m.form.placed :=
      List.mem_filter.mpr ⟨(List.of_mem_zip hslot).1, by rw [hkind.1, hkind.2]; rfl⟩
    unfold Form.varies
    rw [List.isEmpty_eq_false_iff.mpr (List.ne_nil_of_mem hplaced)]
    rfl
  have hbare : m.form.code.headD 0 = 0x9b → m.Bare := by
    intro h9b
    have hplain := hwait (h.waits h9b)
    refine h.bare_of_wait h9b hslot hargs (harranged.seg.trans hplain.segment) ?_
      (harranged.low hplain.registers)
    rw [hsize, harranged.width, hplain.width]
  obtain ⟨bits, -, hframed⟩ := h.framed hone hgiven hvaries hbare hemit
  have hread := h.modRm_mem hslot ha harranged hsize hframed
  have hmode : (decode c.mode enc.code).mode = c.mode := hframed.mode.trans h.mode
  exact {
    memory := by
      rw [hread, hmode]
      refine ⟨_, rfl, rfl, fun v => ?_⟩
      rw [Address.eval, harranged.total]
    segment := by
      rw [hframed.segment, Match.segment?, mem?_eq, hargs, ← harranged.seg]
      rfl }

end Matched

/-- Memory operands are addressed as they were given: in all rows, both modes, and all ways of
encoding. Rows that begin with an FWAIT need an address of which no prefix speaks. -/
theorem effective_addresses_kept {e : Encoder} {inst : Inst} {ops : List Operand}
    {enc : Encoded Reloc} {a : Mem} (h : Encodes e inst ops enc) (ha : .mem a ∈ ops)
    (hgiven : a.IsGiven) (hwait : inst.waits = true → a.IsPlain e.mode) :
    Addresses (decode e.mode enc.code) a := by
  obtain ⟨hone, c, settled, m, b, hmode, hmatched, hemit⟩ := h.matched
  have hmem := mem_memories.mpr ha
  have hall : ∀ x ∈ memories ops, x.IsGiven := by
    obtain ⟨y, hy⟩ := List.length_eq_one_iff.mp
      (Nat.le_antisymm hone (List.length_pos_of_mem hmem))
    intro x hx
    rw [memories, hy, List.mem_singleton] at hmem hx
    rwa [hx, ← hmem]
  rw [← hmode] at hwait ⊢
  exact hmatched.addresses hone hall hmem hwait hemit

def scaledBack : Mem where
  disp := some (.rel (-300) 0)
  base := some (.make .legacy 4 13)
  index := some (.make .legacy 4 12)
  seg := some (.make .segment 2 4)
  scale := 4

theorem effective_addresses_kept_scaled :
    .mem scaledBack ∈ [Operand.reg (.make .legacy 8 0), .mem scaledBack] ∧ scaledBack.IsGiven ∧
      Encodes ⟨.x64, .everything⟩ ⟨0x32da02d1⟩ [.reg (.make .legacy 8 0), .mem scaledBack]
        ⟨[0x64, 0x67, 0x4b, 0x8b, 0x84, 0xa5, 0xd4, 0xfe, 0xff, 0xff], []⟩ ∧
      Addresses (decode .x64 [0x64, 0x67, 0x4b, 0x8b, 0x84, 0xa5, 0xd4, 0xfe, 0xff, 0xff])
        scaledBack := by
  have hmem : .mem scaledBack ∈ [Operand.reg (.make .legacy 8 0), .mem scaledBack] := by decide
  have hgiven : scaledBack.IsGiven := {
    segment := by
      rintro r ⟨⟩
      exact Register.isGiven_of_name (n := "fs") (by decide +kernel)
    disp := by
      rintro d ⟨⟩
      exact Or.inl rfl }
  have hencodes : Encodes ⟨.x64, .everything⟩ ⟨0x32da02d1⟩
      [.reg (.make .legacy 8 0), .mem scaledBack]
      ⟨[0x64, 0x67, 0x4b, 0x8b, 0x84, 0xa5, 0xd4, 0xfe, 0xff, 0xff], []⟩ :=
    .inst (b := 0) (by decide +kernel)
  have hwait : (⟨0x32da02d1⟩ : Inst).waits = true → scaledBack.IsPlain .x64 := by
    have hnone : (⟨0x32da02d1⟩ : Inst).waits = false := by decide +kernel
    exact fun h => Bool.noConfusion (hnone.symm.trans h)
  exact ⟨hmem, hgiven, hencodes, effective_addresses_kept hencodes hmem hgiven hwait⟩

/-- `fstcw [r8]` stores to the address in `rax`: its REX prefix stands in front of the FWAIT. -/
theorem counterexample_wait :
    Encoder.encode ⟨.x64, .everything⟩ "fstcw"
        [.operand (.mem { base := some (.make .legacy 8 8) })] =
      .ok ⟨[0x41, 0x9b, 0xd9, 0x38], []⟩ ∧
    (decode .x64 [0x41, 0x9b, 0xd9, 0x38]).modRm?.map (·.rm) =
      some (.memory ⟨8, [(.general 0, 1)], 0⟩) ∧
    ¬ Addresses (decode .x64 [0x41, 0x9b, 0xd9, 0x38]) { base := some (.make .legacy 8 8) } := by
  have hread : (decode .x64 [0x41, 0x9b, 0xd9, 0x38]).modRm?.map (·.rm) =
      some (.memory ⟨8, [(.general 0, 1)], 0⟩) := by decide +kernel
  refine ⟨by decide +kernel, hread, fun h => ?_⟩
  obtain ⟨x, hx, -, heval⟩ := h.memory
  rw [hread] at hx
  obtain rfl := Rm.memory.inj (Option.some.inj hx)
  exact absurd (heval fun s => if s = .general 8 then 1 else 0) (by decide +kernel)

end MachineCode.X86
