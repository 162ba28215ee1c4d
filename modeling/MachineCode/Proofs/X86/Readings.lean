import MachineCode.Proofs.X86.AddressBytes
import MachineCode.Proofs.X86.AddressParts

/-!
Matched operands in the bytes of an instruction. What a processor reads of an emitted match is what
the match has in its places, as long as its memory operand is one that programs can have.
-/
namespace MachineCode.X86

theorem Slot.takes_mem {s : Slot} {a : Mem} {exact : Bool} (h : s.takes (.mem a) exact = true) :
    s.kind.takesMem = true ∧ a.isVsib = s.kind.isVsib := by
  obtain ⟨kind, size⟩ := s
  have htakes := (Bool.and_eq_true_iff.mp h).1
  cases kind <;> simp_all [SlotKind.takes, SlotKind.takesMem, SlotKind.isVsib, Operand.mem?,
    Operand.reg?]

/-- An operand that is not behind the opcode is a register or in memory. -/
theorem Slot.takes_placed {s : Slot} {a : Operand} {exact : Bool} (h : s.takes a exact = true)
    (htrailing : s.kind.isTrailing = false) :
    (∃ r, a = .reg r) ∨ ∃ m, a = .mem m := by
  obtain ⟨kind, size⟩ := s
  have htakes := (Bool.and_eq_true_iff.mp h).1
  cases a with
  | reg r => exact Or.inl ⟨r, rfl⟩
  | mem m => exact Or.inr ⟨m, rfl⟩
  | imm i => cases kind <;> simp_all [SlotKind.takes, SlotKind.isTrailing, Operand.mem?,
      Operand.reg?]
  | addr i => cases kind <;> simp_all [SlotKind.takes, SlotKind.isTrailing, Operand.mem?,
      Operand.reg?]
  | disp i => cases kind <;> simp_all [SlotKind.takes, SlotKind.isTrailing, Operand.mem?,
      Operand.reg?]

theorem SlotKind.isTrailing_of_reg {k : SlotKind} {r : Register} (h : k.takes (.reg r) = true) :
    k.isTrailing = false := by
  cases k <;> first | rfl | cases h

theorem SlotKind.kind_of_takesMem {k : SlotKind} (h : k.takesMem = true) :
    k.isImplied = false ∧ k.isTrailing = false := by
  cases k <;> first | exact ⟨rfl, rfl⟩ | cases h

/-- An address asks for a fourth bit only if one of its registers has it. -/
theorem Mem.extended_eq_false_iff (a : Mem) :
    (a.base.any (·.isExtended) || a.index.any (·.isExtended)) = false ↔
      ∀ r ∈ a.registers, r.num < 8 := by
  have hlow : ∀ r : Register, r.isExtended = false ↔ r.num < 8 := by
    intro r
    rw [Register.isExtended, decide_eq_false_iff_not]
    omega
  unfold Mem.registers
  rcases a.base with _ | b <;> rcases a.index with _ | i <;> simp [hlow]

theorem Mem.Normal.base_not_vector {a : Mem} {size : Option Nat} (h : a.Normal size) :
    ∀ r ∈ a.base, r.isVector = false := by
  intro r hr
  cases h with
  | word hcode hbase =>
    rw [hbase] at hr
    cases hr
    exact Register.isVector_of_class (Register.class_make _ _ _)
  | ip hsize hclass hbase =>
    rw [hbase] at hr
    cases hr
    exact Register.isVector_of_class hclass
  | scaled hsize hbase => exact Register.isVector_of_class (hbase r hr)

/-- Memory operands that programs can have: their segment registers exist, and numbers with a size
fit it. -/
structure Mem.IsGiven (m : Mem) : Prop where
  segment : ∀ r ∈ m.seg, r.IsGiven
  disp : ∀ d ∈ m.disp, d.IsGiven

theorem regNum8_lt {o : Option Register} {n : Nat} (hn : 0 < n) (h : ∀ r ∈ o, r.num < n) :
    (regNum8 o).toNat < n := by
  rw [Mem.toNat_regNum8]
  cases o with
  | none => exact hn
  | some r => exact h r rfl

theorem fourthBit_eq_zero {n : UInt8} (h : n.toNat < 8) : fourthBit n = 0 :=
  UInt8.toNat_inj.mp (by rw [toNat_fourthBit, Nat.div_eq_of_lt h]; rfl)

namespace Placement

variable (p : Placement)

theorem numbers_reg : p.numbers.reg = regNum8 (p.reg.bind (·.reg?)) := by
  unfold numbers
  dsimp only
  split <;> rfl

theorem numbers_index :
    p.numbers.index = regNum8 ((p.rm.bind (·.mem?)).bind (·.index)) := by
  unfold numbers
  rcases p.rm with _ | ⟨_ | _ | _ | _ | _⟩ <;> rfl

theorem numbers_base : p.numbers.base =
    regNum8 ((p.rm.bind (·.reg?)).or ((p.rm.bind (·.mem?)).bind (·.base))) := by
  unfold numbers
  rcases p.rm with _ | ⟨_ | _ | _ | _ | _⟩ <;> rfl

end Placement

def memories (ops : List Operand) : List Mem := ops.filterMap (·.mem?)

theorem mem_memories {ops : List Operand} {a : Mem} : a ∈ memories ops ↔ .mem a ∈ ops := by
  unfold memories
  rw [List.mem_filterMap]
  constructor
  · rintro ⟨x, hx, hmem⟩
    exact Operand.eq_mem hmem ▸ hx
  · exact fun h => ⟨_, h, rfl⟩

theorem memories_eq_nil {ops : List Operand} (h : ∀ a ∈ ops, a.mem? = none) : memories ops = [] :=
  List.filterMap_eq_nil_iff.mpr h

theorem Settled.memories {mode : Mode} {ops settled : List Operand} {size : Nat}
    (h : Settled mode ops settled size) (hone : OneMem ops) :
    (memories ops = [] ∧ memories settled = [] ∧ size = mode.addrSize) ∨
      ∃ a a' n, memories ops = [a] ∧ memories settled = [a'] ∧ a.settle = .ok (a', n) ∧
        size = n.getD mode.addrSize := by
  cases h with
  | absent hnone => exact Or.inl ⟨memories_eq_nil hnone, memories_eq_nil hnone, rfl⟩
  | @present front back a a' n hfront hsettle =>
    refine Or.inr ⟨a, a', n, ?_⟩
    have hsplit : ∀ x, X86.memories (front ++ .mem x :: back) = x :: X86.memories back := by
      intro x
      unfold X86.memories
      rw [List.filterMap_append, List.filterMap_eq_nil_iff.mpr hfront]
      rfl
    have hback : X86.memories back = [] := by
      have hlength : (X86.memories (front ++ .mem a :: back)).length ≤ 1 := hone
      rw [hsplit, List.length_cons] at hlength
      exact List.eq_nil_of_length_eq_zero (by omega)
    rw [hsplit, hsplit, hback]
    exact ⟨rfl, rfl, hsettle, rfl⟩

namespace Matched

variable {c : Matcher} {inst : Inst} {ops settled : List Operand} {m : Match} {b : UInt8}
  {enc : Encoded Reloc}

theorem slot_takes (h : Matched c inst ops settled m) {s : Slot} {x : Operand}
    (hx : (s, x) ∈ m.slots) :
    ∃ y ∈ settled, s.takes y (m.form.has .exactSize) = true ∧ SamePlace y x := by
  obtain ⟨i, hi⟩ := List.mem_iff_getElem?.mp hx
  obtain ⟨hslot, hx⟩ := List.getElem?_zip_eq_some.mp hi
  obtain ⟨hlt, rfl⟩ := List.getElem?_eq_some_iff.mp hx
  have hlt' : i < settled.length := h.args.length_eq ▸ hlt
  have htakes := h.takes
  simp only [Form.takes, Bool.and_eq_true, List.all_eq_true] at htakes
  have hmem : (s, settled[i]) ∈ m.form.slots.zip settled :=
    List.mem_iff_getElem?.mpr
      ⟨i, List.getElem?_zip_eq_some.mpr ⟨hslot, List.getElem?_eq_getElem hlt'⟩⟩
  exact ⟨settled[i], List.getElem_mem hlt', htakes.2 _ hmem, h.args.get hlt' hlt⟩

theorem takes_mem (h : Matched c inst ops settled m) {s : Slot} {a : Mem}
    (hx : (s, .mem a) ∈ m.slots) : s.kind.takesMem = true ∧ a.isVsib = s.kind.isVsib := by
  obtain ⟨y, -, htakes, -, hsame⟩ := h.slot_takes hx
  obtain rfl := Operand.eq_mem hsame.symm
  exact Slot.takes_mem htakes

theorem takes_reg (h : Matched c inst ops settled m) {s : Slot} {r : Register}
    (hx : (s, .reg r) ∈ m.slots) : s.kind.takes (.reg r) = true := by
  obtain ⟨y, -, htakes, hsame, -⟩ := h.slot_takes hx
  obtain rfl := Operand.eq_reg hsame.symm
  exact (Bool.and_eq_true_iff.mp htakes).1

theorem slot_of_placement (h : Matched c inst ops settled m) {q : Role} {x : Operand}
    (hx : m.placement.get q = some x) :
    ∃ s, (s, x) ∈ m.slots ∧ s.kind.isImplied = false ∧ s.kind.isTrailing = false ∧
      (s, q) ∈ m.form.placed.zip m.form.places :=
  Form.exists_slot h.length_slots ((h.placement_get q x).mp hx)

theorem reg_or_mem (h : Matched c inst ops settled m) {s : Slot} {x : Operand}
    (hx : (s, x) ∈ m.slots) (htrailing : s.kind.isTrailing = false) :
    (∃ r, x = .reg r) ∨ ∃ a, x = .mem a := by
  obtain ⟨y, -, htakes, hreg, hmem⟩ := h.slot_takes hx
  rcases Slot.takes_placed htakes htrailing with ⟨r, rfl⟩ | ⟨a, rfl⟩
  · exact Or.inl ⟨r, Operand.eq_reg hreg⟩
  · exact Or.inr ⟨a, Operand.eq_mem hmem⟩

theorem reg_or_mem_of_placement (h : Matched c inst ops settled m) {q : Role} {x : Operand}
    (hx : m.placement.get q = some x) : (∃ r, x = .reg r) ∨ ∃ a, x = .mem a := by
  obtain ⟨s, hslot, -, htrailing, -⟩ := h.slot_of_placement hx
  exact h.reg_or_mem hslot htrailing

theorem mem_slots (h : Matched c inst ops settled m) {x : Operand} (hx : x ∈ m.args) :
    ∃ s, (s, x) ∈ m.slots := by
  obtain ⟨i, hi⟩ := List.mem_iff_getElem?.mp hx
  obtain ⟨hlt, -⟩ := List.getElem?_eq_some_iff.mp hi
  have hlt' : i < m.form.slots.length := h.length_slots ▸ hlt
  exact ⟨m.form.slots[i], List.mem_iff_getElem?.mpr
    ⟨i, List.getElem?_zip_eq_some.mpr ⟨List.getElem?_eq_getElem hlt', hi⟩⟩⟩

/-- The registers of a match are those that were given, in the same places. -/
theorem map_reg (h : Matched c inst ops settled m) : m.args.map (·.reg?) = ops.map (·.reg?) := by
  have hmap : ∀ {xs ys : List Operand}, List.Forall₂ SameRegister xs ys →
      ys.map (·.reg?) = xs.map (·.reg?) := by
    intro xs ys hsame
    rw [← List.forall₂_eq_eq_eq, List.forall₂_map_left_iff, List.forall₂_map_right_iff]
    exact hsame.flip
  exact (hmap (h.args.imp fun _ _ hsame => hsame.1)).trans (hmap h.memory.sameRegister)

theorem reg_mem_ops (h : Matched c inst ops settled m) {r : Register} :
    .reg r ∈ m.args ↔ .reg r ∈ ops := by
  have hmem : ∀ xs : List Operand, .reg r ∈ xs ↔ some r ∈ xs.map (·.reg?) := by
    intro xs
    rw [List.mem_map]
    constructor
    · exact fun hr => ⟨_, hr, rfl⟩
    · rintro ⟨x, hx, hr⟩
      exact Operand.eq_reg hr ▸ hx
  rw [hmem, hmem, h.map_reg]

/-- In 32-bit mode the registers of the operands have numbers of three bits. -/
theorem low_of_x86 (h : Matched c inst ops settled m) (hmode : c.mode = .x86) {r : Register}
    (hr : .reg r ∈ ops ∨ ∃ a ∈ memories ops, r ∈ a.registers) :
    r.num < 8 ∧ r.class? ≠ some .ip := by
  have hexists := h.checked hmode r (hr.imp_right fun ⟨a, ha, hr⟩ => ⟨a, mem_memories.mp ha, hr⟩)
  simp only [Scratch.existsIn32, Register.isClass, Register.isExtended, Bool.not_eq_true',
    Bool.or_eq_false_iff, beq_eq_false_iff_ne, decide_eq_false_iff_not] at hexists
  exact ⟨by omega, hexists.1.1.1⟩

theorem memory_cases (h : Matched c inst ops settled m) (hone : OneMem ops) :
    (memories ops = [] ∧ memories m.args = [] ∧ m.addrSize = c.mode.addrSize) ∨
      ∃ a a' size, memories ops = [a] ∧ memories m.args = [a'] ∧ a.settle = .ok (a', size) ∧
        m.addrSize = size.getD c.mode.addrSize := by
  have hargs : memories m.args = memories settled := by
    have hmap : m.args.map (·.mem?) = settled.map (·.mem?) := by
      rw [← List.forall₂_eq_eq_eq, List.forall₂_map_left_iff, List.forall₂_map_right_iff]
      exact (h.args.imp fun _ _ hsame => hsame.2).flip
    have hid : ∀ xs, memories xs = (xs.map (·.mem?)).filterMap id := by
      intro xs
      rw [List.filterMap_map]
      rfl
    rw [hid, hid, hmap]
  rw [hargs]
  exact h.memory.memories hone

/-- No address of two bytes has the instruction pointer in it. -/
theorem not_ip_of_word (h : Matched c inst ops settled m) {a : Mem} (ha : a ∈ memories ops)
    {size : Option Nat} (hsize : m.addrSize = size.getD c.mode.addrSize) (hword : size = some 2) :
    ∀ r ∈ a.registers, r.class? ≠ some .ip := by
  subst hword
  intro r hr
  cases hmode : c.mode with
  | x64 =>
    have hhas := h.addrSize
    rw [hmode, hsize] at hhas
    cases hhas
  | x86 => exact (h.low_of_x86 hmode (.inr ⟨_, ha, hr⟩)).2

theorem arranged (h : Matched c inst ops settled m) (hone : OneMem ops)
    (hgiven : ∀ a ∈ memories ops, a.IsGiven) {a' : Mem} (ha' : a' ∈ memories m.args) :
    ∃ a ∈ memories ops, ∃ size, a.Arranged a' size ∧ a.checkSegment = .ok () ∧
      m.addrSize = size.getD c.mode.addrSize := by
  rcases h.memory_cases hone with ⟨-, hnone, -⟩ | ⟨a, a'', size, hops, hargs, hsettle, hsize⟩
  · rw [hnone] at ha'
    cases ha'
  · rw [hargs, List.mem_singleton] at ha'
    subst ha'
    have ha : a ∈ memories ops := by
      rw [hops]
      exact List.mem_cons_self
    obtain ⟨harranged, hsegment⟩ :=
      Mem.settle_spec (hgiven a ha).disp (h.not_ip_of_word ha hsize) hsettle
    exact ⟨a, ha, size, harranged, hsegment, hsize⟩

theorem mem?_eq (m : Match) : m.mem? = (memories m.args).head? :=
  (List.head?_filterMap).symm

theorem segment_lt (h : Matched c inst ops settled m) (hone : OneMem ops)
    (hgiven : ∀ a ∈ memories ops, ∀ r ∈ a.seg, r.IsGiven) : ∀ s ∈ m.segment?, s.num < 6 := by
  intro s hs
  unfold Match.segment? at hs
  rw [mem?_eq] at hs
  obtain ⟨a', ha', hseg⟩ := Option.bind_eq_some_iff.mp hs
  rcases h.memory_cases hone with ⟨-, hnone, -⟩ | ⟨a, a'', size, hops, hargs, hsettle, -⟩
  · rw [hnone] at ha'
    cases ha'
  · rw [hargs] at ha'
    obtain rfl := Option.some.inj ha'
    obtain ⟨hkept, hsegment⟩ := Mem.segment_of_settle hsettle
    rw [hkept] at hseg
    have ha : a ∈ memories ops := hops ▸ List.mem_cons_self
    obtain ⟨k, hclass, hnumber⟩ := (hgiven a ha s hseg).exists_class
    have hisClass := hsegment s hseg
    rw [Register.isClass, hclass, beq_iff_eq] at hisClass
    obtain rfl := Option.some.inj hisClass
    simpa [RegClass.hasNumber] using hnumber

section Placed

variable {q : Role} {r : Register} {a' : Mem}

theorem reg_placed (h : Matched c inst ops settled m) (hr : m.placement.get q = some (.reg r)) :
    .reg r ∈ ops := by
  obtain ⟨s, hslot, -⟩ := h.slot_of_placement hr
  exact h.reg_mem_ops.mp (List.of_mem_zip hslot).2

theorem mem_placed (h : Matched c inst ops settled m) (ha : m.placement.get q = some (.mem a')) :
    a' ∈ memories m.args := by
  obtain ⟨s, hslot, -⟩ := h.slot_of_placement ha
  exact mem_memories.mpr (List.of_mem_zip hslot).2

theorem low_reg_placed (h : Matched c inst ops settled m) (hmode : c.mode = .x86)
    (hr : m.placement.get q = some (.reg r)) : r.num < 8 :=
  (h.low_of_x86 hmode (.inl (h.reg_placed hr))).1

theorem low_mem_placed (h : Matched c inst ops settled m) (hone : OneMem ops)
    (hgiven : ∀ a ∈ memories ops, a.IsGiven) (hmode : c.mode = .x86)
    (ha : m.placement.get q = some (.mem a')) : ∀ r ∈ a'.registers, r.num < 8 := by
  obtain ⟨a, ha, size, harranged, -⟩ := h.arranged hone hgiven (h.mem_placed ha)
  exact harranged.low fun r hr => (h.low_of_x86 hmode (.inr ⟨_, ha, hr⟩)).1

end Placed

theorem encodable (h : Matched c inst ops settled m) (hone : OneMem ops)
    (hgiven : ∀ a ∈ memories ops, a.IsGiven) : m.placement.Encodable m.mode := by
  refine ⟨regNum8_lt (by decide) fun r _ => r.num_lt, fun hmode => ?_⟩
  rw [h.mode] at hmode
  have hreg : ∀ q, (regNum8 ((m.placement.get q).bind (·.reg?))).toNat < 8 := by
    refine fun q => regNum8_lt (by decide) fun r hr => ?_
    obtain ⟨x, hx, hxr⟩ := Option.bind_eq_some_iff.mp hr
    exact h.low_reg_placed hmode (Operand.eq_reg hxr ▸ hx)
  refine ⟨?_, ?_, hreg .extra⟩
  · rw [Placement.numbers_reg]
    exact fourthBit_eq_zero (hreg .reg)
  · rw [Placement.numbers_index]
    refine fourthBit_eq_zero (regNum8_lt (by decide) fun r hr => ?_)
    obtain ⟨a', ha', hindex⟩ := Option.bind_eq_some_iff.mp hr
    obtain ⟨x, hx, hxa⟩ := Option.bind_eq_some_iff.mp ha'
    refine h.low_mem_placed (q := .rm) hone hgiven hmode (Operand.eq_mem hxa ▸ hx) r ?_
    exact List.mem_append_right _ (Option.mem_toList.mpr hindex)

end Matched

section Follows

variable {c : Matcher} {inst : Inst} {ops settled : List Operand} {m : Match}

/-- Every address begins with a ModRM byte that is none of a register. -/
theorem Mem.emit_head (a : Mem) (mode : Mode) (size : Nat) (reg : UInt8) :
    ∃ mod rm rest, (a.emit mode size reg).flatMap Piece.code = modByte mod reg rm :: rest ∧
      mod.toNat < 3 := by
  unfold Mem.emit
  split
  · unfold Mem.emitWord
    dsimp only
    split
    · split <;> exact ⟨_, _, _, rfl, by decide⟩
    · exact ⟨_, _, _, rfl, by decide⟩
    · exact ⟨_, _, _, rfl, by decide⟩
  · split
    · exact ⟨_, _, _, rfl, by decide⟩
    · have hmod := (Mem.layout_spec (m := a)).1
      unfold Mem.emitLegacy
      cases hi : a.index with
      | some i =>
        rw [Mem.scaledHead_of_index hi]
        exact ⟨_, _, _, rfl, hmod⟩
      | none =>
        cases hb : a.base with
        | some b =>
          rw [Mem.scaledHead_of_base hi hb]
          exact ⟨_, _, _, rfl, hmod⟩
        | none =>
          rw [Mem.scaledHead_of_none hi hb]
          cases mode <;> exact ⟨_, _, _, rfl, by decide⟩

/-- What the register field of a ModRM byte holds: a register, or the digit of the opcode. -/
def Match.fieldNum (m : Match) : UInt8 :=
  ((m.placement.reg.bind (·.reg?)).map (·.num8)).getD (UInt8.ofNat (m.form.digit.getD 7))

namespace Matched

theorem slot_of_placed (h : Matched c inst ops settled m) {s : Slot} (hs : s ∈ m.form.placed) :
    ∃ x, (s, x) ∈ m.slots ∧ s.kind.isImplied = false ∧ s.kind.isTrailing = false := by
  rw [Form.placed_eq h.length_slots] at hs
  obtain ⟨⟨s', x⟩, hx, rfl⟩ := List.mem_map.mp hs
  obtain ⟨hslot, hkind⟩ := List.mem_filter.mp hx
  simp only [Bool.and_eq_true, Bool.not_eq_true'] at hkind
  exact ⟨x, hslot, hkind⟩

/-- Memory stands in its own field, in rows whose opcode has no register in it. -/
theorem rm_of_mem_slot (h : Matched c inst ops settled m) {s : Slot} {a : Mem}
    (hslot : (s, .mem a) ∈ m.slots) : m.placement.rm = some (.mem a) ∧
      m.form.has .shortArg = false ∧ m.form.has .pref67 = false ∧
        m.form.gathers = a.isVsib := by
  obtain ⟨htakes, hvsib⟩ := h.takes_mem hslot
  have hkind := SlotKind.kind_of_takesMem htakes
  obtain ⟨q, hassigned, hzip⟩ :=
    h.regular.exists_role h.length_slots hslot hkind.1 hkind.2
  obtain ⟨rfl, hpref, hshort, hgathers⟩ := h.regular.memory _ hzip htakes
  exact ⟨(h.placement_get .rm _).mpr hassigned, hshort, hpref,
    hgathers.symm.trans hvsib.symm⟩

theorem addressPieces_of_mem {a : Mem} (hrm : m.placement.rm = some (.mem a))
    (hshort : m.form.has .shortArg = false) :
    m.addressPieces m.placement = a.emit m.mode m.addrSize m.fieldNum := by
  unfold Match.addressPieces
  dsimp only
  rw [hshort, hrm]
  rfl

theorem body_of_mem {a : Mem} (hrm : m.placement.rm = some (.mem a))
    (hshort : m.form.has .shortArg = false) : m.body =
      (a.emit m.mode m.addrSize m.fieldNum).flatMap Piece.code ++ m.tail := by
  rw [Match.body, addressPieces_of_mem hrm hshort]

theorem body_of_reg {r : Register} (hrm : m.placement.rm = some (.reg r))
    (hshort : m.form.has .shortArg = false) : m.body =
      modByte 3 m.fieldNum r.num8 :: m.tail := by
  unfold Match.body Match.addressPieces
  dsimp only
  rw [hshort, hrm]
  rfl

/-- The register field of a ModRM byte without a register in it holds the digit of the opcode. -/
theorem follows (h : Matched c inst ops settled m) : Follows m.form m.body where
  mem := by
    intro hneeds
    obtain ⟨s, hs, hkind⟩ := List.any_eq_true.mp hneeds
    obtain ⟨x, hslot, himplied, htrailing⟩ := h.slot_of_placed hs
    obtain ⟨y, -, htakes, -, hmem⟩ := h.slot_takes hslot
    obtain ⟨a, hy⟩ : ∃ a, y.mem? = some a := by
      have hplain := (Bool.and_eq_true_iff.mp htakes).1
      rw [eq_of_beq hkind] at hplain
      exact ((Option.any_eq_true _ _).mp hplain).imp fun a ha => ha.1
    obtain rfl := Operand.eq_mem (hmem.trans hy)
    obtain ⟨hrm, hshort, -⟩ := h.rm_of_mem_slot hslot
    rw [body_of_mem hrm hshort]
    obtain ⟨mod, rm, rest, hhead, hmod⟩ := a.emit_head m.mode m.addrSize _
    rw [hhead]
    refine ⟨_, _, rfl, ?_⟩
    rw [toNat_modByte _ (by omega)]
    omega
  digit := by
    intro hdigit hplaces hshort b hb
    have hreg : m.placement.reg = none := by
      rw [Option.eq_none_iff_forall_ne_some]
      intro x hx
      obtain ⟨s, -, -, -, hzip⟩ := h.slot_of_placement (q := .reg) hx
      rw [hplaces] at hzip
      have hrole := List.mem_singleton.mp (List.of_mem_zip hzip).2
      cases hrole
    have hzero : ∀ {mod rm : UInt8}, mod.toNat < 4 → (modByte mod 0 rm).toNat % 64 < 8 := by
      intro mod rm hmod
      rw [toNat_modByte _ hmod]
      simp
      omega
    have hfield : m.fieldNum = 0 := by
      rw [Match.fieldNum, hreg, hdigit]
      rfl
    obtain ⟨s, hs⟩ : ∃ s, s ∈ m.form.placed := by
      have hlength := h.regular.length
      rw [hplaces] at hlength
      exact List.exists_mem_of_length_pos (by rw [← hlength]; decide)
    obtain ⟨x, hslot, himplied, htrailing⟩ := h.slot_of_placed hs
    obtain ⟨q, hassigned, hzip⟩ :=
      h.regular.exists_role h.length_slots hslot himplied htrailing
    rw [hplaces] at hzip
    obtain rfl := List.mem_singleton.mp (List.of_mem_zip hzip).2
    have hrm : m.placement.rm = some x := (h.placement_get .rm _).mpr hassigned
    rcases h.reg_or_mem_of_placement (q := .rm) hrm with ⟨r, rfl⟩ | ⟨a, rfl⟩
    · rw [body_of_reg hrm hshort, hfield] at hb
      obtain rfl := Option.some.inj hb
      exact hzero (by decide)
    · rw [body_of_mem hrm hshort, hfield] at hb
      obtain ⟨mod, rm, rest, hhead, hmod⟩ := a.emit_head m.mode m.addrSize 0
      rw [hhead] at hb
      obtain rfl := Option.some.inj hb
      exact hzero (by omega)

theorem reads (h : Matched c inst ops settled m) {s : Slot} {a' : Mem} {bits : SizeBits}
    {d : Decoded} (hslot : (s, .mem a') ∈ m.slots) (hframed : Framed m bits d)
    (hbase : ∀ r ∈ a'.base, r.isVector = false) : a'.Reads d := by
  obtain ⟨hrm, -, -, hgathers⟩ := h.rm_of_mem_slot hslot
  have hplaced : m.placement.bits.index = (regNum8 a'.index).toNat / 8 % 2 ∧
      m.placement.bits.base = (regNum8 a'.base).toNat / 8 % 2 := by
    unfold Placement.bits
    dsimp only
    rw [Placement.numbers_index, Placement.numbers_base, hrm, toNat_fourthBit, toNat_fourthBit]
    exact ⟨rfl, rfl⟩
  have hbits : d.bits.index = (regNum8 a'.index).toNat / 8 % 2 ∧
      d.bits.base = (regNum8 a'.base).toNat / 8 % 2 := by
    rcases hframed.bits with hbits | ⟨hneed, hbits⟩
    · rw [hbits]
      exact hplaced
    · -- Without a REX prefix, no register of the address asks for one.
      have hkind := SlotKind.kind_of_takesMem (h.takes_mem hslot).1
      have hnone := List.any_eq_false.mp hneed _ hslot
      dsimp only at hnone
      rw [hkind.1, Bool.not_false, Bool.true_and, Bool.not_eq_true, a'.extended_eq_false_iff]
        at hnone
      have hindex : (regNum8 a'.index).toNat < 8 := regNum8_lt (by decide) fun r hr =>
        hnone r (List.mem_append_right _ (Option.mem_toList.mpr hr))
      have hbase : (regNum8 a'.base).toNat < 8 := regNum8_lt (by decide) fun r hr =>
        hnone r (List.mem_append_left _ (Option.mem_toList.mpr hr))
      rw [hbits, Nat.div_eq_of_lt hindex, Nat.div_eq_of_lt hbase]
      exact ⟨rfl, rfl⟩
  exact {
    index := hbits.1
    base := hbits.2
    gathers := by
      rw [hframed.gathers, hgathers, Mem.isVsib]
      have hnone : a'.base.any (·.isVector) = false := by
        rw [Option.any_eq_false]
        exact fun r hr => by rw [hbase r hr]
      rw [hnone, Bool.or_false] }

theorem not_ip_of_x86 (h : Matched c inst ops settled m) (hmode : c.mode = .x86) {a a' : Mem}
    {size : Option Nat} (ha : a ∈ memories ops) (harranged : a.Arranged a' size) :
    a'.base.any (·.isClass .ip) = false := by
  -- The sum that counts the instruction pointer is the same before and after.
  have hcount := harranged.total fun s => if s = .ip then 1 else 0
  have hterms : total a.terms (fun s => if s = .ip then 1 else 0) = 0 := by
    refine total_eq_zero fun t ht => if_neg fun hip => ?_
    obtain ⟨r, hr, hsource⟩ : ∃ r ∈ a.registers, r.source = .ip := by
      rcases List.mem_append.mp ht with ht | ht <;> obtain ⟨r, hr, rfl⟩ := List.mem_map.mp ht
      · exact ⟨r, List.mem_append_left _ hr, hip⟩
      · exact ⟨r, List.mem_append_right _ hr, hip⟩
    have hclass := (h.low_of_x86 hmode (.inr ⟨_, ha, hr⟩)).2
    unfold Register.source Register.isClass at hsource
    rw [if_neg (by simpa using hclass)] at hsource
    split at hsource <;> cases hsource
  cases harranged.normal with
  | word hcode hbase =>
    rw [hbase, Option.any_some, Register.isClass, Register.class_make]
    rfl
  | ip hsize hr hbase hindex =>
    rw [hterms, Mem.coded, if_neg (fun h => hsize (Option.some.inj h)), hbase, hindex] at hcount
    simp [Register.source_of_ip hr] at hcount
  | scaled hsize hbase =>
    rw [Option.any_eq_false]
    intro r hr
    rw [Register.isClass, hbase r hr]
    decide

theorem addrSize_of_framed (h : Matched c inst ops settled m) {bits : SizeBits} {d : Decoded}
    (hframed : Framed m bits d) (hpref : m.form.has .pref67 = false) : d.addrSize = m.addrSize := by
  have hhas := h.addrSize
  unfold Decoded.addrSize
  rw [hframed.mode, hframed.otherSize, Match.addrPrefix, hpref, h.mode]
  generalize m.addrSize = n at hhas ⊢
  cases hmode : c.mode <;> rw [hmode] at hhas <;> simp [Mode.hasAddrSize] at hhas <;>
    rcases hhas with rfl | rfl <;> rfl

/-- The ModRM byte, the SIB byte and the displacement of a memory operand are read back. -/
theorem modRm_mem (h : Matched c inst ops settled m) {s : Slot} {a a' : Mem} {size : Option Nat}
    {bits : SizeBits} {d : Decoded} (hslot : (s, .mem a') ∈ m.slots) (ha : a ∈ memories ops)
    (harranged : a.Arranged a' size) (hsize : m.addrSize = size.getD c.mode.addrSize)
    (hframed : Framed m bits d) : d.modRm? = some
      ⟨m.fieldNum.toNat % 8 + 8 * d.bits.reg,
        .memory ⟨a.addrSize c.mode, a'.coded size, a.dispNumber⟩, m.tail⟩ := by
  obtain ⟨hrm, hshort, hpref, -⟩ := h.rm_of_mem_slot hslot
  have hmode : d.mode = c.mode := hframed.mode.trans h.mode
  have haddr : d.addrSize = m.addrSize := h.addrSize_of_framed hframed hpref
  have hip : a'.base.any (·.isClass .ip) = true → d.mode = .x64 := by
    intro hip
    rw [hmode]
    cases hx : c.mode with
    | x64 => rfl
    | x86 =>
      rw [h.not_ip_of_x86 hx ha harranged] at hip
      cases hip
  have hbody : d.body = (a'.emit d.mode d.addrSize m.fieldNum).flatMap Piece.code ++ m.tail := by
    rw [hframed.body, body_of_mem hrm hshort, haddr, hframed.mode]
  rw [Mem.modRm_emit harranged.normal harranged.fitting
    (h.reads hslot hframed harranged.normal.base_not_vector) (by rw [haddr, hsize, hmode]) hip
    hbody, haddr, hsize, harranged.width, harranged.number]

/-- An emitted match is read as it was to be emitted. -/
theorem framed (h : Matched c inst ops settled m) (hone : OneMem ops)
    (hgiven : ∀ a ∈ memories ops, a.IsGiven) (hvaries : m.form.varies = true)
    (hwait : m.form.code.headD 0 = 0x9b → m.Bare) {b : UInt8} {enc : Encoded Reloc}
    (hemit : m.emit b = .ok enc) :
    ∃ bits, m.sizeBits = .ok bits ∧ Framed m bits (decode c.mode enc.code) := by
  obtain ⟨bits, rex, hallowed, hbits, hrex, hcode⟩ := Match.emit_spec hemit
  have hseg := h.segment_lt hone fun a ha => (hgiven a ha).segment
  refine ⟨bits, hbits, ?_⟩
  rw [hcode, ← h.mode]
  cases hvector : m.form.isVector with
  | true => exact framed_vector h.regular hvector hallowed hseg (h.encodable hone hgiven)
  | false =>
    have hmode : m.form.has .x86Only = true → m.mode = .x86 := by
      intro honly
      have htakes := h.takes
      simp only [Form.takes, honly, Bool.and_eq_true, Bool.not_true, Bool.false_or,
        beq_iff_eq] at htakes
      exact h.mode.trans htakes.1.1.2
    exact framed_plain h.regular hvector hvaries hallowed hseg hmode hrex h.follows hwait

end Matched

end Follows

end MachineCode.X86
