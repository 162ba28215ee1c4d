import Mathlib.Algebra.Order.BigOperators.Group.List
import Mathlib.Algebra.Order.Group.Nat
import MachineCode.Proofs.X86.Immediates
import MachineCode.Proofs.X86.References
import MachineCode.Proofs.X86.RegisterFields

/-!
Lengths of instructions. Every part of an instruction has a bound that its row tells, and no row has
more than fifteen bytes for all of them, but for those with a number of four bytes behind an XOP
prefix. They have sixteen if a segment override and an address size prefix stand in front of an
address of six bytes.
-/
namespace MachineCode.X86

namespace Form

def numbers (f : Form) : List Slot := f.slots.filter (·.kind.isTrailing)

def takesMem (f : Form) : Bool := f.slots.any (·.kind.takesMem)

/-- Room for a prefix byte, a segment override and the address size prefix. -/
def frontRoom (f : Form) : Nat :=
  (if f.has .lock || f.has .rep || f.has .repe then 1 else 0) +
    if f.takesMem then 2 else if f.has .pref67 then 1 else 0

def opcodeRoom (f : Form) : Nat :=
  if f.isVector then 4
  else (if f.has .prefF0 || f.has .prefF2 || f.has .prefF3 then 1 else 0) + 1 + f.code.length

def addressRoom (f : Form) : Nat := if f.has .shortArg then 0 else if f.takesMem then 6 else 1

def afterRoom (f : Form) : Nat := if f.has .immOp || f.isVector then 1 else 0

/-- Room for the operand size prefix and the numbers. A number of the operand size has two bytes
behind that prefix and at most four without it. -/
def numbersRoom (f : Form) : Nat :=
  if f.numbers = [.ia] then 4
  else
    (if f.has .autoSize || f.has .autoNo32 || f.has .wordSize || f.has .pref66 then 1 else 0) +
      (f.numbers.map (·.size.bytes)).sum

def room (f : Form) : Nat :=
  f.frontRoom + f.opcodeRoom + f.addressRoom + f.afterRoom + f.numbersRoom

/-- Whether a number of four bytes stands behind an XOP prefix. -/
def isLong (f : Form) : Bool := f.has .xop && f.slots.contains .id

structure Measured (f : Form) : Prop where
  code : f.code ≠ []
  numbers : f.numbers = [.ia] ∨ ∀ s ∈ f.numbers, s.size.bytes ∈ dataSizes
  short : f.isLong = false → f.room ≤ 15
  long : f.isLong = true → f.has .vex = false ∧ (f.has .lock || f.has .rep || f.has .repe) = false ∧
    f.has .immOp = false ∧ f.numbers = [.id]

instance (f : Form) : Decidable f.Measured :=
  decidable_of_iff (_ ∧ _ ∧ _ ∧ _) ⟨fun ⟨h1, h2, h3, h4⟩ => ⟨h1, h2, h3, h4⟩,
    fun ⟨h1, h2, h3, h4⟩ => ⟨h1, h2, h3, h4⟩⟩

theorem room_outline (f : Form) : f.outline.room = f.room := by
  have hopcode : f.outline.opcodeRoom = f.opcodeRoom := by
    unfold opcodeRoom
    rw [code_outline, List.length_map]
    rfl
  unfold room
  rw [hopcode]
  rfl

theorem Measured.of_outline {f : Form} (h : f.outline.Measured) : f.Measured where
  code := by simpa [code_outline] using h.code
  numbers := h.numbers
  short hlong := room_outline f ▸ h.short hlong
  long := h.long

end Form

theorem rows_measured : ∀ row ∈ rows, row.form.Measured := fun _ hrow =>
  .of_outline (outline_of_mem_rows (by decide +kernel) hrow)

/-! ### Addresses -/

namespace Mem

/-- An address in six bytes, in 64-bit mode: it has a byte for an index, and a displacement of four
bytes. -/
structure IsFull (m : Mem) : Prop where
  base : m.base.any (·.isClass .ip) = false
  index : (m.index.isSome || m.base.isNone) = true
  disp : m.layout.2 = 4

variable {m : Mem}

theorem length_emitWord_le (m : Mem) (reg : UInt8) :
    ((m.emitWord reg).flatMap Piece.code).length ≤ 3 := by
  have hpair : ∀ (b : UInt8) (k : Nat), k ≤ 2 →
      ([.bytes [b], dispPiece m.disp k .absToRel].flatMap Piece.code).length ≤ 3 := by
    intro b k hk
    rw [List.flatMap_cons, List.flatMap_cons, List.flatMap_nil, List.append_nil,
      List.length_append, length_dispPiece]
    exact Nat.add_le_add (Nat.le_refl 1) hk
  unfold emitWord
  dsimp only
  split
  · split
    · exact hpair _ 1 (by decide)
    · exact Nat.succ_le_succ (Nat.zero_le 2)
  · exact hpair _ 1 (by decide)
  · exact hpair _ 2 (by decide)

theorem length_emitIp (m : Mem) (reg : UInt8) :
    ((m.emitIp reg).flatMap Piece.code).length = 5 := by
  unfold emitIp
  rw [List.flatMap_cons, List.flatMap_cons, List.flatMap_nil, List.append_nil, List.length_append,
    length_dispPiece]
  rfl

theorem length_scaledHead (m : Mem) (modBits reg : UInt8) :
    (m.scaledHead .x64 modBits reg).length = if m.index.isSome || m.base.isNone then 2 else 1 := by
  unfold scaledHead
  cases m.index <;> cases m.base <;> rfl

theorem length_emitLegacy (m : Mem) (mode : Mode) (reg : UInt8) :
    ((m.emitLegacy mode reg).flatMap Piece.code).length =
      (m.scaledHead mode m.layout.1 reg).length + m.layout.2 := by
  unfold emitLegacy
  rw [List.flatMap_cons, List.length_append]
  refine congrArg _ ?_
  split
  next hzero => rw [hzero]; rfl
  · rw [List.flatMap_singleton, length_dispPiece]

/-- Only a full address has six bytes. -/
theorem length_emit_eq_six {n : Nat} (hn : n ≠ 2) (reg : UInt8) :
    ((m.emit .x64 n reg).flatMap Piece.code).length = 6 ↔ m.IsFull := by
  unfold emit
  rw [if_neg hn]
  by_cases hip : m.base.any (·.isClass .ip) = true
  · rw [if_pos hip, length_emitIp]
    exact ⟨nofun, fun h => absurd (hip.symm.trans h.base) nofun⟩
  · have hbase := Bool.eq_false_iff.mpr hip
    have hdisp := m.layout_le
    rw [if_neg hip, length_emitLegacy, length_scaledHead]
    constructor
    · intro hlength
      split at hlength
      next hindex => exact ⟨hbase, hindex, by omega⟩
      · omega
    · intro h
      rw [if_pos h.index, h.disp]

end Mem

/-- What makes an instruction longer than processors read: a number of four bytes behind an XOP
prefix, and in 64-bit mode an address of 32-bit registers that fills its six bytes behind a segment
override. -/
structure Match.IsOversized (m : Match) : Prop where
  form : m.form.isLong = true
  mode : m.mode = .x64
  addrSize : m.addrSize = 4
  memory : ∃ a, m.mem? = some a ∧ a.seg.isSome = true ∧ a.IsFull

/-! ### Numbers behind the opcode -/

section Numbers

variable {c : Matcher} {inst : Inst} {ops settled : List Operand} {m : Match} {name : String}
  {operand : Option Nat} {imm : Nat} {s : Slot} {x y : Operand} {exact : Bool}

/-- What a slot of some size takes has that size. -/
theorem Slot.numberSize_of_bytes {n : Nat} (h : s.size.bytes = n) (hn : n ≠ 0) :
    n = s.numberSize imm := by
  refine h.symm.trans (if_neg fun hany => hn ?_).symm
  rw [← h, hany]
  rfl

/-- The distances that state a size are taken by slots of that size only. -/
theorem Slot.bytes_eq_of_takes_disp {v : Int32} {w : Nat}
    (h : s.takes (.disp (.rel v (w + 1))) exact = true) : s.size.bytes = w + 1 := by
  obtain ⟨hkind, hsuits⟩ := Bool.and_eq_true_iff.mp h
  have hoffset : s.kind = .offset := by
    unfold SlotKind.takes at hkind
    cases hs : s.kind <;> rw [hs] at hkind <;> first | rfl | cases hkind
  obtain ⟨kind, size⟩ := s
  obtain rfl : kind = .offset := hoffset
  cases size with
  | any | unsized => cases hsuits
  | _ => exact beq_iff_eq.mp hsuits

/-- A number of some kind behind the opcode has the size that its slot gives it, unless it is an
address without a size. -/
theorem Slot.width_number (htrailing : s.kind.isTrailing = true) (htakes : s.takes y exact = true)
    (hsize : s.numberSize imm ∈ dataSizes) (h : resize name operand imm s y = .ok x) :
    x.width = s.numberSize imm ∨ s.size = .any ∧ x.width = 0 := by
  have hcut : ∀ v, (Imm.ofSize v (s.numberSize imm)).width = s.numberSize imm :=
    fun v => (Imm.ofSize_spec hsize v).1
  obtain ⟨hkind, hsuits⟩ := Bool.and_eq_true_iff.mp htakes
  cases y with
  | reg r =>
    rw [SlotKind.isTrailing_of_reg hkind] at htrailing
    cases htrailing
  | mem a =>
    rw [(SlotKind.kind_of_takesMem (Slot.takes_mem htakes).1).2] at htrailing
    cases htrailing
  | addr a =>
    obtain rfl := Except.ok.inj h
    have hbytes : s.size.bytes = a.width := beq_iff_eq.mp hsuits
    by_cases hzero : a.width = 0
    · refine Or.inr ⟨?_, hzero⟩
      by_contra hany
      rw [Slot.numberSize, if_neg hany, hbytes, hzero] at hsize
      exact absurd hsize (by decide)
    · exact Or.inl (Slot.numberSize_of_bytes hbytes hzero)
  | imm i =>
    refine Or.inl ?_
    obtain ⟨v, w⟩ := i
    cases w with
    | zero =>
      obtain ⟨-, rfl⟩ := ok_of_unless h
      exact hcut v
    | succ w =>
      have hx : (if w + 1 = s.numberSize imm then Operand.imm ⟨v, w + 1⟩
        else .imm (.ofSize v (s.numberSize imm))) = x := Except.ok.inj h
      rw [← hx]
      split
      next hw => exact hw
      next => exact hcut v
  | disp d =>
    refine Or.inl ?_
    cases d with
    | label l =>
      obtain rfl := Except.ok.inj h
      have htaken : (if l.width = 0 then s.size == .dword || (s.size == .byte && !exact)
        else s.size.bytes == l.width) = true := hsuits
      split
      next hzero => rfl
      next hwidth =>
        rw [if_neg hwidth] at htaken
        exact Slot.numberSize_of_bytes (beq_iff_eq.mp htaken) hwidth
    | rel v w =>
      cases w with
      | zero =>
        obtain rfl := Except.ok.inj h
        obtain ⟨kind, size⟩ := s
        cases size with
        | byte | dword => rfl
        | _ => cases hsuits
      | succ w =>
        obtain rfl := Except.ok.inj h
        exact Slot.numberSize_of_bytes (Slot.bytes_eq_of_takes_disp htakes) (Nat.succ_ne_zero w)

namespace Matched

theorem length_trailingPiece (h : Matched c inst ops settled m) (hx : (s, x) ∈ m.slots)
    (htrailing : s.kind.isTrailing = true) : (trailingPiece x).code.length = x.width := by
  cases x with
  | reg r =>
    rw [SlotKind.isTrailing_of_reg (h.takes_reg hx)] at htrailing
    cases htrailing
  | mem a => cases h.mem?_trailing hx htrailing
  | imm i => exact Bytes.length_ofNat ..
  | addr a => exact List.length_replicate
  | disp d =>
    cases d with
    | rel v w => exact Mem.length_dispPiece (some (.rel v w)) w .relative
    | label l => exact List.length_replicate

theorem length_number (h : Matched c inst ops settled m) {mode : Mode} {votes : SizeVotes}
    (hsizing : Sizing name mode settled m votes imm) (hx : (s, x) ∈ m.slots)
    (htrailing : s.kind.isTrailing = true) (hsize : s.numberSize imm ∈ dataSizes) :
    (trailingPiece x).code.length = s.numberSize imm ∨
      s.size = .any ∧ (trailingPiece x).code.length = 0 := by
  obtain ⟨y, hy, hresize⟩ := hsizing.exists_resized hx
  rw [h.length_trailingPiece hx htrailing]
  exact Slot.width_number htrailing ((Form.takes_iff.mp h.takes).2.2.2 _ hy) hsize hresize

theorem numbers_eq (h : Matched c inst ops settled m) :
    m.form.numbers = (m.slots.filter fun x => x.1.kind.isTrailing).map (·.1) := by
  rw [Form.numbers, ← h.map_slots, List.filter_map]
  rfl

theorem length_numbers (m : Match) : ((m.trailing.map trailingPiece).flatMap Piece.code).length =
    ((m.slots.filter fun x => x.1.kind.isTrailing).map fun x =>
      (trailingPiece x.2).code.length).sum := by
  unfold Match.trailing
  rw [List.map_map, List.flatMap_map, List.length_flatMap]
  rfl

theorem length_numbers_le (h : Matched c inst ops settled m) {mode : Mode} {votes : SizeVotes}
    (hsizing : Sizing name mode settled m votes imm)
    (hsizes : ∀ s ∈ m.form.numbers, s.numberSize imm ∈ dataSizes) :
    ((m.trailing.map trailingPiece).flatMap Piece.code).length ≤
      (m.form.numbers.map (·.numberSize imm)).sum := by
  rw [length_numbers, h.numbers_eq, List.map_map]
  refine List.sum_le_sum fun x hx => ?_
  obtain ⟨hslot, htrailing⟩ := List.mem_filter.mp hx
  have hmem : x.1 ∈ m.form.numbers := by
    rw [h.numbers_eq]
    exact List.mem_map_of_mem hx
  rcases h.length_number hsizing hslot htrailing (hsizes _ hmem) with heq | ⟨-, hzero⟩
  · exact Nat.le_of_eq heq
  · rw [hzero]
    exact Nat.zero_le _

theorem length_number_of_single (h : Matched c inst ops settled m) {mode : Mode}
    {votes : SizeVotes} (hsizing : Sizing name mode settled m votes imm)
    (hnumbers : m.form.numbers = [s]) (hany : s.size ≠ .any)
    (hsize : s.numberSize imm ∈ dataSizes) :
    ((m.trailing.map trailingPiece).flatMap Piece.code).length = s.numberSize imm := by
  obtain ⟨⟨t, x⟩, hx, hslot⟩ := List.map_eq_singleton_iff.mp (h.numbers_eq.symm.trans hnumbers)
  obtain rfl : t = s := hslot
  have hmem : (t, x) ∈ m.slots.filter fun x => x.1.kind.isTrailing := hx ▸ List.mem_cons_self
  obtain ⟨hplace, htrailing⟩ := List.mem_filter.mp hmem
  rw [length_numbers, hx, List.map_singleton, List.sum_singleton]
  exact (h.length_number hsizing hplace htrailing hsize).resolve_right fun hnone => hany hnone.1

end Matched

end Numbers

/-! ### Parts -/

/-- Where a row leaves its size open, the operand size prefix stands next to operands of two
bytes. -/
theorem Match.short_of_autoSize {m : Match} {auto : SizeBits} (h : m.autoSize = .ok auto)
    (hshort : auto.short = true) :
    m.operandSize = some 2 ∧ (m.form.has .autoSize || m.form.has .autoNo32) = true := by
  rcases autoSize_cases h with ⟨-, rfl⟩ | ⟨n, hn, hchooses⟩
  · cases hshort
  cases hchooses with
  | no32 hno32 hbits =>
    rcases hbits with ⟨rfl, -⟩ | ⟨-, rfl⟩
    · exact ⟨hn, by rw [hno32, Bool.or_true]⟩
    · cases hshort
  | rexW _ _ hbits | vexL _ _ _ hbits =>
    rcases hbits with ⟨-, rfl⟩ | ⟨-, rfl⟩ <;> cases hshort
  | any _ _ _ hany hbits =>
    rcases hbits with ⟨rfl, -⟩ | ⟨-, rfl⟩ | ⟨-, rfl⟩
    · exact ⟨hn, by rw [hany, Bool.true_or]⟩
    · cases hshort
    · cases hshort

/-- In all other rows it stands if they say so. -/
theorem Match.short_of_sizeBits {m : Match} {bits : SizeBits} (h : m.sizeBits = .ok bits)
    (hshort : bits.short = true) : (m.form.has .wordSize || m.form.has .pref66) = true ∨
      m.operandSize = some 2 ∧ (m.form.has .autoSize || m.form.has .autoNo32) = true := by
  obtain ⟨auto, hauto, rfl⟩ := map_eq_ok h
  have hsplit : (auto.short || (m.form.has .wordSize || m.form.has .pref66)) = true := by
    rw [← Bool.or_assoc]
    exact hshort
  rcases (Bool.or_eq_true ..).mp hsplit with hopen | hfixed
  · exact Or.inr (Match.short_of_autoSize hauto hopen)
  · exact Or.inl hfixed

namespace Placement

theorem length_vex_le (p : Placement) (isVex : Bool) (map pref : UInt8) (bits : SizeBits) :
    (p.vex isVex map pref bits).length ≤ 3 := by
  unfold vex
  dsimp only
  split
  · exact Nat.le_succ 2
  · exact Nat.le_refl 3

theorem lastBytes_cases (p : Placement) : p.lastBytes = [] ∨
    ∃ r, p.last = some (.reg r) ∧ p.lastBytes = [r.num8 <<< 4] := by
  unfold lastBytes
  split
  next r hr => exact Or.inr ⟨r, hr, rfl⟩
  · exact Or.inl rfl

theorem length_xop (p : Placement) (map pref : UInt8) (bits : SizeBits) :
    (p.vex false map pref bits).length = 3 := by
  unfold vex
  rfl

end Placement

namespace Match

variable {m : Match} {bits : SizeBits} {b : UInt8}

theorem length_opcodeBytes (m : Match) (p : Placement) {op : Bytes} (h : op ≠ []) :
    (m.opcodeBytes p op).length = op.length := by
  have hpos := List.length_pos_of_ne_nil h
  unfold opcodeBytes
  split
  · rw [List.length_append, List.length_dropLast, List.length_singleton]
    omega
  · rfl

theorem length_opcode_le (hregular : m.form.Regular) (hcode : m.form.code ≠ []) (bits : SizeBits)
    (rex : Bool) :
    1 ≤ (m.opcodeBytes m.placement (m.formPrefixes m.placement bits rex m.form.code).2).length ∧
      (m.formPrefixes m.placement bits rex m.form.code).1.length +
        (m.opcodeBytes m.placement (m.formPrefixes m.placement bits rex m.form.code).2).length ≤
          m.form.opcodeRoom + if !m.form.isVector && bits.short then 1 else 0 := by
  have hpos := List.length_pos_of_ne_nil hcode
  unfold Form.opcodeRoom
  by_cases hvector : m.form.isVector = true
  · obtain ⟨op, -, hpre, hop⟩ := formPrefixes_vector bits rex hregular hvector
    have hvex := m.placement.length_vex_le (m.form.has .vex) (m.form.code.headD 0)
      (m.prefCode bits) bits
    rw [hpre, hop, if_pos hvector]
    exact ⟨Nat.le_refl 1, Nat.le_trans (Nat.add_le_add_right hvex 1) (Nat.le_add_right 4 _)⟩
  · have hpre : m.formPrefixes m.placement bits rex m.form.code =
        (m.mandatory.toList ++ (if bits.short then [0x66] else []) ++
          (if rex then [m.placement.rex bits.wide] else []), m.form.code) := if_neg hvector
    have hmandatory : m.mandatory.toList.length ≤
        if m.form.has .prefF0 || m.form.has .prefF2 || m.form.has .prefF3 then 1 else 0 := by
      unfold mandatory
      cases m.form.has .prefF0 <;> cases m.form.has .prefF2 <;> cases m.form.has .prefF3 <;> decide
    have hrex : (if rex then [m.placement.rex bits.wide] else []).length ≤ 1 := by
      split <;> simp
    have hshort : (if bits.short then [(0x66 : UInt8)] else []).length =
        if !m.form.isVector && bits.short then 1 else 0 := by
      rw [Bool.eq_false_iff.mpr hvector]
      cases bits.short <;> rfl
    rw [hpre, if_neg hvector, length_opcodeBytes _ _ hcode, List.length_append, List.length_append,
      hshort]
    exact ⟨hpos, by omega⟩

theorem length_front (m : Match) (b : UInt8) : (m.front b).length = (if b = 0 then 0 else 1) +
    (if m.segment?.isSome then 1 else 0) + if m.addrPrefix then 1 else 0 := by
  have hprefix : (if b = 0 then [] else [b]).length = if b = 0 then 0 else 1 := by
    split <;> rfl
  have hsegment : (m.segment?.map segmentPrefix).toList.length =
      if m.segment?.isSome then 1 else 0 := by
    cases m.segment? <;> rfl
  have haddress : (if m.addrPrefix then [(0x67 : UInt8)] else []).length =
      if m.addrPrefix then 1 else 0 := by
    split <;> rfl
  rw [front, List.length_append, List.length_append, hprefix, haddress]
  exact congrArg (_ + · + _) hsegment

theorem prefix_of_checkPrefix (h : m.checkPrefix b = .ok ()) (hb : b ≠ 0) :
    (m.form.has .lock || m.form.has .rep || m.form.has .repe) = true := by
  unfold checkPrefix at h
  dsimp only at h
  rw [if_neg hb] at h
  split_ifs at h <;> simp_all [or_assoc]

end Match

namespace Matched

variable {c : Matcher} {inst : Inst} {ops settled : List Operand} {m : Match} {bits : SizeBits}
  {b : UInt8}

theorem measured (h : Matched c inst ops settled m) : m.form.Measured := by
  obtain ⟨row, hrow, hform⟩ := h.mem_rows
  exact hform ▸ rows_measured row hrow

theorem takesMem_of_slot (h : Matched c inst ops settled m) {s : Slot} {a : Mem}
    (hslot : (s, .mem a) ∈ m.slots) : m.form.takesMem = true :=
  List.any_eq_true.mpr ⟨s, (List.of_mem_zip hslot).1, (h.takes_mem hslot).1⟩

/-- Where no operand can be in memory, nothing says anything of an address. -/
theorem absent_of_takesMem (h : Matched c inst ops settled m) (hone : OneMem ops)
    (hmem : m.form.takesMem = false) :
    m.segment? = none ∧ m.addrPrefix = m.form.has .pref67 := by
  rcases h.memory_cases hone with ⟨-, hargs, hsize⟩ | ⟨a, a', size, -, hargs, -⟩
  · constructor
    · rw [Match.segment?, mem?_eq, hargs]
      rfl
    · rw [Match.addrPrefix, hsize, h.mode]
      cases c.mode <;> exact Bool.or_false _
  · have ha' : a' ∈ memories m.args := hargs ▸ List.mem_cons_self
    obtain ⟨s, hslot⟩ := h.mem_slots (mem_memories.mp ha')
    rw [h.takesMem_of_slot hslot] at hmem
    cases hmem

theorem length_front_le (h : Matched c inst ops settled m) (hone : OneMem ops)
    (hallowed : m.checkPrefix b = .ok ()) : (m.front b).length ≤ m.form.frontRoom := by
  have hprefix : (if b = 0 then 0 else 1) ≤
      if m.form.has .lock || m.form.has .rep || m.form.has .repe then 1 else 0 := by
    by_cases hb : b = 0
    · rw [if_pos hb]
      exact Nat.zero_le _
    · rw [if_neg hb, if_pos (Match.prefix_of_checkPrefix hallowed hb)]
  have haddress : ((if m.segment?.isSome then 1 else 0) + if m.addrPrefix then 1 else 0) ≤
      if m.form.takesMem then 2 else if m.form.has .pref67 then 1 else 0 := by
    by_cases hmem : m.form.takesMem = true
    · rw [if_pos hmem]
      cases m.segment?.isSome <;> cases m.addrPrefix <;> decide
    · obtain ⟨hsegment, hpref⟩ := h.absent_of_takesMem hone (Bool.eq_false_iff.mpr hmem)
      rw [if_neg hmem, hsegment, hpref]
      exact Nat.le_of_eq (Nat.zero_add _)
  rw [Match.length_front, Nat.add_assoc]
  exact Nat.add_le_add hprefix haddress

theorem length_address_le_room (h : Matched c inst ops settled m) :
    ((m.addressPieces m.placement).flatMap Piece.code).length ≤ m.form.addressRoom := by
  unfold Match.addressPieces Form.addressRoom
  dsimp only
  split
  · exact Nat.le_refl 0
  · split
    · split
      · exact Nat.succ_le_succ (Nat.zero_le 5)
      · exact Nat.le_refl 1
    next a hrm =>
      obtain ⟨s, hslot, -⟩ := h.slot_of_placement (q := .rm) hrm
      rw [if_pos (h.takesMem_of_slot hslot)]
      exact Mem.length_emit_le ..
    · exact Nat.zero_le _

/-- No row has both a byte of the opcode and one of a register behind the address. -/
theorem length_after_le_room (h : Matched c inst ops settled m) :
    m.after.length ≤ m.form.afterRoom := by
  have hlast : ∀ r, m.placement.last = some (.reg r) →
      m.form.has .immOp = false ∧ m.form.isVector = true := by
    intro r hr
    have hrole : .last ∈ m.form.places := h.role_mem_places (q := .last) hr
    refine ⟨h.regular.last hrole, ?_⟩
    by_contra hvector
    rcases h.regular.plain (Bool.eq_false_iff.mpr hvector) _ hrole with hplain | hplain <;>
      cases hplain
  unfold Match.after Form.afterRoom
  rcases m.placement.lastBytes_cases with hnone | ⟨r, hr, hone⟩
  · rw [hnone, List.append_nil]
    cases m.form.has .immOp <;> simp
  · obtain ⟨himm, hvector⟩ := hlast r hr
    rw [himm, hvector, hone]
    exact Nat.le_refl 1

theorem lastBytes_of_trailing (h : Matched c inst ops settled m) {s : Slot}
    (hs : s ∈ m.form.slots) (htrailing : s.kind.isTrailing = true) :
    m.placement.lastBytes = [] := by
  rcases m.placement.lastBytes_cases with hnone | ⟨r, hr, -⟩
  · exact hnone
  · rw [h.bounded.last (h.role_mem_places (q := .last) hr) s hs] at htrailing
    cases htrailing

theorem length_numbers_le_room (h : Matched c inst ops settled m) {name : String} {mode : Mode}
    {votes : SizeVotes} {imm : Nat} (hsizing : Sizing name mode settled m votes imm)
    (hbits : m.sizeBits = .ok bits) :
    (if !m.form.isVector && bits.short then 1 else 0) +
      ((m.trailing.map trailingPiece).flatMap Piece.code).length ≤ m.form.numbersRoom := by
  unfold Form.numbersRoom
  by_cases hany : m.form.numbers = [.ia]
  · rw [if_pos hany]
    have hmem : Slot.ia ∈ m.form.slots :=
      (List.mem_filter.mp (show Slot.ia ∈ m.form.numbers from hany ▸ List.mem_cons_self)).1
    have hnumber : m.form.OneNumber := h.oneNumber hmem
    have hsizes : m.form.sizes = true := by
      simp [Form.sizes, hnumber.autoSize]
    obtain ⟨-, hword, hpref⟩ := (h.sized hsizes).short (Or.inr hnumber.autoSize)
    obtain ⟨n, hn, hcases⟩ := hnumber.exists_operandSize hbits
    obtain rfl := hsizing.operandSize_eq.2.2 n hn
    have hnumbers := h.length_numbers_le hsizing (by
      rw [hany]
      exact List.forall_mem_singleton.mpr (mem_dataSizes_of_operandSize hcases))
    have hsum : (m.form.numbers.map (·.numberSize (min n 4))).sum = min n 4 := by
      rw [hany]
      exact Nat.add_zero _
    by_cases hshort : bits.short = true
    · have htwo : n = 2 := by
        rcases Match.short_of_sizeBits hbits hshort with hfixed | ⟨htwo, -⟩
        · rw [hword, hpref] at hfixed
          cases hfixed
        · exact Option.some.inj (hn.symm.trans htwo)
      subst htwo
      split <;> omega
    · rw [Bool.eq_false_iff.mpr hshort, Bool.and_false, if_neg Bool.false_ne_true]
      omega
  · have hsizes : ∀ s ∈ m.form.numbers, s.size.bytes ∈ dataSizes :=
      h.measured.numbers.resolve_left hany
    have hfixed : ∀ s ∈ m.form.numbers, s.numberSize imm = s.size.bytes := by
      intro s hs
      have hpos := (bounds_of_mem_dataSizes (hsizes s hs)).1
      exact (Slot.numberSize_of_bytes rfl (Nat.ne_of_gt hpos)).symm
    have hnumbers := h.length_numbers_le hsizing fun s hs => (hfixed s hs).symm ▸ hsizes s hs
    rw [List.map_congr_left hfixed] at hnumbers
    rw [if_neg hany]
    refine Nat.add_le_add ?_ hnumbers
    by_cases hshort : bits.short = true
    · have hflag : (m.form.has .autoSize || m.form.has .autoNo32 || m.form.has .wordSize ||
          m.form.has .pref66) = true := by
        rcases Match.short_of_sizeBits hbits hshort with hflag | ⟨-, hflag⟩
        · rw [Bool.or_assoc, hflag, Bool.or_true]
        · rw [hflag, Bool.true_or, Bool.true_or]
      rw [if_pos hflag]
      split <;> decide
    · rw [Bool.eq_false_iff.mpr hshort, Bool.and_false, if_neg Bool.false_ne_true]
      exact Nat.zero_le _

/-- An instruction is as long as its parts together. -/
theorem length_eq (m : Match) (b : UInt8) (bits : SizeBits) (rex : Bool) :
    (Piece.join (m.pieces b bits rex)).code.length = (m.front b).length +
      ((m.formPrefixes m.placement bits rex m.form.code).1.length +
        (m.opcodeBytes m.placement (m.formPrefixes m.placement bits rex m.form.code).2).length) +
          ((m.addressPieces m.placement).flatMap Piece.code).length + m.after.length +
            ((m.trailing.map trailingPiece).flatMap Piece.code).length := by
  rw [Piece.code_join, Match.pieces, List.flatMap_append, List.flatMap_append, List.flatMap_cons,
    List.flatMap_singleton, List.length_append, List.length_append, List.length_append, Piece.code,
    Piece.code, Match.head, List.length_append, List.length_append,
    Nat.add_assoc (m.front b).length]

/-- Every part of an instruction fits the room that its row has for it. -/
theorem length_le_room (h : Matched c inst ops settled m) (hone : OneMem ops) {name : String}
    {mode : Mode} {votes : SizeVotes} {imm : Nat}
    (hsizing : Sizing name mode settled m votes imm) {enc : Encoded Reloc}
    (hemit : m.emit b = .ok enc) : 1 ≤ enc.code.length ∧ enc.code.length ≤ m.form.room := by
  obtain ⟨bits, rex, hallowed, hbits, -, rfl⟩ := Match.emit_eq_ok hemit
  have hfront := h.length_front_le hone hallowed
  obtain ⟨hpos, hopcode⟩ := Match.length_opcode_le h.regular h.measured.code bits rex
  have haddress := h.length_address_le_room
  have hafter := h.length_after_le_room
  have hnumbers := h.length_numbers_le_room hsizing hbits
  rw [length_eq, Form.room]
  omega

/-- The memory operand of a match, seen from its place. -/
theorem mem?_eq_some_iff (h : Matched c inst ops settled m) (hone : OneMem ops) {a : Mem} :
    m.mem? = some a ↔ m.placement.rm = some (.mem a) := by
  rw [mem?_eq]
  constructor
  · intro ha
    obtain ⟨s, hslot⟩ := h.mem_slots (mem_memories.mp (List.mem_of_mem_head? ha))
    exact (h.rm_of_mem_slot hslot).1
  · intro hrm
    have ha : a ∈ memories m.args := h.mem_placed (q := .rm) hrm
    rcases h.memory_cases hone with ⟨-, hargs, -⟩ | ⟨-, a', -, -, hargs, -⟩
    · rw [hargs] at ha
      cases ha
    · rw [hargs, List.mem_singleton] at ha
      rw [hargs, ha]
      rfl

theorem address_of_mem (h : Matched c inst ops settled m) {a : Mem}
    (hrm : m.placement.rm = some (.mem a)) : m.form.has .pref67 = false ∧
      m.addressPieces m.placement = a.emit m.mode m.addrSize m.fieldNum := by
  obtain ⟨s, hslot, -⟩ := h.slot_of_placement (q := .rm) hrm
  obtain ⟨-, hshort, hpref, -⟩ := h.rm_of_mem_slot hslot
  exact ⟨hpref, addressPieces_of_mem hrm hshort⟩

/-- Behind an XOP prefix everything has a fixed length, up to what belongs to the address. -/
theorem length_of_long (h : Matched c inst ops settled m) {name : String} {mode : Mode}
    {votes : SizeVotes} {imm : Nat} (hsizing : Sizing name mode settled m votes imm)
    (hlong : m.form.isLong = true) (hallowed : m.checkPrefix b = .ok ()) (bits : SizeBits)
    (rex : Bool) : (Piece.join (m.pieces b bits rex)).code.length =
      8 + (if m.segment?.isSome then 1 else 0) + (if m.addrPrefix then 1 else 0) +
        ((m.addressPieces m.placement).flatMap Piece.code).length := by
  obtain ⟨hvex, hprefix, himm, hnumbers⟩ := h.measured.long hlong
  have hvector : m.form.isVector = true := by
    rw [Form.isVector, (Bool.and_eq_true_iff.mp hlong).1, Bool.or_true]
  have hfront : (m.front b).length = (if m.segment?.isSome then 1 else 0) +
      if m.addrPrefix then 1 else 0 := by
    have hb : b = 0 := by
      by_contra hb
      rw [Match.prefix_of_checkPrefix hallowed hb] at hprefix
      cases hprefix
    rw [Match.length_front, if_pos hb, Nat.zero_add]
  obtain ⟨op, -, hpre, hop⟩ := formPrefixes_vector bits rex h.regular hvector
  have hafter : m.after = [] := by
    rw [Match.after, himm, h.lastBytes_of_trailing
      (List.contains_iff_mem.mp (Bool.and_eq_true_iff.mp hlong).2) rfl]
    rfl
  have htrailing : ((m.trailing.map trailingPiece).flatMap Piece.code).length = 4 :=
    h.length_number_of_single hsizing hnumbers (by decide) (show 4 ∈ dataSizes by decide)
  rw [length_eq, hfront, hpre, hop, hafter, htrailing, hvex, Placement.length_xop]
  dsimp only [List.length_singleton, List.length_nil]
  omega

theorem isOversized_iff (h : Matched c inst ops settled m) (hone : OneMem ops)
    (hlong : m.form.isLong = true) : m.IsOversized ↔ m.segment?.isSome = true ∧
      m.addrPrefix = true ∧ ((m.addressPieces m.placement).flatMap Piece.code).length = 6 := by
  constructor
  · intro hover
    obtain ⟨a, ha, hseg, hfull⟩ := hover.memory
    obtain ⟨-, hpieces⟩ := h.address_of_mem ((h.mem?_eq_some_iff hone).mp ha)
    refine ⟨?_, ?_, ?_⟩
    · rw [Match.segment?, ha]
      exact hseg
    · rw [Match.addrPrefix, hover.mode, hover.addrSize]
      exact Bool.or_true _
    · rw [hpieces, hover.mode]
      exact (Mem.length_emit_eq_six (by rw [hover.addrSize]; decide) m.fieldNum).mpr hfull
  · rintro ⟨hsegment, hprefix, hsix⟩
    obtain ⟨seg, hseg⟩ := Option.isSome_iff_exists.mp hsegment
    obtain ⟨a, ha, hseg⟩ := Option.bind_eq_some_iff.mp hseg
    obtain ⟨hpref, hpieces⟩ := h.address_of_mem ((h.mem?_eq_some_iff hone).mp ha)
    rw [hpieces] at hsix
    rw [Match.addrPrefix, hpref, Bool.false_or] at hprefix
    cases hmode : m.mode with
    | x86 =>
      -- The prefix asks for 16-bit addresses there, and they are short.
      rw [hmode] at hprefix hsix
      have hshort := a.length_emitWord_le m.fieldNum
      rw [Mem.emit, if_pos (eq_of_beq hprefix)] at hsix
      omega
    | x64 =>
      rw [hmode] at hprefix hsix
      have hsize : m.addrSize = 4 := eq_of_beq hprefix
      have hfull := (Mem.length_emit_eq_six (by rw [hsize]; decide) m.fieldNum).mp hsix
      exact ⟨hlong, hmode, hsize, a, ha, by rw [hseg]; rfl, hfull⟩

/-- Such an instruction has sixteen bytes if it is oversized, and else fifteen at most. -/
theorem length_of_long_iff (h : Matched c inst ops settled m) (hone : OneMem ops) {name : String}
    {mode : Mode} {votes : SizeVotes} {imm : Nat}
    (hsizing : Sizing name mode settled m votes imm) (hlong : m.form.isLong = true)
    {enc : Encoded Reloc} (hemit : m.emit b = .ok enc) :
    enc.code.length ≤ 16 ∧ (15 < enc.code.length ↔ m.IsOversized) := by
  obtain ⟨bits, rex, hallowed, -, -, rfl⟩ := Match.emit_eq_ok hemit
  have haddress := length_address_le m m.placement
  rw [h.length_of_long hsizing hlong hallowed, h.isOversized_iff hone hlong]
  generalize ((m.addressPieces m.placement).flatMap Piece.code).length = n at haddress ⊢
  cases m.segment?.isSome <;> cases m.addrPrefix <;> simp <;> omega

end Matched

/-- Every instruction has at least one byte and at most fifteen, but for those of one kind, which
have sixteen. -/
theorem lengths_bounded {e : Encoder} {b : UInt8} {inst : Inst} {args : List (Option Operand)}
    {enc : Encoded Reloc} (h : e.encodeInst b inst args = .ok enc) :
    ∃ m, Matcher.find e inst args = .ok m ∧ m.emit b = .ok enc ∧ 1 ≤ enc.code.length ∧
      enc.code.length ≤ 16 ∧ (15 < enc.code.length ↔ m.IsOversized) := by
  obtain ⟨m, hm, hemit⟩ := bind_eq_ok h
  have hfind := mapError_eq_ok hm
  obtain ⟨s, hhold, -⟩ := bind_eq_ok hfind
  obtain ⟨ops, rfl, -⟩ := holds_of_hold hhold
  obtain ⟨hone, settled, votes, imm, hmatched, hsizing⟩ := (finds_of_find hfind).sizing
  obtain ⟨hpos, hroom⟩ := hmatched.length_le_room hone hsizing hemit
  refine ⟨m, hfind, hemit, hpos, ?_⟩
  by_cases hlong : m.form.isLong = true
  · exact hmatched.length_of_long_iff hone hsizing hlong hemit
  · have hshort := hmatched.measured.short (Bool.eq_false_iff.mpr hlong)
    exact ⟨by omega, fun hlength => by omega, fun hover => absurd hover.form hlong⟩

def extractBits (seg : Option Register) : List (Option Operand) :=
  [some (.reg (.make .legacy 4 0)),
    some (.mem { base := some (.make .legacy 4 0), index := some (.make .legacy 4 1), scale := 4
                 seg, disp := some (.rel 0x12345678 0) }),
    some (.imm (.unsized 0x11223344))]

def extractCode : Bytes :=
  [0x67, 0x8f, 0xf0, 0x78, 0x10, 0x84, 0x88, 0x78, 0x56, 0x34, 0x12, 0x44, 0x33, 0x22, 0x11]

theorem lengths_bounded_bextr :
    Encoder.encodeInst ⟨.x64, .everything⟩ 0 ⟨0x03820044⟩ (extractBits none) =
        .ok ⟨extractCode, []⟩ ∧
      ∃ m, Matcher.find ⟨.x64, .everything⟩ ⟨0x03820044⟩ (extractBits none) = .ok m ∧
        m.emit 0 = .ok ⟨extractCode, []⟩ ∧ 1 ≤ extractCode.length ∧ extractCode.length ≤ 16 ∧
          (15 < extractCode.length ↔ m.IsOversized) := by
  have hextracted : Encoder.encodeInst ⟨.x64, .everything⟩ 0 ⟨0x03820044⟩ (extractBits none) =
      .ok ⟨extractCode, []⟩ := by decide +kernel
  exact ⟨hextracted, lengths_bounded hextracted⟩

/-- In another segment this instruction has a byte more than processors read. -/
theorem counterexample_bextr :
    Encoder.encodeInst ⟨.x64, .everything⟩ 0 ⟨0x03820044⟩
      (extractBits (some (.make .segment 2 4))) = .ok ⟨0x64 :: extractCode, []⟩ ∧
    ¬ (0x64 :: extractCode).length ≤ 15 := by
  constructor <;> decide +kernel

end MachineCode.X86
