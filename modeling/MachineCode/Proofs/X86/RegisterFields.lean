import MachineCode.Proofs.X86.Readings

/-!
Register operands. Every register that is no fixed part of a row has a field of its own in the
emitted instruction, and its number is read from there.
-/
namespace MachineCode.X86

section Positions

variable {α : Type} {p : α → Bool} {l : List α}

theorem getElem?_filter_take {i : Nat} {x : α} (hx : l[i]? = some x) (hp : p x = true) :
    (l.filter p)[((l.take i).filter p).length]? = some x := by
  induction l generalizing i with
  | nil => cases hx
  | cons y l ih =>
    cases i with
    | zero =>
      obtain rfl := Option.some.inj hx
      rw [List.filter_cons_of_pos hp]
      rfl
    | succ i =>
      rw [List.getElem?_cons_succ] at hx
      by_cases hy : p y = true
      · rw [List.take_succ_cons, List.filter_cons_of_pos hy, List.filter_cons_of_pos hy]
        exact ih hx
      · rw [List.take_succ_cons, List.filter_cons_of_neg hy, List.filter_cons_of_neg hy]
        exact ih hx

theorem length_filter_take_lt {i j : Nat} (hij : i < j) {x : α} (hx : l[i]? = some x)
    (hp : p x = true) : ((l.take i).filter p).length < ((l.take j).filter p).length := by
  have hnext : ((l.take (i + 1)).filter p).length = ((l.take i).filter p).length + 1 := by
    rw [List.take_add_one, hx, List.filter_append, List.length_append]
    simp [hp]
  have hsub : ((l.take (i + 1)).filter p).length ≤ ((l.take j).filter p).length :=
    ((List.take_sublist_take_left hij).filter p).length_le
  omega

end Positions

def Slot.isPlaced (s : Slot) : Bool := !s.kind.isImplied && !s.kind.isTrailing

namespace Form

def place? (f : Form) (i : Nat) : Option Role :=
  if f.slots[i]?.any (·.isPlaced) then
    f.places[((f.slots.take i).filter (·.isPlaced)).length]?
  else none

variable {f : Form} {i j : Nat} {q : Role}

theorem exists_place (hregular : f.Regular) {s : Slot} (hs : f.slots[i]? = some s)
    (hplaced : s.isPlaced = true) : ∃ q, f.place? i = some q := by
  have hslot : f.placed[((f.slots.take i).filter (·.isPlaced)).length]? = some s :=
    getElem?_filter_take hs hplaced
  have hlt := (List.getElem?_eq_some_iff.mp hslot).1
  rw [← hregular.length] at hlt
  refine ⟨f.places[((f.slots.take i).filter (·.isPlaced)).length], ?_⟩
  unfold place?
  rw [hs, Option.any_some, hplaced, if_pos rfl, List.getElem?_eq_getElem hlt]

theorem place_inj (hregular : f.Regular) (hi : f.place? i = some q)
    (hj : f.place? j = some q) : i = j := by
  have hsplit : ∀ {k}, f.place? k = some q → (∃ s, f.slots[k]? = some s ∧ s.isPlaced = true) ∧
      f.places[((f.slots.take k).filter (·.isPlaced)).length]? = some q := by
    intro k hk
    unfold place? at hk
    split at hk
    next hany => exact ⟨(Option.any_eq_true _ _).mp hany, hk⟩
    · cases hk
  obtain ⟨⟨s, hs, hps⟩, hri⟩ := hsplit hi
  obtain ⟨⟨t, ht, hpt⟩, hrj⟩ := hsplit hj
  have hsame : ((f.slots.take i).filter (·.isPlaced)).length =
      ((f.slots.take j).filter (·.isPlaced)).length :=
    (List.getElem?_inj (List.getElem?_eq_some_iff.mp hri).1 hregular.nodup).mp
      (hri.trans hrj.symm)
  rcases Nat.lt_trichotomy i j with hlt | heq | hgt
  · exact absurd hsame (Nat.ne_of_lt (length_filter_take_lt hlt hs hps))
  · exact heq
  · exact absurd hsame.symm (Nat.ne_of_lt (length_filter_take_lt hgt ht hpt))

theorem assigned_of_place {as : List Operand} {x : Operand} (hlength : f.slots.length = as.length)
    (hi : f.place? i = some q) (hx : as[i]? = some x) : (q, x) ∈ f.assigned as := by
  unfold place? at hi
  split at hi
  next hany =>
    obtain ⟨s, hs, hplaced⟩ := (Option.any_eq_true _ _).mp hany
    have hzip : (f.slots.zip as)[i]? = some (s, x) := List.getElem?_zip_eq_some.mpr ⟨hs, hx⟩
    have hcount : ((f.slots.take i).filter (·.isPlaced)).length =
        (((f.slots.zip as).take i).filter (·.1.isPlaced)).length := by
      have htake : f.slots.take i = ((f.slots.zip as).take i).map (·.1) := by
        rw [List.map_take, List.map_fst_zip (Nat.le_of_eq hlength)]
      rw [htake, List.filter_map, List.length_map]
      rfl
    rw [hcount] at hi
    refine List.mem_iff_getElem?.mpr ⟨_, List.getElem?_zip_eq_some.mpr ⟨hi, ?_⟩⟩
    rw [List.getElem?_map]
    exact congrArg (Option.map (·.2))
      (getElem?_filter_take (p := fun y => y.1.isPlaced) hzip hplaced)
  · cases hi

end Form

/-- The number in a register field of an instruction. Whether the lowest bits of the opcode are one
depends on the opcode. -/
def Decoded.field? (d : Decoded) (inOpcode : Bool) : Role → Option Nat
  | .rm =>
    if inOpcode then some d.low
    else d.modRm?.bind fun x =>
      match x.rm with
      | .register n => some n
      | .memory _ => none
  | .reg => d.modRm?.map (·.reg)
  | .extra => d.vector.map (·.extra)
  | .last => d.modRm?.bind fun x => x.rest.head?.map fun b => b.toNat / 16

theorem rm_mem_roles {n : Nat} {mem special : Option Nat} {f : Form} {q : Role}
    (h : q ∈ roles n mem special f) : .rm ∈ roles n mem special f := by
  have hcases : roles n mem special f = [] ∨ .rm ∈ roles n mem special f := by
    unfold roles
    repeat' split
    all_goals simp
  refine hcases.resolve_left fun hnil => ?_
  rw [hnil] at h
  cases h

theorem num_of_bits (r : Register) : r.num8.toNat % 8 + 8 * (fourthBit r.num8).toNat = r.num := by
  have hless := r.num_lt
  rw [toNat_fourthBit, toNat_num8]
  omega

namespace Matched

variable {c : Matcher} {inst : Inst} {ops settled : List Operand} {m : Match} {bits : SizeBits}
  {d : Decoded} {q : Role} {r : Register}

theorem exists_placement (h : Matched c inst ops settled m) (hrole : q ∈ m.form.places) :
    ∃ x, m.placement.get q = some x := by
  have hlength := h.regular.length
  rw [Form.placed_eq h.length_slots, List.length_map] at hlength
  obtain ⟨i, hi, rfl⟩ := List.mem_iff_getElem.mp hrole
  obtain ⟨x, hx⟩ : ∃ x, (((m.form.slots.zip m.args).filter fun x =>
      !x.1.kind.isImplied && !x.1.kind.isTrailing).map (·.2))[i]? = some x := by
    refine ⟨_, List.getElem?_eq_getElem ?_⟩
    rw [List.length_map, ← hlength]
    exact hi
  exact ⟨x, (h.placement_get _ x).mpr (List.mem_iff_getElem?.mpr
    ⟨i, List.getElem?_zip_eq_some.mpr ⟨List.getElem?_eq_getElem hi, hx⟩⟩)⟩

theorem role_mem_places (h : Matched c inst ops settled m) {x : Operand}
    (hx : m.placement.get q = some x) : q ∈ m.form.places := by
  obtain ⟨s, -, -, -, hzip⟩ := h.slot_of_placement hx
  exact (List.of_mem_zip hzip).2

/-- In rows with operands of their own outside the opcode, the ModRM byte is read back. -/
theorem modRm_of_place (h : Matched c inst ops settled m) (hone : OneMem ops)
    (hgiven : ∀ a ∈ memories ops, a.IsGiven) (hframed : Framed m bits d)
    (hrole : q ∈ m.form.places) (hshort : m.form.has .shortArg = false) :
    ∃ x, d.modRm? = some ⟨m.fieldNum.toNat % 8 + 8 * d.bits.reg, x, m.tail⟩ ∧
      ∀ r, m.placement.rm = some (.reg r) →
        x = .register (r.num8.toNat % 8 + 8 * d.bits.base) := by
  obtain ⟨x, hrm⟩ := h.exists_placement (q := .rm) (rm_mem_roles hrole)
  rcases h.reg_or_mem_of_placement hrm with ⟨r, rfl⟩ | ⟨a', rfl⟩
  · have hrm : m.placement.rm = some (.reg r) := hrm
    refine ⟨_, modRm_register (hframed.body.trans (body_of_reg hrm hshort)), fun r' hr' => ?_⟩
    obtain rfl := Operand.reg.inj (Option.some.inj (hrm.symm.trans hr'))
    rfl
  · have hrm : m.placement.rm = some (.mem a') := hrm
    obtain ⟨s, hslot, -⟩ := h.slot_of_placement (q := .rm) hrm
    obtain ⟨a, ha, size, harranged, -, hsize⟩ :=
      h.arranged hone hgiven (h.mem_placed (q := .rm) hrm)
    refine ⟨_, h.modRm_mem hslot ha harranged hsize hframed, fun r' hr' => ?_⟩
    cases hrm.symm.trans hr'

/-- Where no REX prefix is asked for, the numbers in places have three bits. -/
theorem low_of_rexFree (h : Matched c inst ops settled m) (hregs : ∀ r, .reg r ∈ ops → r.IsGiven)
    (hneed : m.needsRex = false) {x : Operand} (hx : m.placement.get q = some x) :
    (∀ r, x = .reg r → r.num < 8) ∧ ∀ a, x = .mem a → ∀ r ∈ a.registers, r.num < 8 := by
  obtain ⟨s, hslot, himplied, -⟩ := h.slot_of_placement hx
  have hnone := List.any_eq_false.mp hneed _ hslot
  dsimp only at hnone
  rw [himplied, Bool.not_false, Bool.true_and, Bool.not_eq_true] at hnone
  constructor
  · rintro r rfl
    obtain ⟨k, hclass, hnumber⟩ := (hregs r (h.reg_placed hx)).exists_class
    by_cases hhigh : k = .highByte
    · subst hhigh
      simp [RegClass.hasNumber] at hnumber
      exact hnumber.2
    · have hnot : r.isClass .highByte = false := by
        rw [Register.isClass, hclass]
        simpa using hhigh
      dsimp only at hnone
      rw [hnot, Bool.not_false, Bool.true_and, Bool.or_eq_false_iff, Register.isExtended,
        decide_eq_false_iff_not] at hnone
      omega
  · rintro a rfl
    exact a.extended_eq_false_iff.mp hnone

theorem bits_of_framed (h : Matched c inst ops settled m)
    (hregs : ∀ r, .reg r ∈ ops → r.IsGiven) (hframed : Framed m bits d) :
    d.bits = m.placement.bits := by
  rcases hframed.bits with hbits | ⟨hneed, hbits⟩
  · exact hbits
  have hreg : ∀ q, ∀ r ∈ (m.placement.get q).bind (·.reg?), r.num < 8 := by
    intro q r hr
    obtain ⟨x, hx, hxr⟩ := Option.bind_eq_some_iff.mp hr
    exact (h.low_of_rexFree hregs hneed hx).1 r (Operand.eq_reg hxr)
  have hmem : ∀ a ∈ m.placement.rm.bind (·.mem?), ∀ r ∈ a.registers, r.num < 8 := by
    intro a ha
    obtain ⟨x, hx, hxa⟩ := Option.bind_eq_some_iff.mp ha
    exact (h.low_of_rexFree (q := .rm) hregs hneed hx).2 a (Operand.eq_mem hxa)
  have hfield : fourthBit m.placement.numbers.reg = 0 := by
    rw [Placement.numbers_reg]
    exact fourthBit_eq_zero (regNum8_lt (by decide) (hreg .reg))
  have hindex : fourthBit m.placement.numbers.index = 0 := by
    rw [Placement.numbers_index]
    refine fourthBit_eq_zero (regNum8_lt (by decide) fun r hr => ?_)
    obtain ⟨a, ha, hi⟩ := Option.bind_eq_some_iff.mp hr
    exact hmem a ha r (List.mem_append_right _ (Option.mem_toList.mpr hi))
  have hbase : fourthBit m.placement.numbers.base = 0 := by
    rw [Placement.numbers_base]
    refine fourthBit_eq_zero (regNum8_lt (by decide) fun r hr => ?_)
    rcases Option.or_eq_some_iff.mp hr with hr | ⟨-, hr⟩
    · exact hreg .rm r hr
    · obtain ⟨a, ha, hb⟩ := Option.bind_eq_some_iff.mp hr
      exact hmem a ha r (List.mem_append_left _ (Option.mem_toList.mpr hb))
  rw [hbits, Placement.bits, hfield, hindex, hbase]
  rfl

theorem low_of_framed (h : Matched c inst ops settled m) (hframed : Framed m bits d)
    (hbits : d.bits = m.placement.bits) (hshort : m.form.has .shortArg = true)
    (hr : m.placement.rm = some (.reg r)) : d.low = r.num := by
  have hvector : m.form.isVector = false := by
    by_contra hnot
    rw [Bool.not_eq_false] at hnot
    rw [(h.regular.vector hnot).2.2] at hshort
    cases hshort
  have hwait : m.form.code.headD 0 ≠ 0x9b := by
    intro hwait
    rw [(h.regular.wait hwait).1] at hshort
    cases hshort
  have hlast := (h.regular.short hshort).2
  have hopcode : d.opcode.getLastD 0 = m.form.code.getLastD 0 + (r.num8 &&& 7) := by
    rw [hframed.opcode hvector hwait, Match.opcode, Form.codeWith, if_pos hshort, hr]
    simp [regNum8, Operand.reg?]
  have hlow : (r.num8 &&& 7).toNat = r.num8.toNat % 8 := by
    rw [UInt8.toNat_and]
    exact Nat.and_two_pow_sub_one_eq_mod _ 3
  have hbase : d.bits.base = (fourthBit r.num8).toNat := by
    rw [hbits, Placement.bits]
    dsimp only
    rw [Placement.numbers_base, hr]
    rfl
  have hbyte := (m.form.code.getLastD 0).toNat_lt
  rw [Decoded.low, hopcode, hbase, ← num_of_bits r, UInt8.toNat_add, hlow]
  omega

/-- A register is read from its place. -/
theorem field_of_framed (h : Matched c inst ops settled m) (hone : OneMem ops)
    (hgiven : ∀ a ∈ memories ops, a.IsGiven) (hregs : ∀ r, .reg r ∈ ops → r.IsGiven)
    (hframed : Framed m bits d) (hr : m.placement.get q = some (.reg r)) :
    d.field? (m.form.has .shortArg) q = some r.num := by
  have hbits := h.bits_of_framed hregs hframed
  have hrole := h.role_mem_places hr
  have hlong : q ≠ .rm → m.form.has .shortArg = false := by
    intro hne
    by_contra hshort
    rw [Bool.not_eq_false] at hshort
    rw [(h.regular.short hshort).1] at hrole
    exact hne (List.mem_singleton.mp hrole)
  cases q with
  | rm =>
    have hr : m.placement.rm = some (.reg r) := hr
    unfold Decoded.field?
    cases hshort : m.form.has .shortArg with
    | true =>
      rw [if_pos rfl, h.low_of_framed hframed hbits hshort hr]
    | false =>
      obtain ⟨x, hread, hrm⟩ := h.modRm_of_place hone hgiven hframed hrole hshort
      have hbase : d.bits.base = (fourthBit r.num8).toNat := by
        rw [hbits, Placement.bits]
        dsimp only
        rw [Placement.numbers_base, hr]
        rfl
      rw [if_neg Bool.false_ne_true, hread, hrm r hr, hbase, num_of_bits]
      rfl
  | reg =>
    obtain ⟨x, hread, -⟩ := h.modRm_of_place hone hgiven hframed hrole (hlong (by decide))
    have hr : m.placement.reg = some (.reg r) := hr
    have hreg : d.bits.reg = (fourthBit r.num8).toNat := by
      rw [hbits, Placement.bits]
      dsimp only
      rw [Placement.numbers_reg, hr]
      rfl
    have hfield : m.fieldNum = r.num8 := by
      rw [Match.fieldNum, hr]
      rfl
    rw [Decoded.field?, hread, Option.map_some, hfield, hreg, num_of_bits]
  | extra =>
    have hvector : m.form.isVector = true := by
      by_contra hnot
      rw [Bool.not_eq_true] at hnot
      rcases h.regular.plain hnot _ hrole with h | h <;> cases h
    have hr : m.placement.extra = some (.reg r) := hr
    rw [Decoded.field?, hframed.vector, if_pos hvector, Option.map_some, Match.vectorPrefix]
    dsimp only
    rw [Placement.extraNum, Mem.toNat_regNum8, hr]
    rfl
  | last =>
    obtain ⟨x, hread, -⟩ := h.modRm_of_place hone hgiven hframed hrole (hlong (by decide))
    have hr : m.placement.last = some (.reg r) := hr
    have hnibble : (r.num8 <<< 4).toNat / 16 = r.num := by
      have hless := r.num_lt
      rw [UInt8.toNat_shiftLeft, toNat_num8, Nat.shiftLeft_eq]
      simp
      omega
    have htail : m.tail.head? = some (r.num8 <<< 4) := by
      rw [Match.tail, h.regular.last hrole, Placement.lastBytes, hr]
      rfl
    rw [Decoded.field?, hread, Option.bind_some, htail, Option.map_some, hnibble]

theorem arg_of_op (h : Matched c inst ops settled m) {i : Nat} (hr : ops[i]? = some (.reg r)) :
    m.args[i]? = some (.reg r) := by
  have hmap := congrArg (·[i]?) h.map_reg
  simp only [List.getElem?_map, hr, Option.map_some] at hmap
  obtain ⟨x, hx, hxr⟩ := Option.map_eq_some_iff.mp hmap
  exact Operand.eq_reg hxr ▸ hx

theorem isPlaced_of_reg (h : Matched c inst ops settled m) {s : Slot}
    (hslot : (s, .reg r) ∈ m.slots) (himplied : s.kind.isImplied = false) :
    s.isPlaced = true ∧ s ∈ m.form.placed := by
  have hplaced : s.isPlaced = true := by
    rw [Slot.isPlaced, himplied, SlotKind.isTrailing_of_reg (h.takes_reg hslot)]
    rfl
  exact ⟨hplaced, List.mem_filter.mpr ⟨(List.of_mem_zip hslot).1, hplaced⟩⟩

/-- Rows that begin with an FWAIT have no register operands, and rows with some have a code that
varies. -/
theorem varies_of_reg (h : Matched c inst ops settled m) {s : Slot} (hslot : (s, .reg r) ∈ m.slots)
    (himplied : s.kind.isImplied = false) :
    m.form.varies = true ∧ m.form.code.headD 0 ≠ 0x9b := by
  obtain ⟨-, hplaced⟩ := h.isPlaced_of_reg hslot himplied
  constructor
  · unfold Form.varies
    rw [List.isEmpty_eq_false_iff.mpr (List.ne_nil_of_mem hplaced)]
    rfl
  · intro hwait
    have htakes := h.takes_reg hslot
    rw [(h.regular.wait hwait).2 s hplaced] at htakes
    cases htakes

end Matched

def SlotKind.isByteSafe : SlotKind → Bool
  | fixed n => n < 4
  | _ => true

theorem rows_byteSafe : ∀ row ∈ rows, ∀ s ∈ row.form.slots, s.kind.isByteSafe = true := by
  have hforms : ∀ f ∈ families, ∀ g ∈ f.forms, ∀ s ∈ g.slots, s.kind.isByteSafe = true := by
    decide +kernel
  exact fun row => form_of_mem_rows hforms

theorem not_implied_of_highByte {k : SlotKind} {r : Register} (h : k.takes (.reg r) = true)
    (hr : r.class? = some .highByte) : k.isImplied = false := by
  cases k <;> first | rfl | skip
  all_goals
    simp [SlotKind.takes, Operand.reg?, Register.isClass, hr] at h
  all_goals
    subst h
    revert hr
    decide

theorem not_implied_of_lowByte {k : SlotKind} {r : Register} (h : k.takes (.reg r) = true)
    (hsafe : k.isByteSafe = true) (hr : r.isLowByte = true) : k.isImplied = false := by
  simp only [Register.isLowByte, Register.isClass, Bool.and_eq_true, beq_iff_eq,
    decide_eq_true_eq] at hr
  obtain ⟨⟨⟨hclass, hwidth⟩, hfour⟩, hseven⟩ := hr
  cases k with
  | fixed n =>
    simp [SlotKind.takes, Operand.reg?, SlotKind.isByteSafe] at h hsafe
    omega
  | fixedSegment n =>
    simp [SlotKind.takes, Operand.reg?, Register.isClass, hclass] at h
  | cr8 =>
    simp [SlotKind.takes, Operand.reg?] at h
    subst h
    exact absurd hclass (by decide)
  | st0 =>
    simp [SlotKind.takes, Operand.reg?] at h
    subst h
    exact absurd hclass (by decide)
  | _ => rfl

structure RegistersRead (m : Match) (ops : List Operand) (code : Bytes) : Prop where
  takes : ∀ (i : Nat) (s : Slot) (r : Register), m.form.slots[i]? = some s →
    ops[i]? = some (.reg r) →
    s.kind.takes (.reg r) = true
  /-- Every register that is no fixed part of the row has a place, from which its number is read. -/
  fields : ∀ (i : Nat) (s : Slot) (r : Register), m.form.slots[i]? = some s →
    ops[i]? = some (.reg r) →
    s.kind.isImplied = false → ∃ q, m.form.place? i = some q ∧
      (decode m.mode code).field? (m.form.has .shortArg) q = some r.num
  /-- No two operands share a place. -/
  apart : ∀ i j q, m.form.place? i = some q → m.form.place? j = some q → i = j
  /-- A VEX or XOP prefix is read as its long form would be. -/
  vector : m.form.isVector = true → ∃ front back bits, m.sizeBits = .ok bits ∧
    code = front ++
      m.placement.vex (m.form.has .vex) (m.form.code.headD 0) (m.prefCode bits) bits ++ back ∧
    decode m.mode code = decode m.mode (front ++ m.placement.longVex (m.form.has .vex)
      (m.form.code.headD 0) (m.prefCode bits) bits ++ back)
  highByte : ∀ r, .reg r ∈ ops → r.class? = some .highByte → (decode m.mode code).rex = none
  lowByte : ∀ r, .reg r ∈ ops → r.isLowByte = true → m.form.isVector = false →
    (decode m.mode code).rex.isSome = true

namespace Matched

variable {c : Matcher} {inst : Inst} {ops settled : List Operand} {m : Match} {r : Register}
  {b : UInt8} {enc : Encoded Reloc}

theorem long_of_emit (h : Matched c inst ops settled m) (hone : OneMem ops)
    (hgiven : ∀ a ∈ memories ops, a.IsGiven) (hvector : m.form.isVector = true)
    (hemit : m.emit b = .ok enc) : ∃ front back bits, m.sizeBits = .ok bits ∧
      enc.code = front ++ m.placement.vex (m.form.has .vex) (m.form.code.headD 0) (m.prefCode bits)
        bits ++ back ∧
      decode m.mode enc.code = decode m.mode (front ++ m.placement.longVex (m.form.has .vex)
        (m.form.code.headD 0) (m.prefCode bits) bits ++ back) := by
  obtain ⟨bits, rex, hallowed, hbits, -, hcode⟩ := Match.emit_spec hemit
  obtain ⟨op, -, hpre, hop⟩ :=
    formPrefixes_vector bits rex h.regular hvector
  rw [hpre, hop, List.append_assoc, List.singleton_append] at hcode
  have hseg := h.segment_lt hone fun a ha => (hgiven a ha).segment
  have hencodable := h.encodable hone hgiven
  have hmap := (h.regular.vector hvector).2.1
  refine ⟨m.front b, op :: m.body, bits, hbits, hcode, ?_⟩
  rw [hcode, decode_vector hallowed hseg (says_vex hencodable hmap) (stops_of_vex _),
    decode_vector hallowed hseg (says_longVex hencodable hmap) (stops_of_longVex _)]

theorem rexFree_of_highByte (h : Matched c inst ops settled m) (hr : .reg r ∈ ops)
    (hclass : r.class? = some .highByte) (hemit : m.emit b = .ok enc) :
    ∃ bits, m.sizeBits = .ok bits ∧ (bits.wide || m.needsRex) = false := by
  obtain ⟨bits, rex, -, hbits, hrex, -⟩ := Match.emit_spec hemit
  obtain ⟨hneed, hhigh⟩ := rexNeed_spec hrex
  obtain ⟨s, hslot⟩ := h.mem_slots (h.reg_mem_ops.mpr hr)
  have himplied := not_implied_of_highByte (h.takes_reg hslot) hclass
  have hhas : m.hasHighByte = true := by
    refine List.any_eq_true.mpr ⟨_, hslot, ?_⟩
    simp [himplied, Operand.reg?, Register.isClass, hclass]
  refine ⟨bits, hbits, ?_⟩
  rw [← hneed]
  by_contra hnot
  rw [Bool.not_eq_false] at hnot
  rw [(hhigh hnot).1] at hhas
  cases hhas

theorem needsRex_of_lowByte {s : Slot}
    (hslot : (s, .reg r) ∈ m.slots) (himplied : s.kind.isImplied = false)
    (hlow : r.isLowByte = true) : m.needsRex = true := by
  have hclass : r.isClass .highByte = false := by
    have hlegacy : r.isClass .legacy = true := by
      simp only [Register.isLowByte, Bool.and_eq_true] at hlow
      exact hlow.1.1.1
    rw [Register.isClass, beq_iff_eq] at hlegacy
    rw [Register.isClass, hlegacy]
    rfl
  refine List.any_eq_true.mpr ⟨_, hslot, ?_⟩
  simp [himplied, hclass, hlow]

theorem framed_of_reg (h : Matched c inst ops settled m) (hone : OneMem ops)
    (hgiven : ∀ a ∈ memories ops, a.IsGiven) {s : Slot} (hslot : (s, .reg r) ∈ m.slots)
    (himplied : s.kind.isImplied = false) (hemit : m.emit b = .ok enc) :
    ∃ bits, m.sizeBits = .ok bits ∧ m.form.code.headD 0 ≠ 0x9b ∧
      Framed m bits (decode m.mode enc.code) := by
  obtain ⟨hvaries, hwait⟩ := h.varies_of_reg hslot himplied
  obtain ⟨bits, hbits, hframed⟩ :=
    h.framed hone hgiven hvaries (fun h9b => absurd h9b hwait) hemit
  rw [← h.mode] at hframed
  exact ⟨bits, hbits, hwait, hframed⟩

theorem registersRead (h : Matched c inst ops settled m) (hone : OneMem ops)
    (hgiven : ∀ a ∈ memories ops, a.IsGiven) (hregs : ∀ r, .reg r ∈ ops → r.IsGiven)
    (hemit : m.emit b = .ok enc) : RegistersRead m ops enc.code := by
  have hslots : ∀ {i : Nat} {s : Slot} {r : Register}, m.form.slots[i]? = some s →
      ops[i]? = some (.reg r) → (s, .reg r) ∈ m.slots := fun hs hr =>
    List.mem_iff_getElem?.mpr ⟨_, List.getElem?_zip_eq_some.mpr ⟨hs, h.arg_of_op hr⟩⟩
  exact {
    takes := fun i s r hs hr => h.takes_reg (hslots hs hr)
    fields := by
      intro i s r hs hr himplied
      have hslot := hslots hs hr
      obtain ⟨bits, -, -, hframed⟩ := h.framed_of_reg hone hgiven hslot himplied hemit
      obtain ⟨q, hrole⟩ :=
        Form.exists_place h.regular hs (h.isPlaced_of_reg hslot himplied).1
      refine ⟨q, hrole, h.field_of_framed hone hgiven hregs hframed ?_⟩
      exact (h.placement_get _ _).mpr
        (Form.assigned_of_place h.length_slots hrole (h.arg_of_op hr))
    apart := fun i j q => Form.place_inj h.regular
    vector := fun hvector => h.long_of_emit hone hgiven hvector hemit
    highByte := by
      intro r hr hclass
      obtain ⟨s, hslot⟩ := h.mem_slots (h.reg_mem_ops.mpr hr)
      have himplied := not_implied_of_highByte (h.takes_reg hslot) hclass
      obtain ⟨bits, hbits, hwait, hframed⟩ := h.framed_of_reg hone hgiven hslot himplied hemit
      obtain ⟨bits', hbits', hfree⟩ := h.rexFree_of_highByte hr hclass hemit
      obtain rfl := Except.ok.inj (hbits.symm.trans hbits')
      have hrex := hframed.rex hwait
      rw [hfree, Bool.and_false] at hrex
      exact Option.not_isSome_iff_eq_none.mp (Bool.eq_false_iff.mp hrex)
    lowByte := by
      intro r hr hlow hvector
      obtain ⟨s, hslot⟩ := h.mem_slots (h.reg_mem_ops.mpr hr)
      have hsafe : s.kind.isByteSafe = true := by
        obtain ⟨row, hrow, hform⟩ := h.mem_rows
        exact rows_byteSafe row hrow s (hform ▸ (List.of_mem_zip hslot).1)
      have himplied := not_implied_of_lowByte (h.takes_reg hslot) hsafe hlow
      obtain ⟨bits, -, hwait, hframed⟩ := h.framed_of_reg hone hgiven hslot himplied hemit
      rw [hframed.rex hwait, hvector, needsRex_of_lowByte hslot himplied hlow, Bool.or_true]
      rfl }

end Matched

/-- Registers are kept: each has a field of its own, from which its number is read. High-byte
registers never come with a REX prefix. The low bytes of the stack and index registers always do,
except behind a VEX prefix, which stands for one. -/
theorem registers_kept {e : Encoder} {inst : Inst} {ops : List Operand} {enc : Encoded Reloc}
    (h : Encodes e inst ops enc) (hregs : ∀ r, .reg r ∈ ops → r.IsGiven)
    (hmems : ∀ a, .mem a ∈ ops → a.IsGiven) :
    ∃ (c : Matcher) (m : Match) (b : UInt8), c.mode = e.mode ∧ c.Finds inst ops m ∧
      m.mode = e.mode ∧ m.emit b = .ok enc ∧ RegistersRead m ops enc.code := by
  obtain ⟨c, m, b, hmode, hfinds, hemit⟩ := h.exists_match
  obtain ⟨hone, settled, hmatched⟩ := hfinds.matched
  exact ⟨c, m, b, hmode, hfinds, hmatched.mode.trans hmode, hemit,
    hmatched.registersRead hone (fun a ha => hmems a (mem_memories.mp ha)) hregs hemit⟩

def fourRegisters : List Operand := [9, 3, 12, 7].map fun n => .reg (.make .xmm 16 n)

theorem registers_kept_four :
    (∀ r, .reg r ∈ fourRegisters → r.IsGiven) ∧ (∀ a, .mem a ∈ fourRegisters → a.IsGiven) ∧
      Encodes ⟨.x64, .everything⟩ ⟨0x64a105cd⟩ fourRegisters
        ⟨[0xc4, 0x43, 0x61, 0x4a, 0xcc, 0x70], []⟩ ∧
      ∃ (c : Matcher) (m : Match) (b : UInt8), c.mode = .x64 ∧
        c.Finds ⟨0x64a105cd⟩ fourRegisters m ∧ m.mode = .x64 ∧
          m.emit b = .ok ⟨[0xc4, 0x43, 0x61, 0x4a, 0xcc, 0x70], []⟩ ∧
            RegistersRead m fourRegisters [0xc4, 0x43, 0x61, 0x4a, 0xcc, 0x70] := by
  have hregs : ∀ r, .reg r ∈ fourRegisters → r.IsGiven := by
    intro r hr
    obtain ⟨n, hn, heq⟩ := List.mem_map.mp hr
    obtain rfl := Operand.reg.inj heq
    have hnamed : ∀ n ∈ [9, 3, 12, 7], (Register.make .xmm 16 n, "x" ++ toString n) ∈
        Register.named := by decide +kernel
    exact Register.isGiven_of_name (hnamed n hn)
  have hmems : ∀ a, .mem a ∈ fourRegisters → a.IsGiven := by
    intro a ha
    obtain ⟨n, -, heq⟩ := List.mem_map.mp ha
    cases heq
  have hencodes : Encodes ⟨.x64, .everything⟩ ⟨0x64a105cd⟩ fourRegisters
      ⟨[0xc4, 0x43, 0x61, 0x4a, 0xcc, 0x70], []⟩ :=
    .inst (b := 0) (by decide +kernel)
  exact ⟨hregs, hmems, hencodes, registers_kept hencodes hregs hmems⟩

/-- `vpinsrb x1, x2, sib, 3` has no REX prefix: its VEX prefix takes the place of one. -/
theorem counterexample_low_byte :
    Encoder.encodeInst ⟨.x64, .everything⟩ 0 ⟨0xa6e208ec⟩ [some (.reg (.make .xmm 16 1)),
        some (.reg (.make .xmm 16 2)), some (.reg (.make .legacy 1 6)),
        some (.imm (.unsized 3))] =
      .ok ⟨[0xc4, 0xe3, 0x69, 0x20, 0xce, 0x03], []⟩ ∧
    (Register.make .legacy 1 6).isLowByte = true ∧
    (decode .x64 [0xc4, 0xe3, 0x69, 0x20, 0xce, 0x03]).rex = none := by
  refine ⟨by decide +kernel, by decide +kernel, by decide +kernel⟩

/-- The byte register of a number. Without a prefix that has room for a fourth bit, the numbers from
four to seven are the high bytes. -/
def Decoded.byteRegister (d : Decoded) (n : Nat) : Register :=
  if d.rex.isNone && d.vector.isNone && 4 ≤ n && n < 8 then .make .highByte 1 n
  else .make .legacy 1 n

theorem Register.IsGiven.byte {r : Register} (h : r.IsGiven) (hwidth : r.width = 1) :
    (∃ n, 4 ≤ n ∧ n < 8 ∧ r = .make .highByte 1 n) ∨ ∃ n < 16, r = .make .legacy 1 n := by
  obtain ⟨k, hclass, hnumber, hmem⟩ := h.spec
  have hmake := h.eq_make hclass
  rw [hwidth] at hmake hmem
  cases k with
  | highByte =>
    simp only [RegClass.hasNumber, Bool.and_eq_true, decide_eq_true_eq] at hnumber
    exact .inl ⟨r.num, hnumber.1, hnumber.2, hmake⟩
  | legacy => exact .inr ⟨r.num, r.num_lt, hmake⟩
  | _ => exact absurd hmem (by decide)

/-- Rows with a VEX or XOP prefix have one slot for byte registers, in the ModRM byte. -/
theorem rows_byteVector : ∀ row ∈ rows, row.form.isVector = true → ∀ s ∈ row.form.slots,
    s = .rb ∨ s = .vb → row.name = "VPINSRB" ∧ row.form.place? 2 = some .rm ∧
      row.form.slots = [.yo, .yo, .vb, .ib] := by
  have hforms : ∀ f ∈ families, ∀ g ∈ f.forms, g.isVector = true →
      (∃ s ∈ g.slots, s = .rb ∨ s = .vb) → f.name = "VPINSRB" ∧ g.place? 2 = some .rm ∧
        g.slots = [.yo, .yo, .vb, .ib] := by
    decide +kernel
  intro row hrow hvector s hs hbyte
  rw [rows_eq_flatMap] at hrow
  obtain ⟨f, hf, hrow⟩ := List.mem_flatMap.mp hrow
  obtain ⟨g, hg, rfl⟩ := List.mem_map.mp hrow
  exact hforms f hf g hg hvector ⟨s, hs, hbyte⟩

theorem Slot.byte_of_takes {s : Slot} {r : Register} {exact : Bool}
    (h : s.takes (.reg r) exact = true) (hr : r.IsGiven) (hwidth : r.width = 1)
    (himplied : s.kind.isImplied = false) : s = .rb ∨ s = .vb := by
  obtain ⟨kind, size⟩ := s
  obtain ⟨hkind, hsize⟩ := Bool.and_eq_true_iff.mp h
  have hclass : r.class? = some .legacy ∨ r.class? = some .highByte := by
    rcases hr.byte hwidth with ⟨n, -, -, rfl⟩ | ⟨n, -, rfl⟩
    · exact .inr (Register.class_make _ _ _)
    · exact .inl (Register.class_make _ _ _)
  have hgeneral : kind = .gpr ∨ kind = .gprOrMem := by
    rcases hclass with hclass | hclass <;> cases kind <;>
      simp [SlotKind.takes, SlotKind.isImplied, Operand.reg?, Operand.mem?, Register.isClass,
        Register.isVector, hclass] at hkind himplied ⊢
  have hbyte : size = .byte := by
    dsimp only [Slot.takesSize, Operand.width] at hsize
    rw [hwidth] at hsize
    cases size with
    | byte => rfl
    | any => rcases hgeneral with rfl | rfl <;> cases hsize
    | _ => cases hsize
  rcases hgeneral with rfl | rfl
  · exact .inl (hbyte ▸ rfl)
  · exact .inr (hbyte ▸ rfl)

namespace Matched

variable {c : Matcher} {inst : Inst} {ops settled : List Operand} {m : Match} {r : Register}
  {b : UInt8} {enc : Encoded Reloc}

theorem byteRegister_of_emit (h : Matched c inst ops settled m) (hone : OneMem ops)
    (hgiven : ∀ a ∈ memories ops, a.IsGiven) {s : Slot} (hslot : (s, .reg r) ∈ m.slots)
    (himplied : s.kind.isImplied = false) (hr : r.IsGiven) (hwidth : r.width = 1)
    (hemit : m.emit b = .ok enc) (hread : RegistersRead m ops enc.code) :
    (decode m.mode enc.code).byteRegister r.num =
      if m.form.isVector then .make .legacy 1 r.num else r := by
  obtain ⟨bits, -, hwait, hframed⟩ := h.framed_of_reg hone hgiven hslot himplied hemit
  have hops : .reg r ∈ ops := h.reg_mem_ops.mp (List.of_mem_zip hslot).2
  unfold Decoded.byteRegister
  rw [hframed.vector]
  cases hvector : m.form.isVector with
  | true => simp
  | false =>
    rcases hr.byte hwidth with ⟨n, hfour, height, rfl⟩ | ⟨n, hn, rfl⟩
    · rw [hread.highByte _ hops (Register.class_make _ _ _), Register.num_make _ _ (by omega)]
      simp [hfour, height]
    · rw [Register.num_make _ _ hn]
      by_cases hlow : 4 ≤ n ∧ n < 8
      · have hlowByte : (Register.make .legacy 1 n).isLowByte = true := by
          rw [Register.isLowByte, Register.isClass, Register.class_make, hwidth,
            Register.num_make _ _ hn]
          simp [hlow.1, Nat.le_of_lt_succ hlow.2]
        have hrex := hread.lowByte _ hops hlowByte hvector
        simp [Option.isNone_eq_false_iff.mpr hrex]
      · rw [if_neg (by simp; omega), if_neg Bool.false_ne_true]

end Matched

/-- The byte registers that an instruction names are those that its code means, except behind a VEX
or XOP prefix. Only the row of VPINSRB has a byte register there, and it takes the high bytes for
the low bytes of the same number. -/
theorem byte_registers_read {e : Encoder} {inst : Inst} {ops : List Operand} {enc : Encoded Reloc}
    (h : Encodes e inst ops enc) (hregs : ∀ r, .reg r ∈ ops → r.IsGiven)
    (hmems : ∀ a, .mem a ∈ ops → a.IsGiven) :
    ∃ (c : Matcher) (m : Match) (b : UInt8), c.mode = e.mode ∧ c.Finds inst ops m ∧
      m.emit b = .ok enc ∧
      ∀ (i : Nat) (s : Slot) (r : Register), m.form.slots[i]? = some s → ops[i]? = some (.reg r) →
        s.kind.isImplied = false → r.width = 1 →
        ∃ q n, m.form.place? i = some q ∧
          (decode m.mode enc.code).field? (m.form.has .shortArg) q = some n ∧
          (decode m.mode enc.code).byteRegister n =
            (if m.form.isVector then .make .legacy 1 r.num else r) ∧
          (m.form.isVector = true → rows[m.row]?.map (·.name) = some "VPINSRB" ∧ q = .rm) := by
  obtain ⟨c, m, b, hmode, hfinds, hemit⟩ := h.exists_match
  obtain ⟨hone, settled, hmatched⟩ := hfinds.matched
  have hgiven : ∀ a ∈ memories ops, a.IsGiven := fun a ha => hmems a (mem_memories.mp ha)
  have hread := hmatched.registersRead hone hgiven hregs hemit
  refine ⟨c, m, b, hmode, hfinds, hemit, fun i s r hs hr himplied hwidth => ?_⟩
  have hslot : (s, .reg r) ∈ m.slots := List.mem_iff_getElem?.mpr
    ⟨_, List.getElem?_zip_eq_some.mpr ⟨hs, hmatched.arg_of_op hr⟩⟩
  have hr' : r.IsGiven := hregs r (List.mem_of_getElem? hr)
  obtain ⟨q, hplace, hfield⟩ := hread.fields i s r hs hr himplied
  refine ⟨q, r.num, hplace, hfield,
    hmatched.byteRegister_of_emit hone hgiven hslot himplied hr' hwidth hemit hread,
    fun hvector => ?_⟩
  obtain ⟨y, -, htakes, hsame, -⟩ := hmatched.slot_takes hslot
  obtain rfl := Operand.eq_reg hsame.symm
  have hbyte := Slot.byte_of_takes htakes hr' hwidth himplied
  obtain ⟨name, hrow⟩ := hmatched.getElem?_rows
  obtain ⟨rfl, hthird, hslots⟩ :=
    rows_byteVector _ (List.mem_of_getElem? hrow) hvector s (List.mem_of_getElem? hs) hbyte
  refine ⟨by rw [hrow]; rfl, ?_⟩
  dsimp only at hthird hslots
  have hi : i = 2 := by
    rw [hslots] at hs
    match i, hs with
    | 2, hs => rfl
    | 0, hs | 1, hs | 3, hs =>
      obtain rfl := Option.some.inj hs
      exact absurd hbyte (by decide)
  subst hi
  exact Option.some.inj (hplace.symm.trans hthird)

/-- `vpinsrb x1, x2, ah, 3` and `vpinsrb x1, x2, spb, 3` are one code. -/
example : [Register.make .highByte 1 4, .make .legacy 1 4].map (fun r =>
    (Encoder.encodeInst ⟨.x64, .everything⟩ 0 ⟨0xa6e208ec⟩ [some (.reg (.make .xmm 16 1)),
      some (.reg (.make .xmm 16 2)), some (.reg r), some (.imm (.unsized 3))]).toOption) =
    List.replicate 2 (some ⟨[0xc4, 0xe3, 0x69, 0x20, 0xcc, 0x03], []⟩) := by
  decide +kernel

end MachineCode.X86
