import MachineCode.Proofs.AArch64.Addresses

/-!
Loads and stores of one register and of pairs. A mnemonic has a template for every form of its
addresses, and the first that takes a memory operand encodes it. The operands that are encoded are
exactly those whose distance from the base can be written in one of the forms, and the address is
read back from the word.
-/
namespace MachineCode.AArch64

/-! ### The mnemonics -/

/-- A mnemonic for registers of one kind. The forms of its addresses stand in the order in which
they are tried, with the fixed bits of each. -/
structure Transfer where
  name : String
  reg : Slot
  /-- Where the registers stand that are loaded or stored. -/
  positions : List Nat
  scale : Nat
  forms : List (AddressForm × Word)

open Instructions in
/-- The mnemonic that has all forms of one register. -/
def Instructions.Access.transfer (a : Access) : Transfer where
  name := a.name
  reg := a.reg
  positions := [0]
  scale := a.scale
  forms := [(.number .scaled, a.scaled), (.number (.unscaled .pre), a.unscaled ||| 0xc00),
    (.number (.unscaled .post), a.unscaled ||| 0x400), (.register, a.unscaled ||| 0x200800),
    (.number (.unscaled .plain), a.unscaled)]

open Instructions in
def Instructions.Access.unscaledTransfer (a : Access) : Transfer where
  name := a.unscaledName
  reg := a.reg
  positions := [0]
  scale := a.scale
  forms := [(.number (.unscaled .plain), a.unscaled)]

/-- A mnemonic for pairs, by the fixed bits of the form that leaves the base alone. -/
def pairTransfer (name : String) (reg : Slot) (base : Word) (scale : Nat) : Transfer where
  name := name
  reg := reg
  positions := [0, 10]
  scale := scale
  forms := [(.number (.pair .plain), base), (.number (.pair .pre), base ||| 1 <<< 23),
    (.number (.pair .post), (base &&& ~~~(1#32 <<< 24)) ||| 1 <<< 23)]

def pairTransfers : List Transfer :=
  ([(.gpW, 0x29000000, 2), (.gpX, 0xa9000000, 3), (.fpS, 0x2d000000, 2), (.fpD, 0x6d000000, 3),
      (.fpQ, 0xad000000, 4)] : List (Slot × Word × Nat)).flatMap (fun (reg, base, scale) =>
    [pairTransfer "stp" reg base scale, pairTransfer "ldp" reg (base ||| 1 <<< 22) scale]) ++
  [pairTransfer "ldpsw" .gpX 0x69400000 2]

def transfers : List Transfer :=
  Instructions.accesses.map (·.transfer) ++ Instructions.accesses.map (·.unscaledTransfer) ++
    pairTransfers

def Slot.family? : Slot → Option Family
  | gpW => some Family.w
  | gpX => some Family.x
  | fpB => some Family.b
  | fpH => some Family.h
  | fpS => some Family.s
  | fpD => some Family.d
  | fpQ => some Family.q
  | _ => none

def Slot.isMemory : Slot → Bool
  | memU12 _ | memImm | memPre | memPost | memIdx | memBase => true
  | _ => false

def Template.family? (t : Template) : Option Family := t.slots.head?.bind Slot.family?

def Template.hasDistance (t : Template) : Bool :=
  t.slots.any fun s => match s with
    | .memBase => false
    | s => s.isMemory

/-- The templates for registers of one family and for memory operands with a distance. -/
def addressing : List Entry :=
  entries.filter fun e => e.template.hasDistance && e.template.family?.isSome

def AddressForm.Excludes (k l : AddressForm) : Prop :=
  k.mode ≠ l.mode ∨ (k = register ∧ l ≠ register) ∨ (k ≠ register ∧ l = register)

instance (k l : AddressForm) : Decidable (k.Excludes l) :=
  inferInstanceAs (Decidable (_ ∨ _ ∨ _))

namespace Transfer

def template (t : Transfer) (f : AddressForm × Word) : Template where
  base := f.2
  slots := t.positions.map (fun _ => t.reg) ++ [f.1.slot t.scale]
  actions := (t.positions ++ [5]).map .reg ++ [f.1.action t.scale]

structure Regular (t : Transfer) : Prop where
  bare : resolve t.name = some (t.name, [])
  small : t.scale < 5
  plain : t.reg.family?.isSome = true
  nonempty : t.positions ≠ []
  only : (addressing.filter fun e =>
    e.template.family? = t.reg.family? ∧ e.name = t.name).map (·.template) = t.forms.map t.template
  /-- Only the scaled form has another for the operands that it does not take. -/
  apart : t.forms.Pairwise fun f g => f.1 = .number .scaled ∨ f.1.Excludes g.1
  marked : ∀ f ∈ t.forms, f.1.Marks t.positions t.scale f.2

instance (t : Transfer) : Decidable t.Regular :=
  decidable_of_iff (resolve t.name = some (t.name, []) ∧ t.scale < 5 ∧
    t.reg.family?.isSome = true ∧ t.positions ≠ [] ∧
    (addressing.filter fun e =>
      e.template.family? = t.reg.family? ∧ e.name = t.name).map (·.template) =
      t.forms.map t.template ∧
    (t.forms.Pairwise fun f g => f.1 = .number .scaled ∨ f.1.Excludes g.1) ∧
    ∀ f ∈ t.forms, f.1.Marks t.positions t.scale f.2)
    ⟨fun ⟨h1, h2, h3, h4, h5, h6, h7⟩ => ⟨h1, h2, h3, h4, h5, h6, h7⟩,
      fun ⟨h1, h2, h3, h4, h5, h6, h7⟩ => ⟨h1, h2, h3, h4, h5, h6, h7⟩⟩

end Transfer

theorem transfers_regular : ∀ t ∈ transfers, t.Regular := by
  decide +kernel

/-- The mnemonics have no other templates for memory operands. -/
theorem mem_addressing : ∀ e ∈ entries, e.template.slots.any (·.isMemory) = true →
    (e.template.hasDistance && e.template.family?.isSome) = true ∨
      ∀ t ∈ transfers, e.name ≠ t.name := by
  decide +kernel

/-- All loads and stores of registers of one family are among the mnemonics. -/
theorem exists_transfer : ∀ e ∈ addressing, ∃ t ∈ transfers,
    e.template.family? = t.reg.family? ∧ e.name = t.name := by
  decide +kernel

/-- Every template for registers of one family and a memory operand with a distance is one of the
forms of a mnemonic. -/
theorem transfers_complete {e : Entry} (he : e ∈ addressing) :
    ∃ t ∈ transfers, e.name = t.name ∧ e.template ∈ t.forms.map t.template := by
  obtain ⟨t, ht, hfamily, hname⟩ := exists_transfer e he
  refine ⟨t, ht, hname, ?_⟩
  rw [← (transfers_regular t ht).only]
  exact List.mem_map_of_mem (List.mem_filter.mpr ⟨he, decide_eq_true ⟨hfamily, hname⟩⟩)

/-! ### Slots and operands -/

def transferOperands (rs : List Register) (m : Mem) : List Operand := rs.map .reg ++ [.mem m]

theorem takesRegister_iff {s : Slot} {f : Family} (h : s.family? = some f) (r : Register) :
    s.takesRegister r = true ↔ r.family = f := by
  cases s <;> cases h <;> exact beq_iff_eq

theorem go_registers {arr : Option Arrangement} {s : Slot} {positions : List Nat}
    {rs : List Register} {ss : List Slot} {as : List Operand}
    (hlength : positions.length = rs.length) (hrs : ∀ r ∈ rs, s.takesRegister r = true) :
    Template.accepts.go arr (positions.map (fun _ => s) ++ ss) (rs.map .reg ++ as) =
      Template.accepts.go arr ss as := by
  induction positions generalizing rs with
  | nil =>
    cases List.length_eq_zero_iff.mp hlength.symm
    rfl
  | cons pos positions ih =>
    cases rs with
    | nil => cases hlength
    | cons r rs =>
      have htakes : s.takes (.reg r) = true := hrs r List.mem_cons_self
      have hskip : Template.accepts.go arr
          ((pos :: positions).map (fun _ => s) ++ ss) ((r :: rs).map .reg ++ as) =
          (s.takes (.reg r) && Template.accepts.go arr
            (positions.map (fun _ => s) ++ ss) (rs.map .reg ++ as)) := by
        cases s <;> rfl
      rw [hskip, htakes, Bool.true_and]
      exact ih (Nat.succ.inj hlength) fun r' hr' => hrs r' (List.mem_cons_of_mem _ hr')

theorem partsOfAll_registers (name : String) {s : Slot} {positions : List Nat}
    {rs : List Register} (ss : List Slot) (as : List Operand)
    (hlength : positions.length = rs.length) (hrs : ∀ r ∈ rs, registerFault? s r = none) :
    partsOfAll name (positions.map (fun _ => s) ++ ss) (rs.map .reg ++ as) =
      (partsOfAll name ss as).map (rs.map .reg ++ ·) := by
  induction positions generalizing rs with
  | nil =>
    cases List.length_eq_zero_iff.mp hlength.symm
    change partsOfAll name ss as = _
    cases partsOfAll name ss as <;> rfl
  | cons pos positions ih =>
    cases rs with
    | nil => cases hlength
    | cons r rs =>
      have hfront : partsOf name s (.reg r) = .ok [.reg r] := by
        simp only [partsOf, hrs r List.mem_cons_self]
      change (do
        let front ← partsOf name s (.reg r)
        return front ++ (← partsOfAll name (positions.map (fun _ => s) ++ ss)
          (rs.map Operand.reg ++ as))) = _
      rw [hfront, ih (Nat.succ.inj hlength) fun r' hr' => hrs r' (List.mem_cons_of_mem _ hr')]
      cases partsOfAll name ss as <;> rfl

section Forms

variable {t : Transfer} {k : AddressForm} {base : Word} {rs : List Register} {m : Mem}

theorem accepts_form (f : AddressForm × Word) (hlength : t.positions.length = rs.length)
    (hrs : ∀ r ∈ rs, t.reg.takesRegister r = true) :
    (t.template f).accepts (transferOperands rs m) = (f.1.slot t.scale).takesMem m := by
  unfold Template.accepts transferOperands
  rw [Transfer.template, go_registers hlength hrs]
  have hlast : Template.accepts.go none [f.1.slot t.scale] [.mem m] =
      ((f.1.slot t.scale).takesMem m && true) := by
    cases f.1.slot t.scale <;> rfl
  rw [hlast, Bool.and_true]

theorem takesMem_scaled_iff {scale : Nat} :
    ((AddressForm.number .scaled).slot scale).takesMem m = true ↔
      (m.base.family == Family.x || m.base.family == Family.sp) = true ∧
        (AddressForm.number .scaled).Takes scale m := by
  have hunit : ((1 <<< scale : Nat) : Int) = 2 ^ scale := by
    rw [Nat.one_shiftLeft]
    norm_cast
  have hbound : ((4096 <<< scale : Nat) : Int) = 4096 * 2 ^ scale := by
    rw [Nat.shiftLeft_eq]
    norm_cast
  unfold Slot.takesMem
  rw [Bool.and_eq_true]
  simp only [AddressForm.slot, NumberForm.slot, Bool.and_eq_true, beq_iff_eq, decide_eq_true_eq,
    hunit, hbound]
  constructor
  · rintro ⟨hbase, ⟨⟨⟨hplain, hmode⟩, hlow⟩, hdvd⟩, hhigh⟩
    exact ⟨hbase, hplain, hmode, Int.dvd_of_emod_eq_zero hdvd, hlow, hhigh⟩
  · rintro ⟨hbase, hplain, hmode, hdvd, hlow, hhigh⟩
    exact ⟨hbase, ⟨⟨⟨hplain, hmode⟩, hlow⟩, Int.emod_eq_zero_of_dvd hdvd⟩, hhigh⟩

/-- A form that can write the operand takes it. -/
theorem AddressForm.Takes.slot {scale : Nat} (h : k.Takes scale m) (hbase : m.base.IsBase) :
    (k.slot scale).takesMem m = true := by
  have hfamily : (m.base.family == Family.x || m.base.family == Family.sp) = true := by
    rw [Bool.or_eq_true, beq_iff_eq, beq_iff_eq]
    exact hbase.2.imp_left And.left
  cases k with
  | number n =>
    cases n with
    | scaled => exact takesMem_scaled_iff.mpr ⟨hfamily, h⟩
    | unscaled i | pair i =>
      obtain ⟨⟨hindex, hmod⟩, hmode, -⟩ := h
      cases i <;>
        simpa [AddressForm.slot, NumberForm.slot, Indexing.slot, Slot.takesMem, hfamily, hindex,
          hmod, NumberForm.mode, Indexing.mode] using hmode
  | register =>
    obtain ⟨hindexes, hmode, hoffset⟩ := h
    have hwidth := hindexes.extension.imp And.left And.left
    simp [AddressForm.slot, Slot.takesMem, hfamily, hmode, hoffset, hwidth]

theorem AddressForm.of_takesMem {scale : Nat} (h : (k.slot scale).takesMem m = true) :
    m.mode = k.mode ∧ (k ≠ register → m.index = .absent ∧ m.mod.kind = .none) ∧
      (k = register → m.offset = 0 ∧
        (m.index.family = Family.w ∨ m.index.family = Family.x)) := by
  unfold Slot.takesMem at h
  rw [Bool.and_eq_true] at h
  obtain ⟨-, h⟩ := h
  cases k with
  | number n =>
    cases n with
    | scaled =>
      simp only [slot, NumberForm.slot, Bool.and_eq_true, beq_iff_eq] at h
      obtain ⟨⟨⟨⟨hplain, hmode⟩, -⟩, -⟩, -⟩ := h
      exact ⟨hmode, fun _ => hplain, fun h => by cases h⟩
    | unscaled i | pair i =>
      cases i <;>
      · simp only [slot, NumberForm.slot, Indexing.slot, Bool.and_eq_true, beq_iff_eq] at h
        exact ⟨h.2, fun _ => h.1, fun h => by cases h⟩
  | register =>
    simp only [slot, Bool.and_eq_true, Bool.or_eq_true, beq_iff_eq] at h
    exact ⟨h.1.2, fun hne => absurd rfl hne, fun _ => ⟨h.2, h.1.1⟩⟩

end Forms

/-! ### Encoding in a form -/

def numberBits (name : String) (f : BitField) (v : Int64) : Except Refusal Word :=
  match f.fault? v with
  | some .misaligned => .error (.misaligned name v f.unit)
  | some _ => .error (.range name .immediate v)
  | none => .ok (f.place v)

theorem numberBits_eq_ok_iff {name : String} {f : BitField} {v : Int64} {bits : Word} :
    numberBits name f v = .ok bits ↔ f.fault? v = none ∧ bits = f.place v := by
  unfold numberBits
  cases hfault : f.fault? v with
  | none =>
    constructor
    · intro h
      cases h
      exact ⟨rfl, rfl⟩
    · rintro ⟨-, rfl⟩
      rfl
  | some fault =>
    constructor
    · intro h
      cases fault <;> cases h
    · rintro ⟨h, -⟩
      cases h

def AddressForm.bits (name : String) (scale : Nat) (m : Mem) : AddressForm → Except Refusal Word
  | number n => numberBits name (n.field scale) m.offset
  | register => Filling.memIndexBits name m.index m.indexMod? scale

def AddressForm.parts (m : Mem) : AddressForm → List Part
  | number _ => [.imm m.offset]
  | register => [.reg m.index, if m.mod.kind = .none then .absent else .mod m.mod]

structure Transfer.Operands (t : Transfer) (rs : List Register) (m : Mem) : Prop where
  length : t.positions.length = rs.length
  taken : ∀ r ∈ rs, t.reg.takesRegister r = true
  valid : ∀ r ∈ rs, r.fault? = none
  base : m.base.IsBase

section Forms

variable {t : Transfer} {k : AddressForm} {base bits : Word} {rs : List Register} {m : Mem}
  {name : String} {scale : Nat} {e : Encoded Reloc}

theorem registerFault?_of_family? {s : Slot} {r : Register} (hs : s.family?.isSome = true)
    (hr : r.fault? = none) : registerFault? s r = none := by
  refine registerFault?_of_fault? ⟨?_, ?_⟩ hr
  · rintro rfl
    cases hs
  · rintro rfl
    cases hs

theorem partsOf_mem (hbase : m.base.fault? = none)
    (hindex : k = .register → m.index.fault? = none) :
    partsOf name (k.slot scale) (.mem m) = .ok (.reg m.base :: k.parts m) := by
  cases k with
  | number n =>
    simp only [partsOf, hbase]
    cases n with
    | scaled => rfl
    | unscaled i | pair i => cases i <;> rfl
  | register =>
    simp only [partsOf, hbase, hindex rfl]
    rfl

theorem step_action (s : Filling) (hs : s.parts = k.parts m) :
    s.step name (k.action scale) = (k.bits name scale m).map (s.set (k.parts m).length) := by
  obtain ⟨w, ps, refs, n⟩ := s
  cases hs
  cases k with
  | number n =>
    change (match (n.field scale).fault? m.offset with
      | some .misaligned => _
      | some _ => _
      | none => Except.ok _) = (numberBits name (n.field scale) m.offset).map _
    unfold numberBits
    cases (n.field scale).fault? m.offset with
    | none => rfl
    | some fault => cases fault <;> rfl
  | register =>
    have hmod : Part.modifier? (if m.mod.kind = .none then .absent else .mod m.mod) =
        m.indexMod? := by
      unfold Mem.indexMod?
      by_cases hnone : m.mod.kind = .none
      · rw [if_pos hnone, if_pos hnone]
        rfl
      · rw [if_neg hnone, if_neg hnone]
        rfl
    change (Filling.memIndexBits name m.index
      (Part.modifier? (if m.mod.kind = .none then .absent else .mod m.mod)) scale).map _ = _
    rw [hmod]
    rfl

theorem encode_form (f : AddressForm × Word) (name : String) (hregular : t.Regular)
    (ho : t.Operands rs m) (hindex : f.1 = .register → m.index.fault? = none) :
    (t.template f).encode name (transferOperands rs m) =
      (f.1.bits name t.scale m).map fun bits =>
        ⟨Bytes.ofWord (filledWord f.2 t.positions rs m.base bits), []⟩ := by
  have hlast : partsOfAll name [f.1.slot t.scale] [.mem m] =
      .ok (.reg m.base :: f.1.parts m) := by
    change (do
      let front ← partsOf name (f.1.slot t.scale) (.mem m)
      return front ++ (← partsOfAll name [] [])) = _
    rw [partsOf_mem ho.base.1 hindex]
    change Except.ok (.reg m.base :: f.1.parts m ++ []) = _
    rw [List.append_nil]
  have hall := partsOfAll_registers name [f.1.slot t.scale] [.mem m] ho.length fun r hr =>
    registerFault?_of_family? hregular.plain (ho.valid r hr)
  have hparts : partsOfAll name (t.template f).slots (transferOperands rs m) =
      .ok ((rs ++ [m.base]).map .reg ++ f.1.parts m) := by
    rw [hlast] at hall
    rw [Transfer.template, transferOperands, hall, List.map_append, List.append_assoc]
    rfl
  exact encode_registers (by simp [ho.length]) hparts rfl step_action

/-- The distance of an operand that a slot takes is encoded exactly if the form can write it. -/
theorem exists_bits_iff (name : String) (hscale : scale < 5)
    (hslot : (k.slot scale).takesMem m = true) (hindex : k = .register → m.index.fault? = none) :
    (∃ bits, k.bits name scale m = .ok bits) ↔ k.Takes scale m := by
  obtain ⟨hmode, hplain, hdistance⟩ := AddressForm.of_takesMem hslot
  cases k with
  | number n =>
    have hadmits : (n.field scale).fault? m.offset = none ↔ n.Takes scale m.offset.toInt :=
      (BitField.fault?_eq_none_iff (n.field_regular hscale).2).trans (n.admits_iff_takes scale _)
    constructor
    · rintro ⟨bits, h⟩
      exact ⟨hplain (by simp), hmode, hadmits.mp (numberBits_eq_ok_iff.mp h).1⟩
    · rintro ⟨-, -, hv⟩
      exact ⟨_, numberBits_eq_ok_iff.mpr ⟨hadmits.mpr hv, rfl⟩⟩
  | register =>
    obtain ⟨hoffset, hfamily⟩ := hdistance rfl
    have hindexes := exists_memIndexBits_iff name scale (hindex rfl) hfamily
    constructor
    · intro h
      exact ⟨hindexes.mp h, hmode, hoffset⟩
    · rintro ⟨h, -, -⟩
      exact hindexes.mpr h

theorem index_ne_absent (h : m.Indexes scale) : m.index ≠ .absent := by
  intro habsent
  rcases h.extension with ⟨hfamily, -⟩ | ⟨hfamily, -⟩ <;>
  · rw [habsent] at hfamily
    exact absurd hfamily (by decide)

/-- The bits of a distance are numbers from which it can be told. -/
theorem AddressForm.Takes.distance? (hscale : scale < 5) (h : k.Takes scale m)
    (hbits : k.bits name scale m = .ok bits) :
    ∃ ns, Sets (k.action scale).stretches ns bits ∧ ∀ w,
      (k.action scale).stretches.map (·.read w) = ns → k.scale w = scale →
      k.distance? w = some m.address.distance := by
  cases k with
  | number n =>
    obtain ⟨⟨hindex, -⟩, -, -⟩ := h
    obtain ⟨hfault, rfl⟩ := numberBits_eq_ok_iff.mp hbits
    obtain ⟨number, hsets, hundo⟩ := BitField.sets_place (n.field_regular hscale).1 hfault
    refine ⟨[number], hsets, fun w hread hw => ?_⟩
    have hnumber : n.stretch.read w = number := (List.cons.inj hread).1
    rw [AddressForm.distance?, hw, NumberForm.read, hnumber, ← n.undo_field scale, hundo,
      Mem.address, if_pos hindex]
  | register =>
    obtain ⟨hindexes, -, -⟩ := h
    obtain ⟨option, s, hsets, hoption, hamount⟩ := memIndexBits_spec hbits
    refine ⟨_, hsets, fun w hread hw => ?_⟩
    obtain ⟨hnum, hoption', hs⟩ : Stretch.read ⟨16, 5⟩ w = m.index.num % 32 ∧
        Stretch.read ⟨13, 3⟩ w = option ∧ Stretch.read ⟨12, 1⟩ w = s := by
      simpa [AddressForm.action, Action.stretches] using hread
    rw [AddressForm.distance?, hnum, hoption', hs, hw, hamount,
      indexing?_of_indexes hindexes hoption, Nat.mod_eq_of_lt (num_lt_of_fault? hindexes.valid),
      Mem.address, if_neg (index_ne_absent hindexes)]
    rfl

/-- A word of a form says the registers and the address. -/
theorem AddressForm.Takes.address? (hregular : t.Regular) (ho : t.Operands rs m)
    (hf : (k, base) ∈ t.forms) (h : k.Takes t.scale m)
    (hbits : k.bits name t.scale m = .ok bits) :
    let w := filledWord base t.positions rs m.base bits
    t.positions.map (Stretch.read ⟨·, 5⟩ w) = rs.map (·.num) ∧
      MachineCode.AArch64.address? w = some m.address := by
  intro w
  obtain ⟨ns, hsets, hdistance⟩ := h.distance? hregular.small hbits
  obtain ⟨hnums, hbase, hread, hform, hscale⟩ :=
    read_filled (hregular.marked _ hf) ho.length ho.valid ho.base.1 hsets
  have hmode : m.mode = k.mode := (AddressForm.of_takesMem (h.slot ho.base)).1
  refine ⟨hnums, ?_⟩
  unfold MachineCode.AArch64.address?
  rw [hform, Option.bind_some, hdistance w hread hscale, Option.map_some, hbase, ← hmode]
  rfl

end Forms

/-! ### The form that is chosen -/

section Choice

variable {t : Transfer} {rs : List Register} {m : Mem}

theorem AddressForm.Excludes.elim {k l : AddressForm} {scale : Nat} (h : k.Excludes l)
    (hk : (k.slot scale).takesMem m = true) (hl : (l.slot scale).takesMem m = true) : False := by
  obtain ⟨hmode, hplain, hindex⟩ := of_takesMem hk
  obtain ⟨hmode', hplain', hindex'⟩ := of_takesMem hl
  have hone : ∀ {r : Register}, r = .absent → r.family = Family.w ∨ r.family = Family.x →
      False := by
    rintro r rfl hfamily
    exact absurd hfamily (by decide)
  rcases h with hne | ⟨hr, hnr⟩ | ⟨hnr, hr⟩
  · exact hne (hmode ▸ hmode')
  · exact hone (hplain' hnr).1 (hindex hr).2
  · exact hone (hplain hnr).1 (hindex' hr).2

def firstForm? (scale : Nat) (m : Mem) (forms : List (AddressForm × Word)) :
    Option (AddressForm × Word) :=
  forms.find? fun f => (f.1.slot scale).takesMem m

theorem mem_of_firstForm? {scale : Nat} {forms : List (AddressForm × Word)}
    {f : AddressForm × Word} (h : firstForm? scale m forms = some f) :
    f ∈ forms ∧ (f.1.slot scale).takesMem m = true := by
  have hfound := List.find?_eq_some_iff_append.mp h
  exact ⟨List.mem_of_find?_eq_some h, hfound.1⟩

/-- If any form can write an operand, then the first that takes it can. -/
theorem takes_of_firstForm? {scale : Nat} {forms : List (AddressForm × Word)}
    {f g : AddressForm × Word}
    (hapart : forms.Pairwise fun f g => f.1 = .number .scaled ∨ f.1.Excludes g.1)
    (hfind : firstForm? scale m forms = some f) (hg : g ∈ forms)
    (htakes : g.1.Takes scale m) (hslot : (g.1.slot scale).takesMem m = true) :
    f.1.Takes scale m := by
  induction forms with
  | nil => cases hg
  | cons first rest ih =>
    rw [List.pairwise_cons] at hapart
    cases hfirst : (first.1.slot scale).takesMem m with
    | true =>
      rw [firstForm?, List.find?_cons, hfirst] at hfind
      cases hfind
      rcases List.mem_cons.mp hg with rfl | hg
      · exact htakes
      · rcases hapart.1 g hg with hscaled | hexcludes
        · rw [hscaled] at hfirst ⊢
          exact (takesMem_scaled_iff.mp hfirst).2
        · exact (hexcludes.elim hfirst hslot).elim
    | false =>
      rw [firstForm?, List.find?_cons, hfirst] at hfind
      rcases List.mem_cons.mp hg with rfl | hg
      · rw [hfirst] at hslot
        cases hslot
      · exact ih hapart.2 hfind hg

theorem exists_slot_of_accepts {arr : Option Arrangement} {slots : List Slot}
    {args : List Operand} (h : Template.accepts.go arr slots args = true) {a : Operand}
    (ha : a ∈ args) : ∃ s ∈ slots, s.takes a = true := by
  induction args generalizing arr slots with
  | nil => cases ha
  | cons b args ih =>
    cases slots with
    | nil => cases h
    | cons s ss =>
      obtain ⟨htakes, arr', hrest⟩ := go_tail h
      rcases List.mem_cons.mp ha with rfl | ha
      · exact ⟨s, List.mem_cons_self, htakes⟩
      · obtain ⟨s', hs', htakes'⟩ := ih hrest ha
        exact ⟨s', List.mem_cons_of_mem _ hs', htakes'⟩

theorem isMemory_of_takes {s : Slot} (h : s.takes (.mem m) = true) : s.isMemory = true := by
  have hmem : s.takesMem m = true := h
  cases s <;> simp [Slot.takesMem, Slot.isMemory] at hmem ⊢

theorem family?_of_accepts {u : Template} (hregular : t.Regular) (ho : t.Operands rs m)
    (hfamily : u.family?.isSome = true) (h : u.accepts (transferOperands rs m) = true) :
    u.family? = t.reg.family? := by
  cases rs with
  | nil => exact absurd (List.length_eq_zero_iff.mp ho.length) hregular.nonempty
  | cons r rs =>
    obtain ⟨base, slots, actions⟩ := u
    cases slots with
    | nil => cases h
    | cons s ss =>
      obtain ⟨f, hf⟩ := Option.isSome_iff_exists.mp hfamily
      obtain ⟨f', hf'⟩ := Option.isSome_iff_exists.mp hregular.plain
      have htakes : s.takes (.reg r) = true := (go_tail h).1
      have hfr : r.family = f := (takesRegister_iff hf r).mp htakes
      have hfr' : r.family = f' := (takesRegister_iff hf' r).mp (ho.taken r List.mem_cons_self)
      rw [hf, hf', ← hfr, ← hfr']

/-- The template of the operands is found among the forms. -/
theorem find?_templatesOf (ht : t ∈ transfers) (ho : t.Operands rs m) :
    (templatesOf t.name).find? (·.accepts (transferOperands rs m)) =
      (firstForm? t.scale m t.forms).map t.template := by
  have hregular := transfers_regular t ht
  have hsame : (templatesOf t.name).filter (·.accepts (transferOperands rs m)) =
      (t.forms.map t.template).filter (·.accepts (transferOperands rs m)) := by
    rw [← hregular.only, templatesOf, addressing, List.filter_map, List.filter_map,
      List.filter_filter, List.filter_filter, List.filter_filter]
    congr 1
    apply List.filter_congr
    intro e he
    dsimp only [Function.comp]
    cases haccepts : e.template.accepts (transferOperands rs m) with
    | false => simp
    | true =>
      obtain ⟨s, hs, htakes⟩ := exists_slot_of_accepts haccepts
        (List.mem_append_right _ (List.mem_singleton_self (Operand.mem m)))
      have hmem : e.template.slots.any (·.isMemory) = true :=
        List.any_eq_true.mpr ⟨s, hs, isMemory_of_takes htakes⟩
      by_cases hname : e.name = t.name
      · have hdistance := (mem_addressing e he hmem).resolve_right fun h => h t ht hname
        have hfamily := family?_of_accepts hregular ho
          (Bool.and_eq_true_iff.mp hdistance).2 haccepts
        rw [hdistance, hfamily]
        simp [hname]
      · simp [hname]
  rw [← List.head?_filter, hsame, List.head?_filter, List.find?_map]
  rw [firstForm?]
  congr 2
  funext f
  exact accepts_form f ho.length ho.taken

theorem index_valid_of_encode {f : AddressForm × Word} {name : String} {e : Encoded Reloc}
    (hregular : t.Regular) (ho : t.Operands rs m)
    (h : (t.template f).encode name (transferOperands rs m) = .ok e) :
    f.1 = .register → m.index.fault? = none := by
  intro hregister
  obtain ⟨parts, -, hparts, -⟩ := of_template_encode h
  rw [Transfer.template, hregister, transferOperands,
    partsOfAll_registers name _ _ ho.length fun r hr =>
      registerFault?_of_family? hregular.plain (ho.valid r hr)] at hparts
  obtain ⟨last, hlast, -⟩ := map_eq_ok hparts
  cases hmem : partsOf name .memIdx (.mem m) with
  | error x =>
    change (do
      let front ← partsOf name .memIdx (.mem m)
      return front ++ (← partsOfAll name [] [])) = _ at hlast
    rw [hmem] at hlast
    cases hlast
  | ok ps => exact (partsOf_eq_ok hmem).2.2 rfl

/-- What is encoded is the word of a form that can write the operand. -/
theorem exists_form_of_encode (ht : t ∈ transfers) {mnemonic : String}
    (hname : Text.toLower (Text.trim mnemonic) = t.name) (ho : t.Operands rs m)
    {e : Encoded Reloc} (h : encode mnemonic ((transferOperands rs m).map .operand) = .ok e) :
    ∃ f ∈ t.forms, f.1.Takes t.scale m ∧ ∃ bits, f.1.bits t.name t.scale m = .ok bits ∧
      e = ⟨Bytes.ofWord (filledWord f.2 t.positions rs m.base bits), []⟩ := by
  have hregular := transfers_regular t ht
  obtain ⟨u, hu, hencode⟩ := (encode_eq_ok_iff_find? hname hregular.bare).mp h
  rw [find?_templatesOf ht ho] at hu
  obtain ⟨f, hfind, rfl⟩ := Option.map_eq_some_iff.mp hu
  have hindex := index_valid_of_encode hregular ho hencode
  have hform := encode_form f t.name hregular ho hindex
  obtain ⟨bits, hbits, rfl⟩ := map_eq_ok (hform.symm.trans hencode)
  obtain ⟨hf, hslot⟩ := mem_of_firstForm? hfind
  have htakes := (exists_bits_iff t.name hregular.small hslot hindex).mp ⟨bits, hbits⟩
  exact ⟨f, hf, htakes, bits, hbits, rfl⟩

theorem encode_of_takes (ht : t ∈ transfers) {mnemonic : String}
    (hname : Text.toLower (Text.trim mnemonic) = t.name) (ho : t.Operands rs m)
    (h : ∃ f ∈ t.forms, f.1.Takes t.scale m) :
    ∃ e, encode mnemonic ((transferOperands rs m).map .operand) = .ok e := by
  have hregular := transfers_regular t ht
  obtain ⟨g, hg, hgtakes⟩ := h
  have hgslot := hgtakes.slot ho.base
  obtain ⟨f, hfind⟩ : ∃ f, firstForm? t.scale m t.forms = some f := by
    rw [← Option.isSome_iff_exists, firstForm?, List.find?_isSome]
    exact ⟨g, hg, hgslot⟩
  have htakes := takes_of_firstForm? hregular.apart hfind hg hgtakes hgslot
  have hindex : f.1 = .register → m.index.fault? = none := by
    intro hregister
    rw [hregister] at htakes
    exact htakes.1.valid
  obtain ⟨bits, hbits⟩ :=
    (exists_bits_iff t.name hregular.small (htakes.slot ho.base) hindex).mpr htakes
  refine ⟨⟨Bytes.ofWord (filledWord f.2 t.positions rs m.base bits), []⟩,
    (encode_eq_ok_iff_find? hname hregular.bare).mpr ⟨t.template f, ?_, ?_⟩⟩
  · rw [find?_templatesOf ht ho, hfind, Option.map_some]
  · have hform := encode_form f t.name hregular ho hindex
    rw [hbits] at hform
    exact hform

end Choice

/-- A load or store is encoded exactly if one of its forms can write the memory operand. The word
then says the registers and the address. -/
theorem transfers_addressed {t : Transfer} (ht : t ∈ transfers) {mnemonic : String}
    (hname : Text.toLower (Text.trim mnemonic) = t.name) {rs : List Register} {m : Mem}
    (ho : t.Operands rs m) :
    ((∃ e, encode mnemonic ((transferOperands rs m).map .operand) = .ok e) ↔
      ∃ f ∈ t.forms, f.1.Takes t.scale m) ∧
    ∀ e, encode mnemonic ((transferOperands rs m).map .operand) = .ok e →
      ∃ w, e = ⟨Bytes.ofWord w, []⟩ ∧
        t.positions.map (Stretch.read ⟨·, 5⟩ w) = rs.map (·.num) ∧
        address? w = some m.address := by
  refine ⟨⟨?_, encode_of_takes ht hname ho⟩, ?_⟩
  · rintro ⟨e, he⟩
    obtain ⟨f, hf, htakes, -⟩ := exists_form_of_encode ht hname ho he
    exact ⟨f, hf, htakes⟩
  · intro e he
    obtain ⟨f, hf, htakes, bits, hbits, rfl⟩ := exists_form_of_encode ht hname ho he
    exact ⟨_, rfl, htakes.address? (transfers_regular t ht) ho hf hbits⟩

/-- A word in front of the stack pointer. -/
theorem transfers_addressed_below :
    Text.toLower (Text.trim "LDR ") = "ldr" ∧
      (⟨.of Family.sp 31, .absent, ⟨.none, 0, false⟩, -8, .offset⟩ : Mem).base.IsBase ∧
      encode "LDR " ((transferOperands [.of Family.x 1]
        ⟨.of Family.sp 31, .absent, ⟨.none, 0, false⟩, -8, .offset⟩).map .operand) =
        .ok ⟨Bytes.ofWord 0xf85f83e1#32, []⟩ ∧
      ∃ w, Bytes.ofWord 0xf85f83e1#32 = Bytes.ofWord w ∧
        [0].map (Stretch.read ⟨·, 5⟩ w) = [1] ∧
        address? w = some ⟨31, .offset, .number (-8)⟩ := by
  let a : Instructions.Access := ⟨"ldr", .gpX, 0xf9400000, 3, some 0x58000000⟩
  have ht : a.transfer ∈ transfers := by
    refine List.mem_append_left _ (List.mem_append_left _ (List.mem_map_of_mem ?_))
    simp [Instructions.accesses, a]
  have hname : Text.toLower (Text.trim "LDR ") = a.transfer.name := by
    decide +kernel
  have hbase : (Register.of Family.sp 31).IsBase := ⟨by decide, Or.inr (by decide)⟩
  have ho : a.transfer.Operands [.of Family.x 1]
      ⟨.of Family.sp 31, .absent, ⟨.none, 0, false⟩, -8, .offset⟩ :=
    ⟨rfl, by decide, by decide, hbase⟩
  have hok : encode "LDR " ((transferOperands [.of Family.x 1]
      ⟨.of Family.sp 31, .absent, ⟨.none, 0, false⟩, -8, .offset⟩).map .operand) =
      .ok ⟨Bytes.ofWord 0xf85f83e1#32, []⟩ := by
    decide +kernel
  obtain ⟨w, hw, hregisters, haddress⟩ := (transfers_addressed ht hname ho).2 _ hok
  exact ⟨hname, hbase, hok, w, congrArg Encoded.code hw, hregisters, haddress⟩

end MachineCode.AArch64
