import MachineCode.Proofs.X86.Rows
import MachineCode.Proofs.X86.Search

/-!
What a match has of the operands that were given: their registers as they are, and their memory
operand in normal form. Every operand that takes a place takes one of its own.
-/
namespace MachineCode.X86

def SameRegister (a a' : Operand) : Prop := a'.reg? = a.reg?

def SamePlace (a a' : Operand) : Prop := SameRegister a a' ∧ a'.mem? = a.mem?

theorem Operand.eq_reg {a : Operand} {r : Register} (h : a.reg? = some r) : a = .reg r := by
  cases a <;> cases h
  rfl

theorem Operand.eq_mem {a : Operand} {m : Mem} (h : a.mem? = some m) : a = .mem m := by
  cases a <;> cases h
  rfl

theorem samePlace_of_resize {name : String} {operand : Option Nat} {imm : Nat} {s : Slot}
    {a a' : Operand} (h : resize name operand imm s a = .ok a') : SamePlace a a' := by
  unfold resize at h
  dsimp only at h
  generalize (if s.size = .any then imm else s.size.bytes) = size at h
  split at h
  · obtain ⟨-, rfl⟩ := ok_of_unless h
    exact ⟨rfl, rfl⟩
  · cases h
    split <;> exact ⟨rfl, rfl⟩
  · cases h
    exact ⟨rfl, rfl⟩
  · cases h
    split <;> exact ⟨rfl, rfl⟩
  · cases h
    exact ⟨rfl, rfl⟩

/-- The memory operand of some operands is settled; the others stay as they are. -/
inductive Settled (mode : Mode) : List Operand → List Operand → Nat → Prop
  | absent {ops : List Operand} (h : ∀ a ∈ ops, a.mem? = none) : Settled mode ops ops mode.addrSize
  | present {front back : List Operand} {m m' : Mem} {size : Option Nat}
    (hfront : ∀ a ∈ front, a.mem? = none) (h : m.settle = .ok (m', size)) :
    Settled mode (front ++ .mem m :: back) (front ++ .mem m' :: back) (size.getD mode.addrSize)

theorem Holds.settled {mode : Mode} {s settled : Scratch} {inst : Inst} {ops : List Operand}
    {size : Nat} (h : Holds s inst ops) (hsettle : s.settle mode = .ok (settled, size)) :
    Settled mode ops settled.operands size := by
  have hmemory := h.memory
  unfold Scratch.settle at hsettle
  split at hsettle
  next hnone =>
    cases hsettle
    rw [h.operands]
    rw [Option.isNone_iff_eq_none.mp hnone] at hmemory
    exact .absent (List.filterMap_eq_nil_iff.mp hmemory)
  next hsome =>
    obtain ⟨⟨mem, size⟩, hmem, hsettle⟩ := bind_eq_ok hsettle
    cases hsettle
    rw [if_pos (by rwa [Bool.not_eq_true, Option.isNone_eq_false_iff] at hsome)] at hmemory
    obtain ⟨front, a, back, rfl, hfront, ha, hback⟩ := List.filterMap_eq_cons_iff.mp hmemory
    obtain rfl := Operand.eq_mem ha
    have hoperands : Scratch.operands { s with mem } = front ++ .mem mem :: back := by
      unfold Scratch.operands
      rw [h.args, List.map_append, List.map_append, map_operand_of _ hfront, List.map_cons,
        List.map_cons, map_operand_of _ (List.filterMap_eq_nil_iff.mp hback)]
      rfl
    rw [hoperands]
    exact .present hfront hmem

theorem Settled.sameRegister {mode : Mode} {ops ops' : List Operand} {size : Nat}
    (h : Settled mode ops ops' size) : List.Forall₂ SameRegister ops ops' := by
  have hrefl : ∀ l : List Operand, List.Forall₂ SameRegister l l := fun l =>
    List.forall₂_same.mpr fun _ _ => rfl
  cases h with
  | absent h => exact hrefl _
  | present hfront h => exact List.rel_append (hrefl _) (.cons rfl (hrefl _))

theorem forall₂_resizeHeld {name : String} {operand : Option Nat} {imm : Nat} {slots : List Slot}
    {args args' : List Held} (h : resizeHeld name operand imm slots args = (args', none))
    (s : Scratch) : List.Forall₂ SamePlace (args.map s.operand) (args'.map s.operand) := by
  have hrefl : ∀ l : List Operand, List.Forall₂ SamePlace l l := fun l =>
    List.forall₂_same.mpr fun _ _ => ⟨rfl, rfl⟩
  induction args generalizing slots args' with
  | nil =>
    obtain rfl : [] = args' := by cases slots <;> simpa [resizeHeld] using h
    exact .nil
  | cons x args ih =>
    cases slots with
    | nil =>
      cases h
      exact hrefl _
    | cons slot slots =>
      cases x with
      | memory =>
        obtain ⟨rfl, hrest⟩ := Prod.mk.inj h
        exact .cons ⟨rfl, rfl⟩ (ih (Prod.ext rfl hrest))
      | plain a =>
        rw [resizeHeld] at h
        split at h
        · cases h
        next a' ha =>
          obtain ⟨rfl, hrest⟩ := Prod.mk.inj h
          exact .cons (samePlace_of_resize ha) (ih (Prod.ext rfl hrest))

theorem forall₂_resizeArgs {mode : Mode} {f : Form} {s after : Scratch} {size : Option Nat}
    (h : s.resizeArgs mode f = (after, .ok size)) :
    List.Forall₂ SamePlace s.operands after.operands := by
  unfold Scratch.resizeArgs at h
  split at h
  · cases h
  · split at h
    · cases h
    next hresize =>
      cases h
      exact forall₂_resizeHeld hresize s

structure Matched (c : Matcher) (inst : Inst) (ops settled : List Operand) (m : Match) : Prop where
  mode : m.mode = c.mode
  checked : c.mode = .x86 → ∀ r, (.reg r ∈ ops ∨ ∃ a, .mem a ∈ ops ∧ r ∈ a.registers) →
    Scratch.existsIn32 r = true
  memory : Settled c.mode ops settled m.addrSize
  addrSize : c.mode.hasAddrSize m.addrSize = true
  row : ∃ name, ((⟨name, m.form⟩ : Row), m.row) ∈ inst.rows
  takes : m.form.takes c.mode c.features settled = true
  args : List.Forall₂ SamePlace settled m.args

theorem Holds.existsIn32 {s : Scratch} {inst : Inst} {ops : List Operand} (h : Holds s inst ops)
    (hchecked : s.checkMode .x86 = .ok ()) {r : Register}
    (hr : .reg r ∈ ops ∨ ∃ a, .mem a ∈ ops ∧ r ∈ a.registers) : Scratch.existsIn32 r = true := by
  have hmem : r ∈ s.registers := by
    unfold Scratch.registers
    rw [List.mem_append, h.args]
    rcases hr with hr | ⟨a, ha, hr⟩
    · exact .inl (List.mem_filterMap.mpr ⟨_, List.mem_map.mpr ⟨_, hr, rfl⟩, rfl⟩)
    · have hmemory : a ∈ ops.filterMap (·.mem?) := List.mem_filterMap.mpr ⟨_, ha, rfl⟩
      rw [h.memory] at hmemory
      split at hmemory
      next hsome =>
        rw [List.mem_singleton.mp hmemory] at hr
        rw [if_pos hsome]
        exact .inr hr
      · cases hmemory
  unfold Scratch.checkMode at hchecked
  dsimp only at hchecked
  split at hchecked
  · cases hchecked
  next hnone => simpa using List.find?_eq_none.mp hnone r hmem

theorem Candidate.matched {c : Matcher} {inst : Inst} {ops : List Operand} {s settled : Scratch}
    {addrSize : Nat} {m : Match} (hholds : Holds s inst ops)
    (hprepared : Prepared c s settled addrSize) (hsize : c.mode.hasAddrSize addrSize = true)
    (h : Candidate c settled addrSize m) : Matched c inst ops settled.operands m := by
  obtain ⟨hrow, hfeatures, hmode, hlength, hslots, after, hresize, hm⟩ := h
  rw [inst_of_settle hprepared.settled, hholds.inst] at hrow
  have htakes := Form.takes_iff.mpr ⟨hfeatures, hmode, hlength, hslots⟩
  generalize m.form = form at *
  generalize m.row = row at *
  generalize m.operandSize = size at *
  subst hm
  exact {
    mode := rfl
    checked := fun hx r hr => hholds.existsIn32 (hx ▸ hprepared.checked) hr
    memory := hholds.settled hprepared.settled
    addrSize := hsize
    row := hrow
    takes := htakes
    args := forall₂_resizeArgs hresize }

/-- Whatever is found is a match of the operands. -/
theorem Matcher.Finds.matched {c : Matcher} {inst : Inst} {ops : List Operand} {m : Match}
    (h : c.Finds inst ops m) : OneMem ops ∧ ∃ settled, Matched c inst ops settled m := by
  obtain ⟨s, settled, addrSize, hholds, hprepared, hsize, hcandidate⟩ := h
  exact ⟨hholds.oneMem, settled.operands, hcandidate.matched hholds hprepared hsize⟩

theorem Matched.getElem?_rows {c : Matcher} {inst : Inst} {ops settled : List Operand} {m : Match}
    (h : Matched c inst ops settled m) : ∃ name, rows[m.row]? = some ⟨name, m.form⟩ := by
  obtain ⟨name, hrow⟩ := h.row
  obtain ⟨hle, hget⟩ := List.mk_mem_zipIdx_iff_le_and_getElem?_sub.mp hrow
  rw [List.getElem?_take] at hget
  split at hget
  · rw [List.getElem?_drop, Nat.add_sub_cancel' hle] at hget
    exact ⟨name, hget⟩
  · cases hget

theorem Matched.mem_rows {c : Matcher} {inst : Inst} {ops settled : List Operand} {m : Match}
    (h : Matched c inst ops settled m) : ∃ row ∈ rows, row.form = m.form := by
  obtain ⟨name, hrow⟩ := h.getElem?_rows
  exact ⟨_, List.mem_of_getElem? hrow, rfl⟩

theorem Matched.regular {c : Matcher} {inst : Inst} {ops settled : List Operand} {m : Match}
    (h : Matched c inst ops settled m) : m.form.Regular := by
  obtain ⟨row, hrow, hform⟩ := h.mem_rows
  exact hform ▸ rows_regular row hrow

theorem Matched.length_slots {c : Matcher} {inst : Inst} {ops settled : List Operand} {m : Match}
    (h : Matched c inst ops settled m) : m.form.slots.length = m.args.length := by
  have htakes := h.takes
  simp only [Form.takes, Bool.and_eq_true, beq_iff_eq] at htakes
  exact htakes.1.2.trans h.args.length_eq

/-- The ways in which an encoder makes the code of an instruction: with operands in a list or in one
of the usual orders, by its name, or from a match that was found before. -/
inductive Encodes (e : Encoder) (inst : Inst) : List Operand → Encoded Reloc → Prop
  | inst {b : UInt8} {ops : List Operand} {enc : Encoded Reloc}
    (h : e.encodeInst b inst (ops.map some) = .ok enc) : Encodes e inst ops enc
  | shape {s : Shape} {enc : Encoded Reloc} (h : e.encodeShape inst s = .ok enc) :
    Encodes e inst s.operands enc
  | named {mnemonic name : String} {b : UInt8} {ops : List Operand} {enc : Encoded Reloc}
    (hsplit : Encoder.splitPrefix mnemonic = .ok (b, name)) (hname : Inst.lookup name = some inst)
    (h : e.encode mnemonic (ops.map .operand) = .ok enc) : Encodes e inst ops enc
  | found {c : Matcher} {ops : List Operand} {ms : List Match} {m : Match} {enc : Encoded Reloc}
    (hfound : c.findAll inst (ops.map some) = .ok ms) (hm : m ∈ ms)
    {b : UInt8} (h : e.encodeMatch c.mode (some m) b = .ok enc) : Encodes e inst ops enc

theorem map_operand_inj {ops ops' : List Operand}
    (h : ops.map Given.operand = ops'.map Given.operand) : ops = ops' :=
  List.map_inj_right (fun _ _ => Given.operand.inj) |>.mp h

theorem Encodes.of_inst {e : Encoder} {inst : Inst} {b : UInt8} {ops : List Operand}
    {enc : Encoded Reloc} (h : e.encodeInst b inst (ops.map some) = .ok enc) :
    ∃ m, Matcher.Finds e inst ops m ∧ m.emit b = .ok enc := by
  obtain ⟨m, hm, hemit⟩ := bind_eq_ok h
  exact ⟨m, finds_of_find (mapError_eq_ok hm), hemit⟩

/-- Whatever is encoded was found for its operands. -/
theorem Encodes.exists_match {e : Encoder} {inst : Inst} {ops : List Operand} {enc : Encoded Reloc}
    (h : Encodes e inst ops enc) : ∃ (c : Matcher) (m : Match) (b : UInt8), c.mode = e.mode ∧
      c.Finds inst ops m ∧ m.emit b = .ok enc := by
  cases h with
  | inst h =>
    obtain ⟨m, hm, hemit⟩ := Encodes.of_inst h
    exact ⟨_, m, _, rfl, hm, hemit⟩
  | shape h =>
    obtain ⟨m, hm, hemit⟩ := bind_eq_ok h
    exact ⟨_, m, _, rfl, finds_of_matchFrom (holds_ofShape ..) (mapError_eq_ok hm), hemit⟩
  | @named mnemonic name b ops enc hsplit hname h =>
    unfold Encoder.encode at h
    rw [hsplit, ok_bind] at h
    dsimp only at h
    rw [hname] at h
    dsimp only at h
    split at h
    · cases h
    · split at h
      · cases h
      next args hall =>
        obtain rfl := map_operand_inj (Given.eq_map_of_all hall)
        obtain ⟨m, hm, hemit⟩ := Encodes.of_inst h
        exact ⟨_, m, _, rfl, hm, hemit⟩
  | @found c ops ms m enc hfound hm b h =>
    unfold Encoder.encodeMatch at h
    dsimp only [Option.getD_some] at h
    split at h
    · cases h
    next hmode =>
      obtain ⟨-, h⟩ := eq_ok_of_guard h
      exact ⟨c, m, b, not_not.mp hmode, finds_of_findAll hfound hm, h⟩

theorem Encodes.matched {e : Encoder} {inst : Inst} {ops : List Operand} {enc : Encoded Reloc}
    (h : Encodes e inst ops enc) : OneMem ops ∧ ∃ c settled m b, c.mode = e.mode ∧
      Matched c inst ops settled m ∧ m.emit b = .ok enc := by
  obtain ⟨c, m, b, hmode, hm, hemit⟩ := h.exists_match
  obtain ⟨hone, settled, hmatched⟩ := hm.matched
  exact ⟨hone, c, settled, m, b, hmode, hmatched, hemit⟩

end MachineCode.X86
