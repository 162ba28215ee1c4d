import MachineCode.Proofs.AArch64.Lossless
import MachineCode.Proofs.AArch64.Patterns

/-!
The shapes of vector operands. The architecture tells by the class of an instruction where its word
has the element size of its vectors: nowhere, in a field of its own, or with the lane of an element.
The shapes of all operands are read back from the word, but for a copy of an element into a vector
of elements of another size.
-/
namespace MachineCode.AArch64

/-! ### Shapes in words -/

inductive SizeForm where
  /-- Nowhere, for operations on whole bytes. -/
  | bytes
  /-- Nowhere, for vectors of two double words. -/
  | doubles
  /-- The logarithm of the bytes, at a position. -/
  | field (pos : Nat)
  /-- One bit, for single or double precision. -/
  | precision
  /-- The lowest set bit of five. -/
  | lowest
  deriving DecidableEq

structure VectorForm where
  size? : Option SizeForm := none
  element : Bool := false
  list : Bool := false
  deriving DecidableEq

def vectorForms : List (Pattern VectorForm) :=
  -- Three vectors: logical operations, floating point numbers, integers.
  [⟨0x9f20fc00, 0x0e201c00, { size? := some .bytes }⟩,
    ⟨0x9f20c400, 0x0e20c400, { size? := some .precision }⟩,
    ⟨0x9f200400, 0x0e200400, { size? := some (.field 22) }⟩,
    -- Complements and population counts.
    ⟨0x9ffffc00, 0x0e205800, { size? := some .bytes }⟩,
    -- Copies of an element or a register into all of a vector.
    ⟨0xbfe0fc00, 0x0e000400, { size? := some .lowest, element := true }⟩,
    ⟨0xbfe0fc00, 0x0e000c00, { size? := some .lowest }⟩,
    -- Copies of a register into an element, and of an element into a register.
    ⟨0xffe0fc00, 0x4e001c00, { element := true }⟩,
    ⟨0xbfe0fc00, 0x0e002c00, { element := true }⟩,
    ⟨0xbfe0fc00, 0x0e003c00, { element := true }⟩,
    -- Immediates for bytes and for double words.
    ⟨0xbff8fc00, 0x0f00e400, { size? := some .bytes }⟩,
    ⟨0xfff8fc00, 0x6f00e400, { size? := some .doubles }⟩,
    -- Loads and stores of whole vectors, without and with an offset behind them.
    ⟨0xbfbf0000, 0x0c000000, { size? := some (.field 10), list := true }⟩,
    ⟨0xbfa00000, 0x0c800000, { size? := some (.field 10), list := true }⟩]

def SizeForm.read (w : Word) : SizeForm → Nat
  | bytes => 0
  | doubles => 3
  | field pos => Stretch.read ⟨pos, 2⟩ w
  | precision => 2 + Stretch.read ⟨22, 1⟩ w
  | lowest => elemSize (Stretch.read ⟨16, 5⟩ w)

def arrangement? (w : Word) : Option Arrangement :=
  (classify vectorForms w).bind fun f => f.size?.map fun size =>
    ⟨UInt8.ofNat (2 * size.read w + Stretch.read ⟨30, 1⟩ w)⟩

def element? (w : Word) : Option (Nat × Nat) :=
  (classify vectorForms w).bind fun f =>
    if f.element then
      some (elemSize (Stretch.read ⟨16, 5⟩ w), elemLane (Stretch.read ⟨16, 5⟩ w))
    else none

def countOfOpcode : Nat → Option Nat
  | 0b0111 => some 1
  | 0b1010 => some 2
  | 0b0110 => some 3
  | 0b0010 => some 4
  | _ => none

def listLength? (w : Word) : Option Nat :=
  (classify vectorForms w).bind fun f =>
    if f.list then countOfOpcode (Stretch.read ⟨12, 4⟩ w) else none

/-! ### Templates -/

namespace Template

/-- The word of an arrangement says its element size. -/
def TellsSize (t : Template) (b : Arrangement) : SizeForm → Prop
  | .bytes => b.size = 0
  | .doubles => b.size = 3
  | .field pos => .vecSize pos ∈ t.actions
  | .precision => .vecSz 22 ∈ t.actions ∧ b.size / 2 = 1
  | .lowest => b.size < 4 ∧ (.vecImm5 ∈ t.actions ∨ .elemImm5 5 ∈ t.actions ∨
      elemSize (Stretch.read ⟨16, 5⟩ t.base) = b.size ∧ ∀ s ∈ t.stretches, Stretch.Apart ⟨16, 5⟩ s)

def TellsWidth (t : Template) (b : Arrangement) : Prop :=
  .vecQ 30 ∈ t.actions ∨
    Stretch.read ⟨30, 1⟩ t.base = b.q ∧ ∀ s ∈ t.stretches, Stretch.Apart ⟨30, 1⟩ s

instance (t : Template) (b : Arrangement) (f : SizeForm) : Decidable (t.TellsSize b f) :=
  match f with
  | .bytes | .doubles => inferInstanceAs (Decidable (_ = _))
  | .field _ => inferInstanceAs (Decidable (_ ∈ _))
  | .precision | .lowest => inferInstanceAs (Decidable (_ ∧ _))

instance (t : Template) (b : Arrangement) : Decidable (t.TellsWidth b) :=
  inferInstanceAs (Decidable (_ ∨ _))

end Template

def Slot.isElement : Slot → Bool
  | elem _ => true
  | _ => false

def Slot.isList : Slot → Bool
  | list _ => true
  | _ => false

def Slot.isVector : Slot → Bool
  | vec _ _ => true
  | _ => false

namespace Template

structure OfForm (t : Template) (f : VectorForm) : Prop where
  known : settled t.base (covered t.stretches) vectorForms = some f
  sizes : ∀ s ∈ t.slots, ∀ b ∈ s.arrangements, b.code.toNat < 8 ∧ t.TellsWidth b ∧
    ∃ size ∈ f.size?, t.TellsSize b size
  element : ∀ s ∈ t.slots, s.isElement = true → f.element = true
  list : ∀ s ∈ t.slots, s.isList = true → f.list = true

instance (t : Template) (f : VectorForm) : Decidable (t.OfForm f) :=
  decidable_of_iff (settled t.base (covered t.stretches) vectorForms = some f ∧
    (∀ s ∈ t.slots, ∀ b ∈ s.arrangements, b.code.toNat < 8 ∧ t.TellsWidth b ∧
      ∃ size ∈ f.size?, t.TellsSize b size) ∧
    (∀ s ∈ t.slots, s.isElement = true → f.element = true) ∧
    ∀ s ∈ t.slots, s.isList = true → f.list = true)
    ⟨fun ⟨h1, h2, h3, h4⟩ => ⟨h1, h2, h3, h4⟩, fun ⟨h1, h2, h3, h4⟩ => ⟨h1, h2, h3, h4⟩⟩

/-- The template has operands with a shape. -/
def hasShapes (t : Template) : Bool :=
  t.slots.any fun s => s.isElement || s.isList || s.isVector

end Template

theorem entries_ofForm : ∀ e ∈ entries, e.template.hasShapes = true → e.template.Telling ∧
    ∃ f ∈ settled e.template.base (covered e.template.stretches) vectorForms,
      e.template.OfForm f := by
  decide +kernel

theorem countOfOpcode_eq : ∀ code < 16, 0 < listCount code →
    countOfOpcode code = some (listCount code) := by
  decide

/-! ### Reading back -/

section Reading

variable {t : Template} {args : List Operand} {parts : List Part} {w : Word} {b : Arrangement}

theorem elemSize_one_shiftLeft : ∀ n < 4, elemSize (1 <<< n) = n := by
  decide

theorem read_size (hagree : AgreeOutside (covered t.stretches) t.base w) (hshows : t.Shows w b)
    {size : SizeForm} (h : t.TellsSize b size) : size.read w = b.size := by
  cases size with
  | bytes | doubles => exact Eq.symm h
  | field pos => exact hshows _ h _ rfl
  | precision =>
    obtain ⟨hmem, hhalf⟩ := h
    have hbit : Stretch.read ⟨22, 1⟩ w = b.size % 2 := hshows _ hmem _ rfl
    rw [SizeForm.read, hbit]
    omega
  | lowest =>
    obtain ⟨hlt, hvector | helement | ⟨hfixed, hapart⟩⟩ := h
    · have himm5 : Stretch.read ⟨16, 5⟩ w = 1 <<< b.size := hshows _ hvector _ rfl
      rw [SizeForm.read, himm5, elemSize_one_shiftLeft _ hlt]
    · exact hshows _ helement _ rfl
    · rw [SizeForm.read, hagree.read_eq hapart, hfixed]

theorem read_width (hagree : AgreeOutside (covered t.stretches) t.base w) (hshows : t.Shows w b)
    (h : t.TellsWidth b) : Stretch.read ⟨30, 1⟩ w = b.q := by
  rcases h with hmem | ⟨hfixed, hapart⟩
  · exact hshows _ hmem _ rfl
  · rw [hagree.read_eq hapart, hfixed]

theorem arrangement?_of_shows {f : VectorForm} (hform : t.OfForm f)
    (hagree : AgreeOutside (covered t.stretches) t.base w) (hshows : t.Shows w b) {s : Slot}
    (hs : s ∈ t.slots) (hb : b ∈ s.arrangements) : arrangement? w = some b := by
  obtain ⟨hcode, hwidth, size, hsize, htells⟩ := hform.sizes s hs b hb
  have hsum : 2 * b.size + b.q = b.code.toNat := Nat.div_add_mod _ _
  unfold arrangement?
  rw [classify_of_settled hagree hform.known, Option.bind_some, Option.mem_def.mp hsize,
    Option.map_some, read_size hagree hshows htells, read_width hagree hshows hwidth, hsum,
    UInt8.ofNat_toNat]

/-- The action that consumes an element, or a list, is the one that puts it into the word. -/
theorem action_of_consumed {a : Action} {ks : List Kind} {ps : List Part} {p : Part}
    (hk : List.Forall₂ Kind.Holds ks ps) (hs : a.suits ks = true) (hp : p ∈ ps.take a.consumed)
    (hshape : (∃ r size lane, p = .elem r size lane) ∨ ∃ r arr count, p = .list r arr count) :
    ((∃ pos, a = .elemImm5 pos) ∨ ∃ pos, a = .list pos) ∧ ∃ ps', ps = p :: ps' := by
  cases hk with
  | nil => cases a <;> cases hs
  | @cons k q ks ps hq hrest =>
    cases a with
    | peek _ | vecQ _ | vecSize _ | vecSz _ | vecImm5 => cases hp
    | elemImm5 pos =>
      cases List.mem_singleton.mp hp
      exact ⟨Or.inl ⟨pos, rfl⟩, ps, rfl⟩
    | list pos =>
      cases List.mem_singleton.mp hp
      exact ⟨Or.inr ⟨pos, rfl⟩, ps, rfl⟩
    | addImm | wide _ | extract _ | insert _ | memIndex _ =>
      rcases paired_of_suits (.cons hq hrest) hs rfl hp with
        ⟨v, rfl⟩ | ⟨m, rfl⟩ | rfl | ⟨r, rest, scale, rfl, -⟩ <;>
        rcases hshape with ⟨_, _, _, h⟩ | ⟨_, _, _, h⟩ <;> cases h
    | _ =>
      cases List.mem_singleton.mp hp
      rcases hshape with ⟨r, size, lane, rfl⟩ | ⟨r, arr, count, rfl⟩ <;> cases hq <;> cases hs

end Reading

/-- A word that was filled from a template of a class: it keeps the fixed bits, and it says what the
parts of the operands mean. -/
structure Filled (t : Template) (f : VectorForm) (args : List Operand) (parts : List Part)
    (w : Word) : Prop where
  form : t.OfForm f
  sound : t.Sound
  seated : Seated t.slots args parts
  agrees : AgreeOutside (covered t.stretches) t.base w
  told : ∀ x ∈ seen parts t.actions, x.1.meant x.2 = some (x.1.tells w)

namespace Filled

variable {t : Template} {f : VectorForm} {args : List Operand} {parts : List Part} {w : Word}

/-- An element or a list is told by the action that consumes it. -/
theorem told_of_shape (h : Filled t f args parts w) {p : Part} (hp : p ∈ parts)
    (hshape : (∃ r size lane, p = .elem r size lane) ∨ ∃ r arr count, p = .list r arr count) :
    ∃ (a : Action) (ps : List Part), ((∃ pos, a = .elemImm5 pos) ∨ ∃ pos, a = .list pos) ∧
      a.meant (p :: ps) = some (a.tells w) := by
  obtain ⟨⟨a, ps⟩, hx, hpx⟩ := exists_seen (h.sound.length_le h.seated) hp
  obtain ⟨ks, hks, hholds⟩ := exists_kinds h.seated.holds hx
  obtain ⟨ha, ps', rfl⟩ := action_of_consumed hholds (h.sound.suited _ hks) hpx hshape
  exact ⟨a, ps', ha, h.told _ hx⟩

theorem element?_eq (h : Filled t f args parts w) {r : Register} {size : ElemSize} {lane : UInt8}
    (ha : .elem r size lane ∈ args) : element? w = some (size.code.toNat, lane.toNat) := by
  obtain ⟨s, hsa⟩ := h.seated.exists_slot ha
  obtain ⟨htakes, -, hparts⟩ := h.seated.zip hsa
  have helement : s.isElement = true := by
    cases s with
    | elem _ => rfl
    | _ => cases htakes
  obtain ⟨a, ps, ⟨pos, rfl⟩ | ⟨pos, rfl⟩, hmeant⟩ :=
    h.told_of_shape (hparts _ (List.mem_singleton_self (Part.elem r size lane)))
      (Or.inl ⟨r, size, lane, rfl⟩)
  · obtain ⟨-, hsize, hlane⟩ := Reading.element.inj (Option.some.inj hmeant)
    unfold element?
    rw [classify_of_settled h.agrees h.form.known, Option.bind_some,
      if_pos (h.form.element _ (List.of_mem_zip hsa).1 helement), ← hsize, ← hlane]
  · cases hmeant

theorem listLength?_eq (h : Filled t f args parts w) {vs : List Vec} (ha : .list vs ∈ args) :
    listLength? w = some vs.length := by
  obtain ⟨s, hsa⟩ := h.seated.exists_slot ha
  obtain ⟨htakes, -, hparts⟩ := h.seated.zip hsa
  have hlist : s.isList = true := by
    cases s with
    | list _ => rfl
    | _ => cases htakes
  cases vs with
  | nil => cases s <;> cases htakes
  | cons v vs =>
    obtain ⟨a, ps, ⟨pos, rfl⟩ | ⟨pos, rfl⟩, hmeant⟩ := h.told_of_shape
      (hparts _ (List.mem_singleton_self (Part.list v.reg v.arr (v :: vs).length)))
      (Or.inr ⟨_, _, _, rfl⟩)
    · cases hmeant
    · have hcount : (v :: vs).length = listCount (Stretch.read ⟨12, 4⟩ w) :=
        (Reading.registers.inj (Option.some.inj hmeant)).2
      have hpos : 0 < listCount (Stretch.read ⟨12, 4⟩ w) := hcount ▸ Nat.succ_pos _
      unfold listLength?
      rw [classify_of_settled h.agrees h.form.known, Option.bind_some,
        if_pos (h.form.list _ (List.of_mem_zip hsa).1 hlist),
        countOfOpcode_eq _ (Stretch.read_lt ⟨12, 4⟩ w) hpos, hcount]

theorem arrangement?_eq (h : Filled t f args parts w) {common : Arrangement}
    (hcommon : ∀ a ∈ args, ∀ arr ∈ a.arrangements, arr = common)
    (hsize : ∀ r size lane, .elem r size lane ∈ args → common.size = size.code.toNat)
    {a : Operand} (ha : a ∈ args) (hmem : common ∈ a.arrangements) :
    arrangement? w = some common := by
  obtain ⟨s, hsa⟩ := h.seated.exists_slot ha
  exact arrangement?_of_shows h.form h.agrees (shows_common h.seated hcommon hsize h.told)
    (List.of_mem_zip hsa).1 (arrangements_of_takes (h.seated.zip hsa).1 hmem)

end Filled

def Operand.hasShape : Operand → Bool
  | vec _ | elem _ _ _ | list _ => true
  | _ => false

theorem Operand.hasShape_of_mem {a : Operand} {arr : Arrangement} (h : arr ∈ a.arrangements) :
    a.hasShape = true := by
  cases a with
  | vec _ | list _ => rfl
  | _ => cases h

theorem hasShapes_of_takes {t : Template} {s : Slot} {a : Operand} (hs : s ∈ t.slots)
    (h : s.takes a = true) (hshape : a.hasShape = true) : t.hasShapes = true := by
  refine List.any_eq_true.mpr ⟨s, hs, ?_⟩
  cases a with
  | vec _ | elem _ _ _ | list _ =>
    cases s with
    | vec _ _ | elem _ | list _ => rfl
    | _ => cases h
  | _ => cases hshape

/-- An instruction with a vector, a list or an element is a word of a class, filled from its
template, and its vectors have one arrangement. -/
theorem filled_of_hasShape {mnemonic : String} {given : List (Given Operand)} {e : Encoded Reloc}
    (h : encode mnemonic given = .ok e) : ∃ t args parts w,
    Chosen mnemonic given t args ∧ e.code = Bytes.ofWord w ∧
      ∀ a ∈ args, a.hasShape = true → (∃ f, Filled t f args parts w) ∧
        ∃ common, ∀ a ∈ args, ∀ arr ∈ a.arrangements, arr = common := by
  obtain ⟨t, args, parts, s', nss, hchosen, haccepts, hseated, hsound, hran, rfl⟩ :=
    filled_of_encode h
  obtain ⟨entry, hentry, rfl, -⟩ := hchosen.exists_entry
  have hagree : AgreeOutside (covered entry.template.stretches) entry.template.base s'.word := by
    rw [hran.word, Template.stretches, ← Ran.map_fieldsOf hran.tells]
    exact agreeOutside_of_laid entry.template.base (Ran.laid hsound hran.tells)
  refine ⟨entry.template, args, parts, s'.word, hchosen, rfl, fun a ha hshape => ?_⟩
  obtain ⟨s, hsa⟩ := hseated.exists_slot ha
  obtain ⟨htelling, f, -, hform⟩ := entries_ofForm entry hentry
    (hasShapes_of_takes (List.of_mem_zip hsa).1 (hseated.zip hsa).1 hshape)
  exact ⟨⟨f, hform, hsound, hseated, hagree, told_of_ran hsound htelling hran⟩,
    exists_arrangement htelling.uniform haccepts⟩

/-- The shapes of the operands are read from the word of an instruction: the sizes and lanes of
elements, the lengths of lists, and the one arrangement of the vectors, unless an element stands
beside a vector of elements of another size. -/
theorem shapes_read_back {mnemonic : String} {given : List (Given Operand)} {e : Encoded Reloc}
    (h : encode mnemonic given = .ok e) :
    ∃ w, e.code = Bytes.ofWord w ∧
      (∀ r size lane, .operand (.elem r size lane) ∈ given →
        element? w = some (size.code.toNat, lane.toNat)) ∧
      (∀ vs, .operand (.list vs) ∈ given → listLength? w = some vs.length) ∧
      (∀ a b, .operand a ∈ given → .operand b ∈ given →
        ∀ arr ∈ a.arrangements, ∀ arr' ∈ b.arrangements, arr = arr') ∧
      (SizesAgree given → ∀ a, .operand a ∈ given → ∀ arr ∈ a.arrangements,
        arrangement? w = some arr) := by
  obtain ⟨t, args, parts, w, hchosen, hcode, hfilled⟩ := filled_of_hasShape h
  refine ⟨w, hcode, ?_, ?_, ?_, ?_⟩
  · intro r size lane ha
    obtain ⟨⟨f, hf⟩, -⟩ := hfilled _ (hchosen.mem_args ha) rfl
    exact hf.element?_eq (hchosen.mem_args ha)
  · intro vs ha
    obtain ⟨⟨f, hf⟩, -⟩ := hfilled _ (hchosen.mem_args ha) rfl
    exact hf.listLength?_eq (hchosen.mem_args ha)
  · intro a b ha hb arr harr arr' harr'
    obtain ⟨-, common, hcommon⟩ :=
      hfilled a (hchosen.mem_args ha) (Operand.hasShape_of_mem harr)
    rw [hcommon a (hchosen.mem_args ha) arr harr, hcommon b (hchosen.mem_args hb) arr' harr']
  · intro hsizes a ha arr harr
    obtain ⟨⟨f, hf⟩, common, hcommon⟩ :=
      hfilled a (hchosen.mem_args ha) (Operand.hasShape_of_mem harr)
    cases hcommon a (hchosen.mem_args ha) arr harr
    refine hf.arrangement?_eq hcommon (fun r size lane he => ?_) (hchosen.mem_args ha) harr
    -- An operand that the mnemonic carries is no element.
    rcases hchosen.mem he with he | ⟨c, hc⟩
    · exact hsizes a r size lane ha he arr harr
    · cases hc

/-- The second byte of a vector for all of another. -/
theorem shapes_read_back_copied :
    encode "dup" [.operand (.vec ⟨.of Family.v 0, .b16⟩), .operand (.elem (.of Family.v 1) .b 1)] =
        .ok ⟨Bytes.ofWord 0x4e030420#32, []⟩ ∧
      ∃ w, Bytes.ofWord 0x4e030420#32 = Bytes.ofWord w ∧ element? w = some (0, 1) ∧
        arrangement? w = some .b16 := by
  have hok : encode "dup" [.operand (.vec ⟨.of Family.v 0, .b16⟩),
      .operand (.elem (.of Family.v 1) .b 1)] = .ok ⟨Bytes.ofWord 0x4e030420#32, []⟩ := by
    decide +kernel
  obtain ⟨w, hw, helement, -, -, harrangement⟩ := shapes_read_back hok
  exact ⟨hok, w, hw, helement _ _ _ (List.mem_cons_of_mem _ List.mem_cons_self),
    harrangement (sizesAgree_pair (by decide)) _ List.mem_cons_self _ (List.mem_singleton_self _)⟩

/-- The word of half words into which a byte is copied is that of bytes. -/
theorem counterexample_copied_shape :
    encode "dup" [.operand (.vec ⟨.of Family.v 0, .h4⟩), .operand (.elem (.of Family.v 1) .b 1)] =
        .ok ⟨Bytes.ofWord 0x0e030420#32, []⟩ ∧
      arrangement? 0x0e030420#32 = some .b8 ∧ Arrangement.b8 ≠ .h4 :=
  ⟨by decide +kernel, by decide, by decide⟩

end MachineCode.AArch64
