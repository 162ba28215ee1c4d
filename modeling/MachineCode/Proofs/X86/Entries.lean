import MachineCode.Proofs.X86.Matches
import MachineCode.X86.Entry

/-!
The entries of the instruction table agree with its rows. Every entry tells the mnemonic of its row,
its place, the length of its opcode, its digit and its operands; and every row keeps the bounds that
an encoder does not check.
-/
namespace MachineCode.X86

structure Numbered where
  id : Nat
  place : Nat
  row : Row

def Family.numbered (f : Family) (id : Nat) : List Numbered :=
  f.forms.zipIdx.map fun (form, place) => ⟨id, place, ⟨f.name, form⟩⟩

def numbered : List Numbered := (families.zipIdx 1).flatMap fun (f, id) => f.numbered id

structure Entry.Describes (e : Entry) (x : Numbered) : Prop where
  id : e.id = x.id
  place : e.place = x.place
  opcode : e.opcodeLength = x.row.form.opcode.length
  digit : e.digit = x.row.form.digit
  slots : patterns[e.pattern]? = some x.row.form.slots

structure Form.Bounded (f : Form) : Prop where
  opcode : f.opcode.length ≤ 4
  slots : f.slots.length ≤ 4
  immOp : f.has .immOp = true → f.opcode ≠ []
  short : f.has .shortArg = true → f.code ≠ []
  memory : f.placed.countP (·.kind.takesMem) ≤ 1
  special : f.placed.countP (·.kind.isSpecial) ≤ 1
  last : .last ∈ f.places → ∀ s ∈ f.slots, s.kind.isTrailing = false

instance (e : Entry) (x : Numbered) : Decidable (e.Describes x) :=
  decidable_of_iff (e.id = x.id ∧ e.place = x.place ∧ e.opcodeLength = x.row.form.opcode.length ∧
    e.digit = x.row.form.digit ∧ patterns[e.pattern]? = some x.row.form.slots)
    ⟨fun ⟨h1, h2, h3, h4, h5⟩ => ⟨h1, h2, h3, h4, h5⟩,
      fun ⟨h1, h2, h3, h4, h5⟩ => ⟨h1, h2, h3, h4, h5⟩⟩

instance (f : Form) : Decidable f.Bounded :=
  decidable_of_iff (f.opcode.length ≤ 4 ∧ f.slots.length ≤ 4 ∧
    (f.has .immOp = true → f.opcode ≠ []) ∧ (f.has .shortArg = true → f.code ≠ []) ∧
    f.placed.countP (·.kind.takesMem) ≤ 1 ∧ f.placed.countP (·.kind.isSpecial) ≤ 1 ∧
    (.last ∈ f.places → ∀ s ∈ f.slots, s.kind.isTrailing = false))
    ⟨fun ⟨h1, h2, h3, h4, h5, h6, h7⟩ => ⟨h1, h2, h3, h4, h5, h6, h7⟩,
      fun ⟨h1, h2, h3, h4, h5, h6, h7⟩ => ⟨h1, h2, h3, h4, h5, h6, h7⟩⟩

theorem Form.Bounded.of_outline {f : Form} (h : f.outline.Bounded) : f.Bounded where
  opcode := by simpa [outline] using h.opcode
  slots := h.slots
  immOp himm := by simpa [outline] using h.immOp himm
  short hshort := by simpa [code_outline] using h.short hshort
  memory := h.memory
  special := h.special
  last := h.last

theorem entries_describe : entries.length = numbered.length ∧
    ∀ x ∈ entries.zip numbered, x.1.Describes x.2 := by
  decide +kernel

theorem rows_bounded : ∀ row ∈ rows, row.form.Bounded := fun _ hrow =>
  .of_outline (outline_of_mem_rows (by decide +kernel) hrow)

/-- The names of mnemonics stand in the text of all names, one behind the other. -/
theorem names_described : nameStarts.length = families.length ∧
    ∀ x ∈ (nameStarts.zip (nameStarts.tail ++ [namesLength])).zip families,
      x.1.1 + x.2.name.utf8ByteSize = x.1.2 ∧ x.1.2 ≤ namesLength := by
  decide +kernel

theorem Family.map_numbered (f : Family) (id : Nat) : (f.numbered id).map (·.row) = f.rows := by
  unfold numbered Family.rows
  rw [List.map_map]
  conv_rhs => rw [← List.zipIdx_map_fst 0 f.forms, List.map_map]
  rfl

theorem map_numbered (fs : List Family) (n : Nat) :
    ((fs.zipIdx n).flatMap fun (f, id) => f.numbered id).map (·.row) = fs.flatMap (·.rows) := by
  induction fs generalizing n with
  | nil => rfl
  | cons f fs ih =>
    rw [List.zipIdx_cons, List.flatMap_cons, List.flatMap_cons, List.map_append, ih,
      f.map_numbered]

theorem rows_eq_map : rows = numbered.map (·.row) := (map_numbered families 1).symm

theorem exists_entry {i : Nat} {x : Numbered} (h : numbered[i]? = some x) :
    ∃ e, entries[i]? = some e ∧ e.Describes x := by
  obtain ⟨hlt, -⟩ := List.getElem?_eq_some_iff.mp h
  rw [← entries_describe.1] at hlt
  have he : entries[i]? = some entries[i] := List.getElem?_eq_getElem hlt
  exact ⟨_, he, entries_describe.2 (_, x)
    (List.mem_of_getElem? (List.getElem?_zip_eq_some.mpr ⟨he, h⟩))⟩

theorem exists_numbered {i : Nat} {row : Row} (h : rows[i]? = some row) :
    ∃ x, numbered[i]? = some x ∧ x.row = row := by
  rw [rows_eq_map, List.getElem?_map] at h
  exact Option.map_eq_some_iff.mp h

theorem name_of_numbered {x : Numbered} (h : x ∈ numbered) :
    0 < x.id ∧ ∃ f, families[x.id - 1]? = some f ∧ f.name = x.row.name := by
  obtain ⟨⟨f, id⟩, hf, hx⟩ := List.mem_flatMap.mp h
  obtain ⟨⟨form, place⟩, -, rfl⟩ := List.mem_map.mp hx
  obtain ⟨hle, hget⟩ := List.mk_mem_zipIdx_iff_le_and_getElem?_sub.mp hf
  exact ⟨hle, f, hget, rfl⟩

theorem Inst.numbered_of_lookup {name : String} {inst : Inst} (h : Inst.lookup name = some inst)
    {k : Nat} (hk : k < inst.count) :
    ∃ row, numbered[inst.first + k]? = some ⟨inst.id, k, row⟩ := by
  obtain ⟨front, f, back, hfamilies, hid, hcount, hfirst⟩ := Inst.lookup_eq_some h
  rw [hcount] at hk
  have hlength : inst.first =
      ((front.zipIdx 1).flatMap fun (f, id) => f.numbered id).length := by
    rw [hfirst, ← map_numbered front 1, List.length_map]
  refine ⟨⟨f.name, f.forms[k]⟩, ?_⟩
  unfold numbered
  rw [hfamilies, List.zipIdx_append, List.zipIdx_cons, List.flatMap_append, List.flatMap_cons,
    hlength, List.getElem?_append_right (Nat.le_add_right ..), Nat.add_sub_cancel_left,
    List.getElem?_append_left (by simpa [Family.numbered] using hk), hid]
  unfold Family.numbered
  rw [List.getElem?_map, List.getElem?_zipIdx, List.getElem?_eq_getElem hk]
  simp [Nat.add_comm]

section Matched

variable {c : Matcher} {inst : Inst} {ops settled : List Operand} {m : Match}

theorem Matched.bounded (h : Matched c inst ops settled m) : m.form.Bounded := by
  obtain ⟨row, hrow, hform⟩ := h.mem_rows
  exact hform ▸ rows_bounded row hrow

theorem Matched.length_args_le (h : Matched c inst ops settled m) : m.args.length ≤ 4 :=
  h.length_slots ▸ h.bounded.slots

theorem Matched.length_trailing_le (h : Matched c inst ops settled m) : m.trailing.length ≤ 4 := by
  unfold Match.trailing Match.slots
  rw [List.length_map]
  refine Nat.le_trans (List.length_filter_le ..) (Nat.le_trans ?_ h.length_args_le)
  rw [List.length_zip]
  exact Nat.min_le_right ..

end Matched

end MachineCode.X86
