import MachineCode.X86.Inst

/-!
The instructions that names stand for. Number, count and first form are packed into one word
without loss, so the rows of an instruction are the forms of one family in their order.
-/
namespace MachineCode.X86

def Family.rows (f : Family) : List Row := f.forms.map (Row.mk f.name)

theorem Family.length_rows (f : Family) : f.rows.length = f.forms.length := List.length_map _

theorem rows_eq_flatMap : rows = families.flatMap (·.rows) := rfl

/-- What is true of all forms of all families is true of the rows of the table. -/
theorem form_of_mem_rows {p : Form → Prop} (h : ∀ f ∈ families, ∀ g ∈ f.forms, p g) {row : Row}
    (hrow : row ∈ rows) : p row.form := by
  rw [rows_eq_flatMap] at hrow
  obtain ⟨f, hf, hrow⟩ := List.mem_flatMap.mp hrow
  obtain ⟨g, hg, rfl⟩ := List.mem_map.mp hrow
  exact h f hf g hg

namespace Form

def outline (f : Form) : Form := ⟨f.opcode.map fun _ => 0, f.flags, [], none, f.slots⟩

/-- A check of the outline of a form. The outline is written out, so that forms which share it come
to the same closed term, and the kernel evaluates it once for all of them. -/
def checkOutline (check : Form → Bool) : Form → Bool
  | ⟨[], flags, _, _, slots⟩ => check ⟨[], flags, [], none, slots⟩
  | ⟨[_], flags, _, _, slots⟩ => check ⟨[0], flags, [], none, slots⟩
  | ⟨[_, _], flags, _, _, slots⟩ => check ⟨[0, 0], flags, [], none, slots⟩
  | ⟨[_, _, _], flags, _, _, slots⟩ => check ⟨[0, 0, 0], flags, [], none, slots⟩
  | f => check f.outline

theorem checkOutline_eq (check : Form → Bool) (f : Form) :
    f.checkOutline check = check f.outline := by
  unfold checkOutline
  split <;> rfl

end Form

/-- What is true of the outlines of all forms is true of those of the rows. -/
theorem outline_of_mem_rows {p : Form → Prop} [DecidablePred p]
    (h : ∀ f ∈ families, ∀ g ∈ f.forms, g.checkOutline (fun x => decide (p x)) = true) {row : Row}
    (hrow : row ∈ rows) : p row.form.outline := by
  have hcheck := form_of_mem_rows h hrow
  rwa [Form.checkOutline_eq, decide_eq_true_eq] at hcheck

namespace Inst

section Pack

variable {id count first : Nat}

theorem toNat_pack (hid : id < 0x800) (hcount : count < 32) (hfirst : first < 0x2000) :
    (pack id count first).word.toNat = id * 0x200000 + count * 0x10000 + first := by
  unfold pack
  rw [BitVec.toNat_ofNat, Nat.shiftLeft_eq, Nat.shiftLeft_eq, Nat.mod_eq_of_lt (by omega)]

theorem id_pack (hid : id < 0x800) (hcount : count < 32) (hfirst : first < 0x2000) :
    (pack id count first).id = id := by
  unfold Inst.id
  rw [toNat_pack hid hcount hfirst, Nat.shiftRight_eq_div_pow]
  omega

theorem count_pack (hid : id < 0x800) (hcount : count < 32) (hfirst : first < 0x2000) :
    (pack id count first).count = count := by
  unfold Inst.count
  rw [toNat_pack hid hcount hfirst, Nat.shiftRight_eq_div_pow]
  omega

theorem first_pack (hid : id < 0x800) (hcount : count < 32) (hfirst : first < 0x2000) :
    (pack id count first).first = first := by
  unfold Inst.first
  rw [toNat_pack hid hcount hfirst]
  omega

end Pack

theorem find?_eq_some {name : String} {id first : Nat} {fs : List Family} {inst : Inst}
    (h : find? name id first fs = some inst) :
    ∃ (front : List Family) (f : Family) (back : List Family), fs = front ++ f :: back ∧
      inst = pack (id + front.length) f.forms.length
        (first + (front.flatMap (·.rows)).length) := by
  induction fs generalizing id first with
  | nil => cases h
  | cons f fs ih =>
    rw [find?] at h
    split at h
    · exact ⟨[], f, fs, rfl, (Option.some.inj h).symm⟩
    · obtain ⟨front, g, back, rfl, rfl⟩ := ih h
      refine ⟨f :: front, g, back, rfl, ?_⟩
      rw [List.length_cons, List.flatMap_cons, List.length_append, f.length_rows, Nat.add_assoc,
        Nat.add_comm 1, Nat.add_assoc]

end Inst

theorem length_families : families.length < 0x7ff := by decide +kernel

theorem length_forms : ∀ f ∈ families, f.forms.length < 32 := by decide +kernel

theorem length_rows : rows.length < 0x2000 := by decide +kernel

/-- The instruction of a name has the number, the count and the first form of one family. -/
theorem Inst.lookup_eq_some {name : String} {inst : Inst} (h : Inst.lookup name = some inst) :
    ∃ (front : List Family) (f : Family) (back : List Family),
      families = front ++ f :: back ∧ inst.id = 1 + front.length ∧
      inst.count = f.forms.length ∧ inst.first = (front.flatMap (·.rows)).length := by
  unfold Inst.lookup at h
  split at h
  · cases h
  · obtain ⟨front, f, back, hfamilies, hinst⟩ := Inst.find?_eq_some h
    have hcount := length_forms f (hfamilies ▸ List.mem_append_right _ List.mem_cons_self)
    have hid : 1 + front.length < 0x800 := by
      have hlength := length_families
      rw [hfamilies, List.length_append] at hlength
      omega
    have hfirst : (front.flatMap (·.rows)).length < 0x2000 := by
      have hlength := length_rows
      rw [rows_eq_flatMap, hfamilies, List.flatMap_append, List.length_append] at hlength
      omega
    rw [Nat.zero_add] at hinst
    exact ⟨front, f, back, hfamilies, hinst ▸ Inst.id_pack hid hcount hfirst,
      hinst ▸ Inst.count_pack hid hcount hfirst, hinst ▸ Inst.first_pack hid hcount hfirst⟩

theorem Inst.range_of_lookup {name : String} {inst : Inst} (h : Inst.lookup name = some inst) :
    inst.first + inst.count ≤ X86.rows.length := by
  obtain ⟨front, f, back, hfamilies, -, hcount, hfirst⟩ := Inst.lookup_eq_some h
  rw [rows_eq_flatMap, hfamilies, List.flatMap_append, List.flatMap_cons, List.length_append,
    List.length_append, f.length_rows, hfirst, hcount]
  omega

theorem exists_family {name : String} {inst : Inst} (h : Inst.lookup name = some inst) :
    ∃ f ∈ families, inst.name = f.name ∧ inst.rows = f.rows.zipIdx inst.first := by
  obtain ⟨front, f, back, hfamilies, hid, hcount, hfirst⟩ := Inst.lookup_eq_some h
  refine ⟨f, hfamilies ▸ List.mem_append_right _ List.mem_cons_self, ?_, ?_⟩
  · have hget : families[front.length]? = some f := by
      rw [hfamilies]
      simp
    unfold Inst.name
    rw [hid, Nat.add_comm]
    dsimp only
    rw [hget]
    rfl
  · unfold Inst.rows
    rw [hcount, hfirst, rows_eq_flatMap, hfamilies, List.flatMap_append, List.flatMap_cons,
      List.drop_left, ← f.length_rows, List.take_left]

end MachineCode.X86
