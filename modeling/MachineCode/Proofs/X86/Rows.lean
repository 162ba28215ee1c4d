import MachineCode.Proofs.X86.Decoding
import MachineCode.Proofs.X86.Families

/-!
The rows of the instruction table as the processor needs them: every operand has a place of its
own, memory is where a ModRM byte has it, and an opcode can be told from prefixes and from what
follows it.
-/
namespace MachineCode.X86

namespace Form

def placed (f : Form) : List Slot :=
  f.slots.filter fun s => !s.kind.isImplied && !s.kind.isTrailing

def places (f : Form) : List Role :=
  roles f.placed.length (f.placed.findIdx? (·.kind.takesMem))
    (f.placed.findIdx? (·.kind.isSpecial)) f

def code (f : Form) : Bytes := if f.has .immOp then f.opcode.dropLast else f.opcode

theorem code_outline (f : Form) : f.outline.code = f.code.map fun _ => 0 := by
  unfold code
  rw [show f.outline.has .immOp = f.has .immOp from rfl]
  split
  · exact List.map_dropLast.symm
  · rfl

def codeWith (f : Form) (n : UInt8) : Bytes :=
  if f.has .shortArg then f.code.dropLast ++ [f.code.getLastD 0 + n] else f.code

def needsMem (f : Form) : Bool := f.placed.any (·.kind == .mem)

def sizes (f : Form) : Bool :=
  f.has .autoSize || f.has .autoNo32 || f.has .autoRexW || f.has .autoVexL

/-- Whether something other than the opcode and the numbers behind it stands for operands. -/
def varies (f : Form) : Bool := !f.placed.isEmpty || f.sizes

/-- Whether bytes in front of a ModRM byte are read as the opcode that they are. -/
def legible (f : Form) : Bytes → Bool
  | [] => false
  | first :: rest =>
    !isLegacyPrefix first && first != 0x9b && (first / 16 != 4 || f.has .x86Only) &&
      match rest with
      | [] =>
        first != 0x0f && (first.toNat / 8 != 27 || f.needsMem) &&
          (if first == 0xc4 || first == 0xc5 then f.has .x86Only && f.needsMem
            else first != 0x8f || (f.digit == some 0 && f.places == [.rm] && !f.has .shortArg))
      | [second] =>
        if first == 0x0f then second != 0x38 && second != 0x3a
        else first.toNat / 8 == 27 && 0xc0 ≤ second
      | [second, _] => first == 0x0f && (second == 0x38 || second == 0x3a)
      | _ => false

def gathers (f : Form) : Bool :=
  f.has .vex && (f.code.headD 0).toNat % 32 == 2 && f.code.tail.any fun b => 0x90 ≤ b && b ≤ 0x93

structure Regular (f : Form) : Prop where
  length : f.places.length = f.placed.length
  nodup : f.places.Nodup
  memory : ∀ x ∈ f.placed.zip f.places, x.1.kind.takesMem = true →
    x.2 = .rm ∧ f.has .pref67 = false ∧ f.has .shortArg = false ∧ x.1.kind.isVsib = f.gathers
  last : .last ∈ f.places → f.has .immOp = false
  plain : f.isVector = false → ∀ r ∈ f.places, r = .rm ∨ r = .reg
  vector : f.isVector = true → f.code.length = 2 ∧
    (f.has .vex = false → 8 ≤ (f.code.headD 0).toNat % 32) ∧ f.has .shortArg = false
  short : f.has .shortArg = true → f.places = [.rm] ∧ (f.code.getLastD 0).toNat % 8 = 0
  wait : f.code.headD 0 = 0x9b → f.has .shortArg = false ∧ ∀ s ∈ f.placed, s.kind = .mem
  legible : f.isVector = false → f.varies = true →
    ∀ n ∈ if f.has .shortArg then List.range 8 else [0],
      f.legible (if f.code.headD 0 = 0x9b then f.code.tail else f.codeWith (UInt8.ofNat n)) = true

structure Arranged (f : Form) : Prop where
  length : f.places.length = f.placed.length
  nodup : f.places.Nodup
  memory : ∀ x ∈ f.placed.zip f.places, x.1.kind.takesMem = true →
    x.2 = .rm ∧ f.has .pref67 = false ∧ f.has .shortArg = false
  last : .last ∈ f.places → f.has .immOp = false
  plain : f.isVector = false → ∀ r ∈ f.places, r = .rm ∨ r = .reg
  short : f.has .shortArg = true → f.places = [.rm]

structure Readable (f : Form) : Prop where
  gathers : ∀ s ∈ f.placed, s.kind.takesMem = true → s.kind.isVsib = f.gathers
  vector : f.isVector = true → f.code.length = 2 ∧
    (f.has .vex = false → 8 ≤ (f.code.headD 0).toNat % 32) ∧ f.has .shortArg = false
  short : f.has .shortArg = true → (f.code.getLastD 0).toNat % 8 = 0
  wait : f.code.headD 0 = 0x9b → f.has .shortArg = false ∧ ∀ s ∈ f.placed, s.kind = .mem
  legible : f.isVector = false → f.varies = true →
    ∀ n ∈ if f.has .shortArg then List.range 8 else [0],
      f.legible (if f.code.headD 0 = 0x9b then f.code.tail else f.codeWith (UInt8.ofNat n)) = true

instance (f : Form) : Decidable f.Arranged :=
  decidable_of_iff (_ ∧ _ ∧ _ ∧ _ ∧ _ ∧ _)
    ⟨fun ⟨h1, h2, h3, h4, h5, h6⟩ => ⟨h1, h2, h3, h4, h5, h6⟩,
      fun ⟨h1, h2, h3, h4, h5, h6⟩ => ⟨h1, h2, h3, h4, h5, h6⟩⟩

instance (f : Form) : Decidable f.Readable :=
  decidable_of_iff (_ ∧ _ ∧ _ ∧ _ ∧ _)
    ⟨fun ⟨h1, h2, h3, h4, h5⟩ => ⟨h1, h2, h3, h4, h5⟩,
      fun ⟨h1, h2, h3, h4, h5⟩ => ⟨h1, h2, h3, h4, h5⟩⟩

theorem Arranged.of_outline {f : Form} (h : f.outline.Arranged) : f.Arranged :=
  ⟨h.length, h.nodup, h.memory, h.last, h.plain, h.short⟩

theorem Arranged.regular {f : Form} (h : f.Arranged) (hread : f.Readable) : f.Regular where
  length := h.length
  nodup := h.nodup
  memory x hx hmem :=
    have ⟨hrm, hpref, hshort⟩ := h.memory x hx hmem
    ⟨hrm, hpref, hshort, hread.gathers _ (List.of_mem_zip hx).1 hmem⟩
  last := h.last
  plain := h.plain
  vector := hread.vector
  short hshort := ⟨h.short hshort, hread.short hshort⟩
  wait := hread.wait
  legible := hread.legible

end Form

theorem rows_readable : ∀ row ∈ rows, row.form.Readable := by
  have hforms : ∀ f ∈ families, ∀ g ∈ f.forms, g.Readable := by
    decide +kernel
  exact fun row => form_of_mem_rows hforms

theorem rows_regular : ∀ row ∈ rows, row.form.Regular := fun row hrow =>
  (Form.Arranged.of_outline (outline_of_mem_rows (by decide +kernel) hrow)).regular
    (rows_readable row hrow)

end MachineCode.X86
