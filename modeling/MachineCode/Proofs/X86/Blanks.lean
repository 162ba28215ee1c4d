import MachineCode.Proofs.X86.AddressParts
import MachineCode.X86.Matching

/-!
Matching without a look at targets, but for whether a target is outside of the code. A blank operand
has the target and the addend left out; whatever a matcher does to it is what it does to the operand
itself, with the target and the addend left out.
-/
namespace MachineCode.X86

section Results

variable {ε ε' α α' β β' : Type} {x : Except ε α} {h : α → α'}

theorem map_bind_eq {f : α → Except ε β} {f' : α' → Except ε β'} {k : β → β'}
    (hf : ∀ a, x = .ok a → f' (h a) = (f a).map k) : (x.map h >>= f') = (x >>= f).map k := by
  cases x with
  | error e => rfl
  | ok a => exact hf a rfl

theorem mapError_map (f : ε → ε') : (x.map h).mapError f = (x.mapError f).map h := by
  cases x <;> rfl

end Results

/-! ### Blank operands -/

/-- A target of which only is left whether it is outside of the code. -/
def blankTarget (t : Target) : Target := if t.isExternal then .external 0 else .nowhere

@[simp] theorem isExternal_blankTarget (t : Target) :
    (blankTarget t).isExternal = t.isExternal := by
  cases t <;> rfl

def Label.blank (l : Label) : Label := { l with target := blankTarget l.target, disp := 0 }

def Addr.blank (a : Addr) : Addr := { a with target := blankTarget a.target, addend := 0 }

def Disp.blank : Disp → Disp
  | .label l => .label l.blank
  | d => d

def Mem.blank (m : Mem) : Mem := { m with disp := m.disp.map (·.blank) }

def Operand.blank : Operand → Operand
  | .addr a => .addr a.blank
  | .disp d => .disp d.blank
  | .mem m => .mem m.blank
  | a => a

@[simp] theorem Label.width_blank (l : Label) : l.blank.width = l.width := rfl

@[simp] theorem Label.kind_blank (l : Label) : l.blank.kind = l.kind := by
  unfold kind blank
  rw [isExternal_blankTarget]

@[simp] theorem Addr.width_blank (a : Addr) : a.blank.width = a.width := rfl

@[simp] theorem Disp.width_blank (d : Disp) : d.blank.width = d.width := by
  cases d <;> rfl

namespace Mem

variable (m : Mem)

@[simp] theorem base_blank : m.blank.base = m.base := rfl
@[simp] theorem index_blank : m.blank.index = m.index := rfl
@[simp] theorem seg_blank : m.blank.seg = m.seg := rfl
@[simp] theorem scale_blank : m.blank.scale = m.scale := rfl
@[simp] theorem width_blank : m.blank.width = m.width := rfl
@[simp] theorem disp_blank : m.blank.disp = m.disp.map (·.blank) := rfl
@[simp] theorem isVsib_blank : m.blank.isVsib = m.isVsib := rfl
@[simp] theorem registers_blank : m.blank.registers = m.registers := rfl

end Mem

namespace Operand

variable (a : Operand)

@[simp] theorem reg?_blank : a.blank.reg? = a.reg? := by
  cases a <;> rfl

@[simp] theorem mem?_blank : a.blank.mem? = a.mem?.map (·.blank) := by
  cases a <;> rfl

@[simp] theorem width_blank : a.blank.width = a.width := by
  cases a with
  | disp d => exact d.width_blank
  | _ => rfl

end Operand

/-! ### Slots and sizes -/

section Sizes

variable (s : Slot) (a : Operand)

theorem SlotKind.takes_blank (k : SlotKind) : k.takes a.blank = k.takes a := by
  cases a <;> rfl

theorem Slot.takesSize_blank (exact : Bool) : s.takesSize a.blank exact = s.takesSize a exact := by
  cases a with
  | disp d => cases d <;> rfl
  | _ => rfl

theorem Slot.takes_blank (exact : Bool) : s.takes a.blank exact = s.takes a exact := by
  unfold takes
  rw [SlotKind.takes_blank, takesSize_blank]

theorem Form.takes_blank (f : Form) (mode : Mode) (features : Features) (ops : List Operand) :
    f.takes mode features (ops.map (·.blank)) = f.takes mode features ops := by
  unfold takes
  rw [List.length_map, List.zip_map_right, List.all_map]
  simp only [Function.comp_def, Prod.map_fst, Prod.map_snd, id_eq, Slot.takes_blank]

theorem SizeVotes.add_blank (name : String) (v : SizeVotes) :
    v.add name s a.blank = v.add name s a := by
  cases a with
  | disp d => cases d <;> rfl
  | _ => rfl

theorem SizeVotes.collect_blank (name : String) (slots : List Slot) (ops : List Operand) :
    collect name (slots.zip (ops.map (·.blank))) = collect name (slots.zip ops) := by
  unfold collect
  rw [List.zip_map_right, List.foldlM_map]
  simp only [Prod.map_fst, Prod.map_snd, id_eq, SizeVotes.add_blank]

theorem blank_of_resize {name : String} {operand : Option Nat} {imm : Nat} {a' : Operand}
    (ha : a.blank = a) (h : resize name operand imm s a = .ok a') : a'.blank = a' := by
  unfold resize at h
  dsimp only at h
  generalize (if s.size = .any then imm else s.size.bytes) = size at h
  split at h
  · obtain ⟨-, rfl⟩ := ok_of_unless h
    rfl
  · cases h
    split <;> rfl
  · cases h
    unfold Disp.ofSize
    split <;> rfl
  next l =>
    cases h
    split
    · have hl : l.blank = l := Disp.label.inj (Operand.disp.inj ha)
      exact congrArg (fun l : Label => Operand.disp (.label { l with width := size })) hl
    · exact ha
  · cases h
    exact ha

theorem resize_blank (name : String) (operand : Option Nat) (imm : Nat) :
    resize name operand imm s a.blank = (resize name operand imm s a).map (·.blank) := by
  have hsame : a.blank = a →
      resize name operand imm s a.blank = (resize name operand imm s a).map (·.blank) := by
    intro ha
    rw [ha]
    cases hresize : resize name operand imm s a with
    | error e => rfl
    | ok a' => exact congrArg Except.ok (blank_of_resize s a ha hresize).symm
  cases a with
  | reg r => exact hsame rfl
  | imm i => exact hsame rfl
  | addr a => rfl
  | mem m => rfl
  | disp d =>
    cases d with
    | rel v w => exact hsame rfl
    | label l =>
      change Except.ok (if l.width = 0 then _ else _) =
        Except.ok (Operand.blank (if _ then _ else _))
      split_ifs <;> rfl

end Sizes

/-! ### Addresses -/

namespace Mem

variable (m : Mem)

theorem blank_eq_withRest (m p : Mem) (h : p.withRest m = p) : p.withRest m.blank = p.blank := by
  rw [← h]
  rfl

theorem place_blank : m.blank.place = m.place.map fun x => (x.1.blank, x.2) := by
  have hrest : m.blank = m.withRest m.blank := rfl
  rw [hrest, place_withRest]
  cases hplace : m.place with
  | error e => rfl
  | ok x =>
    obtain ⟨p, size⟩ := x
    exact congrArg (fun q => Except.ok (q, size)) (blank_eq_withRest m p (rest_of_place hplace))

theorem dispDword_blank (d : Option Disp) :
    dispDword (d.map (·.blank)) = (dispDword d).blank := by
  rcases d with _ | ⟨v, w⟩ | l <;> rfl

theorem sizeDisp_blank (d : Disp) (short : Bool) :
    sizeDisp d.blank short = (sizeDisp d short).map (·.blank) := by
  cases d with
  | rel v w =>
    have hrel : ∀ d', sizeDisp (.rel v w) short = .ok d' → d'.blank = d' := by
      intro d' h
      unfold sizeDisp at h
      split at h
      · split_ifs at h <;> cases h <;> rfl
      next hlabel => cases hlabel
      · cases h
        rfl
    change sizeDisp (.rel v w) short = _
    cases hsize : sizeDisp (.rel v w) short with
    | error e => rfl
    | ok d' => exact congrArg Except.ok (hrel d' hsize).symm
  | label l =>
    unfold sizeDisp
    dsimp only [Disp.blank]
    rw [Label.width_blank]
    split_ifs <;> rfl

def sizedDisp (d : Disp) (short : Bool) : Except Refusal (Option Disp) := do
  let d ← sizeDisp d short
  (checkDisp d short).mapError .mem
  return some d

theorem settleDisp_eq (size : Option Nat) : m.settleDisp size =
    if m.base.any (·.isClass .ip) then .ok (some (dispDword m.disp))
    else if m.disp = some (.rel 0 0) then .ok none
    else m.disp.elim (.ok none) (sizedDisp · (size == some 2)) := by
  unfold settleDisp
  split
  · rfl
  · split
    next hdisp => rw [hdisp, if_neg nofun, Option.elim_none]
    next hdisp =>
      rw [hdisp]
      exact (if_pos rfl).symm
    next d hne hdisp =>
      have hother : some d ≠ some (Disp.rel 0 0) := fun h => hne (Option.some.inj h)
      rw [hdisp, if_neg hother]
      rfl

theorem sizedDisp_blank (d : Disp) (short : Bool) :
    sizedDisp d.blank short = (sizedDisp d short).map (Option.map (·.blank)) := by
  unfold sizedDisp
  rw [sizeDisp_blank]
  refine map_bind_eq fun d' _ => ?_
  have hcheck : checkDisp d'.blank short = checkDisp d' short := by
    unfold checkDisp
    rw [Disp.width_blank]
  rw [hcheck]
  cases (checkDisp d' short).mapError Refusal.mem <;> rfl

theorem settleDisp_blank (size : Option Nat) :
    m.blank.settleDisp size = (m.settleDisp size).map (Option.map (·.blank)) := by
  rw [settleDisp_eq, settleDisp_eq, base_blank, disp_blank]
  split
  · exact congrArg (fun d => Except.ok (some d)) (dispDword_blank m.disp)
  · rcases m.disp with _ | ⟨v, w⟩ | l
    · rfl
    · change (if some (Disp.rel v w) = some (Disp.rel 0 0) then _ else _) = _
      split
      · rfl
      · exact sizedDisp_blank (.rel v w) _
    · exact sizedDisp_blank (.label l) _

theorem settle_blank : m.blank.settle = m.settle.map fun x => (x.1.blank, x.2) := by
  have hsegment : m.blank.checkSegment = m.checkSegment := rfl
  unfold settle
  rw [hsegment, place_blank, mapError_map]
  cases m.checkSegment.mapError Refusal.mem with
  | error e => rfl
  | ok u =>
    refine map_bind_eq fun x _ => ?_
    dsimp only
    rw [settleDisp_blank]
    exact map_bind_eq fun d _ => rfl

end Mem

/-! ### Matching -/

def Held.blank : Held → Held
  | .plain a => .plain a.blank
  | .memory => .memory

def Scratch.blank (s : Scratch) : Scratch :=
  { s with args := s.args.map (·.blank), mem := s.mem.blank }

def Match.blank (m : Match) : Match := { m with args := m.args.map (·.blank) }

namespace Scratch

variable (s : Scratch)

theorem inst_blank : s.blank.inst = s.inst := rfl

theorem memOffset_blank : s.blank.memOffset = s.memOffset := rfl

theorem args_blank : s.blank.args = s.args.map (·.blank) := rfl

theorem operands_blank : s.blank.operands = s.operands.map (·.blank) := by
  unfold operands
  rw [List.map_map]
  change (s.args.map _).map _ = _
  rw [List.map_map]
  refine List.map_congr_left fun x _ => ?_
  cases x <;> rfl

theorem registers_blank : s.blank.registers = s.registers := by
  have hargs : ((s.args.map (·.blank)).filterMap fun
        | Held.plain a => a.reg?
        | .memory => none) = s.args.filterMap fun
        | .plain a => a.reg?
        | .memory => none := by
    rw [List.filterMap_map]
    refine List.filterMap_congr fun x _ => ?_
    cases x with
    | plain a => exact a.reg?_blank
    | memory => rfl
  exact congrArg (· ++ if s.memOffset.isSome then s.mem.registers else []) hargs

theorem checkMode_blank (mode : Mode) : s.blank.checkMode mode = s.checkMode mode := by
  unfold checkMode
  rw [registers_blank]

theorem settle_blank (mode : Mode) :
    s.blank.settle mode = (s.settle mode).map fun x => (x.1.blank, x.2) := by
  unfold settle
  change (if s.memOffset.isNone then _ else s.mem.blank.settle >>= _) = _
  split
  · rfl
  · rw [Mem.settle_blank]
    exact map_bind_eq fun x _ => rfl

theorem resizeHeld_blank (name : String) (operand : Option Nat) (imm : Nat) (slots : List Slot)
    (args : List Held) : resizeHeld name operand imm slots (args.map (·.blank)) =
      ((resizeHeld name operand imm slots args).1.map (·.blank),
        (resizeHeld name operand imm slots args).2) := by
  induction args generalizing slots with
  | nil => cases slots <;> rfl
  | cons x args ih =>
    cases slots with
    | nil => rfl
    | cons slot slots =>
      cases x with
      | memory =>
        rw [List.map_cons, Held.blank, resizeHeld, resizeHeld, ih]
        rfl
      | plain a =>
        rw [List.map_cons, Held.blank, resizeHeld, resizeHeld, resize_blank]
        cases resize name operand imm slot a with
        | error e => rfl
        | ok a' =>
          dsimp only [Except.map]
          rw [ih]
          rfl

theorem resizeArgs_blank (mode : Mode) (f : Form) :
    s.blank.resizeArgs mode f = ((s.resizeArgs mode f).1.blank, (s.resizeArgs mode f).2) := by
  have hsizes : sizesIn s.inst.name mode f s.blank.operands =
      sizesIn s.inst.name mode f s.operands := by
    unfold sizesIn
    rw [operands_blank, SizeVotes.collect_blank]
  unfold resizeArgs
  rw [inst_blank, args_blank, hsizes]
  cases sizesIn s.inst.name mode f s.operands with
  | error e => rfl
  | ok x =>
    obtain ⟨operand, imm⟩ := x
    dsimp only
    rw [resizeHeld_blank]
    generalize resizeHeld s.inst.name operand imm f.slots s.args = sized
    obtain ⟨args, _ | e⟩ := sized <;> rfl

theorem found_blank (mode : Mode) (form : Form) (row addrSize : Nat) (operandSize : Option Nat) :
    s.blank.found mode form row addrSize operandSize =
      (s.found mode form row addrSize operandSize).blank := by
  unfold found
  rw [operands_blank]
  rfl

theorem push_blank (a : Operand) : s.blank.push a.blank = (s.push a).blank := by
  cases a <;> simp [push, blank, Held.blank, Operand.blank]

theorem fill_blank (args : List (Option Operand)) :
    s.blank.fill (args.map (Option.map (·.blank))) = (s.fill args).map (·.blank) := by
  induction args generalizing s with
  | nil => rfl
  | cons a args ih =>
    cases a with
    | none =>
      refine congrArg (fun n => Except.error (Refusal.missingOperand n s.inst.name)) ?_
      exact List.length_map _
    | some a =>
      rw [List.map_cons, Option.map_some, fill, fill, a.mem?_blank, Option.isSome_map, push_blank,
        ih, memOffset_blank, inst_blank]
      split_ifs <;> rfl

theorem hold_blank (inst : Inst) (args : List (Option Operand)) :
    hold inst (args.map (Option.map (·.blank))) = (hold inst args).map (·.blank) := by
  have hfill : fill { inst } (args.map (Option.map (·.blank))) =
      (fill { inst } args).map (·.blank) := fill_blank { inst } args
  unfold hold
  rw [List.length_map, hfill]
  split_ifs <;> rfl

end Scratch

namespace Matcher

variable (c : Matcher) (inst : Inst) (args : List (Option Operand))

theorem search_blank (original s : Scratch) (addrSize : Nat) (failure? : Option Refusal)
    (rows : List (Row × Nat)) : c.search original.blank addrSize failure? s.blank rows =
      (c.search original addrSize failure? s rows).map (·.blank) := by
  induction rows generalizing s failure? with
  | nil => rfl
  | cons x rows ih =>
    obtain ⟨row, i⟩ := x
    rw [search, search, s.operands_blank, Form.takes_blank, s.resizeArgs_blank]
    split
    · generalize s.resizeArgs c.mode row.form = sized
      obtain ⟨after, e | operandSize⟩ := sized
      · exact ih { after with args := original.args, mem := original.mem } (failure?.or (some e))
      · exact congrArg Except.ok (after.found_blank ..)
    · exact ih s failure?

theorem matchFrom_blank (s : Scratch) (offset : Nat) :
    c.matchFrom s.blank offset = (c.matchFrom s offset).map (·.blank) := by
  unfold matchFrom
  rw [s.checkMode_blank, s.settle_blank]
  cases s.checkMode c.mode with
  | error e => rfl
  | ok u =>
    refine map_bind_eq fun x _ => ?_
    dsimp only
    split
    · rfl
    · exact c.search_blank x.1 x.1 x.2 none _

theorem find_blank :
    c.find inst (args.map (Option.map (·.blank))) = (c.find inst args).map (·.blank) := by
  unfold find
  rw [Scratch.hold_blank]
  exact map_bind_eq fun s _ => c.matchFrom_blank s 0

def blankAll (x : List Match × Option Refusal) : List Match × Option Refusal :=
  (x.1.map (·.blank), x.2)

theorem collect_blank (rounds offset : Nat) :
    c.collect inst (args.map (Option.map (·.blank))) rounds offset =
      (c.collect inst args rounds offset).map blankAll := by
  induction rounds generalizing offset with
  | zero => rfl
  | succ rounds ih =>
    rw [collect, collect]
    split
    · rfl
    · rw [Scratch.hold_blank]
      refine map_bind_eq fun s _ => ?_
      rw [c.matchFrom_blank]
      cases c.matchFrom s offset with
      | error e => rfl
      | ok m =>
        change (c.collect inst (args.map _) rounds (m.row + 1 - inst.first) >>= _) = _
        rw [ih]
        exact map_bind_eq fun x _ => rfl

theorem findAll_blank : c.findAll inst (args.map (Option.map (·.blank))) =
    (c.findAll inst args).map (List.map (·.blank)) := by
  unfold findAll
  rw [c.collect_blank]
  refine map_bind_eq fun x _ => ?_
  obtain ⟨_ | ⟨m, found⟩, failure?⟩ := x <;> rfl

end Matcher

end MachineCode.X86
