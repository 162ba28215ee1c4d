import MachineCode.Proofs.X86.Blanks
import MachineCode.Proofs.X86.Frames
import MachineCode.Proofs.X86.Shapes

/-!
Code without a look at targets. Operands that differ in their targets and addends only are encoded
with the same bytes, and with fields of the same kinds at the same places.
-/
namespace MachineCode.X86

/-! ### Emission -/

def Piece.blank : Piece → Piece
  | .field size kind target _ => .field size kind (blankTarget target) 0
  | p => p

def blankRefs (enc : Encoded Reloc) : Encoded Reloc :=
  { enc with refs := enc.refs.map fun r => { r with target := blankTarget r.target, addend := 0 } }

def Placement.blank (p : Placement) : Placement where
  reg := p.reg.map (·.blank)
  rm := p.rm.map (·.blank)
  extra := p.extra.map (·.blank)
  last := p.last.map (·.blank)

theorem Piece.join_blank (ps : List Piece) : join (ps.map (·.blank)) = blankRefs (join ps) := by
  induction ps with
  | nil => rfl
  | cons p ps ih =>
    cases p with
    | bytes bs =>
      change join (bytes bs :: ps.map (·.blank)) = _
      rw [join, join, ih]
      rfl
    | field size kind target addend =>
      rw [List.map_cons, blank, join, join, ih]
      rfl

theorem dispPiece_blank (d : Option Disp) (size : Nat) (kind : RelocKind) :
    dispPiece (d.map (·.blank)) size kind = (dispPiece d size kind).blank := by
  rcases d with _ | ⟨v, w⟩ | l <;> rfl

theorem trailingPiece_blank (a : Operand) : trailingPiece a.blank = (trailingPiece a).blank := by
  cases a with
  | disp d =>
    cases d with
    | rel v w => rfl
    | label l =>
      change Piece.field l.width l.blank.kind _ _ = _
      rw [l.kind_blank]
      rfl
  | _ => rfl

namespace Placement

variable (p : Placement)

theorem put_blank (role : Role) (a : Operand) : p.blank.put role a.blank = (p.put role a).blank := by
  cases role <;> rfl

theorem foldl_put_blank (xs : List (Role × Operand)) :
    (xs.map fun x => (x.1, x.2.blank)).foldl (fun p x => p.put x.1 x.2) p.blank =
      (xs.foldl (fun p x => p.put x.1 x.2) p).blank := by
  induction xs generalizing p with
  | nil => rfl
  | cons x xs ih =>
    rw [List.map_cons, List.foldl_cons, List.foldl_cons, ← ih, put_blank]

theorem reg?_blank (o : Option Operand) : (o.map (·.blank)).bind (·.reg?) = o.bind (·.reg?) := by
  cases o with
  | none => rfl
  | some a => exact a.reg?_blank

theorem numbers_blank : p.blank.numbers = p.numbers := by
  unfold numbers blank
  dsimp only
  rw [reg?_blank]
  rcases p.rm with _ | a
  · rfl
  · cases a <;> rfl

theorem rex_blank (wide : Bool) : p.blank.rex wide = p.rex wide := by
  unfold rex
  rw [numbers_blank]

theorem vex_blank (isVex : Bool) (map pref : UInt8) (bits : SizeBits) :
    p.blank.vex isVex map pref bits = p.vex isVex map pref bits := by
  have hextra : p.blank.extra.bind (·.reg?) = p.extra.bind (·.reg?) := reg?_blank p.extra
  unfold vex
  rw [numbers_blank, hextra]

theorem lastBytes_blank : p.blank.lastBytes = p.lastBytes := by
  unfold lastBytes blank
  dsimp only
  rcases p.last with _ | a
  · rfl
  · cases a <;> rfl

end Placement

namespace Mem

variable (m : Mem)

theorem dispWidth_blank : m.blank.disp.map (·.width) = m.disp.map (·.width) := by
  rw [disp_blank, Option.map_map]
  exact Option.map_congr fun d _ => d.width_blank

theorem emitWord_blank (reg : UInt8) :
    m.blank.emitWord reg = (m.emitWord reg).map (·.blank) := by
  unfold emitWord
  dsimp only
  rw [dispWidth_blank, disp_blank, dispPiece_blank, dispPiece_blank, base_blank]
  split
  · split <;> rfl
  · rfl
  · rfl

theorem emitIp_blank (reg : UInt8) : m.blank.emitIp reg = (m.emitIp reg).map (·.blank) := by
  unfold emitIp
  dsimp only
  rw [disp_blank, dispPiece_blank]
  rcases m.disp with _ | ⟨v, w⟩ | l
  · rfl
  · rfl
  · dsimp only [Option.map, Disp.blank]
    rw [l.kind_blank]
    rfl

theorem emitLegacy_blank (mode : Mode) (reg : UInt8) :
    m.blank.emitLegacy mode reg = (m.emitLegacy mode reg).map (·.blank) := by
  have hlayout : m.blank.layout = m.layout := by
    unfold layout
    rw [dispWidth_blank, base_blank]
  have hhead : m.blank.scaledHead mode m.layout.1 reg = m.scaledHead mode m.layout.1 reg := rfl
  unfold emitLegacy
  rw [hlayout, hhead, disp_blank, dispPiece_blank]
  split <;> rfl

theorem emit_blank (mode : Mode) (size : Nat) (reg : UInt8) :
    m.blank.emit mode size reg = (m.emit mode size reg).map (·.blank) := by
  unfold emit
  rw [base_blank, emitWord_blank, emitIp_blank, emitLegacy_blank]
  split_ifs <;> rfl

end Mem

namespace Match

variable (m : Match)

theorem slots_blank : m.blank.slots = m.slots.map fun x => (x.1, x.2.blank) :=
  List.zip_map_right ..

theorem placed_blank : m.blank.placed = m.placed.map fun x => (x.1, x.2.blank) := by
  unfold placed
  rw [slots_blank, List.filter_map]
  rfl

theorem trailing_blank : m.blank.trailing = m.trailing.map (·.blank) := by
  unfold trailing
  rw [slots_blank, List.filter_map, List.map_map, List.map_map]
  rfl

theorem placement_blank : m.blank.placement = m.placement.blank := by
  have hplacement : ∀ m : Match, m.placement =
      ((roles m.placed.length (m.placed.findIdx? (·.1.kind.takesMem))
        (m.placed.findIdx? (·.1.kind.isSpecial)) m.form).zip (m.placed.map (·.2))).foldl
          (fun p x => p.put x.1 x.2) {} := fun _ => rfl
  have hlength : m.blank.placed.length = m.placed.length := by
    rw [placed_blank, List.length_map]
  have hfind : ∀ q : SlotKind → Bool, m.blank.placed.findIdx? (fun x => q x.1.kind) =
      m.placed.findIdx? fun x => q x.1.kind := by
    intro q
    rw [placed_blank, List.findIdx?_map]
    rfl
  have hoperands : m.blank.placed.map (·.2) = (m.placed.map (·.2)).map (·.blank) := by
    rw [placed_blank, List.map_map, List.map_map]
    rfl
  rw [hplacement, hplacement, hlength, hfind (·.takesMem), hfind (·.isSpecial), hoperands,
    List.zip_map_right]
  exact Placement.foldl_put_blank {} _

theorem mem?_blank : m.blank.mem? = m.mem?.map (·.blank) := by
  unfold mem? blank
  rw [List.findSome?_map, List.map_findSome?]
  exact congrArg (m.args.findSome? ·) (funext fun a => a.mem?_blank)

theorem rexNeed_blank (wide : Bool) : m.blank.rexNeed wide = m.rexNeed wide := by
  have hneeds : m.blank.needsRex = m.needsRex := by
    unfold needsRex
    rw [slots_blank, List.any_map]
    refine congrArg (m.slots.any ·) (funext fun x => ?_)
    obtain ⟨s, a⟩ := x
    cases a <;> rfl
  have hhigh : m.blank.hasHighByte = m.hasHighByte := by
    unfold hasHighByte
    rw [slots_blank, List.any_map]
    simp only [Function.comp_def, Operand.reg?_blank]
  unfold rexNeed
  rw [hneeds, hhigh]
  rfl

theorem addressPieces_blank :
    m.blank.addressPieces m.placement.blank = (m.addressPieces m.placement).map (·.blank) := by
  have hreg : m.placement.blank.reg.bind (·.reg?) = m.placement.reg.bind (·.reg?) :=
    Placement.reg?_blank _
  have hrm : m.placement.blank.rm = m.placement.rm.map (·.blank) := rfl
  have hform : m.blank.form = m.form := rfl
  unfold addressPieces
  dsimp only
  rw [hreg, hrm, hform]
  split
  · rfl
  · rcases m.placement.rm with _ | a
    · rfl
    · cases a with
      | mem a => exact a.emit_blank ..
      | _ => rfl

theorem head_blank (b : UInt8) (bits : SizeBits) (rex : Bool) :
    m.blank.head b bits rex = m.head b bits rex := by
  have hfront : m.blank.front b = m.front b := by
    unfold front
    rw [mem?_blank, Option.bind_map]
    rfl
  have hprefixes : m.blank.formPrefixes m.placement.blank bits rex m.form.code =
      m.formPrefixes m.placement bits rex m.form.code := by
    unfold formPrefixes
    dsimp only
    rw [Placement.vex_blank, Placement.rex_blank]
    rfl
  have hopcode : ∀ bs, m.blank.opcodeBytes m.placement.blank bs =
      m.opcodeBytes m.placement bs := by
    intro bs
    have hrm : m.placement.blank.rm.bind (·.reg?) = m.placement.rm.bind (·.reg?) :=
      Placement.reg?_blank _
    unfold opcodeBytes
    rw [hrm]
    rfl
  have hform : m.blank.form = m.form := rfl
  unfold head
  rw [hfront, placement_blank, hform, hprefixes, hopcode]

theorem pieces_blank (b : UInt8) (bits : SizeBits) (rex : Bool) :
    m.blank.pieces b bits rex = (m.pieces b bits rex).map (·.blank) := by
  have hafter : m.blank.after = m.after := by
    unfold after
    rw [placement_blank, Placement.lastBytes_blank]
    rfl
  have htrailing : m.blank.trailing.map trailingPiece =
      (m.trailing.map trailingPiece).map (·.blank) := by
    rw [trailing_blank, List.map_map, List.map_map]
    exact List.map_congr_left fun a _ => trailingPiece_blank a
  unfold pieces
  rw [head_blank, hafter, htrailing, placement_blank, addressPieces_blank, List.map_append,
    List.map_append]
  rfl

theorem emit_blank (b : UInt8) : m.blank.emit b = (m.emit b).map blankRefs := by
  have hchecked : m.blank.checkPrefix b = m.checkPrefix b := rfl
  have hbits : m.blank.sizeBits.mapError (.size m.blank.inst.name) =
      m.sizeBits.mapError (Refusal.size m.inst.name) := rfl
  rw [emit_eq, emit_eq, hchecked, hbits]
  cases m.checkPrefix b with
  | error e => rfl
  | ok u =>
    cases m.sizeBits.mapError (Refusal.size m.inst.name) with
    | error e => rfl
    | ok bits =>
      rw [ok_bind, ok_bind, ok_bind, ok_bind, rexNeed_blank]
      cases m.rexNeed bits.wide with
      | error e => rfl
      | ok rex =>
        have hjoin := (congrArg Piece.join (m.pieces_blank b bits rex)).trans (Piece.join_blank _)
        exact congrArg Except.ok hjoin

end Match

/-! ### Encoding -/

/-- What code is without its targets: its bytes, and where the fields of its references are. -/
def frame (enc : Encoded Reloc) : Bytes × List Reloc := (enc.code, enc.refs.map (·.rel))

theorem frame_blankRefs (enc : Encoded Reloc) : frame (blankRefs enc) = frame enc := by
  unfold frame blankRefs
  rw [List.map_map]
  rfl

/-- Operands that are the same but for their targets and addends. An external target stays one. -/
def Retargeted (ops ops' : List Operand) : Prop := ops.map (·.blank) = ops'.map (·.blank)

/-- Whatever is encoded for some operands has the same bytes and the same fields as for others, or
it is refused for the same reason. -/
structure SameFrames (e : Encoder) (inst : Inst) (ops ops' : List Operand) : Prop where
  list : ∀ b, (e.encodeInst b inst (ops.map some)).map frame =
    (e.encodeInst b inst (ops'.map some)).map frame
  shape : ∀ s s' : Shape, s.operands = ops → s'.operands = ops' →
    (e.encodeShape inst s).map frame = (e.encodeShape inst s').map frame
  named : ∀ mnemonic, (e.encode mnemonic (ops.map .operand)).map frame =
    (e.encode mnemonic (ops'.map .operand)).map frame
  found : ∀ (c : Matcher) b,
    (c.findAll inst (ops.map some)).map
        (List.map fun m => (e.encodeMatch c.mode (some m) b).map frame) =
      (c.findAll inst (ops'.map some)).map
        (List.map fun m => (e.encodeMatch c.mode (some m) b).map frame)

section Encoding

variable {e : Encoder} {inst : Inst} {ops ops' : List Operand}

theorem map_frame (x : Except Refusal (Encoded Reloc)) :
    (x.map blankRefs).map frame = x.map frame := by
  cases x with
  | error e => rfl
  | ok enc => exact congrArg Except.ok (frame_blankRefs enc)

theorem encodeInst_blank (e : Encoder) (b : UInt8) (inst : Inst) (args : List (Option Operand)) :
    e.encodeInst b inst (args.map (Option.map (·.blank))) =
      (e.encodeInst b inst args).map blankRefs := by
  unfold Encoder.encodeInst
  rw [Matcher.find_blank, mapError_map]
  exact map_bind_eq fun m _ => m.emit_blank b

theorem encodeMatch_blank (e : Encoder) (mode : Mode) (m : Match) (b : UInt8) :
    e.encodeMatch mode (some m.blank) b = (e.encodeMatch mode (some m) b).map blankRefs := by
  have hform : m.blank.form = m.form := rfl
  have hinst : m.blank.inst = m.inst := rfl
  unfold Encoder.encodeMatch
  dsimp only [Option.getD_some]
  rw [hform, hinst, m.emit_blank]
  split_ifs <;> rfl

theorem Retargeted.args (h : Retargeted ops ops') :
    (ops.map some).map (Option.map (·.blank)) = (ops'.map some).map (Option.map (·.blank)) := by
  have hblank := congrArg (List.map some) h
  rwa [List.map_map, List.map_map] at hblank ⊢

theorem Retargeted.encodeInst (h : Retargeted ops ops') (e : Encoder) (b : UInt8) (inst : Inst) :
    (e.encodeInst b inst (ops.map some)).map frame =
      (e.encodeInst b inst (ops'.map some)).map frame := by
  rw [← map_frame, ← encodeInst_blank, h.args, encodeInst_blank, map_frame]

theorem Retargeted.ofShape {s s' : Shape} (h : Retargeted s.operands s'.operands) (inst : Inst) :
    (Scratch.ofShape inst s).blank = (Scratch.ofShape inst s').blank := by
  have hfill := Scratch.fill_blank { inst } (s.operands.map some)
  rw [h.args, Scratch.fill_blank { inst } (s'.operands.map some), fill_ofShape, fill_ofShape]
    at hfill
  exact (Except.ok.inj hfill).symm

theorem Retargeted.encodeShape {s s' : Shape} (h : Retargeted s.operands s'.operands)
    (e : Encoder) (inst : Inst) :
    (e.encodeShape inst s).map frame = (e.encodeShape inst s').map frame := by
  have hshape : ∀ s : Shape, (e.encodeShape inst s).map frame =
      (((Matcher.matchFrom e (Scratch.ofShape inst s).blank 0).mapError (·.listForms inst)) >>=
        fun m => m.emit 0).map frame := by
    intro s
    rw [Matcher.matchFrom_blank, mapError_map, map_bind_eq fun m _ => m.emit_blank 0, map_frame]
    rfl
  rw [hshape, hshape, h.ofShape]

theorem Retargeted.encode (h : Retargeted ops ops') (e : Encoder) (mnemonic : String) :
    (e.encode mnemonic (ops.map .operand)).map frame =
      (e.encode mnemonic (ops'.map .operand)).map frame := by
  have hlength : ops.length = ops'.length := by
    simpa using congrArg List.length h
  unfold Encoder.encode
  rw [Given.all_map_operand, Given.all_map_operand, List.length_map, List.length_map, hlength]
  cases Encoder.splitPrefix mnemonic with
  | error e => rfl
  | ok x =>
    obtain ⟨b, name⟩ := x
    rw [ok_bind, ok_bind]
    dsimp only
    cases Inst.lookup name with
    | none => rfl
    | some inst =>
      dsimp only
      split
      · rfl
      · exact h.encodeInst e b inst

theorem Retargeted.findAll (h : Retargeted ops ops') (c : Matcher) (inst : Inst) :
    (c.findAll inst (ops.map some)).map (List.map (·.blank)) =
      (c.findAll inst (ops'.map some)).map (List.map (·.blank)) := by
  rw [← c.findAll_blank, h.args, c.findAll_blank]

theorem Retargeted.encodeMatch (h : Retargeted ops ops') (e : Encoder) (inst : Inst) (c : Matcher)
    (b : UInt8) : (c.findAll inst (ops.map some)).map
        (List.map fun m => (e.encodeMatch c.mode (some m) b).map frame) =
      (c.findAll inst (ops'.map some)).map
        (List.map fun m => (e.encodeMatch c.mode (some m) b).map frame) := by
  have hblank : ∀ x : Except Refusal (List Match),
      x.map (List.map fun m => (e.encodeMatch c.mode (some m) b).map frame) =
        (x.map (List.map (·.blank))).map
          (List.map fun m => (e.encodeMatch c.mode (some m) b).map frame) := by
    intro x
    cases x with
    | error e => rfl
    | ok ms =>
      refine congrArg Except.ok ?_
      rw [List.map_map]
      refine List.map_congr_left fun m _ => ?_
      rw [Function.comp_apply, encodeMatch_blank, map_frame]
  rw [hblank, h.findAll, ← hblank]

theorem Retargeted.sameFrames (h : Retargeted ops ops') : SameFrames e inst ops ops' where
  list := fun b => h.encodeInst e b inst
  shape := by
    rintro s s' rfl rfl
    exact h.encodeShape e inst
  named := h.encode e
  found := h.encodeMatch e inst

end Encoding

end MachineCode.X86
