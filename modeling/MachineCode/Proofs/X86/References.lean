import MachineCode.Proofs.X86.Entries
import MachineCode.Proofs.X86.Retargeting
import MachineCode.Proofs.X86.Sizing

/-!
References of instructions. Every operand that mentions a target has a field of zeros of its own,
which is found by its distance from the end of the instruction, whatever stands behind it. Nothing
else of an instruction depends on targets.
-/
namespace MachineCode.X86

/-! ### Mentions of targets -/

/-- A mention of a target: what is added to it, and how the value is computed. -/
structure Mention where
  target : Target
  addend : Int64
  kind : RelocKind
  deriving DecidableEq, Repr

namespace Mem

def isIp (m : Mem) : Bool := m.registers.any (·.isClass .ip)

/-- Relative to the instruction pointer, a target is a distance; else it is an address. -/
def mention? (m : Mem) : Option Mention :=
  match m.disp with
  | some (.label l) => some ⟨l.target, l.disp.toInt64, if m.isIp then l.kind else .absToRel⟩
  | _ => none

end Mem

namespace Operand

def mention? : Operand → Option Mention
  | .addr a => some ⟨a.target, a.addend, .absToRel⟩
  | .disp (.label l) => some ⟨l.target, l.disp.toInt64, l.kind⟩
  | .mem m => m.mention?
  | _ => none

end Operand

def Piece.mention? : Piece → Option Mention
  | .field _ kind target addend => some ⟨target, addend, kind⟩
  | .bytes _ => none

/-- What a reference was made for. -/
def mentionOf (r : Ref Reloc) : Mention := ⟨r.target, r.addend, r.rel.kind⟩

theorem Piece.map_mentionOf (ps : List Piece) :
    (Piece.join ps).refs.map mentionOf = ps.filterMap (·.mention?) := by
  induction ps with
  | nil => rfl
  | cons p ps ih =>
    cases p with
    | bytes bs => exact ih
    | field size kind target addend =>
      rw [Piece.join, List.map_cons, ih]
      rfl

/-! ### Fields -/

/-- References whose fields are in the code, hold zeros and do not overlap. They count back from
the end of the code, which is where the program counter is. -/
structure Fielded (enc : Encoded Reloc) : Prop where
  counter : ∀ r ∈ enc.refs, r.rel.startOffset = 0
  inside : ∀ r ∈ enc.refs, r.rel.fieldOffset ≤ enc.code.length ∧ r.rel.size ≤ r.rel.fieldOffset
  zero : ∀ r ∈ enc.refs, enc.code.slice (enc.code.length - r.rel.fieldOffset) r.rel.size =
    List.replicate r.rel.size 0
  apart : enc.refs.Pairwise fun r r' =>
    enc.code.length - r.rel.fieldOffset + r.rel.size ≤ enc.code.length - r'.rel.fieldOffset

namespace Fielded

variable {enc : Encoded Reloc}

theorem nil : Fielded ⟨[], []⟩ := ⟨nofun, nofun, nofun, .nil⟩

/-- Fields are found from the end, so nothing changes for them if there is more in front. -/
theorem prepend (h : Fielded enc) (bs : Bytes) : Fielded ⟨bs ++ enc.code, enc.refs⟩ where
  counter := h.counter
  inside := by
    intro r hr
    have hinside := h.inside r hr
    rw [List.length_append]
    exact ⟨Nat.le_trans hinside.1 (Nat.le_add_left ..), hinside.2⟩
  zero := by
    intro r hr
    have hinside := (h.inside r hr).1
    rw [List.length_append, Nat.add_sub_assoc hinside, ← h.zero r hr, Bytes.slice, Bytes.slice,
      ← List.drop_drop, List.drop_left]
  apart := by
    refine h.apart.imp_of_mem fun hr hr' hapart => ?_
    have hinside := (h.inside _ hr).1
    have hinside' := (h.inside _ hr').1
    rw [List.length_append]
    omega

theorem field (h : Fielded enc) {size : Nat} (hsize : size < 256) (hlength : enc.code.length < 256)
    (kind : RelocKind) (target : Target) (addend : Int64) :
    Fielded ⟨List.replicate size 0 ++ enc.code,
      ⟨target, addend, ⟨UInt8.ofNat enc.code.length, UInt8.ofNat size, kind⟩⟩ :: enc.refs⟩ := by
  have hrest := h.prepend (List.replicate size 0)
  have hwidth : (UInt8.ofNat size).toNat = size := UInt8.toNat_ofNat_of_lt' hsize
  have htrail : (UInt8.ofNat enc.code.length).toNat = enc.code.length :=
    UInt8.toNat_ofNat_of_lt' hlength
  refine ⟨?_, ?_, ?_, ?_⟩
  · exact List.forall_mem_cons.mpr ⟨rfl, hrest.counter⟩
  · refine List.forall_mem_cons.mpr ⟨?_, hrest.inside⟩
    unfold Reloc.fieldOffset Reloc.size
    dsimp only
    rw [hwidth, htrail, List.length_append, List.length_replicate]
    omega
  · refine List.forall_mem_cons.mpr ⟨?_, hrest.zero⟩
    unfold Reloc.fieldOffset Reloc.size
    dsimp only
    rw [hwidth, htrail, List.length_append, List.length_replicate, Nat.add_comm, Nat.sub_self]
    exact List.take_left' List.length_replicate
  · refine List.pairwise_cons.mpr ⟨fun r hr => ?_, hrest.apart⟩
    have hinside := (h.inside r hr).1
    unfold Reloc.fieldOffset Reloc.size at *
    dsimp only at *
    rw [hwidth, htrail, List.length_append, List.length_replicate]
    omega

end Fielded

theorem Piece.fielded_join {ps : List Piece} (h : (ps.flatMap Piece.code).length < 256) :
    Fielded (Piece.join ps) := by
  induction ps with
  | nil => exact .nil
  | cons p ps ih =>
    rw [List.flatMap_cons, List.length_append] at h
    have hrest := ih (Nat.lt_of_le_of_lt (Nat.le_add_left ..) h)
    cases p with
    | bytes bs => exact hrest.prepend bs
    | field size kind target addend =>
      rw [← Piece.code_join] at h
      rw [Piece.code, List.length_replicate] at h
      exact hrest.field (by omega) (by omega) kind target addend

/-! ### Addresses that mention a target -/

namespace Mem

variable {m m' p : Mem} {size : Option Nat}

theorem not_ip_of_class {r : Register} (h : r.class? = some .legacy ∨ r.isVector = true) :
    r.isClass .ip = false := by
  rcases h with hclass | hvector
  · rw [Register.isClass, hclass]
    rfl
  · rw [Bool.eq_false_iff]
    intro hip
    rw [Register.isVector_of_class (eq_of_beq hip)] at hvector
    cases hvector

theorem any_ip_eq_false {o : Option Register} (h : ∀ r ∈ o, r.class? = some .legacy) :
    o.any (·.isClass .ip) = false := by
  rw [Option.any_eq_false]
  exact fun r hr => by rw [not_ip_of_class (.inl (h r hr))]

theorem Normal.isIp_eq (h : m.Normal size) : m.isIp = m.base.any (·.isClass .ip) := by
  cases h with
  | word hcode hbase hindex =>
    unfold isIp registers
    rw [hbase, hindex, Option.any_some]
    simp
  | ip hsize hr hbase hindex =>
    unfold isIp registers
    rw [hbase, hindex, Option.any_some]
    simp
  | scaled hsize hbase hindex =>
    have hregisters : ∀ r ∈ m.registers, r.isClass .ip = false := by
      intro r hr
      rcases List.mem_append.mp hr with hr | hr
      · exact not_ip_of_class (.inl (hbase r (Option.mem_toList.mp hr)))
      · exact not_ip_of_class (hindex r (Option.mem_toList.mp hr))
    have hnone := any_ip_eq_false hbase
    unfold isIp
    rw [hnone, List.any_eq_false]
    exact fun r hr => by rw [hregisters r hr]; decide

/-- How often the instruction pointer counts. -/
def ipWeight (s : Source) : Int := if s = .ip then 1 else 0

theorem ipWeight_source (r : Register) : ipWeight r.source = if r.isClass .ip then 1 else 0 := by
  unfold ipWeight Register.source
  split
  · rfl
  · split <;> rfl

theorem isIp_iff_total : m.isIp = true ↔ X86.total m.terms ipWeight ≠ 0 := by
  have hscale : 1 ≤ max m.scale 1 := Nat.le_max_right ..
  unfold isIp registers terms
  generalize max m.scale 1 = n at hscale
  rcases m.base with _ | b <;> rcases m.index with _ | i
  · simp
  · simp [ipWeight_source]
    omega
  · simp [ipWeight_source]
  · simp only [Option.toList_some, List.map_cons, List.map_nil, total_append, total_cons, total_nil,
      ipWeight_source, List.any_append, List.any_cons, List.any_nil, Bool.or_false]
    cases b.isClass .ip <;> cases i.isClass .ip <;> simp <;> omega

theorem Normal.isIp_iff_total (h : p.Normal size) :
    p.isIp = true ↔ X86.total (p.coded size) ipWeight ≠ 0 := by
  rw [h.isIp_eq]
  unfold coded
  cases h with
  | word hcode hbase hindex =>
    rw [if_pos rfl, hbase, Option.any_some, Register.isClass, Register.class_make, total_eq_zero]
    · simp
    · intro t ht
      obtain ⟨n, -, rfl⟩ := List.mem_map.mp ht
      rfl
  | ip hsize hr hbase hindex =>
    rw [if_neg (fun h => hsize (Option.some.inj h)), hbase, hindex]
    simp [Register.isClass, hr, Register.source_of_ip hr, ipWeight]
  | scaled hsize hbase hindex =>
    have hnone := any_ip_eq_false hbase
    rw [if_neg hsize, hnone, total_eq_zero]
    · simp
    · intro t ht
      rcases List.mem_append.mp ht with ht | ht
      · obtain ⟨r, hr, rfl⟩ := List.mem_map.mp ht
        rw [ipWeight_source, not_ip_of_class (.inl (hbase r (Option.mem_toList.mp hr)))]
        rfl
      · obtain ⟨r, hr, rfl⟩ := List.mem_map.mp ht
        have hindex := hindex r (Option.mem_toList.mp (List.mem_filter.mp hr).1)
        rw [ipWeight_source, not_ip_of_class hindex]
        rfl

theorem Placed.isIp_eq (h : Placed m p size) : p.isIp = m.isIp := by
  rw [Bool.eq_iff_iff, h.normal.isIp_iff_total, h.total, ← isIp_iff_total]

def aim? : Disp → Option (Target × Int32)
  | .label l => some (l.target, l.disp)
  | .rel _ _ => none

theorem mention?_eq (m : Mem) : m.mention? = (m.disp.bind aim?).map fun x =>
    ⟨x.1, x.2.toInt64, if m.isIp then Label.kind { target := x.1 } else .absToRel⟩ := by
  unfold mention?
  rcases m.disp with _ | ⟨v, w⟩ | l <;> rfl

theorem sizeDisp_aim {d d' : Disp} {short : Bool} (h : sizeDisp d short = .ok d') :
    aim? d' = aim? d ∧ ∀ l, d' = .label l → l.width ≠ 0 := by
  unfold sizeDisp at h
  split at h
  · split_ifs at h <;> cases h <;> exact ⟨rfl, nofun⟩
  next l =>
    cases h
    refine ⟨?_, ?_⟩
    · split_ifs <;> rfl
    · rintro l' hl'
      rw [← Disp.label.inj hl']
      split
      · cases short <;> simp
      next hwidth => exact hwidth
  next d hrel hlabel =>
    cases h
    exact ⟨rfl, fun l hl => absurd hl (hlabel l)⟩

theorem settleDisp_aim {d : Option Disp} (h : m.settleDisp size = .ok d) :
    d.bind aim? = m.disp.bind aim? ∧ ∀ l, d = some (.label l) → l.width ≠ 0 := by
  rw [settleDisp_eq] at h
  split at h
  · cases h
    rcases m.disp with _ | ⟨v, w⟩ | l
    · exact ⟨rfl, nofun⟩
    · exact ⟨rfl, nofun⟩
    · exact ⟨rfl, by rintro _ ⟨⟩; exact Nat.succ_ne_zero 3⟩
  · split at h
    next hzero =>
      cases h
      rw [hzero]
      exact ⟨rfl, nofun⟩
    · cases hdisp : m.disp with
      | none =>
        rw [hdisp] at h
        cases h
        exact ⟨rfl, nofun⟩
      | some d₀ =>
        rw [hdisp] at h
        obtain ⟨d', hsize, h⟩ := bind_eq_ok h
        obtain ⟨⟨⟩, -, h⟩ := bind_eq_ok h
        cases h
        obtain ⟨haim, hwidth⟩ := sizeDisp_aim hsize
        exact ⟨haim, fun l hl => hwidth l (Option.some.inj hl)⟩

/-- An address in normal form mentions the same target, with room for it. -/
theorem mention_of_settle (hip : size = some 2 → ∀ r ∈ m.registers, r.class? ≠ some .ip)
    (h : m.settle = .ok (m', size)) : m'.mention? = m.mention? ∧ m'.Normal size ∧
      ∀ l, m'.disp = some (.label l) → l.width ≠ 0 := by
  obtain ⟨p, hplace, hdisp, hm⟩ := settle_eq_ok h
  have hplaced := place_spec hip hplace
  obtain ⟨haim, hwidth⟩ := settleDisp_aim hdisp
  have hisIp : m'.isIp = m.isIp := by
    rw [← hplaced.isIp_eq, hm]
    rfl
  refine ⟨?_, ?_, hwidth⟩
  · rw [mention?_eq, mention?_eq, haim, hplaced.disp, hisIp]
  · rw [hm]
    exact hplaced.normal.with_disp _

theorem dispPiece_mention (d : Option Disp) (n : Nat) (kind : RelocKind) :
    (dispPiece d n kind).mention? = (d.bind aim?).map fun x => ⟨x.1, x.2.toInt64, kind⟩ := by
  rcases d with _ | ⟨v, w⟩ | l <;> rfl

theorem filterMap_head_disp (head : Bytes) (p : Piece) :
    [.bytes head, p].filterMap (·.mention?) = p.mention?.toList := by
  cases p <;> rfl

theorem aim_eq_none (hwidth : ∀ l, m.disp = some (.label l) → l.width ≠ 0)
    (h : (m.disp.map (·.width)).getD 0 = 0) : m.disp.bind aim? = none := by
  rcases hdisp : m.disp with _ | ⟨v, w⟩ | l
  · rfl
  · rfl
  · rw [hdisp] at h
    exact absurd h (hwidth l hdisp)

theorem emitWord_mention (hwidth : ∀ l, m.disp = some (.label l) → l.width ≠ 0)
    (hip : m.isIp = false) (reg : UInt8) :
    (m.emitWord reg).filterMap (·.mention?) = m.mention?.toList := by
  have hdisp : ∀ n, (dispPiece m.disp n .absToRel).mention? = m.mention? := by
    intro n
    rw [dispPiece_mention, mention?_eq, hip]
    rfl
  unfold emitWord
  dsimp only
  split
  next hzero =>
    split
    · rw [filterMap_head_disp, hdisp]
    · rw [mention?_eq, aim_eq_none hwidth hzero]
      rfl
  · rw [filterMap_head_disp, hdisp]
  · rw [filterMap_head_disp, hdisp]

theorem emitIp_mention (hip : m.isIp = true) (reg : UInt8) :
    (m.emitIp reg).filterMap (·.mention?) = m.mention?.toList := by
  unfold emitIp
  rw [filterMap_head_disp, dispPiece_mention, mention?_eq, hip]
  rcases m.disp with _ | ⟨v, w⟩ | l <;> rfl

theorem emitLegacy_mention (hwidth : ∀ l, m.disp = some (.label l) → l.width ≠ 0)
    (hip : m.isIp = false) (mode : Mode) (reg : UInt8) :
    (m.emitLegacy mode reg).filterMap (·.mention?) = m.mention?.toList := by
  have hdisp : (dispPiece m.disp m.layout.2 .absToRel).mention? = m.mention? := by
    rw [dispPiece_mention, mention?_eq, hip]
    rfl
  unfold emitLegacy
  split
  next hzero =>
    have hnone : (m.disp.map (·.width)).getD 0 = 0 := by
      unfold layout at hzero
      dsimp only at hzero
      split at hzero
      · cases hzero
      · split_ifs at hzero
        assumption
    rw [mention?_eq, aim_eq_none hwidth hnone]
    rfl
  next hlayout => rw [filterMap_head_disp, hdisp]

theorem emit_mention (hnormal : m.Normal size) (hwidth : ∀ l, m.disp = some (.label l) → l.width ≠ 0)
    {n : Nat} (hn : n = 2 → size = some 2) (mode : Mode) (reg : UInt8) :
    (m.emit mode n reg).filterMap (·.mention?) = m.mention?.toList := by
  have hip := hnormal.isIp_eq
  unfold emit
  split
  next hword =>
    rw [hn hword] at hnormal
    exact emitWord_mention hwidth (hip.trans hnormal.not_word_of_ip) reg
  · split
    next hbase => exact emitIp_mention (hip.trans hbase) reg
    next hbase =>
      exact emitLegacy_mention hwidth (hip.trans (Bool.not_eq_true _ ▸ hbase)) mode reg

theorem length_dispPiece (d : Option Disp) (n : Nat) (kind : RelocKind) :
    (dispPiece d n kind).code.length = n := by
  rcases d with _ | ⟨v, w⟩ | l
  · exact Bytes.length_ofNat ..
  · exact Bytes.length_ofNat ..
  · exact List.length_replicate

theorem layout_le (m : Mem) : m.layout.2 ≤ 4 := by
  unfold layout
  dsimp only
  split
  · exact Nat.le_refl 4
  · split_ifs <;> simp

theorem length_emit_le (m : Mem) (mode : Mode) (n : Nat) (reg : UInt8) :
    ((m.emit mode n reg).flatMap Piece.code).length ≤ 6 := by
  have hpair : ∀ {head : Bytes} {k : Nat} (kind : RelocKind), head.length ≤ 2 → k ≤ 4 →
      ([.bytes head, dispPiece m.disp k kind].flatMap Piece.code).length ≤ 6 := by
    intro head k kind hhead hk
    rw [List.flatMap_cons, List.flatMap_cons, List.flatMap_nil, List.append_nil,
      List.length_append, length_dispPiece]
    exact Nat.add_le_add hhead hk
  have hone : ∀ b : UInt8, [b].length ≤ 2 := fun _ => Nat.le_succ 1
  unfold emit
  split
  · unfold emitWord
    dsimp only
    split
    · split
      · exact hpair _ (hone _) (by decide)
      · exact Nat.le_trans (hone _) (by decide)
    · exact hpair _ (hone _) (by decide)
    · exact hpair _ (hone _) (by decide)
  · split
    · exact hpair _ (hone _) (by decide)
    · have hhead : (m.scaledHead mode m.layout.1 reg).length ≤ 2 := by
        unfold scaledHead
        rcases m.index with _ | i <;> rcases m.base with _ | b <;> cases mode <;> simp
      unfold emitLegacy
      split
      · rw [List.flatMap_cons, List.flatMap_nil, List.append_nil]
        exact Nat.le_trans hhead (by decide)
      · exact hpair _ hhead m.layout_le

end Mem

/-! ### Operands that mention a target -/

def mentions (ops : List Operand) : List Mention := ops.filterMap (·.mention?)

theorem mention_of_resize {name : String} {operand : Option Nat} {imm : Nat} {s : Slot}
    {a a' : Operand} (h : resize name operand imm s a = .ok a') : a'.mention? = a.mention? := by
  unfold resize at h
  dsimp only at h
  generalize (if s.size = .any then imm else s.size.bytes) = size at h
  split at h
  · obtain ⟨-, rfl⟩ := ok_of_unless h
    rfl
  · cases h
    split <;> rfl
  · cases h
    unfold Disp.ofSize
    split <;> rfl
  · cases h
    split <;> rfl
  · cases h
    rfl

theorem Sizing.mentions_args {name : String} {mode : Mode} {settled : List Operand} {m : Match}
    {votes : SizeVotes} {imm : Nat} (h : Sizing name mode settled m votes imm)
    (hlength : m.form.slots.length = settled.length) : mentions m.args = mentions settled := by
  have hsame : m.args.map (·.mention?) = (m.form.slots.zip settled).map (·.2.mention?) := by
    rw [← List.forall₂_eq_eq_eq, List.forall₂_map_left_iff, List.forall₂_map_right_iff]
    exact (h.args.imp fun _ _ hresize => mention_of_resize hresize).flip
  have hsettled : (m.form.slots.zip settled).map (·.2) = settled :=
    List.map_snd_zip (Nat.le_of_eq hlength.symm)
  have hid : ∀ xs, mentions xs = (xs.map (·.mention?)).filterMap id := by
    intro xs
    rw [List.filterMap_map]
    rfl
  rw [hid, hid, hsame]
  conv_rhs => rw [← hsettled, List.map_map]
  rfl

theorem Settled.mentions_eq {mode : Mode} {ops settled : List Operand} {n : Nat}
    (h : Settled mode ops settled n)
    (hip : ∀ a ∈ X86.memories ops, ∀ size : Option Nat, n = size.getD mode.addrSize → size = some 2 →
      ∀ r ∈ a.registers, r.class? ≠ some .ip) : mentions settled = mentions ops := by
  cases h with
  | absent h => rfl
  | @present front back a a' size hfront hsettle =>
    have ha : a ∈ X86.memories (front ++ .mem a :: back) :=
      mem_memories.mpr (List.mem_append_right _ List.mem_cons_self)
    have hmention : (Operand.mem a').mention? = (Operand.mem a).mention? :=
      (Mem.mention_of_settle (hip a ha size rfl) hsettle).1
    unfold mentions
    rw [List.filterMap_append, List.filterMap_append, List.filterMap_cons, List.filterMap_cons,
      hmention]

/-- Numbers behind the opcode are no memory operands. -/
theorem Slot.mem?_of_trailing {s : Slot} {a : Operand} {exact : Bool}
    (h : s.takes a exact = true) (htrailing : s.kind.isTrailing = true) : a.mem? = none := by
  cases a with
  | mem m =>
    rw [(SlotKind.kind_of_takesMem (Slot.takes_mem h).1).2] at htrailing
    cases htrailing
  | _ => rfl

theorem trailingPiece_mention {a : Operand} (h : a.mem? = none) :
    (trailingPiece a).mention? = a.mention? := by
  cases a with
  | disp d => cases d <;> rfl
  | mem m => cases h
  | _ => rfl

theorem length_trailingPiece_le (a : Operand) : (trailingPiece a).code.length ≤ a.width := by
  cases a with
  | reg r => exact Nat.zero_le _
  | imm i => exact Nat.le_of_eq (Bytes.length_ofNat ..)
  | addr a => exact Nat.le_of_eq List.length_replicate
  | disp d =>
    cases d with
    | rel v w => exact Nat.le_of_eq (Mem.length_dispPiece (some (.rel v w)) w .relative)
    | label l => exact Nat.le_of_eq List.length_replicate
  | mem m => exact Nat.zero_le _

theorem Bytes.length_flatMap_le {α : Type} {f : α → Bytes} {n : Nat} {xs : List α}
    (h : ∀ x ∈ xs, (f x).length ≤ n) : (xs.flatMap f).length ≤ xs.length * n := by
  induction xs with
  | nil => exact Nat.zero_le _
  | cons x xs ih =>
    obtain ⟨hx, hxs⟩ := List.forall_mem_cons.mp h
    rw [List.flatMap_cons, List.length_append, List.length_cons, Nat.succ_mul, Nat.add_comm]
    exact Nat.add_le_add (ih hxs) hx

theorem SlotSize.bytes_le (s : SlotSize) : s.bytes ≤ 32 := by
  cases s <;> decide

namespace Matched

variable {c : Matcher} {inst : Inst} {ops settled : List Operand} {m : Match}

theorem mem?_trailing (h : Matched c inst ops settled m) {s : Slot} {x : Operand}
    (hx : (s, x) ∈ m.slots) (htrailing : s.kind.isTrailing = true) : x.mem? = none := by
  obtain ⟨y, -, htakes, -, hmem⟩ := h.slot_takes hx
  exact hmem.trans (Slot.mem?_of_trailing htakes htrailing)

theorem mentions_perm (h : Matched c inst ops settled m) :
    ((memories m.args).filterMap (·.mention?) ++ mentions m.trailing).Perm (mentions m.args) := by
  have hargs : m.args = m.slots.map (·.2) :=
    (List.map_snd_zip (Nat.le_of_eq h.length_slots.symm)).symm
  have hmemory : (memories m.args).filterMap (·.mention?) =
      (m.slots.filter fun x => !x.1.kind.isTrailing).filterMap (·.2.mention?) := by
    unfold memories
    rw [hargs, List.filterMap_map, List.filterMap_filterMap, List.filterMap_filter]
    refine List.filterMap_congr fun ⟨s, x⟩ hx => ?_
    dsimp only [Function.comp_apply]
    split
    next htrailing =>
      rw [Bool.not_eq_true'] at htrailing
      rcases h.reg_or_mem hx htrailing with ⟨r, rfl⟩ | ⟨a, rfl⟩ <;> rfl
    next htrailing =>
      rw [Bool.not_eq_true, Bool.not_eq_false'] at htrailing
      rw [h.mem?_trailing hx htrailing]
      rfl
  have htrailing : mentions m.trailing =
      (m.slots.filter fun x => x.1.kind.isTrailing).filterMap (·.2.mention?) := by
    unfold mentions Match.trailing
    rw [List.filterMap_map]
    rfl
  have hall : mentions m.args = m.slots.filterMap (·.2.mention?) := by
    unfold mentions
    rw [hargs, List.filterMap_map]
    rfl
  rw [hmemory, htrailing, hall, ← List.filterMap_append]
  exact (List.perm_append_comm.trans (List.filter_append_perm _ _)).filterMap _

theorem mentions_trailing (h : Matched c inst ops settled m) :
    (m.trailing.map trailingPiece).filterMap (·.mention?) = mentions m.trailing := by
  unfold mentions
  rw [List.filterMap_map]
  refine List.filterMap_congr fun x hx => trailingPiece_mention ?_
  obtain ⟨y, hy, rfl⟩ := List.mem_map.mp hx
  obtain ⟨hslot, htrailing⟩ := List.mem_filter.mp hy
  exact h.mem?_trailing hslot htrailing

theorem mentions_eq (h : Matched c inst ops settled m) {name : String} {mode : Mode}
    {votes : SizeVotes} {imm : Nat} (hsizing : Sizing name mode settled m votes imm) :
    mentions m.args = mentions ops :=
  (hsizing.mentions_args (h.length_slots.trans h.args.length_eq.symm)).trans
    (h.memory.mentions_eq fun _ ha _ hsize hword => h.not_ip_of_word ha hsize hword)

theorem mentions_address (h : Matched c inst ops settled m) (hone : OneMem ops) :
    (m.addressPieces m.placement).filterMap (·.mention?) =
      (memories m.args).filterMap (·.mention?) := by
  rcases h.memory_cases hone with ⟨-, hargs, -⟩ | ⟨a, a', size, hops, hargs, hsettle, hsize⟩
  · rw [hargs]
    unfold Match.addressPieces
    dsimp only
    split
    · rfl
    · split
      · rfl
      next a hrm =>
        have ha : a ∈ memories m.args := h.mem_placed (q := .rm) hrm
        rw [hargs] at ha
        cases ha
      · rfl
  · have ha : a ∈ memories ops := hops ▸ List.mem_cons_self
    have ha' : a' ∈ memories m.args := hargs ▸ List.mem_cons_self
    obtain ⟨s, hslot⟩ := h.mem_slots (mem_memories.mp ha')
    obtain ⟨hrm, hshort, -⟩ := h.rm_of_mem_slot hslot
    obtain ⟨-, hnormal, hwidth⟩ := Mem.mention_of_settle (h.not_ip_of_word ha hsize) hsettle
    have hword : m.addrSize = 2 → size = some 2 := by
      intro htwo
      rw [htwo] at hsize
      cases size with
      | none => cases hmode : c.mode <;> rw [hmode] at hsize <;> cases hsize
      | some n => exact congrArg some hsize.symm
    rw [addressPieces_of_mem hrm hshort, Mem.emit_mention hnormal hwidth hword, hargs,
      List.filterMap_cons, List.filterMap_nil]
    cases a'.mention? <;> rfl

theorem length_address_le (m : Match) (p : Placement) :
    ((m.addressPieces p).flatMap Piece.code).length ≤ 6 := by
  unfold Match.addressPieces
  dsimp only
  split
  · exact Nat.zero_le 6
  · split
    · exact Nat.succ_le_succ (Nat.zero_le 5)
    · exact Mem.length_emit_le ..
    · exact Nat.zero_le 6

theorem length_after_le (m : Match) : m.after.length ≤ 2 := by
  have himm : (if m.form.has .immOp then [m.form.opcode.getLastD 0] else []).length ≤ 1 := by
    split <;> simp
  have hlast : m.placement.lastBytes.length ≤ 1 := by
    unfold Placement.lastBytes
    split <;> simp
  rw [Match.after, List.length_append]
  exact Nat.add_le_add himm hlast

theorem length_trailing_pieces_le (h : Matched c inst ops settled m) {name : String} {mode : Mode}
    {votes : SizeVotes} {imm : Nat} (hsizing : Sizing name mode settled m votes imm) :
    ((m.trailing.map trailingPiece).flatMap Piece.code).length ≤ 128 := by
  have hpiece : ∀ x ∈ m.trailing, (trailingPiece x).code.length ≤ 32 := by
    intro x hx
    obtain ⟨⟨s, y⟩, hy, rfl⟩ := List.mem_map.mp hx
    obtain ⟨hslot, htrailing⟩ := List.mem_filter.mp hy
    have hwidth := hsizing.width_trailing h hslot htrailing
    have hbytes := s.size.bytes_le
    have hlength := length_trailingPiece_le y
    dsimp only
    omega
  have hsum := Bytes.length_flatMap_le (f := Piece.code) (List.forall_mem_map.mpr hpiece)
  rw [List.length_map] at hsum
  exact Nat.le_trans hsum (Nat.mul_le_mul_right 32 h.length_trailing_le)

theorem mentionOf_join (h : Matched c inst ops settled m) (hone : OneMem ops) {name : String}
    {mode : Mode} {votes : SizeVotes} {imm : Nat} (hsizing : Sizing name mode settled m votes imm)
    (b : UInt8) (bits : SizeBits) (rex : Bool) :
    ((Piece.join (m.pieces b bits rex)).refs.map mentionOf).Perm (mentions ops) := by
  have hpieces : (m.pieces b bits rex).filterMap (·.mention?) =
      (memories m.args).filterMap (·.mention?) ++ mentions m.trailing := by
    rw [← h.mentions_address hone, ← h.mentions_trailing, Match.pieces, List.filterMap_append,
      List.filterMap_append, List.filterMap_cons]
    exact congrArg (· ++ _) (List.append_nil _)
  rw [Piece.map_mentionOf, hpieces, ← h.mentions_eq hsizing]
  exact h.mentions_perm

theorem fielded (h : Matched c inst ops settled m) {name : String} {mode : Mode}
    {votes : SizeVotes} {imm : Nat} (hsizing : Sizing name mode settled m votes imm)
    (b : UInt8) (bits : SizeBits) (rex : Bool) : Fielded (Piece.join (m.pieces b bits rex)) := by
  have haddress := length_address_le m m.placement
  have hafter := length_after_le m
  have htrailing := h.length_trailing_pieces_le hsizing
  have hlength : ((m.addressPieces m.placement ++ [Piece.bytes m.after] ++
      m.trailing.map trailingPiece).flatMap Piece.code).length < 256 := by
    rw [List.flatMap_append, List.flatMap_append, List.flatMap_singleton, List.length_append,
      List.length_append]
    change _ + m.after.length + _ < 256
    omega
  exact (Piece.fielded_join hlength).prepend (m.head b bits rex)

end Matched

/-- Every operand that mentions a target has one reference, with the target and the addend of the
operand, and every reference has a field of zeros of its own in the code, found from the end of the
instruction. Operands that differ in targets and addends only are encoded with the same bytes and
the same fields. -/
theorem targets_have_own_fields {e : Encoder} {inst : Inst} {ops : List Operand}
    {enc : Encoded Reloc} (h : Encodes e inst ops enc) :
    (enc.refs.map mentionOf).Perm (mentions ops) ∧ Fielded enc ∧
      ∀ ops', Retargeted ops ops' → SameFrames e inst ops ops' := by
  obtain ⟨c, m, b, -, hfinds, hemit⟩ := h.exists_match
  obtain ⟨hone, settled, votes, imm, hmatched, hsizing⟩ := hfinds.sizing
  obtain ⟨bits, rex, -, -, -, rfl⟩ := Match.emit_eq_ok hemit
  exact ⟨hmatched.mentionOf_join hone hsizing b bits rex, hmatched.fielded hsizing b bits rex,
    fun _ hops => hops.sameFrames⟩

def insertRecord (t : Target) (addend : Int32) : List Operand :=
  [.reg (.make .legacy 4 0),
    .mem { base := some (.make .ip 8 0), width := 4, disp := some (.label ⟨t, addend, 0⟩) },
    .addr { target := .external 7, addend := 7, width := 4 }]

def recordCode : Encoded Reloc :=
  ⟨[0x8f, 0xf0, 0x78, 0x12, 0x05, 0, 0, 0, 0, 0, 0, 0, 0],
    [⟨.global "a", 3, ⟨4, 4, .relative⟩⟩, ⟨.external 7, 7, ⟨0, 4, .absToRel⟩⟩]⟩

theorem targets_have_own_fields_lwpins :
    Encodes ⟨.x64, .everything⟩ ⟨0x30a102ba⟩ (insertRecord (.global "a") 3) recordCode ∧
      (recordCode.refs.map mentionOf).Perm (mentions (insertRecord (.global "a") 3)) ∧
        Fielded recordCode ∧ SameFrames ⟨.x64, .everything⟩ ⟨0x30a102ba⟩
          (insertRecord (.global "a") 3) (insertRecord (.dynamic 5) (-1)) := by
  have hencodes : Encodes ⟨.x64, .everything⟩ ⟨0x30a102ba⟩ (insertRecord (.global "a") 3)
      recordCode := .inst (b := 0) (by decide +kernel)
  obtain ⟨hperm, hfielded, hsame⟩ := targets_have_own_fields hencodes
  exact ⟨hencodes, hperm, hfielded, hsame _ rfl⟩

end MachineCode.X86
