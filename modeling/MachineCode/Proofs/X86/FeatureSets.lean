import MachineCode.Proofs.X86.OperandOrder

/-!
What enabled features change. A form needs its features, and a form that more features put in
front of it does not spoil it: their slots have no operands in common, or what the form in front
makes of the operands is encoded whenever the other is.
-/
namespace MachineCode.X86

namespace Slot

/-- Whether two slots may take the same operand. Registers of fixed sizes have one size. -/
def meets (s t : Slot) : Bool :=
  (s.kind == .imm && t.kind == .imm) || (s.kind == .offset && t.kind == .offset) ||
    (s.kind.takesMem && t.kind.takesMem) ||
      (RegClass.all.any fun c => s.kind.takesClass c && t.kind.takesClass c) &&
        (s.size == .any || t.size == .any || s.size.bytes == t.size.bytes)

end Slot

namespace Form

def meets (f g : Form) : Bool :=
  f.slots.length == g.slots.length && (f.slots.zip g.slots).all fun (s, t) => s.meets t

def deciding : List Flag :=
  [.vex, .xop, .autoSize, .autoNo32, .autoRexW, .autoVexL, .withRexW, .lock, .rep, .repe]

/-- Whether a form is encoded whenever another form is. -/
def replaces (f g : Form) : Bool :=
  f.slots == g.slots && deciding.all fun x => f.has x == g.has x

/-- Whether a form does not spoil another form that stands behind it: it has no feature that the
other has not, or it takes other operands, or it replaces the other. -/
def spares (f g : Form) : Bool :=
  g.featureSet.includes f.featureSet || !f.meets g || f.replaces g

end Form

theorem families_spare : ∀ F ∈ families, F.forms.Pairwise fun f g => f.spares g = true := by
  decide +kernel

/-! ### Operands that two forms take -/

section Meeting

variable {s t : Slot} {a : Operand} {exact exact' : Bool} {f g : Form} {mode : Mode}
  {features features' : Features} {ops : List Operand}

theorem SlotKind.exists_class_of_takes {k : SlotKind} {r : Register} (h : k.takes (.reg r) = true) :
    ∃ c, r.class? = some c := by
  cases k with
  | cr8 =>
    obtain rfl : r = Register.cr8 := by simpa [takes, Operand.reg?] using h
    exact ⟨_, rfl⟩
  | st0 =>
    obtain rfl : r = Register.st0 := by simpa [takes, Operand.reg?] using h
    exact ⟨_, rfl⟩
  | _ =>
    cases hc : r.class? with
    | some c => exact ⟨c, rfl⟩
    | none =>
      simp [takes, Operand.reg?, Operand.mem?, Register.isClass, Register.isGeneral,
        Register.isVector, hc] at h

theorem SlotKind.takes_imm (k : SlotKind) (i : Imm) : k.takes (.imm i) = (k == .imm) := by
  cases k <;> rfl

theorem SlotKind.takes_addr (k : SlotKind) (l : Addr) : k.takes (.addr l) = (k == .imm) := by
  cases k <;> rfl

theorem SlotKind.takes_disp (k : SlotKind) (d : Disp) : k.takes (.disp d) = (k == .offset) := by
  cases k <;> rfl

theorem Slot.size_eq_any_or_bytes {r : Register} (h : s.takes (.reg r) exact = true) :
    s.size = .any ∨ s.size.bytes = r.width := by
  have hwidth := takesRegWidth_of_takes h
  unfold takesRegWidth at hwidth
  cases hs : s.size with
  | any => exact Or.inl rfl
  | _ =>
    rw [hs] at hwidth
    first
    | cases hwidth
    | exact Or.inr (beq_iff_eq.mp hwidth)

theorem Slot.meets_of_takes (h : s.takes a exact = true) (h' : t.takes a exact' = true) :
    s.meets t = true := by
  obtain ⟨hs, -⟩ := Bool.and_eq_true_iff.mp h
  obtain ⟨ht, -⟩ := Bool.and_eq_true_iff.mp h'
  unfold meets
  cases a with
  | reg r =>
    obtain ⟨c, hc⟩ := SlotKind.exists_class_of_takes hs
    have hclass : (RegClass.all.any fun c =>
        s.kind.takesClass c && t.kind.takesClass c) = true := by
      refine List.any_eq_true.mpr ⟨c, by cases c <;> decide, ?_⟩
      rw [SlotKind.takesClass_of_takes hs hc, SlotKind.takesClass_of_takes ht hc]
      rfl
    have hsize : (s.size == .any || t.size == .any || s.size.bytes == t.size.bytes) = true := by
      simp only [Bool.or_eq_true, beq_iff_eq]
      rcases size_eq_any_or_bytes h with hany | hbytes
      · exact Or.inl (Or.inl hany)
      · rcases size_eq_any_or_bytes h' with hany' | hbytes'
        · exact Or.inl (Or.inr hany')
        · exact Or.inr (hbytes.trans hbytes'.symm)
    rw [hclass, hsize]
    simp
  | mem m =>
    rw [(takes_mem h).1, (takes_mem h').1]
    simp
  | imm i =>
    rw [SlotKind.takes_imm] at hs ht
    rw [hs, ht]
    rfl
  | addr l =>
    rw [SlotKind.takes_addr] at hs ht
    rw [hs, ht]
    rfl
  | disp d =>
    rw [SlotKind.takes_disp] at hs ht
    rw [hs, ht]
    simp

theorem Form.meets_of_takes (h : f.takes mode features ops = true)
    (h' : g.takes mode features' ops = true) : f.meets g = true := by
  obtain ⟨-, -, hlength, hslots⟩ := takes_iff.mp h
  obtain ⟨-, -, hlength', hslots'⟩ := takes_iff.mp h'
  unfold meets
  rw [hlength, hlength', beq_self_eq_true, Bool.true_and, List.all_eq_true]
  intro x hx
  obtain ⟨i, hi⟩ := List.mem_iff_getElem?.mp hx
  obtain ⟨hs, ht⟩ := List.getElem?_zip_eq_some.mp hi
  obtain ⟨a, ha⟩ : ∃ a, ops[i]? = some a :=
    ⟨_, List.getElem?_eq_getElem (hlength ▸ (List.getElem?_eq_some_iff.mp hs).1)⟩
  exact Slot.meets_of_takes
    (hslots (x.1, a) (List.mem_of_getElem? (List.getElem?_zip_eq_some.mpr ⟨hs, ha⟩)))
    (hslots' (x.2, a) (List.mem_of_getElem? (List.getElem?_zip_eq_some.mpr ⟨ht, ha⟩)))

end Meeting

/-! ### Forms that replace one another -/

section Replacing

variable {f g : Form} {m : Match} {b : UInt8} {enc : Encoded Reloc}

theorem Form.replaces_iff :
    f.replaces g = true ↔ f.slots = g.slots ∧ ∀ x ∈ deciding, f.has x = g.has x := by
  simp only [replaces, Bool.and_eq_true, beq_iff_eq, List.all_eq_true]

/-- Operands get the same sizes in both forms. -/
theorem resizeArgs_of_replaces (h : f.replaces g = true) (mode : Mode) (s : Scratch) :
    s.resizeArgs mode f = s.resizeArgs mode g := by
  obtain ⟨hslots, hflags⟩ := Form.replaces_iff.mp h
  unfold Scratch.resizeArgs sizesIn settleSizes
  rw [hslots, hflags .autoNo32 (by decide)]

theorem Match.emit_of_replaces (h : f.replaces m.form = true) (row : Nat)
    (hemit : m.emit b = .ok enc) : ∃ enc', { m with form := f, row }.emit b = .ok enc' := by
  obtain ⟨hslots, hflags⟩ := Form.replaces_iff.mp h
  obtain ⟨bits, rex, hallowed, hbits, hrex, -⟩ := emit_eq_ok hemit
  have hallowed' : { m with form := f, row }.checkPrefix b = .ok () := by
    unfold checkPrefix at hallowed ⊢
    dsimp only at hallowed ⊢
    rwa [hflags .lock (by decide), hflags .rep (by decide), hflags .repe (by decide)]
  obtain ⟨auto, hauto, rfl⟩ := map_eq_ok hbits
  have hauto' : { m with form := f, row }.autoSize = .ok auto := by
    unfold autoSize at hauto ⊢
    dsimp only at hauto ⊢
    rwa [hflags .autoSize (by decide), hflags .autoNo32 (by decide),
      hflags .autoRexW (by decide), hflags .autoVexL (by decide)]
  have hrex' : { m with form := f, row }.rexNeed (auto.wide || f.has .withRexW) = .ok rex := by
    unfold rexNeed needsRex hasHighByte Match.slots Form.isVector at hrex ⊢
    dsimp only at hrex ⊢
    rwa [hslots, hflags .withRexW (by decide), hflags .vex (by decide), hflags .xop (by decide)]
  rw [emit_eq, hallowed', ok_bind]
  unfold sizeBits
  rw [hauto']
  dsimp only [Except.map, Except.mapError]
  rw [ok_bind, hrex']
  exact ⟨_, rfl⟩

end Replacing

/-! ### The search with more features -/

namespace Features

variable {F G H : Features}

theorem includes_trans (hfg : F.includes G = true) (hgh : G.includes H = true) :
    F.includes H = true := by
  unfold includes at *
  rw [beq_iff_eq] at *
  rw [← hgh, ← BitVec.and_assoc, hfg]

theorem or_and_eq {u v w : BitVec 32} (h : u &&& w = w ∨ v &&& w = w) : (u ||| v) &&& w = w := by
  refine BitVec.eq_of_getElem_eq fun i hi => ?_
  rw [BitVec.getElem_and, BitVec.getElem_or]
  rcases h with h | h
  all_goals
    have hbit := congrArg (·[i]) h
    grind

theorem foldl_and_eq {x : Feature} {fs : List Feature} {w : BitVec 32}
    (h : x ∈ fs ∨ w &&& x.bit = x.bit) :
    fs.foldl (fun w f => w ||| f.bit) w &&& x.bit = x.bit := by
  induction fs generalizing w with
  | nil => exact h.resolve_left List.not_mem_nil
  | cons f fs ih =>
    rw [List.foldl_cons]
    apply ih
    rw [List.mem_cons] at h
    rcases h with (rfl | hx) | hw
    · exact Or.inr (or_and_eq (Or.inr BitVec.and_self))
    · exact Or.inl hx
    · exact Or.inr (or_and_eq (Or.inl hw))

theorem ofList_includes {x : Feature} {fs : List Feature} (hx : x ∈ fs) :
    (ofList fs).includes ⟨x.bit⟩ = true :=
  beq_iff_eq.mpr (foldl_and_eq (Or.inl hx))

end Features

section Search

variable {c : Matcher} {s : Scratch} {addrSize : Nat} {m : Match} {G : Features} {b : UInt8}
  {enc : Encoded Reloc} {x : Row × Nat} {rows : List (Row × Nat)}

/-- All that a row asks of the enabled features is that its own are among them. -/
theorem yields_of_includes (h : yields c s addrSize x = some m)
    (hfeatures : G.includes x.1.form.featureSet = true) :
    yields { c with features := G } s addrSize x = some m := by
  obtain ⟨htakes, hsized⟩ := yields_eq_some.mp h
  obtain ⟨-, htakes⟩ := Form.takes_iff.mp htakes
  exact yields_eq_some.mpr ⟨Form.takes_iff.mpr ⟨hfeatures, htakes⟩, hsized⟩

theorem includes_of_yields (h : yields c s addrSize x = some m) :
    c.features.includes x.1.form.featureSet = true :=
  (Form.takes_iff.mp (yields_eq_some.mp h).1).1

/-- A row that only more features put in front of another one makes a match that is encoded. -/
theorem emit_of_spares {y : Row × Nat} {m' : Match} (hspares : x.1.form.spares y.1.form = true)
    (hx : yields c s addrSize x = none)
    (hx' : yields { c with features := G } s addrSize x = some m')
    (hy : yields c s addrSize y = some m) (hemit : m.emit b = .ok enc) :
    ∃ enc', m'.emit b = .ok enc' := by
  obtain ⟨htakes, after, size, hsize, rfl⟩ := yields_eq_some.mp hx'
  obtain ⟨htakes', after', size', hsize', rfl⟩ := yields_eq_some.mp hy
  unfold Form.spares at hspares
  rw [Form.meets_of_takes htakes htakes', Bool.not_true, Bool.or_false, Bool.or_eq_true] at hspares
  rcases hspares with hless | hreplaces
  · -- The row has no feature that the other one has not, so it was in front before.
    have hfeatures := Features.includes_trans (includes_of_yields hy) hless
    rw [yields_of_includes hx' hfeatures] at hx
    cases hx
  · dsimp only at hsize
    rw [resizeArgs_of_replaces hreplaces, hsize'] at hsize
    obtain ⟨rfl, rfl⟩ : after' = after ∧ size' = size := by simpa using hsize
    exact Match.emit_of_replaces (m := after'.found c.mode y.1.form y.2 addrSize size') hreplaces
      x.2 hemit

/-- The induction is on the rows. More features may make an earlier row the first. -/
theorem exists_emit_of_includes (hfeatures : G.includes c.features = true)
    (hpairs : rows.Pairwise fun x y => x.1.form.spares y.1.form = true)
    (h : rows.findSome? (yields c s addrSize) = some m) (hemit : m.emit b = .ok enc) :
    ∃ m' enc', rows.findSome? (yields { c with features := G } s addrSize) = some m' ∧
      m'.emit b = .ok enc' := by
  induction rows with
  | nil => cases h
  | cons x rows ih =>
    obtain ⟨hx, hrows⟩ := List.pairwise_cons.mp hpairs
    rw [List.findSome?_cons] at h ⊢
    cases hyields : yields c s addrSize x with
    | some m₀ =>
      rw [hyields] at h
      obtain rfl := Option.some.inj h
      have hmore := Features.includes_trans hfeatures (includes_of_yields hyields)
      rw [yields_of_includes hyields hmore]
      exact ⟨_, _, rfl, hemit⟩
    | none =>
      rw [hyields] at h
      cases hyields' : yields { c with features := G } s addrSize x with
      | none => exact ih hrows h
      | some m' =>
        obtain ⟨y, hy, hfound⟩ := List.exists_of_findSome?_eq_some h
        obtain ⟨enc', hemit'⟩ := emit_of_spares (hx y hy) hyields hyields' hfound hemit
        exact ⟨_, _, rfl, hemit'⟩

end Search

section Encoding

variable {name : String} {inst : Inst} {e : Encoder} {G : Features} {b : UInt8}
  {args : List (Option Operand)} {enc : Encoded Reloc}

theorem rows_spare (hname : Inst.lookup name = some inst) :
    inst.rows.Pairwise fun x y => x.1.form.spares y.1.form = true := by
  obtain ⟨F, hF, -, hrows⟩ := exists_family hname
  have hspare : F.rows.Pairwise fun x y => x.form.spares y.form = true :=
    List.pairwise_map.mpr (families_spare F hF)
  rw [hrows]
  have hmap : ((F.rows.zipIdx inst.first).map Prod.fst).Pairwise
      fun x y => x.form.spares y.form = true := by
    rwa [List.zipIdx_map_fst]
  exact List.pairwise_map.mp hmap

theorem name_of_mem_rows (hname : Inst.lookup name = some inst) {x : Row × Nat}
    (hx : x ∈ inst.rows) : x.1.name = inst.name := by
  obtain ⟨F, -, hF, hrows⟩ := exists_family hname
  rw [hrows] at hx
  obtain ⟨f, -, hf⟩ := List.mem_map.mp (List.fst_mem_of_mem_zipIdx hx)
  rw [← hf, hF]

theorem find_toOption {s settled : Scratch} {addrSize : Nat}
    (hhold : Scratch.hold inst args = .ok s) (h : Prepared e s settled addrSize)
    (hsize : e.mode.hasAddrSize addrSize = true) :
    (Matcher.find e inst args).toOption = inst.rows.findSome? (yields e settled addrSize) := by
  obtain ⟨ops, -, hholds⟩ := holds_of_hold hhold
  rw [find_spec hhold h hsize, yieldsFrom, List.drop_zero, List.head?_filterMap,
    inst_of_settle h.settled, hholds.inst]

/-- A form that is used has all its features enabled, and an instruction that is encoded is encoded
as well when more features are enabled, if perhaps with another form. -/
theorem features_suffice (hname : Inst.lookup name = some inst)
    (hfeatures : G.includes e.features = true) (h : e.encodeInst b inst args = .ok enc) :
    (∃ m, Matcher.find e inst args = .ok m ∧ ((⟨inst.name, m.form⟩ : Row), m.row) ∈ inst.rows ∧
        m.emit b = .ok enc ∧ ∀ x ∈ m.form.features, e.features.includes ⟨x.bit⟩ = true) ∧
      ∃ enc', Encoder.encodeInst { e with features := G } b inst args = .ok enc' := by
  obtain ⟨m, hfind, hemit⟩ := bind_eq_ok h
  replace hfind := mapError_eq_ok hfind
  obtain ⟨s, hhold, hfrom⟩ := bind_eq_ok hfind
  obtain ⟨settled, addrSize, hprepared, hsize⟩ := prepared_of_matchFrom hfrom
  have hfirst := find_toOption hhold hprepared hsize
  rw [hfind] at hfirst
  constructor
  · obtain ⟨⟨row, i⟩, hx, hyields⟩ := List.exists_of_findSome?_eq_some hfirst.symm
    obtain ⟨hform, hrow⟩ := row_of_yields hyields
    refine ⟨m, hfind, ?_, hemit, fun x hfeature => ?_⟩
    · rw [hform, hrow, ← name_of_mem_rows hname hx]
      exact hx
    · rw [hform] at hfeature
      exact Features.includes_trans (includes_of_yields hyields) (Features.ofList_includes hfeature)
  · obtain ⟨m', enc', hfound, hemit'⟩ :=
      exists_emit_of_includes hfeatures (rows_spare hname) hfirst.symm hemit
    have hprepared' : Prepared { e with features := G } s settled addrSize :=
      ⟨hprepared.checked, hprepared.settled⟩
    rw [← find_toOption hhold hprepared' hsize] at hfound
    refine ⟨enc', ?_⟩
    unfold Encoder.encodeInst
    rw [eq_ok_of_toOption hfound, mapError_ok, ok_bind, hemit']

end Encoding

/-- With SSE4.1 alone, `pextrw eax, xmm1, 5` takes a form behind the one that SSE2 has for it. -/
theorem features_suffice_pextrw :
    let args := [some (.reg (.make .legacy 4 0)), some (.reg (.make .xmm 16 1)),
      some (.imm ⟨5, 0⟩)]
    Inst.lookup "pextrw" = some ⟨0x404503d8⟩ ∧
      Encoder.encodeInst ⟨.x64, .ofList [.sse41]⟩ 0 ⟨0x404503d8⟩ args =
        .ok ⟨[0x66, 0x0f, 0x3a, 0x15, 0xc8, 0x05], []⟩ ∧
      (∃ m, Matcher.find ⟨.x64, .ofList [.sse41]⟩ ⟨0x404503d8⟩ args = .ok m ∧
        ∀ x ∈ m.form.features, (Features.ofList [.sse41]).includes ⟨x.bit⟩ = true) ∧
      ∃ enc, Encoder.encodeInst ⟨.x64, .ofList [.sse2, .sse41]⟩ 0 ⟨0x404503d8⟩ args = .ok enc := by
  intro args
  have hname : Inst.lookup "pextrw" = some ⟨0x404503d8⟩ := by decide +kernel
  have hfeatures : (Features.ofList [.sse2, .sse41]).includes (.ofList [.sse41]) = true := by decide
  have henc : Encoder.encodeInst ⟨.x64, .ofList [.sse41]⟩ 0 ⟨0x404503d8⟩ args =
      .ok ⟨[0x66, 0x0f, 0x3a, 0x15, 0xc8, 0x05], []⟩ := by
    decide +kernel
  obtain ⟨⟨m, hfind, -, -, henabled⟩, hmore⟩ := features_suffice hname hfeatures henc
  exact ⟨hname, henc, ⟨m, hfind, henabled⟩, hmore⟩

end MachineCode.X86
