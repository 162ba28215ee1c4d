import MachineCode.Proofs.X86.Readings

/-!
Operand sizes. Where a row leaves the size of its operands open and says that prefixes tell it, the
prefixes of an emitted instruction do.
-/
namespace MachineCode.X86

namespace Form

structure Sized (f : Form) : Prop where
  wait : f.code.headD 0 ≠ 0x9b
  short : f.has .autoNo32 = true ∨ f.has .autoSize = true → f.isVector = false ∧
    f.has .wordSize = false ∧ f.has .pref66 = false
  wide : f.has .autoRexW = true ∨ f.has .autoSize = true → f.has .withRexW = false
  long : f.has .autoVexL = true → f.isVector = true ∧ f.has .withVexL = false

instance (f : Form) : Decidable f.Sized :=
  decidable_of_iff (f.code.headD 0 ≠ 0x9b ∧
    (f.has .autoNo32 = true ∨ f.has .autoSize = true → f.isVector = false ∧
      f.has .wordSize = false ∧ f.has .pref66 = false) ∧
    (f.has .autoRexW = true ∨ f.has .autoSize = true → f.has .withRexW = false) ∧
    (f.has .autoVexL = true → f.isVector = true ∧ f.has .withVexL = false))
    ⟨fun ⟨h1, h2, h3, h4⟩ => ⟨h1, h2, h3, h4⟩, fun ⟨h1, h2, h3, h4⟩ => ⟨h1, h2, h3, h4⟩⟩

end Form

theorem rows_sized : ∀ row ∈ rows, row.form.sizes = true → row.form.Sized := by
  have hforms : ∀ f ∈ families, ∀ g ∈ f.forms, g.sizes = true → g.Sized := by
    decide +kernel
  exact fun row => form_of_mem_rows hforms

/-- The operand size that prefixes tell. -/
def Decoded.operandSize (d : Decoded) (f : Form) : Nat :=
  if f.has .autoNo32 then if d.short then 2 else d.mode.addrSize
  else if f.has .autoRexW then if d.wide then 8 else 4
  else if f.has .autoVexL then if d.long then 32 else 16
  else if d.short then 2
  else if d.wide then 8
  else 4

namespace Matched

variable {c : Matcher} {inst : Inst} {ops settled : List Operand} {m : Match} {bits : SizeBits}
  {d : Decoded}

theorem sized (h : Matched c inst ops settled m) (hsizes : m.form.sizes = true) : m.form.Sized := by
  obtain ⟨row, hrow, hform⟩ := h.mem_rows
  exact hform ▸ rows_sized row hrow (hform ▸ hsizes)

theorem operandSize_of_framed (h : Matched c inst ops settled m) (hsizes : m.form.sizes = true)
    (hbits : m.sizeBits = .ok bits) (hframed : Framed m bits d) :
    m.operandSize = some (d.operandSize m.form) := by
  have hsized := h.sized hsizes
  obtain ⟨auto, hauto, rfl⟩ := map_eq_ok hbits
  have hshort : m.form.has .autoNo32 = true ∨ m.form.has .autoSize = true →
      d.short = auto.short := by
    intro hflag
    obtain ⟨hvector, hword, hpref⟩ := hsized.short hflag
    rw [hframed.short hvector hsized.wait, hword, hpref, Bool.or_false, Bool.or_false]
  have hwide : m.form.has .autoRexW = true ∨ m.form.has .autoSize = true →
      d.wide = auto.wide := by
    intro hflag
    rw [hframed.wide hsized.wait, hsized.wide hflag, Bool.or_false]
  have hlong : m.form.has .autoVexL = true → d.long = auto.long := by
    intro hflag
    obtain ⟨hvector, hnone⟩ := hsized.long hflag
    rw [Decoded.long, hframed.vector, if_pos hvector, Option.any_some, Match.vectorPrefix, hnone,
      Bool.or_false]
  rcases Match.autoSize_cases hauto with ⟨hnone, -⟩ | ⟨n, hn, hchooses⟩
  · rw [hsizes] at hnone
    cases hnone
  rw [hn]
  refine congrArg some ?_
  unfold Decoded.operandSize
  rw [hframed.mode]
  cases hchooses with
  | no32 hno32 hbits =>
    rw [if_pos hno32, hshort (Or.inl hno32)]
    rcases hbits with ⟨hn, rfl⟩ | ⟨hn, rfl⟩ <;> exact hn
  | rexW hno32 hrexW hbits =>
    rw [hno32, if_neg Bool.false_ne_true, if_pos hrexW, hwide (Or.inl hrexW)]
    rcases hbits with ⟨hn, rfl⟩ | ⟨hn, rfl⟩ <;> exact hn
  | vexL hno32 hrexW hvexL hbits =>
    rw [hno32, hrexW, if_neg Bool.false_ne_true, if_neg Bool.false_ne_true, if_pos hvexL,
      hlong hvexL]
    rcases hbits with ⟨hn, rfl⟩ | ⟨hn, rfl⟩ <;> exact hn
  | any hno32 hrexW hvexL hany hbits =>
    rw [hno32, hrexW, hvexL, if_neg Bool.false_ne_true, if_neg Bool.false_ne_true,
      if_neg Bool.false_ne_true, hshort (Or.inr hany), hwide (Or.inr hany)]
    rcases hbits with ⟨hn, rfl⟩ | ⟨hn, rfl⟩ | ⟨hn, rfl⟩ <;> exact hn

end Matched

/-- Operands of two sizes that one row takes have differing codes, if the row chooses its prefixes
by their size. -/
theorem operand_sizes_shown {c c' : Matcher} {inst inst' : Inst} {ops ops' : List Operand}
    {ms ms' : List Match} {m m' : Match} {b b' : UInt8} {enc enc' : Encoded Reloc}
    (hmode : c.mode = c'.mode)
    (hfound : c.findAll inst (ops.map some) = .ok ms) (hm : m ∈ ms)
    (hfound' : c'.findAll inst' (ops'.map some) = .ok ms') (hm' : m' ∈ ms')
    (hgiven : ∀ a, .mem a ∈ ops → a.IsGiven) (hgiven' : ∀ a, .mem a ∈ ops' → a.IsGiven)
    (hrow : m.row = m'.row) (hsizes : m.form.sizes = true)
    (hdiffer : m.operandSize ≠ m'.operandSize)
    (hemit : m.emit b = .ok enc) (hemit' : m'.emit b' = .ok enc') : enc.code ≠ enc'.code := by
  intro hcode
  obtain ⟨hone, settled, h⟩ := (finds_of_findAll hfound hm).matched
  obtain ⟨hone', settled', h'⟩ := (finds_of_findAll hfound' hm').matched
  have hform : m.form = m'.form := by
    obtain ⟨name, hget⟩ := h.getElem?_rows
    obtain ⟨name', hget'⟩ := h'.getElem?_rows
    rw [hrow, hget'] at hget
    exact ((Row.mk.injEq ..).mp (Option.some.inj hget)).2.symm
  have hread : ∀ {c : Matcher} {inst : Inst} {ops settled : List Operand} {m : Match} {b : UInt8}
      {enc : Encoded Reloc}, OneMem ops → Matched c inst ops settled m →
      (∀ a, .mem a ∈ ops → a.IsGiven) → m.form.sizes = true → m.emit b = .ok enc →
        m.operandSize = some ((decode c.mode enc.code).operandSize m.form) := by
    intro c inst ops settled m b enc hone h hgiven hsizes hemit
    have hvaries : m.form.varies = true := by
      rw [Form.varies, hsizes, Bool.or_true]
    obtain ⟨bits, hbits, hframed⟩ := h.framed hone (fun a ha => hgiven a (mem_memories.mp ha))
      hvaries (fun hwait => absurd hwait (h.sized hsizes).wait) hemit
    exact h.operandSize_of_framed hsizes hbits hframed
  apply hdiffer
  rw [hread hone h hgiven hsizes hemit, hread hone' h' hgiven' (hform ▸ hsizes) hemit', hcode,
    hform, hmode]

def shiftBy (c : RegClass) (width : Nat) : List Operand :=
  [.reg (.make c width 1), .reg (.make c width 2), .imm (.unsized 3)]

def shiftMatch (inst : Inst) (row : Nat) (form : Form) (c : RegClass) (width : Nat) : Match where
  mode := .x64
  inst := inst
  row := row
  form := form
  args := [.reg (.make c width 1), .reg (.make c width 2), .imm ⟨3, 1⟩]
  addrSize := 8
  operandSize := some width

theorem not_mem_shiftBy (c : RegClass) (width : Nat) (a : Mem) : .mem a ∉ shiftBy c width := by
  simp [shiftBy]

def shiftDwords : Form :=
  ⟨[0x01, 0x72], [.vex, .autoVexL, .encVM, .pref66], [.avx], some 2, [.ya, .ya, .ib]⟩

theorem operand_sizes_shown_vpsrld :
    (∃ ms ms' m m' enc enc',
      Matcher.findAll ⟨.x64, .everything⟩ ⟨0xb1420965⟩ ((shiftBy .ymm 32).map some) = .ok ms ∧
      Matcher.findAll ⟨.x64, .everything⟩ ⟨0xb1420965⟩ ((shiftBy .xmm 16).map some) = .ok ms' ∧
      m ∈ ms ∧ m' ∈ ms' ∧ m.row = m'.row ∧ m.form.sizes = true ∧
      m.operandSize ≠ m'.operandSize ∧ m.emit 0 = .ok enc ∧ m'.emit 0 = .ok enc' ∧
      enc.code ≠ enc'.code) ∧
    (∀ a, .mem a ∈ shiftBy .ymm 32 → a.IsGiven) ∧ ∀ a, .mem a ∈ shiftBy .xmm 16 → a.IsGiven := by
  have hgiven : ∀ a, .mem a ∈ shiftBy .ymm 32 → a.IsGiven := fun a ha =>
    absurd ha (not_mem_shiftBy _ _ a)
  have hgiven' : ∀ a, .mem a ∈ shiftBy .xmm 16 → a.IsGiven := fun a ha =>
    absurd ha (not_mem_shiftBy _ _ a)
  -- One evaluation goes through the table for both.
  obtain ⟨hfound, hfound'⟩ :
      Matcher.findAll ⟨.x64, .everything⟩ ⟨0xb1420965⟩ ((shiftBy .ymm 32).map some) =
        .ok [shiftMatch ⟨0xb1420965⟩ 2405 shiftDwords .ymm 32] ∧
      Matcher.findAll ⟨.x64, .everything⟩ ⟨0xb1420965⟩ ((shiftBy .xmm 16).map some) =
        .ok [shiftMatch ⟨0xb1420965⟩ 2405 shiftDwords .xmm 16] := by
    decide +kernel
  have hsizes : (shiftMatch ⟨0xb1420965⟩ 2405 shiftDwords .ymm 32).form.sizes = true := by
    decide +kernel
  have hdiffer : (shiftMatch ⟨0xb1420965⟩ 2405 shiftDwords .ymm 32).operandSize ≠
      (shiftMatch ⟨0xb1420965⟩ 2405 shiftDwords .xmm 16).operandSize := by decide
  have hemit : (shiftMatch ⟨0xb1420965⟩ 2405 shiftDwords .ymm 32).emit 0 =
      .ok ⟨[0xc5, 0xf5, 0x72, 0xd2, 0x03], []⟩ := by decide +kernel
  have hemit' : (shiftMatch ⟨0xb1420965⟩ 2405 shiftDwords .xmm 16).emit 0 =
      .ok ⟨[0xc5, 0xf1, 0x72, 0xd2, 0x03], []⟩ := by decide +kernel
  exact ⟨⟨_, _, _, _, _, _, hfound, hfound', List.mem_cons_self, List.mem_cons_self, rfl, hsizes,
    hdiffer, hemit, hemit', operand_sizes_shown rfl hfound List.mem_cons_self hfound'
      List.mem_cons_self hgiven hgiven' rfl hsizes hdiffer hemit hemit'⟩, hgiven, hgiven'⟩

def shiftQwords : Form :=
  ⟨[0x01, 0x73], [.vex, .encVM, .pref66], [.avx], some 2, [.ya, .ya, .ib]⟩

/-- `vpsrlq y1, y2, 3` has the code of `vpsrlq x1, x2, 3`. -/
theorem counterexample_vpsrlq :
    Matcher.findAll ⟨.x64, .everything⟩ ⟨0xb1820968⟩ ((shiftBy .ymm 32).map some) =
      .ok [shiftMatch ⟨0xb1820968⟩ 2408 shiftQwords .ymm 32] ∧
    Matcher.findAll ⟨.x64, .everything⟩ ⟨0xb1820968⟩ ((shiftBy .xmm 16).map some) =
      .ok [shiftMatch ⟨0xb1820968⟩ 2408 shiftQwords .xmm 16] ∧
    Encoder.encodeInst ⟨.x64, .everything⟩ 0 ⟨0xb1820968⟩ ((shiftBy .ymm 32).map some) =
      .ok ⟨[0xc5, 0xf1, 0x73, 0xd2, 0x03], []⟩ ∧
    Encoder.encodeInst ⟨.x64, .everything⟩ 0 ⟨0xb1820968⟩ ((shiftBy .xmm 16).map some) =
      .ok ⟨[0xc5, 0xf1, 0x73, 0xd2, 0x03], []⟩ := by
  decide +kernel

end MachineCode.X86
