import Mathlib.Data.Int.ModEq
import MachineCode.Proofs.RoundTrips
import MachineCode.Proofs.X86.StatedSizes
import MachineCode.Proofs.X86.WideOperands

/-!
Numbers among the operands. A number without a size is only ever put into a field that holds it, as
a signed or an unsigned number; a row without such a field is passed over. Where a row leaves the
size of its number open, the processor comes back to the number that was given: sign-extended to the
operand size, the field is the number modulo the range of that size.
-/
namespace MachineCode.X86

/-- Numbers that programs can have: those with a size fit it. -/
def Imm.IsGiven (i : Imm) : Prop := i.width = 0 ∨ InSigned (8 * i.width) i.value.toInt

def lastNumber (n : Nat) (code : Bytes) : Int := (readSigned (code.drop (code.length - n))).toInt

section Cut

variable {v : Int64} {n w : Nat} {i : Imm}

theorem inSigned_mono {k l : Nat} {x : Int} (h : InSigned k x) (hkl : k ≤ l) : InSigned l x := by
  have hpow : 2 ^ (k - 1) ≤ 2 ^ (l - 1) := Nat.pow_le_pow_right (by decide) (by omega)
  obtain ⟨hlow, hhigh⟩ := h
  constructor <;> omega

theorem toInt_signedPart (hn : n ∈ dataSizes) (v : Int64) :
    (signedPart v n).toInt = v.toInt.bmod (2 ^ (8 * n)) := by
  obtain ⟨hpos, hle⟩ := bounds_of_mem_dataSizes hn
  obtain ⟨hlow, hhigh⟩ := inSigned_mono (inSigned_bmod (show 0 < 8 * n by omega) v.toInt) hle
  unfold signedPart
  rw [Nat.one_shiftLeft, Int64.toInt_ofInt_of_le hlow hhigh]

theorem Imm.ofSize_spec (hn : n ∈ dataSizes) (v : Int64) :
    (Imm.ofSize v n).width = n ∧ (Imm.ofSize v n).value.toInt = v.toInt.bmod (2 ^ (8 * n)) := by
  have hcut : n ≠ 8 → Imm.ofSize v n = ⟨signedPart v n, n⟩ := by
    intro h8
    unfold Imm.ofSize
    rw [if_pos]
    simp only [Bool.or_eq_true, decide_eq_true_eq]
    rcases cases_of_mem_dataSizes hn with h | h | h | h <;> omega
  by_cases h8 : n = 8
  · subst h8
    exact ⟨rfl, (bmod_of_inSigned (by decide) (inSigned_sixtyFour v)).symm⟩
  · rw [hcut h8]
    exact ⟨rfl, toInt_signedPart hn v⟩

theorem Imm.mem_dataSizes_of_fits (h : Imm.fits v n = true) : n ∈ dataSizes := by
  unfold Imm.fits at h
  split at h
  · decide
  · decide
  · decide
  · rw [eq_of_beq h]
    decide

theorem Imm.inSigned_of_fitsSigned (h : Imm.fitsSigned v = true) : InSigned 32 v.toInt := by
  unfold Imm.fitsSigned at h
  simpa [InSigned] using h

theorem Imm.fits_of_fitsSigned (h : Imm.fitsSigned v = true) : Imm.fits v 4 = true := by
  unfold Imm.fitsSigned at h
  unfold Imm.fits
  simp only [Bool.and_eq_true, decide_eq_true_eq] at h ⊢
  omega

theorem trailingPiece_ofSize (hn : n ∈ dataSizes) (v : Int64) :
    trailingPiece (.imm (.ofSize v n)) = .bytes (Bytes.ofNat n v.toBitVec.toNat) := by
  obtain ⟨hwidth, hvalue⟩ := Imm.ofSize_spec hn v
  have hle := (bounds_of_mem_dataSizes hn).2
  refine congrArg Piece.bytes ?_
  rw [hwidth]
  apply Bytes.eq_of_toNat_eq
  · rw [Bytes.length_ofNat, Bytes.length_ofNat]
  · have hsame := BitField.bmod_toNat (Imm.ofSize v n).value hle
    rw [hvalue, Int.bmod_bmod, ← BitField.bmod_toNat v hle] at hsame
    rw [Bytes.toNat_ofNat, Bytes.toNat_ofNat, Nat.one_shiftLeft]
    have hmod := congrArg (· % ((2 ^ (8 * n) : Nat) : Int)) hsame
    simp only [Int.bmod_emod] at hmod
    exact_mod_cast hmod

theorem lastNumber_append (hn : n ∈ dataSizes) (front : Bytes) (v : Int64) :
    lastNumber n (front ++ Bytes.ofNat n v.toBitVec.toNat) = v.toInt.bmod (2 ^ (8 * n)) := by
  unfold lastNumber
  rw [List.length_append, Bytes.length_ofNat, Nat.add_sub_cancel, List.drop_left,
    toInt_readSigned_ofNat hn]

end Cut

theorem Slot.kind_of_imm {s : Slot} {i : Imm} {exact : Bool}
    (h : s.takes (.imm i) exact = true) : s.kind = .imm := by
  obtain ⟨hkind, -⟩ := Bool.and_eq_true_iff.mp h
  unfold SlotKind.takes at hkind
  cases hs : s.kind <;> rw [hs] at hkind <;> first | rfl | cases hkind

section Resized

variable {name : String} {operand : Option Nat} {imm n : Nat} {s : Slot} {x : Operand} {v : Int64}
  {i : Imm}

theorem exists_fits {exact : Bool} (htakes : s.takes (.imm (.unsized v)) exact = true)
    (h : resize name operand imm s (.imm (.unsized v)) = .ok x) :
    x = .imm (.ofSize v (s.numberSize imm)) ∧ Imm.fits v (s.numberSize imm) = true := by
  unfold resize Imm.unsized at h
  dsimp only at h
  obtain ⟨hguard, rfl⟩ := ok_of_unless h
  refine ⟨rfl, ?_⟩
  obtain ⟨-, hsize⟩ := Bool.and_eq_true_iff.mp htakes
  unfold Slot.numberSize
  by_cases hany : s.size = .any
  · rw [if_pos hany] at hguard ⊢
    simp only [hany, decide_true, Bool.true_and, Bool.not_eq_true', Bool.not_eq_false] at hguard
    split at hguard
    next hwide =>
      rw [of_decide_eq_true (Bool.and_eq_true_iff.mp hwide).1]
      exact Imm.fits_of_fitsSigned hguard
    next => exact hguard
  · rw [if_neg hany]
    have htaken : s.takesImm v exact = true := hsize
    unfold Slot.takesImm at htaken
    split at htaken
    next hs =>
      rw [hs]
      exact (Bool.and_eq_true_iff.mp htaken).2
    next hs =>
      rw [hs]
      exact htaken
    next hs =>
      rw [hs]
      exact htaken
    next hs =>
      rw [hs]
      rfl
    next hs => exact absurd hs hany
    next => cases htaken

theorem mem_dataSizes_of_operandSize (hn : n = 2 ∨ n = 4 ∨ n = 8) : min n 4 ∈ dataSizes := by
  rcases hn with rfl | rfl | rfl <;> decide

/-- A number in a slot for any size keeps its value modulo the range of the operand size. -/
theorem resized_wildcard (hn : n = 2 ∨ n = 4 ∨ n = 8) (hgiven : i.IsGiven) (hwidth : i.width ≤ 4)
    (h : resize name (some n) (min n 4) .ia (.imm i) = .ok x) :
    ∃ i' : Imm, x = .imm i' ∧ i'.width = min n 4 ∧ InSigned (8 * min n 4) i'.value.toInt ∧
      i'.value.toInt ≡ i.value.toInt [ZMOD (2 ^ (8 * n) : Nat)] := by
  have hsize := mem_dataSizes_of_operandSize hn
  have hpos := (bounds_of_mem_dataSizes hsize).1
  have hcut : (n = 8 → InSigned 32 i.value.toInt) → x = .imm (.ofSize i.value (min n 4)) →
      ∃ i' : Imm, x = .imm i' ∧ i'.width = min n 4 ∧ InSigned (8 * min n 4) i'.value.toInt ∧
        i'.value.toInt ≡ i.value.toInt [ZMOD (2 ^ (8 * n) : Nat)] := by
    intro hrange hx
    obtain ⟨hofWidth, hofValue⟩ := Imm.ofSize_spec hsize i.value
    refine ⟨_, hx, hofWidth, ?_, ?_⟩
    · rw [hofValue]
      exact inSigned_bmod (by omega) _
    · rw [hofValue]
      rcases hn with rfl | rfl | rfl
      · exact Int.bmod_emod
      · exact Int.bmod_emod
      · rw [show 8 * min 8 4 = 32 from rfl, bmod_of_inSigned (by decide) (hrange rfl)]
  obtain ⟨v, w⟩ := i
  unfold resize at h
  dsimp only at h
  rw [if_pos rfl] at h
  by_cases hzero : w = 0
  · subst hzero
    obtain ⟨hguard, hx⟩ := ok_of_unless h
    refine hcut (fun h8 => ?_) hx.symm
    subst h8
    exact Imm.inSigned_of_fitsSigned (by simpa using hguard)
  · have hrange : InSigned (8 * w) v.toInt := hgiven.resolve_left hzero
    have hx : (if w = min n 4 then Operand.imm ⟨v, w⟩ else .imm (.ofSize v (min n 4))) = x := by
      cases w with
      | zero => exact absurd rfl hzero
      | succ w => exact Except.ok.inj h
    by_cases hsame : w = min n 4
    · rw [if_pos hsame] at hx
      refine ⟨_, hx.symm, hsame, ?_, rfl⟩
      exact hsame ▸ hrange
    · rw [if_neg hsame] at hx
      refine hcut (fun _ => inSigned_mono hrange ?_) hx.symm
      have : w ≤ 4 := hwidth
      omega

end Resized

section Trailing

variable {c : Matcher} {inst : Inst} {ops settled : List Operand} {m : Match} {b : UInt8}
  {enc : Encoded Reloc} {s : Slot} {x : Operand}

/-- The numbers behind the opcode are the last thing in the code. -/
theorem trailing_of_emit (hemit : m.emit b = .ok enc) :
    ∃ front, enc.code = front ++ m.trailing.flatMap fun x => (trailingPiece x).code := by
  obtain ⟨bits, rex, -, -, -, hcode⟩ := Match.emit_spec hemit
  rw [hcode, Match.body, Match.tail, List.flatMap_map]
  simp only [← List.append_assoc]
  exact ⟨_, rfl⟩

theorem mem_trailing (hx : (s, x) ∈ m.slots) (htrailing : s.kind.isTrailing = true) :
    x ∈ m.trailing :=
  List.mem_map.mpr ⟨(s, x), List.mem_filter.mpr ⟨hx, htrailing⟩, rfl⟩

/-- Each of them stands there as a whole. -/
theorem exists_field (hemit : m.emit b = .ok enc) (hx : (s, x) ∈ m.slots)
    (htrailing : s.kind.isTrailing = true) :
    ∃ front back, enc.code = front ++ (trailingPiece x).code ++ back := by
  obtain ⟨front, hcode⟩ := trailing_of_emit hemit
  obtain ⟨before, after, hsplit⟩ := List.append_of_mem (mem_trailing hx htrailing)
  rw [hsplit, List.flatMap_append, List.flatMap_cons, ← List.append_assoc,
    ← List.append_assoc] at hcode
  exact ⟨_, _, hcode⟩

theorem Matched.map_slots (h : Matched c inst ops settled m) :
    m.slots.map (·.1) = m.form.slots :=
  List.map_fst_zip (Nat.le_of_eq h.length_slots)

theorem Matched.exists_front (h : Matched c inst ops settled m) (hemit : m.emit b = .ok enc)
    (hx : (s, x) ∈ m.slots) (htrailing : s.kind.isTrailing = true)
    (hone : m.form.slots.countP (·.kind.isTrailing) = 1) :
    ∃ front, enc.code = front ++ (trailingPiece x).code := by
  obtain ⟨front, hcode⟩ := trailing_of_emit hemit
  have hlength : m.trailing.length = 1 := by
    rw [Match.trailing, List.length_map, ← List.countP_eq_length_filter, ← hone, ← h.map_slots,
      List.countP_map]
    rfl
  obtain ⟨y, hy⟩ := List.length_eq_one_iff.mp hlength
  have hxy : x = y := by
    have hmem := mem_trailing hx htrailing
    rw [hy] at hmem
    exact List.mem_singleton.mp hmem
  rw [hy, List.flatMap_singleton, ← hxy] at hcode
  exact ⟨front, hcode⟩

end Trailing

/-- A form with one number behind its opcode, and prefixes that tell whether its other operands have
two, four or eight bytes. -/
structure Form.OneNumber (f : Form) : Prop where
  single : f.slots.countP (·.kind.isTrailing) = 1
  autoSize : f.has .autoSize = true
  autoNo32 : f.has .autoNo32 = false
  autoRexW : f.has .autoRexW = false
  autoVexL : f.has .autoVexL = false

instance (f : Form) : Decidable f.OneNumber :=
  decidable_of_iff (_ ∧ _ ∧ _ ∧ _ ∧ _)
    ⟨fun ⟨h1, h2, h3, h4, h5⟩ => ⟨h1, h2, h3, h4, h5⟩,
      fun ⟨h1, h2, h3, h4, h5⟩ => ⟨h1, h2, h3, h4, h5⟩⟩

theorem rows_oneNumber : ∀ row ∈ rows, Slot.ia ∈ row.form.slots → row.form.OneNumber := by
  have hforms : ∀ f ∈ families, ∀ g ∈ f.forms, Slot.ia ∈ g.slots → g.OneNumber := by
    decide +kernel
  exact fun row => form_of_mem_rows hforms

section Values

variable {c : Matcher} {inst : Inst} {ops : List Operand} {m : Match} {b : UInt8}
  {enc : Encoded Reloc} {s : Slot} {i : Imm} {v : Int64} {n : Nat}

theorem Matcher.Finds.resized (h : c.Finds inst ops m)
    (hi : (s, .imm i) ∈ m.form.slots.zip ops) :
    ∃ settled votes imm x, Matched c inst ops settled m ∧
      Sizing inst.name c.mode settled m votes imm ∧
        s.takes (.imm i) (m.form.has .exactSize) = true ∧ (s, x) ∈ m.slots ∧
          resize inst.name m.operandSize imm s (.imm i) = .ok x := by
  obtain ⟨hone, settled, votes, imm, hmatched, hsizing⟩ := h.sizing
  obtain ⟨y, hsettles, hy⟩ := exists_mem_zip (hmatched.memory.settles hone) hi
  obtain rfl : y = .imm i := by
    cases hsettles
    rfl
  obtain ⟨x, hx, hresize⟩ := (mem_zip_of_forall₂ hsizing.args).2 s _ hy
  exact ⟨settled, votes, imm, x, hmatched, hsizing,
    (Form.takes_iff.mp hmatched.takes).2.2.2 _ hy, hx, hresize⟩

theorem Matched.oneNumber {settled : List Operand} (h : Matched c inst ops settled m)
    (hia : .ia ∈ m.form.slots) : m.form.OneNumber := by
  obtain ⟨row, hrow, hform⟩ := h.mem_rows
  exact hform ▸ rows_oneNumber row hrow (hform ▸ hia)

theorem Form.OneNumber.exists_operandSize (h : m.form.OneNumber) {bits : SizeBits}
    (hbits : m.sizeBits = .ok bits) :
    ∃ n, m.operandSize = some n ∧ (n = 2 ∨ n = 4 ∨ n = 8) := by
  rcases operandSize_of_autoSize h.autoSize h.autoNo32 h.autoRexW h.autoVexL hbits with
    h2 | h4 | h8
  · exact ⟨2, h2, Or.inl rfl⟩
  · exact ⟨4, h4, Or.inr (Or.inl rfl)⟩
  · exact ⟨8, h8, Or.inr (Or.inr rfl)⟩

theorem Form.OneNumber.operandSize_cases (h : m.form.OneNumber) (hn : m.operandSize = some n)
    (hemit : m.emit b = .ok enc) : n = 2 ∨ n = 4 ∨ n = 8 := by
  obtain ⟨bits, rex, -, hbits, -⟩ := Match.emit_spec hemit
  obtain ⟨k, hk, hcases⟩ := h.exists_operandSize hbits
  obtain rfl := Option.some.inj (hn.symm.trans hk)
  exact hcases

theorem Matched.lastNumber_eq {settled : List Operand} (h : Matched c inst ops settled m)
    (hone : m.form.OneNumber) (hx : (s, .imm i) ∈ m.slots) (htrailing : s.kind.isTrailing = true)
    (hwidth : i.width ∈ dataSizes) (hemit : m.emit b = .ok enc) :
    lastNumber i.width enc.code = i.value.toInt.bmod (2 ^ (8 * i.width)) := by
  obtain ⟨front, hcode⟩ := h.exists_front hemit hx htrailing hone.single
  rw [hcode, show (trailingPiece (.imm i)).code =
    Bytes.ofNat i.width i.value.toBitVec.toNat from rfl, lastNumber_append hwidth]

theorem lastNumber_of_wildcard (h : c.Finds inst ops m)
    (hi : (.ia, .imm i) ∈ m.form.slots.zip ops) (hgiven : i.IsGiven)
    (hn : m.operandSize = some n) (hemit : m.emit b = .ok enc) :
    InSigned (8 * min n 4) (lastNumber (min n 4) enc.code) ∧
      lastNumber (min n 4) enc.code ≡ i.value.toInt [ZMOD (2 ^ (8 * n) : Nat)] := by
  obtain ⟨settled, votes, imm, x, hmatched, hsizing, htakes, hx, hresize⟩ := h.resized hi
  have hone : m.form.OneNumber := hmatched.oneNumber (List.of_mem_zip hi).1
  have hsize := hone.operandSize_cases hn hemit
  have hwidth : i.width ≤ 4 := by
    obtain ⟨-, hsuits⟩ := Bool.and_eq_true_iff.mp htakes
    obtain ⟨v, w⟩ := i
    cases w with
    | zero => exact Nat.zero_le 4
    | succ w => exact of_decide_eq_true hsuits
  obtain rfl := hsizing.operandSize_eq.2.2 n hn
  rw [hn] at hresize
  obtain ⟨i', rfl, hwidth', hrange, hcongr⟩ := resized_wildcard hsize hgiven hwidth hresize
  have hdata := mem_dataSizes_of_operandSize hsize
  have hpos := (bounds_of_mem_dataSizes hdata).1
  have hlast := hmatched.lastNumber_eq hone hx rfl (hwidth' ▸ hdata) hemit
  rw [hwidth', bmod_of_inSigned (by omega) hrange] at hlast
  rw [hlast]
  exact ⟨hrange, hcongr⟩

theorem field_of_unsized (h : c.Finds inst ops m)
    (hi : (s, .imm (.unsized v)) ∈ m.form.slots.zip ops) (hemit : m.emit b = .ok enc) :
    ∃ size front back, Imm.fits v size = true ∧
      enc.code = front ++ Bytes.ofNat size v.toBitVec.toNat ++ back := by
  obtain ⟨settled, votes, imm, x, hmatched, hsizing, htakes, hx, hresize⟩ := h.resized hi
  obtain ⟨rfl, hfits⟩ := exists_fits htakes hresize
  have htrailing : s.kind.isTrailing = true := by
    rw [Slot.kind_of_imm htakes]
    rfl
  obtain ⟨front, back, hcode⟩ := exists_field hemit hx htrailing
  rw [trailingPiece_ofSize (Imm.mem_dataSizes_of_fits hfits)] at hcode
  exact ⟨_, front, back, hfits, hcode⟩

end Values

/-! ### Moves of numbers to registers of eight bytes -/

def moveNumber (r : Register) (v : Int64) : List Operand := [.reg r, .imm (.unsized v)]

def moveHeld (r : Register) (v : Int64) : Scratch :=
  { inst := ⟨0x32da02d1⟩, args := [.plain (.reg r), .plain (.imm (.unsized v))] }

def moveShort : Form := ⟨[0xc7], [.autoSize], [], some 0, [.va, .ia]⟩

def moveLong : Form := ⟨[0xb8], [.withRexW, .shortArg], [], none, [.rq, .iq]⟩

def Form.movesWide (f : Form) : Bool :=
  match f.slots with
  | [s, t] => (s.size == .any || s.size == .qword) && t.kind == .imm
  | _ => false

def moveMatch (r : Register) (v : Int64) : Match where
  mode := .x64
  inst := ⟨0x32da02d1⟩
  row := if Imm.fitsSigned v then 732 else 734
  form := if Imm.fitsSigned v then moveShort else moveLong
  args := [.reg r, .imm (.ofSize v (if Imm.fitsSigned v then 4 else 8))]
  addrSize := 8
  operandSize := if Imm.fitsSigned v then some 8 else none

def moveCode (r : Register) (v : Int64) : Bytes :=
  if Imm.fitsSigned v then
    [0x48 + fourthBit r.num8, 0xc7, modByte 3 0 r.num8] ++ Bytes.ofNat 4 v.toBitVec.toNat
  else [0x48 + fourthBit r.num8, 0xb8 + (r.num8 &&& 7)] ++ Bytes.ofNat 8 v.toBitVec.toNat

theorem rows_movesWide : (⟨0x32da02d1⟩ : Inst).rows.filter (·.1.form.movesWide) =
    [(⟨"MOV", moveShort⟩, 732), (⟨"MOV", moveLong⟩, 734)] := by
  decide +kernel

section Moves

variable {r : Register} {v : Int64} {features : Features}

theorem movesWide_of_takes {f : Form} {mode : Mode} (hwidth : r.width = 8)
    (h : f.takes mode features (moveNumber r v) = true) : f.movesWide = true := by
  obtain ⟨-, -, hlength, hslots⟩ := Form.takes_iff.mp h
  obtain ⟨s, t, hst⟩ := List.length_eq_two.mp hlength
  rw [hst] at hslots
  obtain ⟨-, hs⟩ := Bool.and_eq_true_iff.mp (hslots (s, .reg r) List.mem_cons_self)
  have hkind : t.kind = .imm := Slot.kind_of_imm
    (hslots (t, .imm (.unsized v)) (List.mem_cons_of_mem _ List.mem_cons_self))
  have hsize : (s.size == .any || s.size == .qword) = true := by
    obtain ⟨kind, size⟩ := s
    unfold Slot.takesSize at hs
    dsimp only [Operand.width] at hs
    rw [hwidth] at hs
    cases size <;> first | rfl | cases hs
  unfold Form.movesWide
  rw [hst]
  dsimp only
  rw [hsize, hkind]
  rfl

theorem includes_none (features : Features) : features.includes (.ofList []) = true := by
  show (features.bits &&& 0 == 0) = true
  simp

theorem resizeHeld_moveHeld {name : String} {operand : Option Nat} {imm : Nat} {s t : Slot} :
    resizeHeld name operand imm [s, t] (moveHeld r v).args =
      match resize name operand imm t (.imm (.unsized v)) with
      | .error e => ((moveHeld r v).args, some e)
      | .ok a => ([.plain (.reg r), .plain a], none) := by
  show resizeHeld name operand imm [s, t] [.plain (.reg r), .plain (.imm (.unsized v))] = _
  rw [resizeHeld, show resize name operand imm s (.reg r) = .ok (.reg r) from rfl]
  dsimp only
  rw [resizeHeld]
  cases resize name operand imm t (.imm (.unsized v)) <;> rfl

/-- The row with four bytes takes every number, but can only size those that it gives back. -/
theorem yields_moveShort (hclass : r.class? = some .legacy) (hwidth : r.width = 8) :
    yields ⟨.x64, features⟩ (moveHeld r v) 8 (⟨"MOV", moveShort⟩, 732) =
      if Imm.fitsSigned v then some (moveMatch r v) else none := by
  have hgeneral : r.isGeneral = true := by
    rw [Register.isGeneral, Register.isClass, hclass]
    rfl
  have htakes : moveShort.takes .x64 features (moveHeld r v).operands = true := by
    refine Form.takes_iff.mpr ⟨includes_none features, fun h => absurd h (by decide), rfl, ?_⟩
    intro x hx
    rcases List.mem_pair.mp hx with rfl | rfl
    · show ((false || r.isGeneral) && (r.width == 2 || r.width == 4 || r.width == 8)) = true
      rw [hgeneral, hwidth]
      rfl
    · rfl
  have hsizes : ∀ name, sizesIn name .x64 moveShort (moveHeld r v).operands = .ok (some 8, 4) := by
    intro name
    show settleSizes name .x64 moveShort { anyOperand := true, operand := some r.width } = _
    rw [hwidth]
    rfl
  have himm : ∀ name, resize name (some 8) 4 .ia (.imm (.unsized v)) =
      if Imm.fitsSigned v then .ok (.imm (.ofSize v 4)) else .error (.immRange v 4 name) := by
    intro name
    show (if (true && !Imm.fitsSigned v) = true then Except.error (Refusal.immRange v 4 name)
      else .ok (Operand.imm (.ofSize v 4))) = _
    cases Imm.fitsSigned v <;> rfl
  unfold yields Scratch.resizeArgs
  rw [if_pos htakes, hsizes]
  dsimp only
  rw [show moveShort.slots = [.va, .ia] from rfl, resizeHeld_moveHeld, himm]
  unfold moveMatch
  by_cases hv : Imm.fitsSigned v = true
  · simp only [if_pos hv]
    rfl
  · simp only [if_neg hv]
    rfl

/-- The row with eight bytes takes and sizes every number. -/
theorem yields_moveLong (hclass : r.class? = some .legacy) (hwidth : r.width = 8)
    (hv : Imm.fitsSigned v = false) :
    yields ⟨.x64, features⟩ (moveHeld r v) 8 (⟨"MOV", moveLong⟩, 734) = some (moveMatch r v) := by
  have hgeneral : r.isGeneral = true := by
    rw [Register.isGeneral, Register.isClass, hclass]
    rfl
  have htakes : moveLong.takes .x64 features (moveHeld r v).operands = true := by
    refine Form.takes_iff.mpr ⟨includes_none features, fun h => absurd h (by decide), rfl, ?_⟩
    intro x hx
    rcases List.mem_pair.mp hx with rfl | rfl
    · show (r.isGeneral && 8 == r.width) = true
      rw [hgeneral, hwidth]
      rfl
    · rfl
  have hsizes : ∀ name, sizesIn name .x64 moveLong (moveHeld r v).operands = .ok (none, 4) :=
    fun _ => rfl
  unfold yields Scratch.resizeArgs
  rw [if_pos htakes, hsizes]
  dsimp only
  rw [show moveLong.slots = [.rq, .iq] from rfl, resizeHeld_moveHeld]
  unfold moveMatch
  rw [hv]
  rfl

theorem find_moveNumber (hclass : r.class? = some .legacy) (hwidth : r.width = 8) :
    Matcher.find ⟨.x64, features⟩ ⟨0x32da02d1⟩ ((moveNumber r v).map some) =
      .ok (moveMatch r v) := by
  have hhold : Scratch.hold ⟨0x32da02d1⟩ ((moveNumber r v).map some) = .ok (moveHeld r v) := by
    have hknown : (⟨0x32da02d1⟩ : Inst).isKnown = true := by decide +kernel
    unfold Scratch.hold
    rw [hknown]
    rfl
  have hprepared : Prepared ⟨.x64, features⟩ (moveHeld r v) (moveHeld r v) 8 := ⟨rfl, rfl⟩
  apply eq_ok_of_toOption
  rw [find_spec hhold hprepared rfl, yieldsFrom, List.drop_zero]
  have hfilter : (⟨0x32da02d1⟩ : Inst).rows.filterMap (yields ⟨.x64, features⟩ (moveHeld r v) 8) =
      ((⟨0x32da02d1⟩ : Inst).rows.filter (·.1.form.movesWide)).filterMap
        (yields ⟨.x64, features⟩ (moveHeld r v) 8) := by
    rw [List.filterMap_filter]
    refine List.filterMap_congr fun x _ => ?_
    cases hx : yields ⟨.x64, features⟩ (moveHeld r v) 8 x with
    | none => rw [ite_self]
    | some m => rw [if_pos (movesWide_of_takes hwidth (yields_eq_some.mp hx).1)]
  rw [show (moveHeld r v).inst = ⟨0x32da02d1⟩ from rfl, hfilter, rows_movesWide]
  rw [List.filterMap_cons, yields_moveShort hclass hwidth]
  by_cases hv : Imm.fitsSigned v = true
  · rw [if_pos hv]
    rfl
  · rw [if_neg hv]
    dsimp only
    rw [List.filterMap_cons, yields_moveLong hclass hwidth (Bool.eq_false_iff.mpr hv)]
    rfl

theorem rexNeed_of_legacy {m : Match} (hmode : m.mode = .x64) (hclass : r.class? = some .legacy)
    {s t : Slot} {i : Imm} (hslots : m.slots = [(s, .reg r), (t, .imm i)]) :
    m.rexNeed true = .ok true := by
  have hhigh : m.hasHighByte = false := by
    have hlow : r.isClass .highByte = false := by
      rw [Register.isClass, hclass]
      rfl
    unfold Match.hasHighByte
    rw [hslots]
    simp [Operand.reg?, hlow]
  unfold Match.rexNeed
  rw [hhigh, hmode]
  rfl

theorem rex_of_reg (r : Register) :
    Placement.rex { rm := some (.reg r) } true = 0x48 + fourthBit r.num8 := by
  have hfixed : (0x40 + 8 + 4 * fourthBit 0 + 2 * fourthBit 0 : UInt8) = 0x48 := by decide
  show 0x40 + 8 + 4 * fourthBit 0 + 2 * fourthBit 0 + fourthBit r.num8 = _
  rw [hfixed]

theorem emit_of_pieces {m : Match} {bits : SizeBits} {rex : Bool} {pieces : List Piece}
    (hbits : m.sizeBits = .ok bits) (hrex : m.rexNeed bits.wide = .ok rex)
    (hpieces : m.pieces 0 bits rex = pieces) : m.emit 0 = .ok (Piece.join pieces) := by
  rw [Match.emit_eq, show m.checkPrefix 0 = .ok () from rfl, hbits, mapError_ok, ok_bind, ok_bind,
    hrex, ok_bind, hpieces]
  rfl

theorem emit_moveMatch (hclass : r.class? = some .legacy) :
    (moveMatch r v).emit 0 = .ok ⟨moveCode r v, []⟩ := by
  by_cases hv : Imm.fitsSigned v = true
  · have hm : moveMatch r v = ⟨.x64, ⟨0x32da02d1⟩, 732, moveShort,
        [.reg r, .imm (.ofSize v 4)], 8, some 8⟩ := by
      unfold moveMatch
      simp only [if_pos hv]
    have hpieces : (moveMatch r v).pieces 0 { wide := true } true =
        [.bytes [Placement.rex { rm := some (.reg r) } true, 0xc7], .bytes [modByte 3 0 r.num8],
          .bytes [], trailingPiece (.imm (.ofSize v 4))] := by
      rw [hm]
      rfl
    rw [emit_of_pieces (by rw [hm]; rfl) (rexNeed_of_legacy rfl hclass (by rw [hm]; rfl)) hpieces,
      rex_of_reg, trailingPiece_ofSize (by decide), moveCode, if_pos hv]
    simp [Piece.join]
  · have hm : moveMatch r v = ⟨.x64, ⟨0x32da02d1⟩, 734, moveLong,
        [.reg r, .imm (.ofSize v 8)], 8, none⟩ := by
      unfold moveMatch
      simp only [if_neg hv]
    have hpieces : (moveMatch r v).pieces 0 { wide := true } true =
        [.bytes [Placement.rex { rm := some (.reg r) } true, 0xb8 + (r.num8 &&& 7)], .bytes [],
          trailingPiece (.imm (.ofSize v 8))] := by
      rw [hm]
      rfl
    rw [emit_of_pieces (by rw [hm]; rfl) (rexNeed_of_legacy rfl hclass (by rw [hm]; rfl)) hpieces,
      rex_of_reg, trailingPiece_ofSize (by decide), moveCode, if_neg hv]
    simp [Piece.join]

/-- Every number is moved to a register of eight bytes, in the short form where it can be. -/
theorem encodeInst_moveNumber (hclass : r.class? = some .legacy) (hwidth : r.width = 8) :
    Encoder.encodeInst ⟨.x64, features⟩ 0 ⟨0x32da02d1⟩ ((moveNumber r v).map some) =
      .ok ⟨moveCode r v, []⟩ := by
  unfold Encoder.encodeInst
  rw [find_moveNumber hclass hwidth, mapError_ok, ok_bind, emit_moveMatch hclass]

end Moves

structure KeepsNumbers (c : Matcher) (inst : Inst) (ops : List Operand) : Prop where
  /-- In a slot for any size the field, sign-extended, is the number modulo the range of the operand
  size; next to operands of eight bytes it is the number. -/
  wildcard : ∀ {m i n b enc}, c.Finds inst ops m → (Slot.ia, Operand.imm i) ∈ m.form.slots.zip ops →
    i.IsGiven → m.operandSize = some n → m.emit b = .ok enc →
      lastNumber (min n 4) enc.code ≡ i.value.toInt [ZMOD (2 ^ (8 * n) : Nat)] ∧
        (n = 8 → lastNumber (min n 4) enc.code = i.value.toInt ∧ InSigned 32 i.value.toInt)
  /-- No number without a size loses a digit, in any slot. -/
  whole : ∀ {m s v b enc}, c.Finds inst ops m →
    (s, Operand.imm (.unsized v)) ∈ m.form.slots.zip ops → m.emit b = .ok enc →
      ∃ size front back, Imm.fits v size = true ∧
        enc.code = front ++ Bytes.ofNat size v.toBitVec.toNat ++ back
  /-- A row that can not hold a number is passed over, and only if there is no other one the
  operands are refused. -/
  first : ∀ {s settled addrSize}, Scratch.hold inst (ops.map some) = .ok s →
    Prepared c s settled addrSize → c.mode.hasAddrSize addrSize = true →
      (c.find inst (ops.map some)).toOption = inst.rows.findSome? (yields c settled addrSize)

/-- A number of four bytes that is the same modulo the range of eight is the number itself. -/
theorem eq_of_modEq {x : Int} {v : Int64} (hrange : InSigned 32 x)
    (hcongr : x ≡ v.toInt [ZMOD (2 ^ 64 : Nat)]) : x = v.toInt :=
  calc x = x.bmod (2 ^ 64) := (bmod_of_inSigned (by decide) (inSigned_mono hrange (by decide))).symm
    _ = (x % (2 ^ 64 : Nat)).bmod (2 ^ 64) := (Int.emod_bmod ..).symm
    _ = (v.toInt % (2 ^ 64 : Nat)).bmod (2 ^ 64) := by rw [hcongr]
    _ = v.toInt.bmod (2 ^ 64) := Int.emod_bmod ..
    _ = v.toInt := bmod_of_inSigned (by decide) (inSigned_sixtyFour v)

theorem keepsNumbers (c : Matcher) (inst : Inst) (ops : List Operand) :
    KeepsNumbers c inst ops where
  wildcard := by
    intro m i n b enc hfinds hi hgiven hn hemit
    obtain ⟨hrange, hcongr⟩ := lastNumber_of_wildcard hfinds hi hgiven hn hemit
    refine ⟨hcongr, ?_⟩
    rintro rfl
    have hsame := eq_of_modEq hrange hcongr
    exact ⟨hsame, hsame ▸ hrange⟩
  whole := field_of_unsized
  first := by
    intro s settled addrSize hhold hprepared hsize
    obtain ⟨ops', -, hholds⟩ := holds_of_hold hhold
    rw [find_spec hhold hprepared hsize, yieldsFrom, List.drop_zero, List.head?_filterMap,
      inst_of_settle hprepared.settled, hholds.inst]

/-- Numbers keep their value. What a matcher finds for some operands has their numbers in fields
that hold them, and a number that no short field holds still reaches a long one: every number can be
moved to a register of eight bytes. -/
theorem numbers_keep_value (c : Matcher) (inst : Inst) (ops : List Operand) :
    KeepsNumbers c inst ops ∧
      ∀ (r : Register) (v : Int64) (features : Features), r.class? = some .legacy → r.width = 8 →
        Encoder.encodeInst ⟨.x64, features⟩ 0 ⟨0x32da02d1⟩ ((moveNumber r v).map some) =
          .ok ⟨moveCode r v, []⟩ :=
  ⟨keepsNumbers c inst ops, fun _ _ _ => encodeInst_moveNumber⟩

def addWord : List Operand := [.reg (.make .legacy 8 3), .imm ⟨-5, 2⟩]

theorem numbers_keep_value_added :
    (∃ m, Matcher.Finds ⟨.x64, .everything⟩ ⟨0x00ee0013⟩ addWord m ∧
      (Slot.ia, Operand.imm ⟨-5, 2⟩) ∈ m.form.slots.zip addWord ∧ (⟨-5, 2⟩ : Imm).IsGiven ∧
        m.operandSize = some 8 ∧
          m.emit 0 = .ok ⟨[0x48, 0x81, 0xc3, 0xfb, 0xff, 0xff, 0xff], []⟩ ∧
            lastNumber (min 8 4) [0x48, 0x81, 0xc3, 0xfb, 0xff, 0xff, 0xff] =
              (-5 : Int64).toInt) ∧
    Encoder.encodeInst ⟨.x64, .everything⟩ 0 ⟨0x32da02d1⟩
      ((moveNumber (.make .legacy 8 9) 0x1122334455667788).map some) =
        .ok ⟨[0x49, 0xb9, 0x88, 0x77, 0x66, 0x55, 0x44, 0x33, 0x22, 0x11], []⟩ := by
  obtain ⟨hkeeps, hmoves⟩ := numbers_keep_value ⟨.x64, .everything⟩ ⟨0x00ee0013⟩ addWord
  constructor
  · have hfind : ((Matcher.find ⟨.x64, .everything⟩ ⟨0x00ee0013⟩
        (addWord.map some)).toOption.any fun m =>
          (m.form.slots.zip addWord).contains (.ia, .imm ⟨-5, 2⟩) && m.operandSize == some 8 &&
            decide (m.emit 0 = .ok ⟨[0x48, 0x81, 0xc3, 0xfb, 0xff, 0xff, 0xff], []⟩)) = true := by
      decide +kernel
    obtain ⟨m, hm, hspec⟩ := exists_eq_ok hfind
    simp only [Bool.and_eq_true, List.contains_iff_mem, beq_iff_eq, decide_eq_true_eq] at hspec
    obtain ⟨⟨hi, hn⟩, hemit⟩ := hspec
    have hgiven : (⟨-5, 2⟩ : Imm).IsGiven := Or.inr (by decide)
    have hfinds := finds_of_find hm
    exact ⟨m, hfinds, hi, hgiven, hn, hemit, ((hkeeps.wildcard hfinds hi hgiven hn hemit).2 rfl).1⟩
  · exact hmoves (.make .legacy 8 9) 0x1122334455667788 .everything (by decide) (by decide)

end MachineCode.X86
