import MachineCode.Proofs.X86.Prefixes

/-!
Emitted instructions as they are read. Of every row, the processor finds the opcode where it is,
and in front of it the prefixes that the match asked for.
-/
namespace MachineCode.X86

def Piece.code : Piece → Bytes
  | bytes bs => bs
  | field size _ _ _ => List.replicate size 0

theorem Piece.code_join (ps : List Piece) : (Piece.join ps).code = ps.flatMap Piece.code := by
  induction ps with
  | nil => rfl
  | cons p ps ih =>
    rw [List.flatMap_cons, ← ih]
    cases p <;> rfl

section Plain

variable {mode : Mode} {pre : Prefixes} {op body : Bytes}

theorem decodeOpcode_plain
    (hopens : ∀ first second rest, op ++ body = first :: second :: rest →
      opensVector mode first second = false)
    (hlength : opcodeLength (op ++ body) = op.length) :
    decodeOpcode mode pre (op ++ body) =
      { mode, segment := pre.segment, otherSize := pre.otherSize, short := pre.short, rex := pre.rex
        bits := (pre.rex.map rexBits).getD {}
        vector := none
        opcode := op, body } := by
  have htake : (op ++ body).take op.length = op := List.take_left' rfl
  have hdrop : (op ++ body).drop op.length = body := List.drop_left' rfl
  unfold decodeOpcode
  dsimp only
  rw [hlength, htake, hdrop]
  split
  next first second third rest heq =>
    rw [hopens first second (third :: rest) heq]
    rfl
  · rfl

structure Follows (f : Form) (body : Bytes) : Prop where
  mem : f.needsMem = true → ∃ b rest, body = b :: rest ∧ b.toNat < 192
  digit : f.digit = some 0 → f.places = [.rm] → f.has .shortArg = false →
    ∀ b ∈ body.head?, b.toNat % 64 < 8

theorem stops_of_legible {f : Form} (hlegible : f.legible op = true)
    (hmode : f.has .x86Only = true → mode = .x86) : ∃ b rest, op = b :: rest ∧ Stops mode b := by
  cases op with
  | nil => simp [Form.legible] at hlegible
  | cons b rest =>
    unfold Form.legible at hlegible
    simp only [Bool.and_eq_true, Bool.not_eq_true', bne_iff_ne, Bool.or_eq_true] at hlegible
    obtain ⟨⟨⟨hlegacy, hwait⟩, hrex⟩, -⟩ := hlegible
    refine ⟨b, rest, rfl, hlegacy, ?_, hwait⟩
    rintro rfl
    exact hrex.resolve_right fun h => Mode.noConfusion (hmode h)

theorem opensVector_eq_false {first second : UInt8}
    (hvex : first = 0xc4 ∨ first = 0xc5 → mode = .x86 ∧ second.toNat < 192)
    (hxop : first = 0x8f → second.toNat % 64 < 8) : opensVector mode first second = false := by
  unfold opensVector
  by_cases h : first = 0xc4 ∨ first = 0xc5
  · obtain ⟨rfl, hless⟩ := hvex h
    have hnot : ¬ (0xc0 : UInt8) ≤ second := fun hle => by
      have := UInt8.le_iff_toNat_le.mp hle
      simp at this
      omega
    rcases h with rfl | rfl <;> simp [hnot]
  · rw [not_or] at h
    by_cases h8f : first = 0x8f
    · have hless : ¬ 8 ≤ second.toNat % 32 := by
        have := hxop h8f
        omega
      subst h8f
      simp [hless]
    · simp [h.1, h.2, h8f]

theorem opcodeLength_one {first : UInt8} (hmap : first ≠ 0x0f)
    (hfloat : first.toNat / 8 = 27 → ∀ b ∈ body.head?, b.toNat < 192) :
    opcodeLength (first :: body) = 1 := by
  unfold opcodeLength
  split
  next heq => exact absurd (List.cons.inj heq).1 hmap
  next first' second rest _ heq =>
    obtain ⟨rfl, rfl⟩ := List.cons.inj heq
    refine if_neg ?_
    rw [Bool.and_eq_true, beq_iff_eq, decide_eq_true_eq, not_and]
    intro h27 hle
    have hle := UInt8.le_iff_toNat_le.mp hle
    have hless := hfloat h27 second rfl
    simp at hle
    omega
  · rfl

theorem decodeOpcode_of_legible {f : Form} (hlegible : f.legible op = true)
    (hmode : f.has .x86Only = true → mode = .x86) (hfollows : Follows f body) :
    decodeOpcode mode pre (op ++ body) =
      { mode, segment := pre.segment, otherSize := pre.otherSize, short := pre.short, rex := pre.rex
        bits := (pre.rex.map rexBits).getD {}
        vector := none
        opcode := op, body } := by
  obtain ⟨first, rest, rfl, -⟩ := stops_of_legible hlegible hmode
  unfold Form.legible at hlegible
  rw [Bool.and_eq_true] at hlegible
  obtain ⟨-, hlegible⟩ := hlegible
  split at hlegible
  · simp only [Bool.and_eq_true, bne_iff_ne, Bool.or_eq_true] at hlegible
    obtain ⟨⟨hmap, hfloat⟩, hvector⟩ := hlegible
    have hmem : f.needsMem = true → ∀ b ∈ body.head?, b.toNat < 192 := by
      intro h b hb
      obtain ⟨b', rest, rfl, hless⟩ := hfollows.mem h
      cases hb
      exact hless
    apply decodeOpcode_plain
    · rintro first' second rest heq
      obtain ⟨rfl, rfl⟩ := List.cons.inj heq
      apply opensVector_eq_false
      · intro h
        rw [if_pos (by simpa using h), Bool.and_eq_true] at hvector
        exact ⟨hmode hvector.1, hmem hvector.2 second rfl⟩
      · rintro rfl
        have hdigit : (f.digit = some 0 ∧ f.places = [.rm]) ∧ f.has .shortArg = false := by
          simpa using hvector
        exact hfollows.digit hdigit.1.1 hdigit.1.2 hdigit.2 second rfl
    · exact opcodeLength_one hmap fun h27 => hmem (hfloat.resolve_left (not_not.mpr h27))
  next second =>
    have hcode : ∀ b : UInt8, b = 0xc4 ∨ b = 0xc5 ∨ b = 0x8f → b ≠ 0x0f ∧ b.toNat / 8 ≠ 27 := by
      rintro b (rfl | rfl | rfl) <;> decide
    have hfirst : ¬ (first = 0xc4 ∨ first = 0xc5 ∨ first = 0x8f) := by
      intro hopens
      obtain ⟨h0f, h27⟩ := hcode first hopens
      simp [h0f, h27] at hlegible
    apply decodeOpcode_plain
    · intro first' second' rest heq
      obtain ⟨rfl, -⟩ := List.cons.inj heq
      exact opensVector_eq_false (fun h => absurd (h.imp_right Or.inl) hfirst)
        (fun h => absurd (Or.inr (Or.inr h)) hfirst)
    · by_cases h0f : first = 0x0f
      · subst h0f
        have hsecond : (second == 0x38 || second == 0x3a) = false := by simpa using hlegible
        simp [opcodeLength, hsecond]
      · have hfloat : (first.toNat / 8 == 27 && 0xc0 ≤ second) = true := by
          simpa [h0f] using hlegible
        simp [opcodeLength, hfloat]
  next second third =>
    simp only [Bool.and_eq_true, beq_iff_eq] at hlegible
    obtain ⟨rfl, hsecond⟩ := hlegible
    apply decodeOpcode_plain
    · intro first' second' rest heq
      obtain ⟨rfl, -⟩ := List.cons.inj heq
      exact opensVector_eq_false (fun h => absurd h (by decide)) (fun h => absurd h (by decide))
    · simp [opcodeLength, hsecond]
  · cases hlegible

end Plain

namespace Match

def front (m : Match) (b : UInt8) : Bytes :=
  (if b = 0 then [] else [b]) ++ ((m.mem?.bind (·.seg)).map segmentPrefix).toList ++
    (if m.addrPrefix then [0x67] else [])

def tail (m : Match) : Bytes :=
  (if m.form.has .immOp then [m.form.opcode.getLastD 0] else []) ++
    m.placement.lastBytes ++ (m.trailing.map trailingPiece).flatMap Piece.code

def body (m : Match) : Bytes := (m.addressPieces m.placement).flatMap Piece.code ++ m.tail

def head (m : Match) (b : UInt8) (bits : SizeBits) (rex : Bool) : Bytes :=
  m.front b ++ (m.formPrefixes m.placement bits rex m.form.code).1 ++
    m.opcodeBytes m.placement (m.formPrefixes m.placement bits rex m.form.code).2

def after (m : Match) : Bytes :=
  (if m.form.has .immOp then [m.form.opcode.getLastD 0] else []) ++ m.placement.lastBytes

def pieces (m : Match) (b : UInt8) (bits : SizeBits) (rex : Bool) : List Piece :=
  .bytes (m.head b bits rex) :: m.addressPieces m.placement ++ [.bytes m.after] ++
    m.trailing.map trailingPiece

theorem emit_eq (m : Match) (b : UInt8) : m.emit b = (do
    m.checkPrefix b
    let bits ← m.sizeBits.mapError (.size m.inst.name)
    let rex ← m.rexNeed bits.wide
    return Piece.join (m.pieces b bits rex)) := rfl

theorem emit_eq_ok {m : Match} {b : UInt8} {enc : Encoded Reloc} (h : m.emit b = .ok enc) :
    ∃ bits rex, m.checkPrefix b = .ok () ∧ m.sizeBits = .ok bits ∧ m.rexNeed bits.wide = .ok rex ∧
      enc = Piece.join (m.pieces b bits rex) := by
  rw [emit_eq] at h
  obtain ⟨⟨⟩, hallowed, h⟩ := bind_eq_ok h
  obtain ⟨bits, hbits, h⟩ := bind_eq_ok h
  obtain ⟨rex, hrex, h⟩ := bind_eq_ok h
  exact ⟨bits, rex, hallowed, mapError_eq_ok hbits, hrex, (Except.ok.inj h).symm⟩

theorem emit_spec {m : Match} {b : UInt8} {enc : Encoded Reloc} (h : m.emit b = .ok enc) :
    ∃ bits rex, m.checkPrefix b = .ok () ∧ m.sizeBits = .ok bits ∧ m.rexNeed bits.wide = .ok rex ∧
      enc.code = m.front b ++ (m.formPrefixes m.placement bits rex m.form.code).1 ++
        m.opcodeBytes m.placement (m.formPrefixes m.placement bits rex m.form.code).2 ++
          m.body := by
  obtain ⟨bits, rex, hallowed, hbits, hrex, rfl⟩ := emit_eq_ok h
  refine ⟨bits, rex, hallowed, hbits, hrex, ?_⟩
  rw [Piece.code_join, pieces, List.flatMap_append, List.flatMap_append, List.flatMap_cons]
  simp only [head, after, body, tail, Piece.code, List.flatMap_cons, List.flatMap_nil,
    List.append_nil, List.append_assoc]

end Match

inductive Form.Chooses (f : Form) (mode : Mode) (n : Nat) (bits : SizeBits) : Prop
  | no32 (h : f.has .autoNo32 = true)
    (hbits : n = 2 ∧ { short := true } = bits ∨ n = mode.addrSize ∧ {} = bits)
  | rexW (hno32 : f.has .autoNo32 = false) (h : f.has .autoRexW = true)
    (hbits : n = 8 ∧ { wide := true } = bits ∨ n = 4 ∧ {} = bits)
  | vexL (hno32 : f.has .autoNo32 = false) (hrexW : f.has .autoRexW = false)
    (h : f.has .autoVexL = true) (hbits : n = 32 ∧ { long := true } = bits ∨ n = 16 ∧ {} = bits)
  | any (hno32 : f.has .autoNo32 = false) (hrexW : f.has .autoRexW = false)
    (hvexL : f.has .autoVexL = false) (h : f.has .autoSize = true)
    (hbits : n = 2 ∧ { short := true } = bits ∨ n = 8 ∧ { wide := true } = bits ∨ n = 4 ∧ {} = bits)

theorem Form.Chooses.sizes {f : Form} {mode : Mode} {n : Nat} {bits : SizeBits}
    (h : f.Chooses mode n bits) : f.sizes = true := by
  unfold Form.sizes
  cases h <;> simp [*]

/-- Only forms that leave their size open have an operand size to choose prefixes by. -/
theorem Match.autoSize_cases {m : Match} {auto : SizeBits} (h : m.autoSize = .ok auto) :
    m.form.sizes = false ∧ {} = auto ∨
      ∃ n, m.operandSize = some n ∧ m.form.Chooses m.mode n auto := by
  unfold autoSize at h
  dsimp only at h
  by_cases hsizes : m.form.sizes = true
  · refine Or.inr ?_
    have hsome := hsizes
    unfold Form.sizes at hsome
    rw [hsome, Bool.not_true, if_neg Bool.false_ne_true] at h
    cases hn : m.operandSize with
    | none =>
      rw [hn] at h
      cases h
    | some n =>
      rw [hn] at h
      dsimp only at h
      refine ⟨n, rfl, ?_⟩
      by_cases hno32 : m.form.has .autoNo32 = true
      · rw [if_pos hno32] at h
        exact .no32 hno32 (eq_ok_of_choice h)
      rw [if_neg hno32] at h
      rw [Bool.not_eq_true] at hno32
      by_cases hrexW : m.form.has .autoRexW = true
      · rw [if_pos hrexW] at h
        exact .rexW hno32 hrexW (eq_ok_of_choice h)
      rw [if_neg hrexW] at h
      rw [Bool.not_eq_true] at hrexW
      by_cases hvexL : m.form.has .autoVexL = true
      · rw [if_pos hvexL] at h
        exact .vexL hno32 hrexW hvexL (eq_ok_of_choice h)
      rw [if_neg hvexL] at h
      rw [Bool.not_eq_true] at hvexL
      have hany : m.form.has .autoSize = true := by simpa [hno32, hrexW, hvexL] using hsome
      refine .any hno32 hrexW hvexL hany ?_
      by_cases htwo : n = 2
      · rw [if_pos htwo] at h
        exact Or.inl ⟨htwo, Except.ok.inj h⟩
      · rw [if_neg htwo] at h
        exact Or.inr (eq_ok_of_choice h)
  · have hnone := Bool.eq_false_iff.mpr hsizes
    refine Or.inl ⟨hnone, ?_⟩
    unfold Form.sizes at hnone
    rw [hnone] at h
    exact Except.ok.inj h

def IsNeutral (b : UInt8) : Prop := b = 0xf0 ∨ b = 0xf2 ∨ b = 0xf3

theorem scan_neutral {mode : Mode} {bs : Bytes} (h : ∀ b ∈ bs, IsNeutral b) {p : Prefixes}
    (hp : p.rex = none) (rest : Bytes) : scan mode p (bs ++ rest) = scan mode p rest := by
  induction bs with
  | nil => rfl
  | cons b bs ih =>
    obtain ⟨hb, hbs⟩ := List.forall_mem_cons.mp h
    have hspec : isLegacyPrefix b = true ∧ segmentOf? b = none ∧ (b == 0x67) = false ∧
        (b == 0x66) = false := by
      rcases hb with rfl | rfl | rfl <;> decide
    have hadd : p.add b = p := by
      rw [Prefixes.add, hspec.2.1, hspec.2.2.1, hspec.2.2.2, Option.none_or, Bool.or_false,
        Bool.or_false, ← hp]
    rw [List.cons_append, scan, if_pos hspec.1, hadd, ih hbs]

theorem add_segmentPrefix {s : Register} (h : s.num < 6) (p : Prefixes) :
    isLegacyPrefix (segmentPrefix s) = true ∧
      p.add (segmentPrefix s) = { p with segment := some s.num, rex := none } := by
  have hall : ∀ n < 6,
      let b : UInt8 := ([0x26, 0x2e, 0x36, 0x3e, 0x64, 0x65][n]?).getD 0
      isLegacyPrefix b = true ∧ segmentOf? b = some n ∧ (b == 0x67) = false ∧
        (b == 0x66) = false := by
    decide
  obtain ⟨hlegacy, hnum, haddress, hoperand⟩ := hall s.num h
  refine ⟨hlegacy, ?_⟩
  rw [Prefixes.add, segmentPrefix, hnum, haddress, hoperand, Bool.or_false, Bool.or_false]
  rfl

namespace Match

variable {m : Match} {b : UInt8}

theorem neutral_of_checkPrefix (h : m.checkPrefix b = .ok ()) :
    ∀ x ∈ if b = 0 then [] else [b], IsNeutral x := by
  intro x hx
  by_cases hzero : b = 0
  · rw [if_pos hzero] at hx
    cases hx
  · rw [if_neg hzero] at hx
    obtain rfl := List.mem_singleton.mp hx
    unfold checkPrefix at h
    dsimp only at h
    rw [if_neg hzero] at h
    unfold IsNeutral
    by_cases hf0 : x = 0xf0
    · exact Or.inl hf0
    · rw [if_neg (by exact hf0)] at h
      by_cases hf3 : x = 0xf3
      · exact Or.inr (Or.inr hf3)
      · rw [if_neg (by exact hf3)] at h
        by_cases hf2 : x = 0xf2
        · exact Or.inr (Or.inl hf2)
        · rw [if_neg (by exact hf2)] at h
          cases h

theorem neutral_of_mandatory : ∀ x ∈ m.mandatory.toList, IsNeutral x := by
  intro x hx
  unfold mandatory at hx
  split at hx
  · exact Or.inl (List.mem_singleton.mp hx)
  · split at hx
    · exact Or.inr (Or.inl (List.mem_singleton.mp hx))
    · split at hx
      · exact Or.inr (Or.inr (List.mem_singleton.mp hx))
      · cases hx

def segment? (m : Match) : Option Register := m.mem?.bind (·.seg)

theorem scan_front {mode : Mode} (hallowed : m.checkPrefix b = .ok ())
    (hseg : ∀ s ∈ m.segment?, s.num < 6) (rest : Bytes) :
    scan mode {} (m.front b ++ rest) =
      scan mode { segment := m.segment?.map (·.num), otherSize := m.addrPrefix } rest := by
  have hsize : ∀ p : Prefixes, p.otherSize = false → p.rex = none →
      scan mode p ((if m.addrPrefix then [0x67] else []) ++ rest) =
        scan mode { p with otherSize := m.addrPrefix } rest := by
    rintro ⟨segment, -, short, -⟩ rfl rfl
    have hlegacy : ∀ c ∈ [(0x67 : UInt8)], isLegacyPrefix c = true :=
      List.forall_mem_singleton.mpr rfl
    cases m.addrPrefix with
    | false => rfl
    | true =>
      rw [if_pos rfl, scan_legacy hlegacy, List.foldl_cons, List.foldl_nil]
      cases short <;> rfl
  have hfront : m.front b = (if b = 0 then [] else [b]) ++
      ((m.segment?.map segmentPrefix).toList ++ (if m.addrPrefix then [0x67] else [])) :=
    List.append_assoc _ _ _
  rw [hfront, List.append_assoc, List.append_assoc,
    scan_neutral (neutral_of_checkPrefix hallowed) rfl]
  cases hs : m.segment? with
  | none => exact hsize {} rfl rfl
  | some s =>
    obtain ⟨hlegacy, hadd⟩ := add_segmentPrefix (hseg s hs) {}
    rw [Option.map_some, Option.toList_some, scan_legacy (by simpa using hlegacy),
      List.foldl_cons, List.foldl_nil, hadd, hsize _ rfl rfl]
    rfl

def prefCode (m : Match) (bits : SizeBits) : UInt8 :=
  if bits.short then 1
  else if m.mandatory == some 0xf3 then 2
  else if m.mandatory == some 0xf2 then 3
  else 0

def vectorPrefix (m : Match) (bits : SizeBits) : VectorPrefix :=
  ⟨m.form.has .vex, (m.form.code.headD 0).toNat % 32, bits.wide, m.placement.extraNum.toNat,
    bits.long, (m.prefCode bits).toNat % 4⟩

def opcode (m : Match) : Bytes := m.form.codeWith (regNum8 (m.placement.rm.bind (·.reg?)) &&& 7)

end Match

/-- An instruction that is read as it was to be emitted. Without a REX prefix all fourth bits are
read as zeros. A form that begins with an FWAIT has its prefixes in front of that, so they are not
read with the instruction. -/
structure Framed (m : Match) (asked : SizeBits) (d : Decoded) : Prop where
  mode : d.mode = m.mode
  segment : d.segment = m.segment?.map (·.num)
  otherSize : d.otherSize = m.addrPrefix
  bits : d.bits = m.placement.bits ∨ m.needsRex = false ∧ d.bits = {}
  body : d.body = m.body
  gathers : d.gathers = m.form.gathers
  vector : d.vector = if m.form.isVector then some (m.vectorPrefix asked) else none
  opcode : m.form.isVector = false → m.form.code.headD 0 ≠ 0x9b → d.opcode = m.opcode
  tail : m.form.isVector = true → d.opcode = m.form.code.tail
  rex : m.form.code.headD 0 ≠ 0x9b →
    d.rex.isSome = (!m.form.isVector && (asked.wide || m.needsRex))
  wide : m.form.code.headD 0 ≠ 0x9b → d.wide = asked.wide
  short : m.form.isVector = false → m.form.code.headD 0 ≠ 0x9b → d.short = asked.short

section Framed

variable {m : Match} {bits : SizeBits} {rex : Bool} {b : UInt8}

theorem stops_of_vex {p : Placement} {isVex : Bool} {map pref : UInt8} (mode : Mode) :
    ∃ first rest, p.vex isVex map pref bits = first :: rest ∧ Stops mode first := by
  unfold Placement.vex
  dsimp only
  split
  · exact ⟨_, _, rfl, by decide, fun _ => by decide, by decide⟩
  · refine ⟨_, _, rfl, ?_⟩
    cases isVex <;> exact ⟨by decide, fun _ => by decide, by decide⟩

theorem stops_of_longVex {p : Placement} {isVex : Bool} {map pref : UInt8} (mode : Mode) :
    ∃ first rest, p.longVex isVex map pref bits = first :: rest ∧ Stops mode first := by
  refine ⟨_, _, rfl, ?_⟩
  cases isVex <;> exact ⟨by decide, fun _ => by decide, by decide⟩

theorem decode_vector (hallowed : m.checkPrefix b = .ok ()) (hseg : ∀ s ∈ m.segment?, s.num < 6)
    {vex : Bytes} (hsaid : m.placement.Says m.mode (m.form.has .vex) (m.form.code.headD 0)
      (m.prefCode bits) bits vex)
    (hstops : ∃ first rest, vex = first :: rest ∧ Stops m.mode first) (op : UInt8)
    (body : Bytes) : decode m.mode (m.front b ++ vex ++ op :: body) =
      { mode := m.mode, segment := m.segment?.map (·.num), otherSize := m.addrPrefix
        short := false, rex := none, bits := m.placement.bits
        vector := some (m.vectorPrefix bits), opcode := [op], body } := by
  obtain ⟨first, rest, hvex, hstops⟩ := hstops
  unfold decode
  rw [List.append_assoc, Match.scan_front hallowed hseg, hvex, List.cons_append, scan_stop hstops,
    ← List.cons_append, ← hvex]
  exact hsaid _ op body

/-- The opcode of a vector form is one byte behind the number of its map. -/
theorem formPrefixes_vector (bits : SizeBits) (rex : Bool) (hregular : m.form.Regular)
    (hvector : m.form.isVector = true) :
    ∃ op, m.form.code.tail = [op] ∧ m.formPrefixes m.placement bits rex m.form.code =
      (m.placement.vex (m.form.has .vex) (m.form.code.headD 0) (m.prefCode bits) bits, [op]) ∧
        m.opcodeBytes m.placement [op] = [op] := by
  obtain ⟨hlength, -, hshort⟩ := hregular.vector hvector
  obtain ⟨map, op, hcode⟩ := List.length_eq_two.mp hlength
  refine ⟨op, by rw [hcode]; rfl, ?_, ?_⟩
  · unfold Match.formPrefixes
    rw [if_pos hvector, hcode]
    rfl
  · unfold Match.opcodeBytes
    rw [hshort, if_neg Bool.false_ne_true]

theorem framed_vector (hregular : m.form.Regular) (hvector : m.form.isVector = true)
    (hallowed : m.checkPrefix b = .ok ()) (hseg : ∀ s ∈ m.segment?, s.num < 6)
    (hencodable : m.placement.Encodable m.mode) :
    Framed m bits (decode m.mode (m.front b ++
      (m.formPrefixes m.placement bits rex m.form.code).1 ++
        m.opcodeBytes m.placement (m.formPrefixes m.placement bits rex m.form.code).2 ++
          m.body)) := by
  obtain ⟨op, htail, hpre, hop⟩ := formPrefixes_vector bits rex hregular hvector
  rw [hpre, hop, List.append_assoc, List.singleton_append, decode_vector hallowed hseg
    (says_vex hencodable (hregular.vector hvector).2.1) (stops_of_vex m.mode)]
  exact {
    mode := rfl
    segment := rfl
    otherSize := rfl
    bits := Or.inl rfl
    body := rfl
    gathers := by
      unfold Decoded.gathers Form.gathers
      rw [htail]
      simp [Match.vectorPrefix]
    vector := by rw [if_pos hvector]
    opcode := by
      rw [hvector]
      exact nofun
    tail := fun _ => htail.symm
    rex := by
      intro _
      rw [hvector]
      rfl
    wide := fun _ => rfl
    short := by
      rw [hvector]
      exact nofun }

theorem rexNeed_spec (h : m.rexNeed bits.wide = .ok rex) : rex = (bits.wide || m.needsRex) ∧
    (rex = true → m.hasHighByte = false ∧ (m.form.isVector = false → m.mode = .x64)) := by
  unfold Match.rexNeed at h
  dsimp only at h
  split at h
  · cases h
  next hhigh =>
    split at h
    · cases h
    next hmode =>
      cases h
      refine ⟨rfl, fun hneed => ⟨?_, ?_⟩⟩
      · simpa [hneed] using hhigh
      · intro hvector
        have hnot : m.mode ≠ .x86 := by simpa [hneed, hvector] using hmode
        cases hm : m.mode with
        | x64 => rfl
        | x86 => exact absurd hm hnot

theorem Form.gathers_eq_false {f : Form} (h : f.isVector = false) : f.gathers = false := by
  unfold Form.isVector at h
  rw [Bool.or_eq_false_iff] at h
  rw [Form.gathers, h.1, Bool.false_and, Bool.false_and]

theorem scan_plain (hallowed : m.checkPrefix b = .ok ()) (hseg : ∀ s ∈ m.segment?, s.num < 6)
    (hvector : m.form.isVector = false) (hrex : m.rexNeed bits.wide = .ok rex) (rest : Bytes) :
    scan m.mode {} (m.front b ++ (m.formPrefixes m.placement bits rex m.form.code).1 ++ rest) =
      scan m.mode { segment := m.segment?.map (·.num), otherSize := m.addrPrefix
                    short := bits.short
                    rex := if rex then some (m.placement.rex bits.wide) else none } rest := by
  have hpre : (m.formPrefixes m.placement bits rex m.form.code).1 =
      (m.mandatory.toList ++ if bits.short then [0x66] else []) ++
        if rex then [m.placement.rex bits.wide] else [] := by
    unfold Match.formPrefixes
    rw [hvector]
    rfl
  have hshort : ∀ p : Prefixes, p.short = false → p.rex = none → ∀ rest,
      scan m.mode p ((if bits.short then [0x66] else []) ++ rest) =
        scan m.mode { p with short := bits.short } rest := by
    rintro ⟨segment, otherSize, -, -⟩ rfl rfl rest
    have hlegacy : ∀ c ∈ [(0x66 : UInt8)], isLegacyPrefix c = true :=
      List.forall_mem_singleton.mpr rfl
    cases bits.short with
    | false => rfl
    | true =>
      rw [if_pos rfl, scan_legacy hlegacy, List.foldl_cons, List.foldl_nil]
      cases otherSize <;> rfl
  rw [hpre, List.append_assoc, Match.scan_front hallowed hseg, List.append_assoc, List.append_assoc,
    scan_neutral Match.neutral_of_mandatory rfl, hshort _ rfl rfl]
  obtain ⟨-, hmode⟩ := rexNeed_spec hrex
  cases rex with
  | false => rfl
  | true =>
    rw [(hmode rfl).2 hvector, if_pos rfl, if_pos rfl, List.singleton_append, scan_rex]

theorem Form.Regular.legible_codeWith {f : Form} (hregular : f.Regular)
    (hvector : f.isVector = false) (hvaries : f.varies = true) (hwait : f.code.headD 0 ≠ 0x9b)
    (n : UInt8) : f.legible (f.codeWith (n &&& 7)) = true := by
  have hlegible := hregular.legible hvector hvaries
  by_cases hshort : f.has .shortArg = true
  · rw [if_pos hshort] at hlegible
    have hless : (n &&& 7).toNat < 8 := by
      rw [UInt8.toNat_and, show (7 : UInt8).toNat = 2 ^ 3 - 1 from rfl,
        Nat.and_two_pow_sub_one_eq_mod]
      exact Nat.mod_lt _ (by decide)
    have h := hlegible _ (List.mem_range.mpr hless)
    rwa [if_neg hwait, UInt8.ofNat_toNat] at h
  · rw [if_neg hshort] at hlegible
    have h := hlegible 0 List.mem_cons_self
    rw [if_neg hwait] at h
    unfold Form.codeWith at h ⊢
    rw [if_neg hshort] at h ⊢
    exact h

def Match.Bare (m : Match) : Prop :=
  m.segment? = none ∧ m.addrPrefix = false ∧ m.needsRex = false

theorem framed_plain (hregular : m.form.Regular) (hvector : m.form.isVector = false)
    (hvaries : m.form.varies = true) (hallowed : m.checkPrefix b = .ok ())
    (hseg : ∀ s ∈ m.segment?, s.num < 6) (hmode : m.form.has .x86Only = true → m.mode = .x86)
    (hrex : m.rexNeed bits.wide = .ok rex) (hfollows : Follows m.form m.body)
    (hwait : m.form.code.headD 0 = 0x9b → m.Bare) :
    Framed m bits (decode m.mode (m.front b ++
      (m.formPrefixes m.placement bits rex m.form.code).1 ++
        m.opcodeBytes m.placement (m.formPrefixes m.placement bits rex m.form.code).2 ++
          m.body)) := by
  have hop : m.opcodeBytes m.placement (m.formPrefixes m.placement bits rex m.form.code).2 =
      m.opcode := by
    unfold Match.formPrefixes
    rw [hvector]
    rfl
  unfold decode
  rw [hop, List.append_assoc, scan_plain hallowed hseg hvector hrex]
  by_cases h9b : m.form.code.headD 0 = 0x9b
  · obtain ⟨hsegment, hsize, hneed⟩ := hwait h9b
    have hlegible : m.form.legible m.form.code.tail = true := by
      have h := hregular.legible hvector hvaries 0 (by split <;> decide)
      rwa [if_pos h9b] at h
    obtain ⟨first, rest, hfirst, hstops⟩ := stops_of_legible hlegible hmode
    have hcode : m.opcode = 0x9b :: m.form.code.tail := by
      rw [Match.opcode, Form.codeWith, (hregular.wait h9b).1, if_neg Bool.false_ne_true]
      cases hc : m.form.code with
      | nil =>
        rw [hc] at hfirst
        cases hfirst
      | cons b' rest' =>
        rw [hc] at h9b
        exact congrArg (· :: rest') h9b
    rw [hcode, List.cons_append, scan_wait _ _ (by rw [hfirst]; exact List.cons_ne_nil _ _), hfirst,
      List.cons_append, scan_stop hstops, ← List.cons_append, ← hfirst]
    dsimp only
    rw [decodeOpcode_of_legible hlegible hmode hfollows]
    exact {
      mode := rfl
      segment := by rw [hsegment]; rfl
      otherSize := hsize.symm
      bits := Or.inr ⟨hneed, rfl⟩
      body := rfl
      gathers := (Form.gathers_eq_false hvector).symm
      vector := by
        rw [hvector]
        rfl
      opcode := fun _ h => absurd h9b h
      tail := by
        rw [hvector]
        exact nofun
      rex := fun h => absurd h9b h
      wide := fun h => absurd h9b h
      short := fun _ h => absurd h9b h }
  · have hlegible : m.form.legible m.opcode = true :=
      hregular.legible_codeWith hvector hvaries h9b _
    obtain ⟨first, rest, hfirst, hstops⟩ := stops_of_legible hlegible hmode
    rw [hfirst, List.cons_append, scan_stop hstops, ← List.cons_append, ← hfirst]
    dsimp only
    rw [decodeOpcode_of_legible hlegible hmode hfollows]
    obtain ⟨hneed, -⟩ := rexNeed_spec hrex
    exact {
      mode := rfl
      segment := rfl
      otherSize := rfl
      bits := by
        cases rex with
        | true => exact Or.inl (rex_spec _ _).2.2.1
        | false => exact Or.inr ⟨(Bool.or_eq_false_iff.mp hneed.symm).2, rfl⟩
      body := rfl
      gathers := (Form.gathers_eq_false hvector).symm
      vector := by
        rw [hvector]
        rfl
      opcode := fun _ _ => rfl
      tail := by
        rw [hvector]
        exact nofun
      rex := by
        intro _
        dsimp only
        rw [hvector, ← hneed]
        cases rex <;> rfl
      wide := by
        intro _
        cases rex with
        | true => exact (rex_spec _ _).2.2.2
        | false => exact (Bool.or_eq_false_iff.mp hneed.symm).1.symm
      short := fun _ _ => rfl }

end Framed

end MachineCode.X86
