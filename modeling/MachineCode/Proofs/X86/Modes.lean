import MachineCode.Proofs.X86.Readings

/-!
What the modes of the processor allow. In 32-bit mode there are eight registers of a kind, no REX
prefix and no address relative to the instruction pointer, and the bytes behind `c4` and `c5` tell
a VEX prefix from an older instruction. In 64-bit mode some rows and short addresses are missing.
-/
namespace MachineCode.X86

/-- A VEX or XOP prefix whose bits for registers, which are inverted, are all set. The byte behind
`c4` or `c5` then is no ModRM byte of a memory operand. -/
inductive Unextended : Bytes → Prop
  | short {second : UInt8} (h : second.toNat / 64 = 3) : Unextended [0xc5, second]
  | long {first second third : UInt8} (hfirst : first = 0xc4 ∨ first = 0x8f)
    (h : second.toNat / 32 = 7) : Unextended [first, second, third]

theorem unextended_vex {p : Placement} (hreg : fourthBit p.numbers.reg = 0)
    (hindex : fourthBit p.numbers.index = 0) (hbase : fourthBit p.numbers.base = 0)
    (hextra : p.extraNum.toNat < 8) (isVex : Bool) (map pref : UInt8) (bits : SizeBits) :
    Unextended (p.vex isVex map pref bits) := by
  have hextra' : p.extraNum.toNat < 16 := Nat.lt_trans hextra (by decide)
  have hlast := toNat_last hextra' bits.long pref
  have hsecond := toNat_mapByte 0 0 0 (Or.inl rfl) (Or.inl rfl) (Or.inl rfl) map
  have hlong : (if bits.long = true then 4 else 0) < 5 := by
    split <;> decide
  unfold Placement.vex
  dsimp only
  rw [hreg, hindex, hbase, show regNum8 (p.extra.bind (·.reg?)) = p.extraNum from rfl]
  generalize 8 * (15 - p.extraNum) + (if bits.long = true then 4 else 0) + pref % 4 = last at *
  split
  · refine .short ?_
    rw [UInt8.toNat_add]
    simp
    omega
  · refine .long (by cases isVex <;> simp) ?_
    rw [hsecond]
    simp
    omega

inductive Match.Legacy (m : Match) : Bytes → Prop
  | plain {pre body : Bytes} (hvector : m.form.isVector = false)
    (hpre : ∀ b ∈ pre, isLegacyPrefix b = true) : m.Legacy (pre ++ m.opcode ++ body)
  | vector {pre vex body : Bytes} (hvector : m.form.isVector = true)
    (hpre : ∀ b ∈ pre, isLegacyPrefix b = true) (hvex : Unextended vex) :
    m.Legacy (pre ++ vex ++ m.form.code.tail ++ body)

def Match.Allowed (m : Match) (ops : List Operand) : Mode → Prop
  | .x86 =>
    (∀ r, (.reg r ∈ ops ∨ ∃ a ∈ memories ops, r ∈ a.registers) → r.num < 8) ∧
      (∀ a ∈ memories m.args, (∀ r ∈ a.registers, r.num < 8) ∧
        a.base.any (·.isClass .ip) = false) ∧
      (m.addrSize = 2 ∨ m.addrSize = 4)
  | .x64 => m.form.has .x86Only = false ∧ (m.addrSize = 4 ∨ m.addrSize = 8)

theorem isLegacyPrefix_of_neutral {b : UInt8} (h : IsNeutral b) : isLegacyPrefix b = true := by
  rcases h with rfl | rfl | rfl <;> decide

namespace Matched

variable {c : Matcher} {inst : Inst} {ops settled : List Operand} {m : Match} {b : UInt8}
  {enc : Encoded Reloc}

theorem allowed (h : Matched c inst ops settled m) (hone : OneMem ops)
    (hgiven : ∀ a ∈ memories ops, a.IsGiven) : m.Allowed ops c.mode := by
  have hsize := h.addrSize
  cases hmode : c.mode with
  | x86 =>
    refine ⟨fun r hr => (h.low_of_x86 hmode hr).1, fun a' ha' => ?_, ?_⟩
    · obtain ⟨a, ha, size, harranged, -⟩ := h.arranged hone hgiven ha'
      exact ⟨harranged.low fun r hr => (h.low_of_x86 hmode (.inr ⟨_, ha, hr⟩)).1,
        h.not_ip_of_x86 hmode ha harranged⟩
    · simpa [hmode, Mode.hasAddrSize] using hsize
  | x64 =>
    have htakes := (Form.takes_iff.mp h.takes).2.1
    refine ⟨?_, by simpa [hmode, Mode.hasAddrSize] using hsize⟩
    rw [Bool.eq_false_iff]
    exact fun honly => Mode.noConfusion (hmode.symm.trans (htakes honly))

/-- Without a fourth bit in a register of the address or in the register itself, there is none in
the base field. -/
theorem base_low (h : Matched c inst ops settled m) (hone : OneMem ops)
    (hgiven : ∀ a ∈ memories ops, a.IsGiven) (hmode : c.mode = .x86) :
    fourthBit m.placement.numbers.base = 0 := by
  rw [Placement.numbers_base]
  refine fourthBit_eq_zero (regNum8_lt (by decide) fun r hr => ?_)
  rcases Option.or_eq_some_iff.mp hr with hr | ⟨-, hr⟩
  · obtain ⟨x, hx, hxr⟩ := Option.bind_eq_some_iff.mp hr
    exact h.low_reg_placed (q := .rm) hmode (Operand.eq_reg hxr ▸ hx)
  · obtain ⟨a, ha, hbase⟩ := Option.bind_eq_some_iff.mp hr
    obtain ⟨x, hx, hxa⟩ := Option.bind_eq_some_iff.mp ha
    exact h.low_mem_placed (q := .rm) hone hgiven hmode (Operand.eq_mem hxa ▸ hx) r
      (List.mem_append_left _ (Option.mem_toList.mpr hbase))

theorem legacy_front (h : Matched c inst ops settled m) (hone : OneMem ops)
    (hgiven : ∀ a ∈ memories ops, a.IsGiven) (hallowed : m.checkPrefix b = .ok ()) :
    ∀ x ∈ m.front b, isLegacyPrefix x = true := by
  intro x hx
  rw [Match.front, List.mem_append, List.mem_append, or_assoc] at hx
  rcases hx with hx | hx | hx
  · exact isLegacyPrefix_of_neutral (Match.neutral_of_checkPrefix hallowed x hx)
  · obtain ⟨s, hs, rfl⟩ := Option.map_eq_some_iff.mp (Option.mem_toList.mp hx)
    exact (add_segmentPrefix (h.segment_lt hone (fun a ha => (hgiven a ha).segment) s hs) {}).1
  · split at hx
    · rw [List.mem_singleton.mp hx]
      rfl
    · cases hx

theorem legacy (h : Matched c inst ops settled m) (hone : OneMem ops)
    (hgiven : ∀ a ∈ memories ops, a.IsGiven) (hmode : c.mode = .x86) (hemit : m.emit b = .ok enc) :
    m.Legacy enc.code := by
  obtain ⟨bits, rex, hallowed, -, hrex, hcode⟩ := Match.emit_spec hemit
  have hfront := h.legacy_front hone hgiven hallowed
  have hmode' : m.mode = .x86 := h.mode.trans hmode
  rw [hcode]
  cases hvector : m.form.isVector with
  | true =>
    obtain ⟨op, htail, hpre, hop⟩ := formPrefixes_vector bits rex h.regular hvector
    obtain ⟨hreg, hindex, hextra⟩ := (h.encodable hone hgiven).2 hmode'
    rw [hpre, hop, ← htail]
    exact .vector hvector hfront
      (unextended_vex hreg hindex (h.base_low hone hgiven hmode) hextra _ _ _ _)
  | false =>
    have hnone : rex = false := by
      rw [Bool.eq_false_iff]
      intro hneed
      exact Mode.noConfusion (hmode'.symm.trans (((rexNeed_spec hrex).2 hneed).2 hvector))
    have hop : m.opcodeBytes m.placement (m.formPrefixes m.placement bits rex m.form.code).2 =
        m.opcode := by
      unfold Match.formPrefixes
      rw [hvector]
      rfl
    rw [hop]
    refine .plain hvector fun x hx => ?_
    rcases List.mem_append.mp hx with hx | hx
    · exact hfront x hx
    · unfold Match.formPrefixes at hx
      rw [hvector, hnone] at hx
      rcases List.mem_append.mp hx with hx | hx
      · rcases List.mem_append.mp hx with hx | hx
        · exact isLegacyPrefix_of_neutral (Match.neutral_of_mandatory x hx)
        · split at hx
          · rw [List.mem_singleton.mp hx]
            rfl
          · cases hx
      · cases hx

end Matched

/-- The modes are respected. Operands that are matched in 32-bit mode have registers with numbers
below eight, before and after the address is put into normal form, and an address of two or four
bytes that is not relative to the instruction pointer, and their code has no REX prefix. In 64-bit
mode no row for 32-bit mode is used, and addresses have four or eight bytes. -/
theorem modes_respected {e : Encoder} {inst : Inst} {ops : List Operand}
    (hgiven : ∀ a, .mem a ∈ ops → a.IsGiven) :
    (∀ m, Matcher.Finds e inst ops m → m.Allowed ops e.mode) ∧
      ∀ enc, Encodes e inst ops enc → ∃ (c : Matcher) (m : Match) (b : UInt8), c.mode = e.mode ∧
        c.Finds inst ops m ∧ m.emit b = .ok enc ∧ m.Allowed ops e.mode ∧
          (e.mode = .x86 → m.Legacy enc.code) := by
  have hmem : ∀ a ∈ memories ops, a.IsGiven := fun a ha => hgiven a (mem_memories.mp ha)
  refine ⟨fun m hm => ?_, fun enc henc => ?_⟩
  · obtain ⟨hone, settled, h⟩ := hm.matched
    exact h.allowed hone hmem
  · obtain ⟨c, m, b, hmode, hm, hemit⟩ := henc.exists_match
    obtain ⟨hone, settled, h⟩ := hm.matched
    exact ⟨c, m, b, hmode, hm, hemit, hmode ▸ h.allowed hone hmem,
      fun hx => h.legacy hone hmem (hmode.trans hx) hemit⟩

def addScaled : List Operand :=
  [.reg (.make .xmm 16 1), .reg (.make .xmm 16 2),
    .mem { base := some (.make .legacy 4 0), index := some (.make .legacy 4 1), scale := 4 }]

theorem modes_respected_vaddps : (∀ a, .mem a ∈ addScaled → a.IsGiven) ∧
    (∀ m, Matcher.Finds ⟨.x86, .everything⟩ ⟨0x626105b9⟩ addScaled m → m.Allowed addScaled .x86) ∧
      Encodes ⟨.x86, .everything⟩ ⟨0x626105b9⟩ addScaled ⟨[0xc5, 0xe8, 0x58, 0x0c, 0x88], []⟩ ∧
        ∃ (c : Matcher) (m : Match) (b : UInt8), c.mode = .x86 ∧
          c.Finds ⟨0x626105b9⟩ addScaled m ∧
            m.emit b = .ok ⟨[0xc5, 0xe8, 0x58, 0x0c, 0x88], []⟩ ∧ m.Allowed addScaled .x86 ∧
              m.Legacy [0xc5, 0xe8, 0x58, 0x0c, 0x88] := by
  have hgiven : ∀ a, .mem a ∈ addScaled → a.IsGiven := by
    intro a ha
    obtain rfl : a = _ := by simpa [addScaled] using ha
    exact ⟨nofun, nofun⟩
  have hencodes : Encodes ⟨.x86, .everything⟩ ⟨0x626105b9⟩ addScaled
      ⟨[0xc5, 0xe8, 0x58, 0x0c, 0x88], []⟩ := .inst (b := 0) (by decide +kernel)
  obtain ⟨hall, hencoded⟩ := modes_respected (e := ⟨.x86, .everything⟩) hgiven
  obtain ⟨c, m, b, hmode, hm, hemit, hallowed, hlegacy⟩ := hencoded _ hencodes
  exact ⟨hgiven, hall, hencodes, c, m, b, hmode, hm, hemit, hallowed, hlegacy rfl⟩

end MachineCode.X86
