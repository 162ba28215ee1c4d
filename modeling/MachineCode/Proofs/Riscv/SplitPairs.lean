import MachineCode.Proofs.Relocation
import MachineCode.Proofs.Riscv.Offsets

/-!
An offset in two instructions with a reference each. The AUIPC refers to the upper part of the
distance to a target and the instruction after it to the low part. Both count from the AUIPC, so
both see the same distance, although they stand at different places and their fields are written
at different times. Together they are what one split field over the two words would be.
-/
namespace MachineCode

theorem denoted_of_bindings {h before after later : History} (hbefore : ∀ l, before.bindings l = [])
    (hafter : ∀ l, after.bindings l = []) (t : Target) :
    denoted (h ++ before) (after ++ later) t = denoted h later t := by
  cases t with
  | nowhere | external => rfl
  | global | dynamic | backward | forward => simp [denoted, hbefore, hafter]

/-- A position in what is new is one in all that has happened. -/
theorem History.Records.after {new before after : History} {r : Reference}
    (hr : new.Records before r after) (h : History) : (h ++ new).Records (h ++ before) r after :=
  History.records_append.mpr (Or.inr ⟨before, rfl, hr⟩)

theorem Tracks.offset_append {h : History} {a b : Assembler} {c : Code} (ht : Tracks h a)
    (hb : a.append c = .ok b) : b.offset = a.offset + c.code.length := by
  have hperform : a.perform (.append c) = .ok b := hb
  have htb : Tracks (h ++ Operation.appends a c) b := ht.perform hperform
  have hcode : (Operation.appends a c).code = c.code := History.code_appended ..
  have hlen := htb.length
  rw [History.code_append, List.length_append, hcode, ht.length] at hlen
  exact hlen.symm

/-- A reference that appended code brings was accepted. -/
theorem accepted_of_records {a b : Assembler} {c : Code} {before after : History} {r : Reference}
    (hb : a.append c = .ok b) (hr : (Operation.appends a c).Records before r after) :
    Assembler.Accepted a.committed (a.offset + c.code.length) r :=
  ((Assembler.append_eq_ok hb rfl).1 r (History.records_appended hr).1).1

namespace Riscv

namespace Reloc

variable {low whole : Reloc} {f : BitField} {first second d d' : Bytes} {v : Int64}

/-- The split field whose second instruction holds a low part. -/
def fused? : Reloc → Option Reloc
  | lo12 => some split32
  | lo12s => some split32s
  | _ => none

theorem fused_cases (h : low.fused? = some whole) :
    low = lo12 ∧ whole = split32 ∨ low = lo12s ∧ whole = split32s := by
  cases low with
  | lo12 => exact Or.inl ⟨rfl, (Option.some.inj h).symm⟩
  | lo12s => exact Or.inr ⟨rfl, (Option.some.inj h).symm⟩
  | b | j | bc | jc | hi20 | split32 | split32s | plain => cases h

/-- The layout of a low part: four bytes that end at the anchor, which count from the AUIPC. -/
theorem layout_of_fused (h : low.fused? = some whole) :
    low.size = 4 ∧ low.fieldOffset = 4 ∧ low.startOffset = 8 := by
  rcases fused_cases h with ⟨rfl, -⟩ | ⟨rfl, -⟩ <;> exact ⟨rfl, rfl, rfl⟩

/-- An upper and a low part, written one by one, are what a split field over the same two words is
given at once. -/
structure Joins (low whole : Reloc) (first second : Bytes) (v : Int64) : Prop where
  accepts : (∃ d, whole.write (first ++ second) v = .ok d) ↔ ∃ d, hi20.write first v = .ok d
  joined : ∀ {d}, hi20.write first v = .ok d → ∃ d', low.write second v = .ok d' ∧
    hi20.read d + low.read d' = v ∧ whole.write (first ++ second) v = .ok (d ++ d')

theorem Low.place_lower (hf : Low f) (v : Int64) : f.place v = f.place (lower v) := by
  have hsub : (lower v).toBitVec = v.toBitVec - (upper v).toBitVec <<< 12 := by
    rw [lower, Int64.toBitVec_sub, Int64.toBitVec_shiftLeft]
    rfl
  have hmod : (lower v).toBitVec.setWidth 12 = v.toBitVec.setWidth 12 := by
    rw [hsub]
    apply BitVec.eq_of_toNat_eq
    rw [BitVec.toNat_setWidth, BitVec.toNat_setWidth, BitVec.toNat_sub, BitVec.toNat_shiftLeft,
      Nat.shiftLeft_eq]
    omega
  refine BitField.place_congr hf.exact_field ?_
  intro i hi
  rw [hf.bits] at hi
  have hbit := congrArg (BitVec.getLsbD · i) hmod
  simpa [hi] using hbit.symm

/-- The low part is written unchecked, but only its twelve bits go into the field. -/
theorem Low.patch_lower (hf : Low f) (w : Word) (v : Int64) :
    f.patch w v = f.patch w (lower v) := by
  rw [BitField.patch, BitField.patch, hf.place_lower v]

theorem writeWord_eq_ofWord (hfirst : first.length = 4) (w : Word) :
    writeWord first w = Bytes.ofWord w := by
  rw [writeWord, List.drop_eq_nil_of_le (by omega), List.append_nil]

theorem write_hi20_eq_ok_iff (hfirst : first.length = 4) : hi20.write first v = .ok d ↔
    InReach v ∧ d = Bytes.ofWord (Field.u.patch (readWord first) (upperPart v)) := by
  have hwrite : hi20.write first v = (writeUpper (readWord first) v).map (writeWord first) := rfl
  rw [hwrite]
  constructor
  · intro h
    obtain ⟨w, hw, rfl⟩ := map_eq_ok h
    have hreach := inReach_of_writeUpper hw
    rw [writeUpper_of_inReach hreach] at hw
    rw [← Except.ok.inj hw]
    exact ⟨hreach, writeWord_eq_ofWord hfirst _⟩
  · rintro ⟨hreach, rfl⟩
    rw [writeUpper_of_inReach hreach, Except.map, writeWord_eq_ofWord hfirst]

theorem patches_append (hfirst : first.length = 4) (second : Bytes) (v : Int64) :
    patches f (first ++ second) v =
      Bytes.ofWord (Field.u.patch (readWord first) (upperPart v)) ++
        Bytes.ofWord (f.patch (readWord second) (lower v)) := by
  rw [patches, toWord_take (first ++ second), List.take_left' hfirst, List.drop_left' hfirst]
  rfl

theorem joins_of_low (hf : Low f) (hwhole : whole.write = writeSplit f)
    (hwrite : low.write = fun buf v => .ok (writeWord buf (f.patch (readWord buf) v)))
    (hread : low.read = fun buf => f.gather (readWord buf)) (hfirst : first.length = 4)
    (hsecond : second.length = 4) (v : Int64) : Joins low whole first second v := by
  have hbuf : (first ++ second).length = 8 := by
    rw [List.length_append, hfirst, hsecond]
  have hback : ∀ w : Word, readWord (Bytes.ofWord w) = w := Bytes.toWord_ofWord (w := 32) rfl
  constructor
  · simp only [hwhole, writeSplit_eq_ok_iff hbuf, write_hi20_eq_ok_iff hfirst, exists_eq_right]
  · intro d hd
    obtain ⟨hreach, rfl⟩ := (write_hi20_eq_ok_iff hfirst).mp hd
    refine ⟨Bytes.ofWord (f.patch (readWord second) (lower v)), ?_, ?_, ?_⟩
    · rw [hwrite, ← hf.patch_lower, ← writeWord_eq_ofWord hsecond]
    · have hupper : hi20.read = fun buf => Field.u.gather (readWord buf) := rfl
      rw [hread, hupper]
      simp only [hback]
      rw [BitField.gather_patch exact_u.proper (admits_upperPart hreach),
        BitField.gather_patch hf.exact_field.proper (hf.admits_lower hreach), upperPart_add_lower]
    · rw [hwhole, writeSplit_eq_ok_iff hbuf, patches_append hfirst]
      exact ⟨hreach, rfl⟩

theorem joins (hfused : low.fused? = some whole) (hfirst : first.length = 4)
    (hsecond : second.length = 4) (v : Int64) : Joins low whole first second v := by
  rcases fused_cases hfused with ⟨rfl, rfl⟩ | ⟨rfl, rfl⟩
  · exact joins_of_low low_i (by funext buf v; rw [write]) rfl rfl hfirst hsecond v
  · exact joins_of_low low_s (by funext buf v; rw [write]) rfl rfl hfirst hsecond v

end Reloc

structure Parts (low : Reloc) (r r' : Reference) : Prop where
  upper : r.rel = .riscv .hi20
  lower : r'.rel = .riscv low
  target : r'.target = r.target
  addend : r'.addend = r.addend

namespace Parts

variable {low whole : Reloc} {r r' : Reference} (h : Parts low r r')

include h

/-- A low part counts from the AUIPC before it, as the upper part does. -/
theorem pc_eq (hfused : low.fused? = some whole) (hanchor : r'.anchor = r.anchor + 4)
    (base : UInt64) : r'.pc base = r.pc base := by
  have hstart : r'.rel.startOffset = 8 := by
    rw [h.lower]
    exact (Reloc.layout_of_fused hfused).2.2
  have hdistance : Int64.ofNat (r.anchor + 4) - Int64.ofNat 8 =
      Int64.ofNat r.anchor - Int64.ofNat 4 := by
    have h8 : Int64.ofNat 8 = Int64.ofNat 4 + Int64.ofNat 4 := rfl
    rw [Int64.ofNat_add, h8]
    grind
  rw [Reference.pc, Reference.pc, hstart, hanchor, hdistance, h.upper]
  rfl

theorem value_eq (hfused : low.fused? = some whole) (hanchor : r'.anchor = r.anchor + 4)
    (hbound : r'.bound = r.bound) (base : UInt64) : r'.value base = r.value base := by
  have hvalue : ∀ {q : Reference} {rel : Reloc}, q.rel = .riscv rel →
      q.value base = q.destination base - q.pc base := by
    intro q rel hq
    rw [Reference.value, hq]
    rfl
  have hdestination : r'.destination base = r.destination base := by
    rw [Reference.destination, Reference.destination, h.target, h.addend, hbound]
  rw [hvalue h.lower, hvalue h.upper, hdestination, h.pc_eq hfused hanchor]

theorem field_eq (hfused : low.fused? = some whole) (hanchor : r'.anchor = r.anchor + 4)
    (hhigh : r.fieldEnd ≤ r.anchor) : r'.field = r.field + 4 ∧ r.field + 4 = r.anchor := by
  have hoffset : r'.rel.fieldOffset = 4 := by
    rw [h.lower]
    exact (Reloc.layout_of_fused hfused).2.1
  have hupper : r.rel.fieldOffset = 4 ∧ r.rel.size = 4 := by
    rw [h.upper]
    exact ⟨rfl, rfl⟩
  rw [Reference.fieldEnd, Reference.field, hupper.1, hupper.2] at hhigh
  rw [Reference.field, Reference.field, hoffset, hupper.1, hanchor]
  omega

/-- In relocated code, fields that stand one behind the other hold the offset in its parts. -/
theorem write_of_relocated {hist before after before' after' : History} {base : UInt64}
    {code : Bytes} (hfused : low.fused? = some whole) (hr : hist.Records before r after)
    (hr' : hist.Records before' r' after') (hfield : r'.field = r.field + 4)
    (hin : r.field + 8 ≤ hist.code.length)
    (hsame : (meaning before' r' after').value base = (meaning before r after).value base)
    (hcode : Relocated hist base code) :
    whole.write (hist.code.slice r.field 8) ((meaning before r after).value base) =
      .ok (code.slice r.field 8) := by
  have hfirst : (hist.code.slice r.field 4).length = 4 := Bytes.length_slice _ _ _ (by omega)
  have hsecond : (hist.code.slice (r.field + 4) 4).length = 4 :=
    Bytes.length_slice _ _ _ (by omega)
  have hsplit : ∀ bs : Bytes,
      bs.slice r.field 8 = bs.slice r.field 4 ++ bs.slice (r.field + 4) 4 := by
    intro bs
    rw [Bytes.slice, Bytes.slice, Bytes.slice, ← List.drop_drop, ← List.take_add]
  have hsize : r'.rel.size = 4 := by
    rw [h.lower]
    exact (Reloc.layout_of_fused hfused).1
  have hsize' : r.rel.size = 4 := by
    rw [h.upper]
    rfl
  have hupper := hcode.field hr
  have hlower := hcode.field hr'
  rw [hsize', h.upper, Relocation.write] at hupper
  rw [hsize, hfield, h.lower, hsame, Relocation.write] at hlower
  obtain ⟨d, hd, -, hwhole⟩ := (Reloc.joins hfused hfirst hsecond _).joined hupper
  obtain rfl := Except.ok.inj (hd.symm.trans hlower)
  rw [hsplit, hsplit]
  exact hwhole

end Parts

/-- What holds of the references to an upper and a low part. `hist` is all that has happened, and
`r` and `r'` are the references as they are meant there. -/
structure Agree (low whole : Reloc) (hist : History) (base : UInt64) (r r' : Reference) :
    Prop where
  /-- Both see the same distance. -/
  same : r'.value base = r.value base
  /-- Over any two words, the parts of the distance are those that a split field holds. -/
  joins : ∀ {first second}, first.length = 4 → second.length = 4 →
    Reloc.Joins low whole first second (r.value base)
  /-- In relocated code, the two words are what a split field makes of the words appended. -/
  relocated : ∀ {code}, Relocated hist base code →
    whole.write (hist.code.slice r.field 8) (r.value base) = .ok (code.slice r.field 8)

/-- Two instructions, appended one right after the other, with references to the two parts of the
distance to one target: wherever the code lies and whatever happens later, the references agree. -/
theorem halves_agree {low whole : Reloc} (hfused : low.fused? = some whole) {capacity : Nat}
    {ops : List Operation} {s : Session} (hs : s = (Session.start capacity).run ops)
    {b b' : Assembler} {c c' : Code} (hb : s.assembler.append c = .ok b)
    (hb' : b.append c' = .ok b') (hfour : c'.code.length = 4)
    {pre post pre' post' : History} {r r' : Reference}
    (hr : (Operation.appends s.assembler c).Records pre r post)
    (hr' : (Operation.appends b c').Records pre' r' post') (hparts : Parts low r r')
    (later : History) (base : UInt64) :
    Agree low whole
      (s.history ++ Operation.appends s.assembler c ++ Operation.appends b c' ++ later) base
      (meaning (s.history ++ pre) r (post ++ Operation.appends b c' ++ later))
      (meaning (s.history ++ Operation.appends s.assembler c ++ pre') r' (post' ++ later)) := by
  have ht := Session.tracks_run capacity ops
  rw [← hs] at ht
  have haccepted := accepted_of_records hb hr
  have haccepted' := accepted_of_records hb' hr'
  have hanchor : r'.anchor = r.anchor + 4 := by
    rw [haccepted'.anchored, haccepted.anchored, ht.offset_append hb, hfour]
  obtain ⟨-, hpre, hpost, -⟩ := History.records_appended hr
  obtain ⟨-, hpre', hpost', -⟩ := History.records_appended hr'
  have hquiet : ∀ l, (Operation.appends s.assembler c).bindings l = [] :=
    History.bindings_appended _ _
  have hquiet' : ∀ l, (Operation.appends b c').bindings l = [] := History.bindings_appended _ _
  -- Neither instruction binds a label, so the target means the same to both references.
  have hdenoted : denoted (s.history ++ Operation.appends s.assembler c ++ pre') (post' ++ later)
        r'.target =
      denoted (s.history ++ pre) (post ++ Operation.appends b c' ++ later) r.target := by
    rw [hparts.target, List.append_assoc, denoted_of_bindings (by simp [hquiet, hpre']) hpost',
      denoted_of_bindings hpre (by simp [hpost, hquiet'])]
  have hmeant : Parts low (meaning (s.history ++ pre) r (post ++ Operation.appends b c' ++ later))
      (meaning (s.history ++ Operation.appends s.assembler c ++ pre') r' (post' ++ later)) :=
    ⟨hparts.upper, hparts.lower, hparts.target, hparts.addend⟩
  have hsame := hmeant.value_eq hfused hanchor hdenoted base
  refine ⟨hsame, fun hfirst hsecond => Reloc.joins hfused hfirst hsecond _, ?_⟩
  intro code hcode
  obtain ⟨hfield, hend⟩ := hparts.field_eq hfused hanchor (haccepted.anchored ▸ haccepted.high)
  have hfirst : (s.history ++ Operation.appends s.assembler c ++ Operation.appends b c' ++
      later).Records (s.history ++ pre) r (post ++ Operation.appends b c' ++ later) :=
    ((hr.after s.history).append _).append _
  have hsecond : (s.history ++ Operation.appends s.assembler c ++ Operation.appends b c' ++
      later).Records (s.history ++ Operation.appends s.assembler c ++ pre') r' (post' ++ later) :=
    (hr'.after _).append _
  have hin : r.field + 8 ≤ (s.history ++ Operation.appends s.assembler c ++
      Operation.appends b c' ++ later).code.length := by
    have hlen := ht.length
    have hcode : (Operation.appends s.assembler c).code = c.code := History.code_appended ..
    have hcode' : (Operation.appends b c').code = c'.code := History.code_appended ..
    have hanchored := haccepted.anchored
    simp only [History.code_append, List.length_append, hcode, hcode', hfour]
    omega
  have hwords := hparts.write_of_relocated hfused hfirst hsecond hfield hin hsame hcode
  exact hwords

def upperHalf : Code := ⟨[0x17, 0x05, 0x00, 0x00], [⟨.global "far", 0, some (.riscv .hi20)⟩]⟩

def lowerHalf : Code := ⟨[0x03, 0x25, 0x05, 0x00], [⟨.global "far", 0, some (.riscv .lo12)⟩]⟩

def assembled (ops : List Operation) : Assembler := ((Session.start 0).run ops).assembler

/-- A distance whose low part is negative. -/
theorem halves_agree_load :
    let r : Reference := ⟨4, .global "far", 0, .riscv .hi20, some 0x1800⟩
    let r' : Reference := ⟨8, .global "far", 0, .riscv .lo12, some 0x1800⟩
    r.value 0x10000 = 0x1800 ∧
      Agree .lo12 .split32 ((Session.start 0).history ++
        Operation.appends (Session.start 0).assembler upperHalf ++
        Operation.appends (assembled [.append upperHalf]) lowerHalf ++
        [.bound (.global "far") 0x1800]) 0x10000 r r' := by
  intro r r'
  have hs : Session.start 0 = (Session.start 0).run [] := rfl
  have hb : (Session.start 0).assembler.append upperHalf =
      .ok (assembled [.append upperHalf]) := rfl
  have hb' : (assembled [.append upperHalf]).append lowerHalf =
      .ok (assembled [.append upperHalf, .append lowerHalf]) := rfl
  have hr : (Operation.appends (Session.start 0).assembler upperHalf).Records
      [.appended upperHalf.code] { r with bound := none } [] := rfl
  have hr' : (Operation.appends (assembled [.append upperHalf]) lowerHalf).Records
      [.appended lowerHalf.code] { r' with bound := none } [] := rfl
  have hparts : Parts .lo12 { r with bound := none } { r' with bound := none } :=
    ⟨rfl, rfl, rfl, rfl⟩
  exact ⟨by decide, halves_agree rfl hs hb hb' rfl hr hr' hparts _ _⟩

end Riscv

end MachineCode
