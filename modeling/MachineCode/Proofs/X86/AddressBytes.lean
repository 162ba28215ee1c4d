import MachineCode.Proofs.X86.Addresses
import MachineCode.Proofs.X86.Frames

/-!
Bytes of addresses that are read back. The ModRM byte, the SIB byte and the displacement of an
address in normal form stand for that address, with the same number in the register field.
-/
namespace MachineCode.X86

section Displacements

variable {n : Nat} {tail : Bytes}

theorem readDisp_ofNat {v : Int32} (hn : n = 1 ∨ n = 2 ∨ n = 4) (h : Disp.fits v n = true) :
    readDisp n (Bytes.ofNat n v.toBitVec.toNat ++ tail) = some (v.toInt, tail) := by
  have htake : (Bytes.ofNat n v.toBitVec.toNat ++ tail).take n = Bytes.ofNat n v.toBitVec.toNat :=
    List.take_left' (Bytes.length_ofNat _ _)
  have hdrop : (Bytes.ofNat n v.toBitVec.toNat ++ tail).drop n = tail :=
    List.drop_left' (Bytes.length_ofNat _ _)
  have hvalue : v.toInt = (v.toBitVec.toNat : Int).bmod (2 ^ 32) := BitVec.toInt_eq_toNat_bmod _
  have hless : v.toBitVec.toNat < 2 ^ 32 := v.toBitVec.isLt
  unfold readDisp
  rw [if_pos (by simp), htake, hdrop, Bytes.toNat_ofNat]
  refine congrArg (fun x => some (x, tail)) ?_
  unfold Disp.fits at h
  rw [Bool.and_eq_true, decide_eq_true_eq, decide_eq_true_eq] at h
  obtain ⟨hhigh, hlow⟩ := h
  rw [hvalue] at hhigh hlow ⊢
  rcases hn with rfl | rfl | rfl <;> simp [Int.bmod] at hhigh hlow ⊢ <;> omega

theorem readDisp_zeros : readDisp n (List.replicate n 0 ++ tail) = some (0, tail) := by
  have hzero : Bytes.toNat (List.replicate n 0) = 0 := by
    induction n with
    | zero => rfl
    | succ n ih => rw [List.replicate_succ, Bytes.toNat, ih]; rfl
  have htake : (List.replicate n (0 : UInt8) ++ tail).take n = List.replicate n 0 :=
    List.take_left' List.length_replicate
  have hdrop : (List.replicate n (0 : UInt8) ++ tail).drop n = tail :=
    List.drop_left' List.length_replicate
  unfold readDisp
  rw [if_pos (by simp), htake, hdrop, hzero]
  simp

theorem readDisp_dispPiece {d : Option Disp} (hn : n = 1 ∨ n = 2 ∨ n = 4)
    (h : ∀ v w, d = some (.rel v w) → Disp.fits v n = true) (kind : RelocKind) :
    readDisp n ((dispPiece d n kind).code ++ tail) = some ((d.map (·.number)).getD 0, tail) := by
  rcases d with _ | ⟨v, w⟩ | l
  · have hfits : Disp.fits 0 n = true := by
      rcases hn with rfl | rfl | rfl <;> decide
    exact readDisp_ofNat hn hfits
  · exact readDisp_ofNat hn (h v w rfl)
  · exact readDisp_zeros

end Displacements

section Decoded

variable {d : Decoded} {mod reg rm : UInt8} {rest tail : Bytes}

theorem modRm_register (hbody : d.body = modByte 3 reg rm :: rest) :
    d.modRm? = some ⟨reg.toNat % 8 + 8 * d.bits.reg,
      .register (rm.toNat % 8 + 8 * d.bits.base), rest⟩ := by
  have hbyte := toNat_modByte 3 (by decide) reg rm
  unfold Decoded.modRm?
  rw [hbody]
  dsimp only
  rw [if_pos (by rw [hbyte]; simp; omega)]
  congr 3 <;> rw [hbyte] <;> simp <;> omega

theorem modRm_memory (mod rm : UInt8) (hmod : mod.toNat < 3)
    (hbody : d.body = modByte mod reg rm :: rest) {terms : List (Source × Nat)} {n : Nat}
    {rest' : Bytes} {disp : Int}
    (hplace : d.place? mod.toNat (rm.toNat % 8) rest = some ((terms, n), rest'))
    (hread : readDisp n rest' = some (disp, tail)) :
    d.modRm? = some ⟨reg.toNat % 8 + 8 * d.bits.reg, .memory ⟨d.addrSize, terms, disp⟩, tail⟩ := by
  have hbyte := toNat_modByte mod (by omega) reg rm
  have hmodBits : (modByte mod reg rm).toNat / 64 = mod.toNat := by omega
  have hreg : (modByte mod reg rm).toNat / 8 % 8 = reg.toNat % 8 := by omega
  have hrm : (modByte mod reg rm).toNat % 8 = rm.toNat % 8 := by omega
  have hmemory : d.memory? mod.toNat (rm.toNat % 8) rest =
      some (⟨d.addrSize, terms, disp⟩, tail) := by
    unfold Decoded.memory?
    rw [hplace]
    dsimp only [Option.bind_eq_bind, Option.bind_some]
    rw [hread]
    rfl
  unfold Decoded.modRm?
  rw [hbody]
  dsimp only
  rw [hmodBits, hreg, hrm, if_neg (by omega), hmemory]
  rfl

end Decoded

namespace Mem

section Emit

variable {m : Mem} {d : Decoded} {reg : UInt8} {tail : Bytes}

theorem toNat_regNum8 (r : Option Register) : (regNum8 r).toNat = (r.map (·.num)).getD 0 := by
  cases r with
  | none => rfl
  | some r => exact toNat_num8 r

theorem code_head_disp (head : Bytes) (p : Piece) :
    [.bytes head, p].flatMap Piece.code ++ tail = head ++ (p.code ++ tail) := by
  simp [Piece.code]

/-- The displacement of an address fits a field of its own width, and one of four bytes. -/
theorem fits_of_fitting {size : Option Nat} (h : ∀ x ∈ m.disp, m.Fitting size x) {n : Nat}
    (hn : (∀ x ∈ m.disp, x.width = n) ∨ n = 4) (v : Int32) (w : Nat)
    (hdisp : m.disp = some (.rel v w)) : Disp.fits v n = true := by
  rcases hn with hn | rfl
  · rw [← hn _ hdisp]
    exact (h _ hdisp).fits v w rfl
  · exact Disp.fits_dword v

/-- A 16-bit address by its mode bits, which are the length of the displacement. -/
theorem modRm_word {code : Nat} (hcode : code < 8)
    (hbase : m.base = some (.make .legacy 2 code)) (hsize : d.addrSize = 2) (mod : UInt8)
    {rest : Bytes} (hmod : mod = 1 ∨ mod = 2 ∨ (mod = 0 ∧ regNum8 m.base ≠ 6))
    (hbody : d.body = modByte mod reg (regNum8 m.base) :: rest)
    (hread : readDisp mod.toNat rest = some (m.dispNumber, tail)) :
    d.modRm? = some ⟨reg.toNat % 8 + 8 * d.bits.reg,
      .memory ⟨d.addrSize, m.coded (some 2), m.dispNumber⟩, tail⟩ := by
  have hnum : (Register.make .legacy 2 code).num = code := Register.num_make _ _ (by omega)
  have hrm : (regNum8 m.base).toNat = code := by
    rw [toNat_regNum8, hbase, Option.map_some, Option.getD_some, hnum]
  have hcoded : m.coded (some 2) = wordTerms code := by
    rw [coded, if_pos rfl, hbase, Option.map_some, Option.getD_some, hnum]
    rfl
  have hsix : regNum8 m.base ≠ 6 → code ≠ 6 := fun hne h6 =>
    hne (UInt8.toNat_inj.mp (hrm.trans h6))
  have hless : mod.toNat < 3 := by
    rcases hmod with rfl | rfl | ⟨rfl, -⟩ <;> decide
  have hnot : ¬ (mod.toNat = 0 ∧ code = 6) := by
    rcases hmod with rfl | rfl | ⟨rfl, hne⟩
    · exact fun h => absurd h.1 (by decide)
    · exact fun h => absurd h.1 (by decide)
    · exact fun h => hsix hne h.2
  refine modRm_memory _ _ hless hbody ?_ hread
  unfold Decoded.place?
  rw [if_pos hsize, hrm, Nat.mod_eq_of_lt hcode, Decoded.wordPlace, if_neg hnot, hcoded]
  rfl

theorem modRm_emitWord {code : Nat} (hcode : code < 8)
    (hbase : m.base = some (.make .legacy 2 code)) (hfitting : ∀ x ∈ m.disp, m.Fitting (some 2) x)
    (hsize : d.addrSize = 2) (hbody : d.body = (m.emitWord reg).flatMap Piece.code ++ tail) :
    d.modRm? = some ⟨reg.toNat % 8 + 8 * d.bits.reg,
      .memory ⟨d.addrSize, m.coded (some 2), m.dispNumber⟩, tail⟩ := by
  have hwidth : ∀ x ∈ m.disp, x.width = 1 ∨ x.width = 2 := fun x hx =>
    (hfitting x hx).width.imp (·.1) id
  unfold emitWord at hbody
  dsimp only at hbody
  split at hbody
  next hnone =>
    have hdisp : m.disp = none := by
      cases hx : m.disp with
      | none => rfl
      | some x =>
        rw [hx] at hnone
        rcases hwidth x hx with h | h <;> simp [h] at hnone
    split at hbody
    · rw [code_head_disp] at hbody
      refine modRm_word hcode hbase hsize 1 (Or.inl rfl) hbody ?_
      exact readDisp_dispPiece (Or.inl rfl) (by rw [hdisp]; exact fun _ _ => nofun) _
    next hsix =>
      refine modRm_word hcode hbase hsize 0 (Or.inr (Or.inr ⟨rfl, hsix⟩)) hbody ?_
      rw [dispNumber, hdisp]
      exact readDisp_zeros (n := 0)
  next hone =>
    rw [code_head_disp] at hbody
    refine modRm_word hcode hbase hsize 1 (Or.inl rfl) hbody ?_
    refine readDisp_dispPiece (Or.inl rfl) (fits_of_fitting hfitting (Or.inl fun x hx => ?_)) _
    rw [hx] at hone
    exact hone
  next hzero hone =>
    rw [code_head_disp] at hbody
    refine modRm_word hcode hbase hsize 2 (Or.inr (Or.inl rfl)) hbody ?_
    refine readDisp_dispPiece (Or.inr (Or.inl rfl))
      (fits_of_fitting hfitting (Or.inl fun x hx => ?_)) _
    rw [hx] at hone
    exact (hwidth x hx).resolve_left hone

theorem modRm_emitIp {r : Register} (hr : r.class? = some .ip) (hbase : m.base = some r)
    (hindex : m.index = none) {size : Option Nat} (hword : size ≠ some 2)
    (hfitting : ∀ x ∈ m.disp, m.Fitting size x) (hsize : d.addrSize ≠ 2) (hmode : d.mode = .x64)
    (hbody : d.body = (m.emitIp reg).flatMap Piece.code ++ tail) :
    d.modRm? = some ⟨reg.toNat % 8 + 8 * d.bits.reg,
      .memory ⟨d.addrSize, m.coded size, m.dispNumber⟩, tail⟩ := by
  have hcoded : m.coded size = [(.ip, 1)] := by
    rw [coded, if_neg hword, hbase, hindex]
    simp [Register.source_of_ip hr]
  obtain ⟨kind, hbody⟩ : ∃ kind, d.body =
      modByte 0 reg 5 :: ((dispPiece m.disp 4 kind).code ++ tail) :=
    ⟨_, by rw [hbody, emitIp, code_head_disp]; rfl⟩
  refine modRm_memory 0 5 (by decide) hbody ?_
    (readDisp_dispPiece (Or.inr (Or.inr rfl)) (fits_of_fitting hfitting (Or.inr rfl)) kind)
  unfold Decoded.place? Decoded.plainPlace
  rw [if_neg hsize, hmode, hcoded]
  rfl

/-- The mode bits tell the length of the displacement, and never that there is no base. -/
theorem layout_spec : m.layout.1.toNat < 3 ∧ (m.base = none → m.layout = (0, 4)) ∧
    ∀ b ∈ m.base, Decoded.dispLength m.layout.1.toNat = m.layout.2 ∧
      ¬ (m.layout.1.toNat = 0 ∧ b.num % 8 = 5) := by
  unfold layout
  dsimp only
  cases hb : m.base with
  | none =>
    dsimp only
    exact ⟨by decide, fun _ => rfl, nofun⟩
  | some b =>
    dsimp only
    split
    · split
      · exact ⟨by decide, nofun, fun _ _ => ⟨rfl, fun h => absurd h.1 (by decide)⟩⟩
      next hfive =>
        refine ⟨by decide, nofun, ?_⟩
        rintro b' ⟨⟩
        exact ⟨rfl, fun h => hfive h.2⟩
    · split <;> exact ⟨by decide, nofun, fun _ _ => ⟨rfl, fun h => absurd h.1 (by decide)⟩⟩

theorem readDisp_layout {size : Option Nat} (hfitting : ∀ x ∈ m.disp, m.Fitting size x)
    (tail : Bytes) :
    readDisp m.layout.2 ((if m.layout.2 = 0 then [] else
      [dispPiece m.disp m.layout.2 .absToRel]).flatMap Piece.code ++ tail) =
        some (m.dispNumber, tail) := by
  have hpiece : ∀ n, n = 1 ∨ n = 4 → (∀ x ∈ m.disp, x.width = n) ∨ n = 4 →
      readDisp n ((if n = 0 then [] else [dispPiece m.disp n .absToRel]).flatMap Piece.code ++
        tail) = some (m.dispNumber, tail) := by
    intro n hn hwidth
    have hn' : n = 1 ∨ n = 2 ∨ n = 4 := by omega
    rw [if_neg (by omega), List.flatMap_cons, List.flatMap_nil, List.append_nil]
    exact readDisp_dispPiece hn' (fits_of_fitting hfitting hwidth) _
  unfold layout
  dsimp only
  cases hb : m.base with
  | none => exact hpiece 4 (Or.inr rfl) (Or.inr rfl)
  | some b =>
    dsimp only
    split
    next hzero =>
      have hdisp : m.disp = none := by
        cases hx : m.disp with
        | none => rfl
        | some x =>
          have hwidth : x.width = 0 := by simpa [hx] using hzero
          have := (hfitting x hx).width
          unfold dispWidth at this
          split at this <;> omega
      split
      · exact hpiece 1 (Or.inl rfl) (Or.inl (by rw [hdisp]; exact nofun))
      · rw [dispNumber, hdisp]
        exact readDisp_zeros (n := 0)
    · split
      next hone =>
        refine hpiece 1 (Or.inl rfl) (Or.inl fun x hx => ?_)
        rw [hx] at hone
        exact hone
      · exact hpiece 4 (Or.inr rfl) (Or.inr rfl)

theorem scaleBits_spec (h : validScale m.scale = true) :
    m.scaleBits.toNat < 4 ∧ 2 ^ m.scaleBits.toNat = m.scale := by
  unfold validScale at h
  simp only [Bool.or_eq_true, beq_iff_eq, or_assoc] at h
  unfold scaleBits
  rcases h with h | h | h | h <;> rw [h] <;> decide

structure Reads (m : Mem) (d : Decoded) : Prop where
  index : d.bits.index = (regNum8 m.index).toNat / 8 % 2
  base : d.bits.base = (regNum8 m.base).toNat / 8 % 2
  gathers : d.gathers = m.index.any (·.isVector)

theorem Reads.index_eq (h : m.Reads d) {i : Register} (hi : m.index = some i) :
    i.num % 8 + 8 * d.bits.index = i.num := by
  have hless := i.num_lt
  rw [h.index, toNat_regNum8, hi, Option.map_some, Option.getD_some]
  omega

theorem Reads.base_eq (h : m.Reads d) {b : Register} (hb : m.base = some b) :
    b.num % 8 + 8 * d.bits.base = b.num := by
  have hless := b.num_lt
  rw [h.base, toNat_regNum8, hb, Option.map_some, Option.getD_some]
  omega

theorem Reads.scaled_eq (h : m.Reads d) {i : Register} (hi : m.index = some i)
    (hclass : i.class? = some .legacy ∨ i.isVector = true) :
    (if d.gathers then [(.lane i.num, m.scale)]
      else if i.num = 4 then []
      else [(.general i.num, m.scale)]) =
    (m.index.toList.filter (·.source ≠ .general 4)).map fun r => (r.source, m.scale) := by
  rw [h.gathers, hi, Option.any_some]
  rcases hclass with hlegacy | hvector
  · rw [Register.isVector_of_class hlegacy]
    by_cases hfour : i.num = 4 <;> simp [Register.source_of_legacy hlegacy, hfour]
  · rw [hvector]
    simp [Register.source_of_vector hvector]

theorem place_sib (hreads : m.Reads d) {i : Register} (hi : m.index = some i)
    (hclass : i.class? = some .legacy ∨ i.isVector = true) (hvalid : validScale m.scale = true)
    (hbase : ∀ r ∈ m.base, r.class? = some .legacy) {size : Option Nat} (hword : size ≠ some 2)
    (hsize : d.addrSize ≠ 2) (rest : Bytes) :
    d.place? m.layout.1.toNat 4
      (modByte m.scaleBits i.num8 ((m.base.map (·.num8)).getD 5) :: rest) =
        some ((m.coded size, m.layout.2), rest) := by
  obtain ⟨hbits, hscale⟩ := scaleBits_spec hvalid
  obtain ⟨-, hnone, hsome⟩ := layout_spec (m := m)
  have hbyte := toNat_modByte _ hbits i.num8 ((m.base.map (·.num8)).getD 5)
  generalize hsib : modByte m.scaleBits i.num8 ((m.base.map (·.num8)).getD 5) = sib at hbyte ⊢
  rw [toNat_num8] at hbyte
  have hindex : sib.toNat / 8 % 8 + 8 * d.bits.index = i.num := by
    rw [← hreads.index_eq hi]
    omega
  have hpower : 2 ^ (sib.toNat / 64) = m.scale := by
    rw [← hscale]
    congr 1
    omega
  unfold Decoded.place? Decoded.sibPlace
  rw [if_neg hsize, if_pos rfl]
  dsimp only
  rw [hindex, hpower, hreads.scaled_eq hi hclass, coded, if_neg hword]
  refine congrArg (fun x => some (x, rest)) ?_
  cases hb : m.base with
  | none =>
    have hfive : sib.toNat % 8 = 5 := by
      rw [hb] at hbyte
      simp at hbyte
      omega
    rw [hnone hb, if_pos ⟨rfl, hfive⟩]
    rfl
  | some b =>
    obtain ⟨hlength, hnot⟩ := hsome b hb
    have hnum : sib.toNat % 8 = b.num % 8 := by
      rw [hb, Option.map_some, Option.getD_some, toNat_num8] at hbyte
      omega
    rw [hnum, if_neg hnot, hlength, hreads.base_eq hb, Option.toList_some, List.map_singleton,
      Register.source_of_legacy (hbase b hb)]
    rfl

theorem place_plain (hreads : m.Reads d) {b : Register} (hb : m.base = some b)
    (hi : m.index = none) (hbase : b.class? = some .legacy) (hescape : b.num % 8 ≠ 4)
    {size : Option Nat} (hword : size ≠ some 2) (hsize : d.addrSize ≠ 2) (rest : Bytes) :
    d.place? m.layout.1.toNat (b.num8.toNat % 8) rest =
      some ((m.coded size, m.layout.2), rest) := by
  obtain ⟨-, -, hsome⟩ := layout_spec (m := m)
  obtain ⟨hlength, hnot⟩ := hsome b hb
  unfold Decoded.place? Decoded.plainPlace
  rw [toNat_num8, if_neg hsize, if_neg hescape, if_neg hnot, hlength, hreads.base_eq hb, coded,
    if_neg hword, hb, hi, Option.toList_some, List.map_singleton,
    Register.source_of_legacy hbase]
  rfl

theorem scaledHead_of_index {i : Register} (hi : m.index = some i) (mode : Mode) (mod : UInt8) :
    m.scaledHead mode mod reg =
      [modByte mod reg 4, modByte m.scaleBits i.num8 ((m.base.map (·.num8)).getD 5)] := by
  unfold scaledHead
  rw [hi]

theorem scaledHead_of_base {b : Register} (hi : m.index = none) (hb : m.base = some b)
    (mode : Mode) (mod : UInt8) : m.scaledHead mode mod reg = [modByte mod reg b.num8] := by
  unfold scaledHead
  rw [hi, hb]

theorem scaledHead_of_none (hi : m.index = none) (hb : m.base = none) (mode : Mode)
    (mod : UInt8) : m.scaledHead mode mod reg =
      match mode with
      | .x86 => [modByte 0 reg 5]
      | .x64 => [modByte 0 reg 4, modByte 0 4 5] := by
  cases m
  cases hi
  cases hb
  rfl

theorem modRm_emitLegacy {size : Option Nat} (hword : size ≠ some 2)
    (hbase : ∀ r ∈ m.base, r.class? = some .legacy)
    (hindex : ∀ r ∈ m.index, r.class? = some .legacy ∨ r.isVector = true)
    (hscale : ∀ r ∈ m.index, validScale m.scale = true)
    (hescape : m.index = none → ∀ r ∈ m.base, r.num % 8 ≠ 4)
    (hfitting : ∀ x ∈ m.disp, m.Fitting size x) (hreads : m.Reads d) (hsize : d.addrSize ≠ 2)
    (hbody : d.body = (m.emitLegacy d.mode reg).flatMap Piece.code ++ tail) :
    d.modRm? = some ⟨reg.toNat % 8 + 8 * d.bits.reg,
      .memory ⟨d.addrSize, m.coded size, m.dispNumber⟩, tail⟩ := by
  obtain ⟨hmod, hnone, -⟩ := layout_spec (m := m)
  have hread := readDisp_layout hfitting tail
  rw [emitLegacy, List.flatMap_cons, List.append_assoc, Piece.code] at hbody
  generalize List.flatMap Piece.code _ ++ tail = rest at hbody hread
  cases hi : m.index with
  | some i =>
    rw [scaledHead_of_index hi] at hbody
    exact modRm_memory _ _ hmod hbody (place_sib hreads hi (hindex i hi) (hscale i hi) hbase hword
      hsize rest) hread
  | none =>
    cases hb : m.base with
    | some b =>
      rw [scaledHead_of_base hi hb] at hbody
      exact modRm_memory _ _ hmod hbody
        (place_plain hreads hb hi (hbase b hb) (hescape hi b hb) hword hsize rest) hread
    | none =>
      have hlayout := hnone hb
      have hcoded : m.coded size = [] := by
        rw [coded, if_neg hword, hb, hi]
        rfl
      rw [hlayout] at hread
      rw [scaledHead_of_none hi hb] at hbody
      cases hmode : d.mode with
      | x86 =>
        rw [hmode] at hbody
        refine modRm_memory 0 5 (by decide) hbody ?_ hread
        unfold Decoded.place? Decoded.plainPlace
        rw [if_neg hsize, hmode, hcoded]
        rfl
      | x64 =>
        -- In 64-bit mode the byte that meant no registers is relative to the instruction pointer.
        rw [hmode] at hbody
        have hgathers : d.gathers = false := by
          rw [hreads.gathers, hi]
          rfl
        have hzero : d.bits.index = 0 := by
          rw [hreads.index, hi]
          rfl
        refine modRm_memory 0 4 (by decide) hbody ?_ hread
        unfold Decoded.place? Decoded.sibPlace
        rw [if_neg hsize, hgathers, hzero, hcoded]
        rfl

/-- An address in normal form is read back. -/
theorem modRm_emit {size : Option Nat} (hnormal : m.Normal size)
    (hfitting : ∀ x ∈ m.disp, m.Fitting size x) (hreads : m.Reads d)
    (hsize : d.addrSize = size.getD d.mode.addrSize)
    (hip : m.base.any (·.isClass .ip) = true → d.mode = .x64)
    (hbody : d.body = (m.emit d.mode d.addrSize reg).flatMap Piece.code ++ tail) :
    d.modRm? = some ⟨reg.toNat % 8 + 8 * d.bits.reg,
      .memory ⟨d.addrSize, m.coded size, m.dispNumber⟩, tail⟩ := by
  have hwide : size ≠ some 2 → d.addrSize ≠ 2 := by
    intro hword
    rw [hsize]
    cases size with
    | none => cases d.mode <;> decide
    | some n => exact fun h => hword (congrArg some h)
  unfold emit at hbody
  cases hnormal with
  | word hcode hbase hindex =>
    rw [if_pos (by rw [hsize]; rfl)] at hbody
    exact modRm_emitWord hcode hbase hfitting hsize hbody
  | @ip r n hn hr hbase hindex =>
    have hword : some n ≠ some 2 := fun h => hn (Option.some.inj h)
    have hany : m.base.any (·.isClass .ip) = true := by
      rw [hbase, Option.any_some, Register.isClass, hr]
      rfl
    rw [if_neg (hwide hword), if_pos hany] at hbody
    exact modRm_emitIp hr hbase hindex hword hfitting (hwide hword) (hip hany) hbody
  | scaled hword hbase hindex hscale hescape =>
    have hany : m.base.any (·.isClass .ip) = false := by
      rw [Option.any_eq_false]
      intro r hr
      rw [Register.isClass, hbase r hr]
      rfl
    rw [if_neg (hwide hword), if_neg (by rw [hany]; decide)] at hbody
    exact modRm_emitLegacy hword hbase hindex hscale hescape hfitting hreads (hwide hword) hbody

end Emit

end Mem

end MachineCode.X86
