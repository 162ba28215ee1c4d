import MachineCode.Proofs.Fields
import MachineCode.Proofs.Riscv.Contents

/-!
Reading words back. Every action of a template has stretches of its own, where it puts a register
number, an immediate or a code; a label keeps the stretches of its displacement clear. A step that
succeeds sets bits in its stretches that read as what its part says.
-/
namespace MachineCode.Riscv

def Reloc.stretches : Reloc → Nat → List Stretch
  | b, 0 => Field.b.stretches
  | j, 0 => Field.j.stretches
  | bc, 0 => Field.cb.stretches
  | jc, 0 => Field.cj.stretches
  | hi20, 0 | split32, 0 | split32s, 0 => Field.u.stretches
  | lo12, 0 | split32, 1 => Field.i.stretches
  | lo12s, 0 | split32s, 1 => Field.s.stretches
  | _, _ => []

def listNums (code : Nat) : List Nat :=
  if code = 4 then [1]
  else if code = 5 then [1, 8]
  else if code = 6 then [1, 8, 9]
  else if code = 15 then [1, 8, 27]
  else [1, 8, code + 11]

def savedNum (i : Nat) : Nat := if i < 2 then 8 + i else 16 + i

namespace Action

def stretches : Action → Nat → List Stretch
  | reg pos, 0 | peek pos, 0 => [⟨pos, 5⟩]
  | regC pos, 0 | saved pos _, 0 => [⟨pos, 3⟩]
  | imm f, 0 => f.stretches
  | upper, 0 => Field.u.stretches
  | rounding, 0 => [⟨12, 3⟩]
  | fence pos, 0 => [⟨pos, 4⟩]
  | regList, 0 => [⟨4, 4⟩]
  | stackAdj _, 0 => [⟨2, 2⟩]
  | rel kind, k => kind.stretches k
  | _, _ => []

/-- What a word says at the place of an action. A stack adjustment counts from the bytes of the
list with this code, an operand without bits is the stack pointer, and a label is not in the
word. -/
def read (xlen : Int) (code : Nat) (w : Word) : Action → Content
  | reg pos | peek pos => .register (Stretch.read ⟨pos, 5⟩ w)
  | regC pos => .register (8 + Stretch.read ⟨pos, 3⟩ w)
  | saved pos _ => .register (savedNum (Stretch.read ⟨pos, 3⟩ w))
  | imm f => .number (f.gather w).toInt
  | upper => .number (Field.u.gather w).toInt
  | rounding => .number (Stretch.read ⟨12, 3⟩ w)
  | fence pos => .number (Stretch.read ⟨pos, 4⟩ w)
  | regList => .registers (listNums (Stretch.read ⟨4, 4⟩ w))
  | stackAdj negative =>
    let amount := 16 * (Stretch.read ⟨2, 2⟩ w : Int) + (listBytes code xlen).toInt
    .number (if negative then -amount else amount)
  | skip => .register 2
  | rel _ => .label ⟨.nowhere, 0⟩

def peeks : Action → Bool
  | peek _ => true
  | _ => false

def rel? : Action → Option Reloc
  | rel kind => some kind
  | _ => none

def refs (a : Action) (p : Part) : List (Ref Reloc) :=
  match a with
  | rel kind => [⟨p.labelRef.target, p.labelRef.addend, kind⟩]
  | _ => []

/-- Whether an action can use a part of this kind. Where a template has an upper immediate, that
is its only number. -/
def suits (upper : Bool) : Action → Kind → Bool
  | reg _, .register _ | peek _, .register _ => true
  | regC _, .register s => s == .xCompressed || s == .fCompressed
  | saved _ _, .register s => s == .saved
  | skip, .register s => s == .sp
  | imm f, .number => !upper && f.Proper
  | stackAdj _, .number => !upper
  | .upper, .number => upper
  | rel _, .label => true
  | rounding, .rounding => true
  | fence _, .fence => true
  | regList, .list => true
  | _, _ => false

theorem read_congr {a : Action} {w w' : Word} (xlen : Int) (code : Nat)
    (h : ∀ s ∈ a.stretches 0, s.read w = s.read w') : a.read xlen code w = a.read xlen code w' := by
  cases a with
  | reg pos | peek pos => exact congrArg Content.register (h ⟨pos, 5⟩ List.mem_cons_self)
  | regC pos => exact congrArg (Content.register <| 8 + ·) (h ⟨pos, 3⟩ List.mem_cons_self)
  | saved pos distinct =>
    exact congrArg (Content.register <| savedNum ·) (h ⟨pos, 3⟩ List.mem_cons_self)
  | imm f => exact congrArg (Content.number ·.toInt) (BitField.gather_congr h)
  | upper => exact congrArg (Content.number ·.toInt) (BitField.gather_congr h)
  | rounding => rw [read, read, h ⟨12, 3⟩ List.mem_cons_self]
  | fence pos => rw [read, read, h ⟨pos, 4⟩ List.mem_cons_self]
  | regList => rw [read, read, h ⟨4, 4⟩ List.mem_cons_self]
  | stackAdj negative => rw [read, read, h ⟨2, 2⟩ List.mem_cons_self]
  | skip | rel kind => rfl

end Action

theorem fieldBits_eq_ok_iff {name : String} {f : BitField} {v : Int64} {w : Word}
    (hf : f.Proper) : fieldBits name f v = .ok w ↔ f.Admits v ∧ w = f.place v := by
  rw [← BitField.fault?_eq_none_iff hf, fieldBits]
  constructor
  · intro h
    split at h
    · cases h
    · cases h
    · cases h
    next hfault => exact ⟨hfault, (Except.ok.inj h).symm⟩
  · rintro ⟨hfault, rfl⟩
    rw [hfault]

theorem within_place (f : BitField) (v : Int64) : Within f.stretches (f.place v) := by
  intro i hi
  rw [BitField.getLsbD_place, List.any_eq_true] at hi
  obtain ⟨p, hp, hbit⟩ := hi
  exact ⟨_, List.mem_map_of_mem hp, Piece.covers_of_getLsbD_place hbit⟩

theorem gather_place {f : BitField} {v : Int64} (hf : f.Proper) (h : f.Admits v) :
    f.gather (f.place v) = v := by
  have hzero := BitField.gather_or_place (w := 0) hf h (by simp)
  rwa [show (0 : Word) ||| f.place v = f.place v by simp] at hzero

theorem toInt_wrapWord {xlen : Int} {v : Int64}
    (hrange : -2147483648 ≤ (wrapWord xlen v).toInt ∧ (wrapWord xlen v).toInt < 2147483648) :
    (wrapWord xlen v).toInt = numeral (xlen == 32) v := by
  unfold numeral
  by_cases hx : xlen = 32
  · rw [if_pos (beq_iff_eq.mpr hx)]
    unfold wrapWord at hrange ⊢
    by_cases hwrap : 0x80000000 ≤ v.toInt ∧ v.toInt < 0x100000000
    · have hcond : (decide (xlen = 32) && decide (0x80000000 ≤ v.toInt) &&
          decide (v.toInt < 0x100000000)) = true := by
        simp [hx, hwrap]
      rw [if_pos hcond, Int64.toInt_sub]
      have hbig : (0x100000000 : Int64).toInt = 0x100000000 := by decide
      rw [hbig, Int.bmod_eq_of_le (by omega) (by omega), Int.bmod_def]
      omega
    · have hcond : ¬ (decide (xlen = 32) && decide (0x80000000 ≤ v.toInt) &&
          decide (v.toInt < 0x100000000)) = true := by
        simpa [hx] using hwrap
      rw [if_neg hcond] at hrange ⊢
      exact (Int.bmod_eq_of_le (by omega) (by omega)).symm
  · rw [if_neg (by simpa using hx), wrapWord, if_neg (by simp [hx])]

theorem listCode_spec {name : String} {rs : List Register} {code : Nat}
    (h : listCode name rs = .ok code) : code < 16 ∧ listNums code = rs.map (·.num) := by
  unfold listCode at h
  dsimp only at h
  split at h
  next ra =>
    split at h
    next hra =>
      cases h
      simp only [Bool.and_eq_true, beq_iff_eq] at hra
      simp [listNums, hra.2]
    · cases h
  next ra s0 =>
    split at h
    · cases h
    next hra =>
      split at h
      next hs0 =>
        cases h
        simp only [Bool.not_eq_true', Bool.not_eq_false, Bool.and_eq_true, beq_iff_eq] at hra hs0
        simp [listNums, hra.2, hs0.2]
      · cases h
  next ra s0 last =>
    split at h
    · cases h
    next hra =>
      split at h
      · cases h
      next hs0 =>
        simp only [Bool.not_eq_true', Bool.not_eq_false, Bool.and_eq_true, beq_iff_eq] at hra hs0
        split at h
        next hlast =>
          cases h
          simp only [Bool.and_eq_true, beq_iff_eq] at hlast
          simp [listNums, hra.2, hs0.2, hlast.2]
        · split at h
          next hlast =>
            simp only [Bool.and_eq_true, decide_eq_true_eq] at hlast
            split at h
            · cases h
            next heleven =>
              cases h
              have hnum : last.num = 27 := by omega
              simp [listNums, hra.2, hs0.2, hnum]
            next hten heleven =>
              cases h
              have hlow : 2 ≤ last.num - 16 := by omega
              have hhigh : last.num - 16 ≤ 9 := by
                have : last.num - 16 ≠ 10 := hten
                have : last.num - 16 ≠ 11 := heleven
                omega
              refine ⟨by omega, ?_⟩
              rw [listNums, if_neg (by omega), if_neg (by omega), if_neg (by omega),
                if_neg (by omega)]
              simp only [List.map_cons, List.map_nil, hra.2, hs0.2, List.cons.injEq, true_and,
                and_true]
              omega
          · cases h
  · cases h

theorem listBytes_bounds {code : Nat} (h : code < 16) (xlen : Int) :
    0 ≤ (listBytes code xlen).toInt ∧ (listBytes code xlen).toInt ≤ 112 := by
  have hall : ∀ c < 16, ∀ wide : Bool,
      let b := if wide then
        (if c ≤ 7 then (16 : Int64) else if c ≤ 11 then 32 else if c ≤ 14 then 48 else 64)
        else if c = 15 then 112 else Int64.ofNat (16 * ((c - 4) / 2 + 1))
      0 ≤ b.toInt ∧ b.toInt ≤ 112 := by decide
  have hcode := hall code h (decide (xlen = 32))
  unfold listBytes
  by_cases hx : xlen = 32
  · simpa [hx] using hcode
  · simpa [hx] using hcode

theorem stackCode_spec {name : String} {xlen : Int} {code n : Nat} {v : Int64} {negative : Bool}
    (hcode : code < 16) (h : stackCode name xlen code v negative = .ok n) :
    n < 4 ∧ v.toInt = if negative then -(16 * (n : Int) + (listBytes code xlen).toInt)
      else 16 * (n : Int) + (listBytes code xlen).toInt := by
  have hleast := listBytes_bounds hcode xlen
  unfold stackCode at h
  dsimp only at h
  generalize hamount : (if negative = true then -v else v) = amount at h
  generalize listBytes code xlen = least at h hleast ⊢
  split at h
  · cases h
  next hrange =>
    cases h
    simp only [Bool.or_eq_true, decide_eq_true_eq, bne_iff_ne, not_or, not_not] at hrange
    obtain ⟨⟨hlow, hmod⟩, hhigh⟩ := hrange
    -- The difference is small, so nothing has wrapped around.
    have hsum : amount.toInt = (amount - least).toInt + least.toInt := by
      have hadd : amount = (amount - least) + least := (Int64.sub_add_cancel amount least).symm
      conv_lhs => rw [hadd]
      rw [Int64.toInt_add]
      exact Int.bmod_eq_of_le (by omega) (by omega)
    refine ⟨by omega, ?_⟩
    cases negative with
    | true =>
      rw [if_pos rfl] at hamount ⊢
      have hv : v = -amount := by rw [← hamount, Int64.neg_neg]
      rw [hv, Int64.toInt_neg, Int.bmod_eq_of_le (by omega) (by omega)]
      omega
    | false =>
      rw [if_neg Bool.false_ne_true] at hamount ⊢
      rw [hamount]
      omega

theorem savedNum_savedIndex {n : Nat} (h : n = 8 ∨ n = 9 ∨ (18 ≤ n ∧ n ≤ 23)) :
    Filling.savedIndex n < 8 ∧ savedNum (Filling.savedIndex n) = n := by
  unfold Filling.savedIndex savedNum
  split <;> split <;> omega

structure Did (st : Step) (s s' : Filling) (bits : Word) : Prop where
  within : Within (st.action.stretches 0) bits
  words : s'.words = s.words.modify st.word (· ||| bits)
  parts : s'.parts = if st.action.peeks then s.parts else s.parts.drop 1
  refs : s'.refs = s.refs ++ st.action.refs s.next
  list : s'.list = if st.action = .regList then Stretch.read ⟨4, 4⟩ bits else s.list
  vacant : st.action.rel?.isSome = true → bits = 0

theorem Did.of_bits {a : Action} {word : Nat} {s s' : Filling} {bits : Word}
    (hwithin : Within (a.stretches 0) bits) (hpeeks : a.peeks = false) (hrel : a.rel? = none)
    (hregList : a ≠ .regList) (hwords : s'.words = s.words.modify word (· ||| bits))
    (hparts : s'.parts = s.parts.drop 1) (hrefs : s'.refs = s.refs) (hlist : s'.list = s.list) :
    Did ⟨a, word⟩ s s' bits where
  within := hwithin
  words := hwords
  parts := by rw [hparts, hpeeks, if_neg Bool.false_ne_true]
  refs := by
    have hnone : a.refs s.next = [] := by
      cases a with
      | rel kind => cases hrel
      | _ => rfl
    rw [hrefs, hnone, List.append_nil]
  list := by rw [hlist, if_neg hregList]
  vacant := by
    rw [hrel]
    exact fun h => by cases h

theorem within_bitsAt {n pos width : Nat} (h : n < 2 ^ width) :
    Within [⟨pos, width⟩] (Filling.bitsAt n pos) := Within.place (s := ⟨pos, width⟩) h

theorem read_bitsAt {n pos width : Nat} (h : n < 2 ^ width) (hin : pos + width ≤ 32) :
    Stretch.read ⟨pos, width⟩ (Filling.bitsAt n pos) = n :=
  Stretch.read_place (s := ⟨pos, width⟩) h hin

/-- What the bits of a step say: the content of its part, but for that of a label. -/
def Tells (xlen : Int) (a : Action) (s : Filling) (bits : Word) (c : Content) : Prop :=
  if a.rel?.isSome then c = .label s.next.labelRef else a.read xlen s.list bits = c

def Records (xlen : Int) (st : Step) (s s' : Filling) (c : Content) : Prop :=
  ∃ bits, Did st s s' bits ∧ Tells xlen st.action s bits c

section Steps

variable {name : String} {xlen : Int} {wrapped upper : Bool} {s s' : Filling} {k : Kind}
  {c : Content} {word pos : Nat} {r : Register} {v : Int64}

theorem step_reg (hpart : s.next = .reg r) (hlt : r.num < 32) (hin : pos + 5 ≤ 32)
    (h : s.step name xlen ⟨.reg pos, word⟩ = .ok s') :
    Records xlen ⟨.reg pos, word⟩ s s' (.register r.num) := by
  simp only [Filling.step, hpart, Part.regNum, Nat.mod_eq_of_lt hlt] at h
  cases h
  refine ⟨_, .of_bits (within_bitsAt hlt) rfl rfl nofun rfl rfl rfl rfl, ?_⟩
  exact congrArg Content.register (read_bitsAt hlt hin)

theorem step_peek (hpart : s.next = .reg r) (hlt : r.num < 32) (hin : pos + 5 ≤ 32)
    (h : s.step name xlen ⟨.peek pos, word⟩ = .ok s') :
    Records xlen ⟨.peek pos, word⟩ s s' (.register r.num) := by
  simp only [Filling.step, hpart, Part.regNum, Nat.mod_eq_of_lt hlt] at h
  cases h
  refine ⟨_, ⟨within_bitsAt hlt, rfl, rfl, (List.append_nil _).symm, rfl, nofun⟩, ?_⟩
  exact congrArg Content.register (read_bitsAt hlt hin)

theorem step_regC (hpart : s.next = .reg r) (hlow : 8 ≤ r.num) (hhigh : r.num ≤ 15)
    (hin : pos + 3 ≤ 32) (h : s.step name xlen ⟨.regC pos, word⟩ = .ok s') :
    Records xlen ⟨.regC pos, word⟩ s s' (.register r.num) := by
  have hfits : r.num - 8 < 2 ^ 3 := by omega
  simp only [Filling.step, hpart, Part.regNum, show (r.num + 248) % 8 = r.num - 8 by omega] at h
  cases h
  refine ⟨_, .of_bits (within_bitsAt hfits) rfl rfl nofun rfl rfl rfl rfl, ?_⟩
  change Content.register (8 + Stretch.read ⟨pos, 3⟩ (Filling.bitsAt (r.num - 8) pos)) = _
  rw [read_bitsAt hfits hin, show 8 + (r.num - 8) = r.num by omega]

theorem step_saved {distinct : Bool} (hpart : s.next = .reg r)
    (hrange : r.num = 8 ∨ r.num = 9 ∨ (18 ≤ r.num ∧ r.num ≤ 23)) (hin : pos + 3 ≤ 32)
    (h : s.step name xlen ⟨.saved pos distinct, word⟩ = .ok s') :
    Records xlen ⟨.saved pos distinct, word⟩ s s' (.register r.num) := by
  obtain ⟨hfits, hnum⟩ := savedNum_savedIndex hrange
  simp only [Filling.step, hpart, Part.regNum] at h
  split at h
  · cases h
  · cases h
    refine ⟨_, .of_bits (within_bitsAt hfits) rfl rfl nofun rfl rfl rfl rfl, ?_⟩
    change Content.register (savedNum (Stretch.read ⟨pos, 3⟩
      (Filling.bitsAt (Filling.savedIndex r.num) pos))) = _
    rw [read_bitsAt hfits hin, hnum]

theorem step_skip (hnum : r.num = 2) (h : s.step name xlen ⟨.skip, word⟩ = .ok s') :
    Records xlen ⟨.skip, word⟩ s s' (.register r.num) := by
  cases h
  refine ⟨0, .of_bits (.zero _) rfl rfl nofun rfl rfl rfl rfl, ?_⟩
  exact congrArg Content.register hnum.symm

theorem step_imm {f : BitField} (hpart : s.next = .imm v) (hf : f.Proper)
    (h : s.step name xlen ⟨.imm f, word⟩ = .ok s') :
    Records xlen ⟨.imm f, word⟩ s s' (.number v.toInt) := by
  simp only [Filling.step, hpart, Part.value] at h
  obtain ⟨bits, hbits, rfl⟩ := map_eq_ok h
  obtain ⟨hadmits, rfl⟩ := (fieldBits_eq_ok_iff hf).mp hbits
  refine ⟨_, .of_bits (within_place f v) rfl rfl nofun rfl rfl rfl rfl, ?_⟩
  exact congrArg (Content.number ·.toInt) (gather_place hf hadmits)

theorem step_upper (hpart : s.next = .imm v) (h : s.step name xlen ⟨.upper, word⟩ = .ok s') :
    Records xlen ⟨.upper, word⟩ s s' (.number (numeral (xlen == 32) v)) := by
  have hproper : Field.u.Proper := by decide
  simp only [Filling.step, hpart, Part.value] at h
  obtain ⟨bits, hbits, rfl⟩ := map_eq_ok h
  obtain ⟨hadmits, rfl⟩ := (fieldBits_eq_ok_iff hproper).mp hbits
  refine ⟨_, .of_bits (within_place Field.u _) rfl rfl nofun rfl rfl rfl rfl, ?_⟩
  have hrange := hadmits.range
  rw [if_pos (show Field.u.signed = true from rfl)] at hrange
  rw [← toInt_wrapWord hrange]
  exact congrArg (Content.number ·.toInt) (gather_place hproper hadmits)

theorem step_rel {kind : Reloc} {l : LabelRef} (hpart : s.next = .label l)
    (h : s.step name xlen ⟨.rel kind, word⟩ = .ok s') :
    Records xlen ⟨.rel kind, word⟩ s s' (.label l) := by
  cases h
  refine ⟨0, ⟨.zero _, rfl, rfl, rfl, rfl, fun _ => rfl⟩, ?_⟩
  change Content.label l = .label s.next.labelRef
  rw [hpart]
  rfl

theorem records_rounding {n : Nat} (hn : n < 8)
    (h : Except.ok (s.set word (Filling.bitsAt n 12)) = (Except.ok s' : Except Refusal Filling)) :
    Records xlen ⟨.rounding, word⟩ s s' (.number n) := by
  cases h
  have hwithin : Within [⟨12, 3⟩] (Filling.bitsAt n 12) := within_bitsAt hn
  refine ⟨_, .of_bits hwithin rfl rfl nofun rfl rfl rfl rfl, ?_⟩
  exact congrArg (fun n : Nat => Content.number n) (read_bitsAt hn (by decide))

theorem records_fence {n : Nat} (hn : n < 16) (hin : pos + 4 ≤ 32)
    (h : Except.ok (s.set word (Filling.bitsAt n pos)) = (Except.ok s' : Except Refusal Filling)) :
    Records xlen ⟨.fence pos, word⟩ s s' (.number n) := by
  cases h
  have hwithin : Within [⟨pos, 4⟩] (Filling.bitsAt n pos) := within_bitsAt hn
  refine ⟨_, .of_bits hwithin rfl rfl nofun rfl rfl rfl rfl, ?_⟩
  exact congrArg (fun n : Nat => Content.number n) (read_bitsAt hn hin)

theorem toNat_ofNat {n : Nat} (hn : n < 256) : (Int64.ofNat n).toBitVec.toNat = n := by
  rw [Int64.toBitVec_ofNat', BitVec.toNat_ofNat, Nat.mod_eq_of_lt (by omega)]

theorem step_regList {rs : List Register} (hpart : s.next = .list rs)
    (h : s.step name xlen ⟨.regList, word⟩ = .ok s') :
    Records xlen ⟨.regList, word⟩ s s' (.registers (rs.map (·.num))) := by
  simp only [Filling.step, hpart, Part.registers] at h
  obtain ⟨code, hcode, h⟩ := bind_eq_ok h
  cases h
  obtain ⟨hlt, hnums⟩ := listCode_spec hcode
  have hread : Stretch.read ⟨4, 4⟩ (Filling.bitsAt code 4) = code := read_bitsAt hlt (by decide)
  refine ⟨_, ⟨within_bitsAt hlt, rfl, rfl, (List.append_nil _).symm, hread.symm, nofun⟩, ?_⟩
  rw [← hnums]
  exact congrArg (Content.registers <| listNums ·) hread

theorem step_stackAdj {negative : Bool} (hpart : s.next = .imm v) (hlist : s.list < 16)
    (h : s.step name xlen ⟨.stackAdj negative, word⟩ = .ok s') :
    Records xlen ⟨.stackAdj negative, word⟩ s s' (.number v.toInt) := by
  simp only [Filling.step, hpart, Part.value] at h
  obtain ⟨code, hcode, h⟩ := bind_eq_ok h
  cases h
  obtain ⟨hlt, hv⟩ := stackCode_spec hlist hcode
  have hread : Stretch.read ⟨2, 2⟩ (Filling.bitsAt code 2) = code := read_bitsAt hlt (by decide)
  refine ⟨_, .of_bits (within_bitsAt hlt) rfl rfl nofun rfl rfl rfl rfl, ?_⟩
  change Content.number _ = _
  rw [hread, hv]

/-- A step that succeeds on a part of a suitable kind records what the part says. -/
theorem step_records {st : Step} (hwrapped : wrapped = (upper && xlen == 32))
    (hsaid : Says wrapped k s.next c) (hsuits : st.action.suits upper k = true)
    (hin : ∀ x ∈ st.action.stretches 0, x.stop ≤ 32) (hlist : s.list < 16)
    (h : s.step name xlen st = .ok s') : Records xlen st s s' c := by
  obtain ⟨a, word⟩ := st
  dsimp only at hsuits hin
  generalize hpart : s.next = part at hsaid
  cases hsaid with
  | @register slot r hlt hallows =>
    cases a with
    | reg pos => exact step_reg hpart hlt (hin ⟨pos, 5⟩ List.mem_cons_self) h
    | peek pos => exact step_peek hpart hlt (hin ⟨pos, 5⟩ List.mem_cons_self) h
    | regC pos =>
      have hrange : 8 ≤ r.num ∧ r.num ≤ 15 := by
        simp only [Action.suits, Bool.or_eq_true, beq_iff_eq] at hsuits
        rcases hsuits with rfl | rfl
        · simpa [Slot.allows] using hallows
        · simpa [Slot.allows] using hallows
      exact step_regC hpart hrange.1 hrange.2 (hin ⟨pos, 3⟩ List.mem_cons_self) h
    | saved pos distinct =>
      obtain rfl : slot = .saved := eq_of_beq hsuits
      refine step_saved hpart ?_ (hin ⟨pos, 3⟩ List.mem_cons_self) h
      simpa [Slot.allows, or_assoc] using hallows
    | skip =>
      obtain rfl : slot = .sp := eq_of_beq hsuits
      exact step_skip (by simpa [Slot.allows] using hallows) h
    | _ => cases hsuits
  | number v =>
    -- Only an upper immediate is wrapped, and where there is one, it is the only number.
    have hplain : upper = false → numeral wrapped v = v.toInt := by
      rintro rfl
      rw [hwrapped]
      rfl
    cases a with
    | imm f =>
      simp only [Action.suits, Bool.and_eq_true, Bool.not_eq_true', decide_eq_true_eq] at hsuits
      rw [hplain hsuits.1]
      exact step_imm hpart hsuits.2 h
    | stackAdj negative =>
      rw [hplain (by simpa [Action.suits] using hsuits)]
      exact step_stackAdj hpart hlist h
    | upper =>
      obtain rfl : upper = true := hsuits
      rw [hwrapped, Bool.true_and]
      exact step_upper hpart h
    | _ => cases hsuits
  | label l =>
    cases a with
    | rel kind => exact step_rel hpart h
    | _ => cases hsuits
  | @rounding n hlt =>
    cases a with
    | rounding =>
      simp only [Filling.step, hpart, toNat_ofNat (show n < 256 by omega)] at h
      exact records_rounding hlt h
    | _ => cases hsuits
  | noRounding =>
    cases a with
    | rounding =>
      simp only [Filling.step, hpart] at h
      exact records_rounding (by decide) h
    | _ => cases hsuits
  | fence hlt =>
    cases a with
    | fence pos =>
      simp only [Filling.step, hpart, toNat_ofNat hlt] at h
      exact records_fence (by omega) (hin ⟨pos, 4⟩ List.mem_cons_self) h
    | _ => cases hsuits
  | noFence =>
    cases a with
    | fence pos =>
      simp only [Filling.step, hpart] at h
      exact records_fence (by decide) (hin ⟨pos, 4⟩ List.mem_cons_self) h
    | _ => cases hsuits
  | list rs =>
    cases a with
    | regList => exact step_regList hpart h
    | _ => cases hsuits

end Steps

end MachineCode.Riscv
