import MachineCode.AArch64.Encoding
import MachineCode.Proofs.AArch64.Bitmasks
import MachineCode.Proofs.Fields

/-!
Immediates that come back. Each encoder of an immediate refuses the values that its numbers do not
stand for, so the numbers that it puts into the word give the value, or its bits, back.
-/
namespace MachineCode.AArch64

theorem wordAt_eq_bitsAt {v : Int64} (h : 0 ≤ v.toInt) (pos : Nat) :
    wordAt v pos = bitsAt v.toInt.toNat pos := by
  rw [wordAt, bitsAt, toInt_of_nonneg h, BitVec.ofNat_toNat]

theorem toInt_shiftRight_twelve (v : Int64) : (v >>> 12).toInt = v.toInt / 4096 :=
  toInt_shiftRight (k := 12) (by decide) (by decide)

/-- The value of an immediate with the modifier behind it. -/
def shiftedValue (v : Int64) : Part → Int
  | .mod m => v.toInt * 2 ^ m.amount.toNat
  | _ => v.toInt

theorem sets_addImm {name : String} {sh : Nat} {u : Int64} {bits : Word} (hsh : sh < 2)
    (h : (if fitsUnsigned u 12 then Except.ok (bitsAt sh 22 ||| wordAt u 10)
      else Except.error (Refusal.range name .immediate u)) = Except.ok bits) :
    Sets [⟨22, 1⟩, ⟨10, 12⟩] [sh, u.toInt.toNat] bits ∧ 0 ≤ u.toInt := by
  split at h
  next hfits =>
    obtain ⟨hlow, hhigh⟩ := (fitsUnsigned_iff (by omega)).mp hfits
    cases h
    rw [wordAt_eq_bitsAt hlow]
    exact ⟨Sets.cons hsh (Sets.one (show u.toInt.toNat < 2 ^ 12 by omega)), hlow⟩
  · cases h

theorem addImmBits_spec {name : String} {v : Int64} {p : Part} {bits : Word}
    (h : Filling.addImmBits name v p = .ok bits) :
    ∃ sh n, Sets [⟨22, 1⟩, ⟨10, 12⟩] [sh, n] bits ∧
      ((n <<< (12 * sh) : Nat) : Int) = shiftedValue v p := by
  unfold Filling.addImmBits at h
  cases p with
  | mod m =>
    dsimp only at h
    by_cases h12 : m.amount = 12
    · rw [if_pos h12] at h
      obtain ⟨hsets, hlow⟩ := sets_addImm (u := v) (by decide : 1 < 2) h
      refine ⟨_, _, hsets, ?_⟩
      have hpow : (2 : Int) ^ (12 : UInt8).toNat = 4096 := by decide
      rw [shiftedValue, h12, hpow, Nat.shiftLeft_eq, show 2 ^ (12 * 1) = 4096 by decide]
      omega
    · by_cases h0 : m.amount = 0
      · rw [if_neg h12, if_neg (by simpa using h0)] at h
        obtain ⟨hsets, hlow⟩ := sets_addImm (by decide : 0 < 2) h
        refine ⟨_, _, hsets, ?_⟩
        rw [shiftedValue, h0]
        simpa using Int.toNat_of_nonneg hlow
      · rw [if_neg h12, if_pos h0] at h
        cases h
  | absent =>
    by_cases hlarge : 4096 ≤ v.toInt ∧ v.toInt % 4096 = 0
    · -- A multiple of 4096 is shifted without being told to.
      rw [if_pos hlarge] at h
      obtain ⟨hsets, hlow⟩ := sets_addImm (by decide : 1 < 2) h
      refine ⟨_, _, hsets, ?_⟩
      rw [toInt_shiftRight_twelve] at hlow ⊢
      simp only [shiftedValue, Nat.shiftLeft_eq]
      omega
    · rw [if_neg hlarge] at h
      obtain ⟨hsets, hlow⟩ := sets_addImm (by decide : 0 < 2) h
      refine ⟨_, _, hsets, ?_⟩
      exact Int.toNat_of_nonneg hlow
  | _ =>
    obtain ⟨hsets, hlow⟩ := sets_addImm (by decide : 0 < 2) h
    exact ⟨_, _, hsets, Int.toNat_of_nonneg hlow⟩

theorem immBits_of_narrow {v : Int64} {u : BitVec 64} (h : immBits v false = some u) :
    (u.setWidth 32).setWidth 64 = u := by
  unfold immBits at h
  rw [if_neg Bool.false_ne_true] at h
  split at h
  · cases h
    simp
  · cases h

theorem Bitmask.bounds_of_decode {m : Bitmask} {is64 : Bool} {v : BitVec 64}
    (h : m.decode is64 = some v) : m.n < 2 ∧ m.immr < 64 ∧ m.imms < 64 := by
  unfold decode at h
  split at h
  · cases h
  next hvalid =>
    simp only [Bool.or_eq_true, decide_eq_true_eq, not_or] at hvalid
    omega

theorem logicalBits_spec {name : String} {v : Int64} {is64 : Bool} {bits : Word}
    (h : Filling.logicalBits name v is64 = .ok bits) :
    ∃ n immr imms, Sets [⟨22, 1⟩, ⟨16, 6⟩, ⟨10, 6⟩] [n, immr, imms] bits ∧
      Bitmask.decode ⟨n, immr, imms⟩ is64 = immBits v is64 := by
  unfold Filling.logicalBits at h
  split at h
  · cases h
  next u hu =>
    split at h
    · cases h
    next m hm =>
      cases h
      have hdecode := Bitmask.decode_encode hm
      obtain ⟨hn, himmr, himms⟩ := Bitmask.bounds_of_decode hdecode
      refine ⟨m.n, m.immr, m.imms, ?_, ?_⟩
      · rw [BitVec.or_assoc]
        exact Sets.cons hn (Sets.cons himmr (Sets.one himms))
      · rw [hu, hdecode]
        cases is64 with
        | true => rfl
        | false => rw [if_neg Bool.false_ne_true, immBits_of_narrow hu]

def amountOf (m? : Option Mod) : Nat := (m?.map (·.amount.toNat)).getD 0

theorem wideBits_spec {name : String} {v : Int64} {m? : Option Mod} {is64 : Bool} {bits : Word}
    (h : Filling.wideBits name v m? is64 = .ok bits) :
    ∃ n hw, Sets [⟨5, 16⟩, ⟨21, 2⟩] [n, hw] bits ∧ (n : Int) = v.toInt ∧ 16 * hw = amountOf m? := by
  rw [Filling.wideBits] at h
  split at h
  · cases h
  next hfits =>
    obtain ⟨hlow, hhigh⟩ := (fitsUnsigned_iff (by decide : 16 < 63)).mp (by simpa using hfits)
    change (if amountOf m? % 16 ≠ 0 ∨ amountOf m? / 16 ≥ (if is64 then 4 else 2) then
      Except.error (Refusal.range name .shift (Int64.ofNat (amountOf m?)))
      else Except.ok (wordAt v 5 ||| bitsAt (amountOf m? / 16) 21)) = Except.ok bits at h
    by_cases hamount : amountOf m? % 16 ≠ 0 ∨ amountOf m? / 16 ≥ (if is64 then 4 else 2)
    · rw [if_pos hamount] at h
      cases h
    · rw [if_neg hamount] at h
      cases h
      have hhw : amountOf m? / 16 < 2 ^ 2 ∧ 16 * (amountOf m? / 16) = amountOf m? := by
        split at hamount <;> omega
      refine ⟨v.toInt.toNat, amountOf m? / 16, ?_, Int.toNat_of_nonneg hlow, hhw.2⟩
      rw [wordAt_eq_bitsAt hlow]
      exact Sets.cons (show v.toInt.toNat < 2 ^ 16 by omega) (Sets.one hhw.1)

theorem wideImm_spec {v : BitVec 64} {is64 : Bool} {chunk hw : Nat}
    (h : wideImm v is64 = some (chunk, hw)) :
    chunk < 2 ^ 16 ∧ hw < 4 ∧ v = BitVec.ofNat 64 chunk <<< (16 * hw) := by
  obtain ⟨hw', hfind, heq⟩ := Option.map_eq_some_iff.mp h
  cases heq
  have hmem := List.mem_range.mp (List.mem_of_find?_eq_some hfind)
  have hmask := List.find?_some hfind
  rw [decide_eq_true_eq] at hmask
  refine ⟨BitVec.isLt _, ?_, ?_⟩
  · cases is64 <;> simp only [Bool.false_eq_true, if_false, if_true] at hmem <;> omega
  · rw [BitVec.ofNat_toNat]
    apply BitVec.eq_of_getLsbD_eq
    intro i hi
    have hones : ∀ j, (0xffff#64).getLsbD j = decide (j < 16) := by
      intro j
      rw [show (0xffff#64) = (BitVec.allOnes 16).setWidth 64 by decide, BitVec.getLsbD_setWidth,
        BitVec.getLsbD_allOnes]
      by_cases hj : j < 16
      · simp [hj, show j < 64 by omega]
      · simp [hj]
    have hbit := congrArg (BitVec.getLsbD · i) hmask
    simp only [BitVec.getLsbD_and, BitVec.getLsbD_not, BitVec.getLsbD_shiftLeft, hones, hi,
      decide_true, Bool.true_and, BitVec.ofNat_eq_ofNat, BitVec.getLsbD_zero] at hbit
    simp only [BitVec.getLsbD_shiftLeft, BitVec.getLsbD_setWidth, BitVec.getLsbD_extractLsb', hi,
      decide_true, Bool.true_and]
    -- Below and above the chunk, the mask says that the value has no bits.
    by_cases hlow : i < 16 * hw
    · simpa [hlow] using hbit
    · by_cases hhigh : i - 16 * hw < 16
      · have hin : i - 16 * hw < 64 := by omega
        rw [show 16 * hw + (i - 16 * hw) = i by omega]
        simp [hlow, hhigh, hin]
      · simpa [hlow, hhigh] using hbit

theorem invertBits_invertBits {v : Int64} {u : BitVec 64} {is64 : Bool}
    (h : immBits v is64 = some u) : invertBits (invertBits u is64) is64 = u := by
  cases is64 with
  | true => simp [invertBits]
  | false =>
    apply BitVec.eq_of_getLsbD_eq
    intro i hi
    have hbit := congrArg (BitVec.getLsbD · i) (immBits_of_narrow h)
    simp only [BitVec.getLsbD_setWidth, hi, decide_true, Bool.true_and] at hbit
    simp only [invertBits, Bool.false_eq_true, if_false, BitVec.getLsbD_setWidth,
      BitVec.getLsbD_not, hi, decide_true, Bool.true_and]
    by_cases hlow : i < 32
    · simp [hlow]
    · simpa [hlow] using hbit

/-- The bits that a wide move of a chunk leaves in the register. -/
def movedBits (is64 inverted : Bool) (chunk hw : Nat) : BitVec 64 :=
  let u := BitVec.ofNat 64 chunk <<< (16 * hw)
  if inverted then invertBits u is64 else u

theorem movWideBits_spec {name : String} {v : Int64} {is64 inverted : Bool} {bits : Word}
    (hv : (immBits v is64).isSome = true)
    (h : Filling.movWideBits name v is64 inverted = .ok bits) :
    ∃ n hw, Sets [⟨5, 16⟩, ⟨21, 2⟩] [n, hw] bits ∧
      some (movedBits is64 inverted n hw) = immBits v is64 := by
  obtain ⟨u, hu⟩ := Option.isSome_iff_exists.mp hv
  unfold Filling.movWideBits at h
  rw [hu, Option.getD_some] at h
  dsimp only at h
  split at h
  · cases h
  next chunk hw hwide =>
    cases h
    obtain ⟨hchunk, hlt, heq⟩ := wideImm_spec hwide
    refine ⟨chunk, hw, Sets.cons hchunk (Sets.one hlt), ?_⟩
    rw [hu, movedBits, ← heq]
    cases inverted with
    | true => simp only [if_true, invertBits_invertBits hu]
    | false => rfl

theorem fp8OfBits?_spec {bits : UInt64} {imm : Nat} (h : fp8OfBits? bits = some imm) :
    imm < 256 ∧ fp8Bits (UInt8.ofNat imm) = bits :=
  ⟨List.mem_range.mp (List.mem_of_find?_eq_some h), by simpa using List.find?_some h⟩

/-- The value with all bits of byte `i` like bit `i` of a number. -/
def stretched (imm : Nat) : BitVec 64 :=
  (BitVec.ofBoolListLE ((List.range 64).map fun i => imm.testBit (i / 8))).setWidth 64

theorem getLsbD_stretched (imm : Nat) {i : Nat} (hi : i < 64) :
    (stretched imm).getLsbD i = imm.testBit (i / 8) := by
  rw [stretched, BitVec.getLsbD_setWidth, BitVec.getLsbD_ofBoolListLE]
  simp [hi]

def marks (full : Nat → Bool) (n : Nat) : Nat :=
  (List.range n).foldl (fun acc i => if full i then acc + 1 <<< i else acc) 0

theorem marks_spec (full : Nat → Bool) (n : Nat) :
    marks full n < 2 ^ n ∧ ∀ i < n, (marks full n).testBit i = full i := by
  induction n with
  | zero => exact ⟨Nat.one_pos, by omega⟩
  | succ n ih =>
    obtain ⟨hlt, hbits⟩ := ih
    have hsucc : marks full (n + 1) = if full n then 2 ^ n + marks full n else marks full n := by
      rw [marks, List.range_succ, List.foldl_append, List.foldl_cons, List.foldl_nil, ← marks,
        Nat.one_shiftLeft, Nat.add_comm]
    have htop : (marks full n).testBit n = false := Nat.testBit_lt_two_pow hlt
    rw [hsucc, Nat.pow_succ]
    split
    next hfull =>
      refine ⟨by omega, fun i hi => ?_⟩
      rcases Nat.lt_succ_iff_lt_or_eq.mp hi with hi | rfl
      · rw [Nat.testBit_two_pow_add_gt hi, hbits i hi]
      · rw [Nat.testBit_two_pow_add_eq, htop, hfull, Bool.not_false]
    next hfull =>
      refine ⟨by omega, fun i hi => ?_⟩
      rcases Nat.lt_succ_iff_lt_or_eq.mp hi with hi | rfl
      · exact hbits i hi
      · rw [htop, Bool.eq_false_iff.mpr hfull]

theorem stretchedImm_spec {v : BitVec 64} {imm : Nat} (h : stretchedImm v = some imm) :
    imm < 256 ∧ stretched imm = v := by
  unfold stretchedImm at h
  dsimp only at h
  split at h
  next hall =>
    obtain ⟨hlt, hbits⟩ := marks_spec (fun i => v.extractLsb' (8 * i) 8 == 0xff) 8
    have himm : imm = marks (fun i => v.extractLsb' (8 * i) 8 == 0xff) 8 := (Option.some.inj h).symm
    rw [← himm] at hlt hbits
    refine ⟨hlt, BitVec.eq_of_getLsbD_eq fun i hi => ?_⟩
    have hbyte : i / 8 < 8 := by omega
    have hmod : i % 8 < 8 := Nat.mod_lt i (by decide)
    have hsame : v.getLsbD i = (v.extractLsb' (8 * (i / 8)) 8).getLsbD (i % 8) := by
      rw [BitVec.getLsbD_extractLsb', decide_eq_true hmod, Bool.true_and, Nat.div_add_mod]
    have hcase := List.all_eq_true.mp hall (i / 8) (List.mem_range.mpr hbyte)
    rw [getLsbD_stretched imm hi, hbits _ hbyte, hsame]
    simp only [Bool.or_eq_true, beq_iff_eq] at hcase
    rcases hcase with hzero | hones
    · rw [hzero]
      simp
    · rw [hones, show (0xff : BitVec 8) = BitVec.allOnes 8 by decide, BitVec.getLsbD_allOnes,
        decide_eq_true hmod, beq_self_eq_true]
  · cases h

theorem sets_vectorBits {imm : Nat} (h : imm < 256) :
    Sets [⟨16, 3⟩, ⟨5, 5⟩] [imm / 32, imm % 32] (vectorBits imm) := by
  rw [vectorBits, Nat.mod_eq_of_lt (show imm / 32 < 8 by omega)]
  exact Sets.cons (show imm / 32 < 2 ^ 3 by omega) (Sets.one (show imm % 32 < 2 ^ 5 by omega))

/-- The number of the extension of an index. A shift, and no modifier, is that by the full
register. -/
def indexKind : Option Mod → Nat
  | some m => if m.kind = .lsl then ModKind.uxtx.code.toNat else m.kind.code.toNat
  | none => ModKind.uxtx.code.toNat

def indexAmount : Option Mod → Nat
  | some m => if m.bare then 0 else m.amount.toNat
  | none => 0

def indexOption (name : String) (index : Register) (m? : Option Mod) : Except Refusal Nat :=
  let isW := index.family == Family.w
  match m? with
  | some m =>
    if (isW && (m.kind == .uxtw || m.kind == .sxtw)) || (!isW && m.kind == .sxtx) then
      .ok m.kind.extendOption
    else if !isW && m.kind == .lsl then .ok 3
    else .error (.indexModifier name index m.kind)
  | none => if isW then .error (.indexExtension name index) else .ok 3

def indexScaled (name : String) (m? : Option Mod) (scale : Nat) : Except Refusal Nat :=
  match m? with
  | some m =>
    if m.bare then .ok 0
    else if m.amount.toNat = scale then .ok 1
    else if m.amount ≠ 0 then .error (.range name .indexShift (Int64.ofNat m.amount.toNat))
    else .ok 0
  | none => .ok 0

theorem memIndexBits_eq (name : String) (index : Register) (m? : Option Mod) (scale : Nat) :
    Filling.memIndexBits name index m? scale = (do
      let option ← indexOption name index m?
      let s ← indexScaled name m? scale
      return bitsAt (index.num % 32) 16 ||| bitsAt option 13 ||| bitsAt s 12) := by
  unfold Filling.memIndexBits indexOption indexScaled
  cases m? with
  | none =>
    dsimp only
    split <;> rfl
  | some m =>
    dsimp only
    split
    · split
      · rfl
      · split
        · rfl
        · split <;> rfl
    · split
      · split
        · rfl
        · split
          · rfl
          · split <;> rfl
      · rfl

theorem indexOption_spec {name : String} {index : Register} {m? : Option Mod} {option : Nat}
    (h : indexOption name index m? = .ok option) : option < 8 ∧ option + 5 = indexKind m? := by
  unfold indexOption at h
  cases m? with
  | none =>
    dsimp only at h
    split at h
    · cases h
    · cases h
      decide
  | some m =>
    dsimp only at h
    split at h
    next hext =>
      simp only [Bool.or_eq_true, Bool.and_eq_true, beq_iff_eq] at hext
      cases h
      rcases hext with ⟨-, hk | hk⟩ | ⟨-, hk⟩ <;> rw [indexKind, hk] <;> decide
    · split at h
      next hlsl =>
        simp only [Bool.and_eq_true, beq_iff_eq] at hlsl
        cases h
        rw [indexKind, hlsl.2]
        decide
      · cases h

theorem indexScaled_spec {name : String} {m? : Option Mod} {scale s : Nat}
    (h : indexScaled name m? scale = .ok s) : s < 2 ∧ s * scale = indexAmount m? := by
  unfold indexScaled at h
  cases m? with
  | none =>
    cases h
    exact ⟨by decide, Nat.zero_mul _⟩
  | some m =>
    dsimp only at h
    rw [indexAmount]
    split at h
    next hbare =>
      cases h
      rw [if_pos hbare]
      exact ⟨by decide, Nat.zero_mul _⟩
    next hbare =>
      rw [if_neg hbare]
      split at h
      next hscale =>
        cases h
        exact ⟨by decide, by omega⟩
      · split at h
        · cases h
        next hzero =>
          cases h
          rw [show m.amount = 0 by simpa using hzero]
          exact ⟨by decide, Nat.zero_mul _⟩

theorem memIndexBits_spec {name : String} {index : Register} {m? : Option Mod} {scale : Nat}
    {bits : Word} (h : Filling.memIndexBits name index m? scale = .ok bits) :
    ∃ option s, Sets [⟨16, 5⟩, ⟨13, 3⟩, ⟨12, 1⟩] [index.num % 32, option, s] bits ∧
      option + 5 = indexKind m? ∧ s * scale = indexAmount m? := by
  rw [memIndexBits_eq] at h
  cases hoption : indexOption name index m? with
  | error e =>
    rw [hoption] at h
    cases h
  | ok option =>
    cases hs : indexScaled name m? scale with
    | error e =>
      rw [hoption, hs] at h
      cases h
    | ok s =>
      rw [hoption, hs] at h
      cases h
      obtain ⟨hlt, hkind⟩ := indexOption_spec hoption
      obtain ⟨hs2, hamount⟩ := indexScaled_spec hs
      refine ⟨option, s, ?_, hkind, hamount⟩
      rw [BitVec.or_assoc]
      exact Sets.cons (show index.num % 32 < 2 ^ 5 by omega) (Sets.cons hlt (Sets.one hs2))

end MachineCode.AArch64
