import MachineCode.Proofs.Riscv.Profiles

/-!
Pushing and popping register lists. A list stands for the return address and the saved registers
from s0 up to its last one; a half word has a code for the list, and one for how far the stack
pointer moves beyond the bytes of the registers. Both are read as the architecture says.
-/
namespace MachineCode.Riscv

inductive FrameMove where
  | push
  | pop
  | popretz
  | popret
  deriving DecidableEq

namespace FrameMove

def name : FrameMove → String
  | push => "cm.push"
  | pop => "cm.pop"
  | popretz => "cm.popretz"
  | popret => "cm.popret"

def opcode : FrameMove → Nat
  | push => 0xb8
  | pop => 0xba
  | popretz => 0xbc
  | popret => 0xbe

def ofOpcode? : Nat → Option FrameMove
  | 0xb8 => some push
  | 0xba => some pop
  | 0xbc => some popretz
  | 0xbe => some popret
  | _ => none

def isDown (f : FrameMove) : Bool := f == push

def base (f : FrameMove) : Word := BitVec.ofNat 32 (f.opcode * 256 + 2)

def template (f : FrameMove) : Template :=
  ⟨[.regList, .imm], [f.base], 2, [.c, .zcmp], none, [⟨.regList, 0⟩, ⟨.stackAdj f.isDown, 0⟩]⟩

theorem templatesOf_name (f : FrameMove) : templatesOf f.name = [f.template] := by
  have hall : ∀ f ∈ [push, pop, popretz, popret], templatesOf f.name = [f.template] := by
    decide +kernel
  exact hall f (by cases f <;> decide)

theorem ofName?_name (f : FrameMove) : LoadConstant.ofName? f.name = none := by
  cases f <;> decide +kernel

end FrameMove

/-- The numbers of the return address and of the first `n` saved registers. -/
def frameRegisters (n : Nat) : List Nat := 1 :: (List.range n).map savedNum

/-- The bytes of these registers, rounded up to a multiple of sixteen. -/
def frameBytes (xlen : Int) (n : Nat) : Int := ((n + 1) * (xlen / 8) + 15) / 16 * 16

structure Frame where
  move : FrameMove
  registers : List Nat
  /-- By how much the stack pointer moves. -/
  adjustment : Int
  deriving DecidableEq

/-- The push or pop that a half word is. The lists below code 4 are reserved, code 4 is the return
address alone, and there is no code for the saved registers without the last of them. -/
def frame? (xlen : Int) (w : Word) : Option Frame :=
  let code := Stretch.read ⟨4, 4⟩ w
  let n := if code = 15 then 12 else code - 4
  let bytes := frameBytes xlen n + 16 * Stretch.read ⟨2, 2⟩ w
  if Stretch.read ⟨0, 2⟩ w = 2 ∧ 4 ≤ code then
    (FrameMove.ofOpcode? (Stretch.read ⟨8, 8⟩ w)).map fun f =>
      ⟨f, frameRegisters n, if f.isDown then -bytes else bytes⟩
  else none

def Register.IsX (r : Register) (n : Nat) : Prop :=
  r.fault? false = none ∧ r.file = Register.fileX ∧ r.num = n

/-- The list stands for the return address and the first `n` saved registers: for none of them, for
s0, or for those from s0 to the last register of the list, which may not be s10. -/
inductive Denotes : List Register → Nat → Prop
  | ra {ra : Register} (hra : ra.IsX 1) : Denotes [ra] 0
  | s0 {ra s0 : Register} (hra : ra.IsX 1) (hs0 : s0.IsX 8) : Denotes [ra, s0] 1
  | upTo {ra s0 last : Register} {n : Nat} (hra : ra.IsX 1) (hs0 : s0.IsX 8)
      (hlast : last.IsX (savedNum n)) (hn : 1 ≤ n ∧ n ≤ 9 ∨ n = 11) :
      Denotes [ra, s0, last] (n + 1)

def frameCode (n : Nat) : Nat := if n = 12 then 15 else n + 4

theorem Denotes.le {rs : List Register} {n : Nat} (h : Denotes rs n) : n ≤ 10 ∨ n = 12 := by
  cases h with
  | ra | s0 => omega
  | upTo _ _ _ hn => omega

theorem frameCode_bounds {n : Nat} (hn : n ≤ 10 ∨ n = 12) :
    frameCode n < 16 ∧ 4 ≤ frameCode n ∧
      (if frameCode n = 15 then 12 else frameCode n - 4) = n := by
  unfold frameCode
  split
  next h12 => exact ⟨by decide, by decide, by rw [if_pos rfl, h12]⟩
  · refine ⟨by omega, by omega, ?_⟩
    rw [if_neg (by omega)]
    omega

theorem Denotes.fault {rs : List Register} {n : Nat} (h : Denotes rs n) :
    ∀ r ∈ rs, r.fault? false = none := by
  cases h with
  | ra hra => exact List.forall_mem_singleton.mpr hra.1
  | s0 hra hs0 => exact List.forall_mem_cons.mpr ⟨hra.1, List.forall_mem_singleton.mpr hs0.1⟩
  | upTo hra hs0 hlast _ =>
    exact List.forall_mem_cons.mpr
      ⟨hra.1, List.forall_mem_cons.mpr ⟨hs0.1, List.forall_mem_singleton.mpr hlast.1⟩⟩

section Codes

variable {name : String} {rs : List Register} {code n k : Nat} {xlen : Int} {v : Int64}
  {negative : Bool}

theorem isX_iff {r : Register} (hr : r.fault? false = none) :
    (r.file == Register.fileX && r.num == n) = true ↔ r.IsX n := by
  rw [Bool.and_eq_true, beq_iff_eq, beq_iff_eq, Register.IsX]
  exact ⟨fun h => ⟨hr, h⟩, And.right⟩

/-- A list that has a code stands for the registers of that code. -/
theorem denotes_of_listCode (hrs : ∀ r ∈ rs, r.fault? false = none)
    (h : listCode name rs = .ok code) : ∃ n, Denotes rs n ∧ code = frameCode n := by
  unfold listCode at h
  dsimp only at h
  split at h
  next ra =>
    obtain ⟨hra, rfl⟩ := ok_of_when h
    exact ⟨0, .ra ((isX_iff (hrs ra (by simp))).mp hra), rfl⟩
  next ra s0 =>
    obtain ⟨hra, h⟩ := eq_ok_of_guard h
    obtain ⟨hs0, rfl⟩ := ok_of_when h
    rw [Bool.not_eq_true', Bool.not_eq_false] at hra
    exact ⟨1, .s0 ((isX_iff (hrs ra (by simp))).mp hra) ((isX_iff (hrs s0 (by simp))).mp hs0), rfl⟩
  next ra s0 last =>
    obtain ⟨hra, h⟩ := eq_ok_of_guard h
    obtain ⟨hs0, h⟩ := eq_ok_of_guard h
    rw [Bool.not_eq_true', Bool.not_eq_false] at hra hs0
    have hra := (isX_iff (hrs ra (by simp))).mp hra
    have hs0 := (isX_iff (hrs s0 (by simp))).mp hs0
    have hlast := hrs last (by simp)
    split at h
    next h9 =>
      cases h
      exact ⟨2, .upTo (n := 1) hra hs0 ((isX_iff hlast).mp h9) (by omega), rfl⟩
    · split at h
      next hrange =>
        simp only [Bool.and_eq_true, beq_iff_eq, decide_eq_true_eq] at hrange
        obtain ⟨⟨hfile, hlow⟩, hhigh⟩ := hrange
        have hnum : last.IsX (savedNum (last.num - 16)) := by
          refine ⟨hlast, hfile, ?_⟩
          rw [savedNum, if_neg (by omega)]
          omega
        split at h
        · cases h
        next h11 =>
          cases h
          exact ⟨12, .upTo (n := 11) hra hs0 (h11 ▸ hnum) (by omega), rfl⟩
        next h10 h11 =>
          cases h
          have h10 : last.num - 16 ≠ 10 := h10
          have h11 : last.num - 16 ≠ 11 := h11
          refine ⟨_, .upTo hra hs0 hnum (by omega), ?_⟩
          rw [frameCode, if_neg (by omega)]
          omega
      · cases h
  · cases h

theorem listCode_of_denotes (h : Denotes rs n) : listCode name rs = .ok (frameCode n) := by
  cases h with
  | ra hra => simp [listCode, frameCode, hra.2.1, hra.2.2]
  | s0 hra hs0 => simp [listCode, frameCode, hra.2.1, hra.2.2, hs0.2.1, hs0.2.2]
  | @upTo ra s0 last n hra hs0 hlast hn =>
    have hcases : n = 1 ∨ n = 2 ∨ n = 3 ∨ n = 4 ∨ n = 5 ∨ n = 6 ∨ n = 7 ∨ n = 8 ∨ n = 9 ∨
        n = 11 := by omega
    have hfile := hlast.2.1
    have hnum := hlast.2.2
    rcases hcases with rfl | rfl | rfl | rfl | rfl | rfl | rfl | rfl | rfl | rfl <;>
      simp [listCode, hra.2.1, hra.2.2, hs0.2.1, hs0.2.2, hfile, hnum, savedNum, frameCode]

/-- The bytes that are counted for a code are those of its registers. -/
theorem listBytes_frameCode (hxlen : xlen = 32 ∨ xlen = 64) (hn : n ≤ 10 ∨ n = 12) :
    (listBytes (frameCode n) xlen).toInt = frameBytes xlen n := by
  have hall : ∀ m < 13, m ≠ 11 → (listBytes (frameCode m) 32).toInt = frameBytes 32 m ∧
      (listBytes (frameCode m) 64).toInt = frameBytes 64 m := by
    decide
  obtain ⟨h32, h64⟩ := hall n (by omega) (by omega)
  rcases hxlen with rfl | rfl
  · exact h32
  · exact h64

theorem frameBytes_bounds (hxlen : xlen = 32 ∨ xlen = 64) (hn : n ≤ 10 ∨ n = 12) :
    0 ≤ frameBytes xlen n ∧ frameBytes xlen n ≤ 112 := by
  unfold frameBytes
  rcases hxlen with rfl | rfl <;> omega

def moved (negative : Bool) (v : Int) : Int := if negative then -v else v

theorem stackCode_eq_ok_iff (hxlen : xlen = 32 ∨ xlen = 64) (hn : n ≤ 10 ∨ n = 12) :
    stackCode name xlen (frameCode n) v negative = .ok k ↔
      k < 4 ∧ moved negative v.toInt = frameBytes xlen n + 16 * k := by
  have hbytes := listBytes_frameCode hxlen hn
  have hbounds := frameBytes_bounds hxlen hn
  constructor
  · intro h
    obtain ⟨hk, hv⟩ := stackCode_spec (frameCode_bounds hn).1 h
    rw [hbytes] at hv
    refine ⟨hk, ?_⟩
    unfold moved
    cases negative with
    | true => rw [if_pos rfl] at hv ⊢; omega
    | false => rw [if_neg Bool.false_ne_true] at hv ⊢; omega
  · rintro ⟨hk, hv⟩
    have hamount : (if negative then -v else v).toInt = frameBytes xlen n + 16 * k := by
      unfold moved at hv
      cases negative with
      | true =>
        rw [if_pos rfl] at hv ⊢
        rw [Int64.toInt_neg, Int.bmod_eq_of_le (by omega) (by omega), hv]
      | false =>
        rw [if_neg Bool.false_ne_true] at hv ⊢
        exact hv
    -- Numbers this small do not wrap around.
    have hextra : ((if negative then -v else v) - listBytes (frameCode n) xlen).toInt = 16 * k := by
      rw [Int64.toInt_sub, hamount, hbytes, Int.bmod_eq_of_le (by omega) (by omega)]
      omega
    unfold stackCode
    dsimp only
    rw [hextra, if_neg]
    · congr 1
      omega
    · simp only [Bool.or_eq_true, decide_eq_true_eq, bne_iff_ne, not_or, not_not]
      omega

end Codes

section Encoding

variable {p : Profile} {f : FrameMove} {mnemonic : String} {rs : List Register} {v : Int64}

def frameOperands (rs : List Register) (v : Int64) : List (Given Operand) :=
  [.operand (.regList rs), .operand (.imm v)]

theorem encode_frame (hname : Text.toLower (Text.trim mnemonic) = f.name)
    (hhas : p.has [.c, .zcmp] = true) :
    encode p mnemonic (frameOperands rs v) = f.template.encode f.name p [.regList rs, .imm v] := by
  have havailable : f.template.availableIn p = true := by
    rw [Template.availableIn, FrameMove.template, hhas]
    rfl
  have haccepts : f.template.accepts [.regList rs, .imm v] = true := rfl
  change encodeIn p mnemonic [.regList rs, .imm v] = _
  unfold encodeIn
  dsimp only
  rw [hname, f.ofName?_name, f.templatesOf_name]
  simp only [List.filter_cons, havailable, if_true, List.filter_nil, List.find?_cons, haccepts]

theorem fill_eq_ok_iff {name : String} {e : Encoded Reloc} (hp : p.embedded = false) :
    f.template.encode name p [.regList rs, .imm v] = .ok e ↔
      (∀ r ∈ rs, r.fault? false = none) ∧ ∃ code k, listCode name rs = .ok code ∧
        stackCode name p.xlen code v f.isDown = .ok k ∧
        e = ⟨Bytes.ofNat 2
          (f.base ||| Filling.bitsAt code 4 ||| Filling.bitsAt k 2).toNat, []⟩ := by
  have hfill : (∀ r ∈ rs, r.fault? false = none) →
      f.template.encode name p [.regList rs, .imm v] = (do
        let code ← listCode name rs
        let k ← stackCode name p.xlen code v f.isDown
        return ⟨Bytes.ofNat 2 (f.base ||| Filling.bitsAt code 4 ||| Filling.bitsAt k 2).toNat,
          []⟩) := by
    intro hrs
    have hnone : rs.findSome? (fun r => (r.fault? p.embedded).map (r, ·)) = none := by
      rw [List.findSome?_eq_none_iff, hp]
      intro r hr
      rw [hrs r hr, Option.map_none]
    have hparts : partsOfAll name p f.template.slots [.regList rs, .imm v] =
        .ok [.list rs, .imm v] := by
      simp only [FrameMove.template, partsOfAll, partsOf, hnone]
      rfl
    unfold Template.encode
    rw [hparts, ok_bind, FrameMove.template]
    simp only [Filling.run, Filling.step, Filling.next, List.headD_cons, Part.registers, bind_assoc,
      pure_bind, Filling.set, List.drop_one, List.tail_cons, Part.value]
    rfl
  constructor
  · intro h
    obtain ⟨parts, hparts, -⟩ := bind_eq_ok h
    have hrs := fault?_of_partsOfAll (by rfl) hparts (.regList rs) List.mem_cons_self
    rw [hp] at hrs
    rw [hfill hrs] at h
    obtain ⟨code, hcode, h⟩ := bind_eq_ok h
    obtain ⟨k, hk, h⟩ := bind_eq_ok h
    cases h
    exact ⟨hrs, code, k, hcode, hk, rfl⟩
  · rintro ⟨hrs, code, k, hcode, hk, rfl⟩
    rw [hfill hrs, hcode, ok_bind, hk]
    rfl

theorem reads_codes (f : FrameMove) : ∀ code < 16, ∀ k < 4,
    let w := f.base ||| Filling.bitsAt code 4 ||| Filling.bitsAt k 2
    w.toNat < 2 ^ 16 ∧ Stretch.read ⟨0, 2⟩ w = 2 ∧ Stretch.read ⟨2, 2⟩ w = k ∧
      Stretch.read ⟨4, 4⟩ w = code ∧ FrameMove.ofOpcode? (Stretch.read ⟨8, 8⟩ w) = some f := by
  cases f <;> decide +kernel

theorem frame?_of_codes {n k : Nat} (hn : n ≤ 10 ∨ n = 12) (hk : k < 4)
    (hv : moved f.isDown v.toInt = frameBytes p.xlen n + 16 * k) :
    frame? p.xlen (f.base ||| Filling.bitsAt (frameCode n) 4 ||| Filling.bitsAt k 2) =
      some ⟨f, frameRegisters n, v.toInt⟩ := by
  obtain ⟨hlt, hle, hback⟩ := frameCode_bounds hn
  obtain ⟨-, hlow, hk', hcode, hmove⟩ := reads_codes f (frameCode n) hlt k hk
  have hadjust : (if f.isDown then -(frameBytes p.xlen n + 16 * (k : Int))
      else frameBytes p.xlen n + 16 * k) = v.toInt := by
    rw [← hv, moved]
    split
    · omega
    · rfl
  unfold frame?
  dsimp only
  rw [hlow, hk', hcode, hmove, hback, if_pos ⟨rfl, hle⟩, Option.map_some, hadjust]

end Encoding

/-- A push or pop of a register list is encoded exactly if the list stands for the return address
and some of the saved registers, and the stack pointer moves by the bytes of these registers,
rounded up to sixteen, and at most three times sixteen bytes more, down for a push and up for a pop.
The half word then is that instruction, with these registers and this adjustment. -/
theorem frames_kept {p : Profile} (hembedded : p.embedded = false)
    (hxlen : p.xlen = 32 ∨ p.xlen = 64) (hhas : p.has [.c, .zcmp] = true) (f : FrameMove)
    {mnemonic : String} (hname : Text.toLower (Text.trim mnemonic) = f.name)
    (rs : List Register) (v : Int64) :
    ((∃ e, encode p mnemonic (frameOperands rs v) = .ok e) ↔
      ∃ n, Denotes rs n ∧
        ∃ k : Nat, k < 4 ∧ moved f.isDown v.toInt = frameBytes p.xlen n + 16 * k) ∧
    ∀ e, encode p mnemonic (frameOperands rs v) = .ok e →
      ∃ n w, Denotes rs n ∧ e = ⟨Bytes.ofNat 2 w.toNat, []⟩ ∧ w.toNat < 2 ^ 16 ∧
        frame? p.xlen w = some ⟨f, frameRegisters n, v.toInt⟩ := by
  have haccepted : ∀ e, encode p mnemonic (frameOperands rs v) = .ok e ↔
      ∃ (n k : Nat), Denotes rs n ∧
        (k < 4 ∧ moved f.isDown v.toInt = frameBytes p.xlen n + 16 * k) ∧
        e = ⟨Bytes.ofNat 2
          (f.base ||| Filling.bitsAt (frameCode n) 4 ||| Filling.bitsAt k 2).toNat, []⟩ := by
    intro e
    rw [encode_frame hname hhas, fill_eq_ok_iff hembedded]
    constructor
    · rintro ⟨hrs, code, k, hcode, hk, rfl⟩
      obtain ⟨n, hn, rfl⟩ := denotes_of_listCode hrs hcode
      exact ⟨n, k, hn, (stackCode_eq_ok_iff hxlen hn.le).mp hk, rfl⟩
    · rintro ⟨n, k, hn, hk, rfl⟩
      exact ⟨hn.fault, _, k, listCode_of_denotes hn, (stackCode_eq_ok_iff hxlen hn.le).mpr hk, rfl⟩
  constructor
  · constructor
    · rintro ⟨e, he⟩
      obtain ⟨n, k, hn, hk, -⟩ := (haccepted e).mp he
      exact ⟨n, hn, k, hk⟩
    · rintro ⟨n, hn, k, hk⟩
      exact ⟨_, (haccepted _).mpr ⟨n, k, hn, hk, rfl⟩⟩
  · intro e he
    obtain ⟨n, k, hn, ⟨hk, hv⟩, rfl⟩ := (haccepted e).mp he
    have hcode := (frameCode_bounds hn.le).1
    exact ⟨n, _, hn, rfl, (reads_codes f _ hcode k hk).1, frame?_of_codes hn.le hk hv⟩

theorem frames_kept_twelve :
    rv32All.embedded = false ∧ (rv32All.xlen = 32 ∨ rv32All.xlen = 64) ∧
      rv32All.has [.c, .zcmp] = true ∧ Text.toLower (Text.trim " CM.Push") = FrameMove.push.name ∧
      ∃ n w, Denotes [.x 1, .x 8, .x 27] n ∧
        encode rv32All " CM.Push" (frameOperands [.x 1, .x 8, .x 27] (-80)) =
          .ok ⟨Bytes.ofNat 2 w.toNat, []⟩ ∧
        frame? 32 w = some ⟨.push, frameRegisters n, -80⟩ := by
  have hx : ∀ n < 32, (Register.x n).IsX n := by
    unfold Register.IsX
    decide
  have hname : Text.toLower (Text.trim " CM.Push") = FrameMove.push.name := by decide +kernel
  obtain ⟨haccepted, hframe⟩ := frames_kept (p := rv32All) rfl (Or.inl rfl) rfl .push hname
    [.x 1, .x 8, .x 27] (-80)
  have hdenotes : Denotes [.x 1, .x 8, .x 27] 12 :=
    .upTo (n := 11) (hx 1 (by decide)) (hx 8 (by decide)) (hx 27 (by decide)) (Or.inr rfl)
  obtain ⟨e, he⟩ := haccepted.mpr ⟨12, hdenotes, 1, by decide, by decide⟩
  obtain ⟨n, w, hn, rfl, -, hw⟩ := hframe e he
  exact ⟨rfl, Or.inl rfl, rfl, hname, n, w, hn, he, hw⟩

end MachineCode.Riscv
