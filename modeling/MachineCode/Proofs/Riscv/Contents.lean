import Mathlib.Algebra.Ring.Int.Defs
import Mathlib.Algebra.Ring.Nat
import MachineCode.Riscv.Encoding
import MachineCode.Proofs.Rewriting

/-!
What operands say. An operand says register numbers, numbers, a label or a list of registers; what
was left out says its default. The parts into which the operands of a template are broken are of
the kinds of their slots, and they say what the operands say.
-/
namespace MachineCode.Riscv

inductive Content where
  | register (num : Nat)
  | number (v : Int)
  | label (l : LabelRef)
  | registers (nums : List Nat)
  deriving DecidableEq

def numeral (wrapped : Bool) (v : Int64) : Int :=
  if wrapped then v.toInt.bmod (2 ^ 32) else v.toInt

/-- What an operand says in a slot. The slot of a plain base takes no distance but zero, which is
not said. Of a fence set, four letters count. -/
def Operand.contents (wrapped : Bool) (s : Slot) : Operand → List Content
  | .reg r => [.register r.num]
  | .imm v => [.number (numeral wrapped v)]
  | .mem b off =>
    if s = .addr then [.register b.num] else [.register b.num, .number (numeral wrapped off)]
  | .label l => [.label l]
  | .labelMem b l => [.register b.num, .label l]
  | .rounding m => [.number m.toNat]
  | .fence set => [.number (set.toNat % 16 : Nat)]
  | .csr n => [.number n.toNat]
  | .regList rs => [.registers (rs.map (·.num))]

/-- What an operand says that was left out: the dynamic rounding mode, or all accesses. -/
def Slot.omitted : Slot → List Content
  | .rounding => [.number dynamicRounding.toNat]
  | .fence => [.number 15]
  | _ => []

def contents (wrapped : Bool) : List Slot → List Operand → List Content
  | s :: ss, a :: as => a.contents wrapped s ++ contents wrapped ss as
  | ss, [] => ss.flatMap (·.omitted)
  | [], _ :: _ => []

inductive Kind where
  | register (s : Slot)
  | number
  | label
  | rounding
  | fence
  | list
  deriving DecidableEq

def Slot.kinds : Slot → List Kind
  | .mem => [.register .x, .number]
  | .memCompressed => [.register .xCompressed, .number]
  | .memSp => [.register .sp, .number]
  | .addr => [.register .x]
  | .labelMem => [.register .x, .label]
  | .imm | .csr => [.number]
  | .label => [.label]
  | .rounding => [.rounding]
  | .fence => [.fence]
  | .regList => [.list]
  | s => [.register s]

inductive Says (wrapped : Bool) : Kind → Part → Content → Prop
  | register {s : Slot} {r : Register} (hlt : r.num < 32) (hallows : s.allows r = true) :
    Says wrapped (.register s) (.reg r) (.register r.num)
  | number (v : Int64) : Says wrapped .number (.imm v) (.number (numeral wrapped v))
  | label (l : LabelRef) : Says wrapped .label (.label l) (.label l)
  | rounding {n : Nat} (hlt : n < 8) :
    Says wrapped .rounding (.imm (Int64.ofNat n)) (.number n)
  | noRounding : Says wrapped .rounding .absent (.number dynamicRounding.toNat)
  | fence {n : Nat} (hlt : n < 256) :
    Says wrapped .fence (.imm (Int64.ofNat n)) (.number (n % 16 : Nat))
  | noFence : Says wrapped .fence .absent (.number 15)
  | list (rs : List Register) : Says wrapped .list (.list rs) (.registers (rs.map (·.num)))

inductive AllSay (wrapped : Bool) : List Kind → List Part → List Content → Prop
  | nil : AllSay wrapped [] [] []
  | cons {k : Kind} {p : Part} {c : Content} {ks : List Kind} {ps : List Part} {cs : List Content}
    (hhead : Says wrapped k p c) (htail : AllSay wrapped ks ps cs) :
    AllSay wrapped (k :: ks) (p :: ps) (c :: cs)

variable {name : String} {p : Profile} {wrapped : Bool}

theorem AllSay.append {ks ks' : List Kind} {ps ps' : List Part} {cs cs' : List Content}
    (h : AllSay wrapped ks ps cs) (h' : AllSay wrapped ks' ps' cs') :
    AllSay wrapped (ks ++ ks') (ps ++ ps') (cs ++ cs') := by
  induction h with
  | nil => exact h'
  | cons hhead _ ih => exact .cons hhead ih

theorem AllSay.one {k : Kind} {p : Part} {c : Content} (h : Says wrapped k p c) :
    AllSay wrapped [k] [p] [c] := .cons h .nil

theorem num_lt_of_fault? {r : Register} {embedded : Bool} (h : r.fault? embedded = none) :
    r.num < 32 := by
  unfold Register.fault? at h
  split at h
  · cases h
  · split at h
    · cases h
    · omega

theorem of_registerFault? {s : Slot} {r : Register} (h : registerFault? p s r = none) :
    r.fault? p.embedded = none ∧ s.allows r = true := by
  unfold registerFault? at h
  split at h
  · cases h
  next hfault =>
    split at h
    next hallows => exact ⟨hfault, hallows⟩
    · cases h

theorem says_register {s : Slot} {r : Register} (h : registerFault? p s r = none) :
    Says wrapped (.register s) (.reg r) (.register r.num) :=
  have ⟨hfault, hallows⟩ := of_registerFault? h
  .register (num_lt_of_fault? hfault) hallows

/-- The check of a register in front of the parts of its operand. -/
theorem ok_of_checked {s : Slot} {r : Register} {parts parts' : List Part}
    (h : (match registerFault? p s r with
      | some f => Except.error (Refusal.register name r f)
      | none => Except.ok parts) = .ok parts') :
    registerFault? p s r = none ∧ parts = parts' := by
  split at h
  · cases h
  next hfault => exact ⟨hfault, Except.ok.inj h⟩

theorem numeral_ofNat {n : Nat} (h : n < 2 ^ 16) : numeral wrapped (Int64.ofNat n) = n := by
  unfold numeral
  rw [Int64.toInt_ofNat_of_lt (by omega)]
  cases wrapped with
  | true =>
    rw [if_pos rfl]
    exact Int.bmod_eq_of_le (by omega) (by omega)
  | false => rfl

theorem kinds_of_isRegister {s : Slot} (h : s.isRegister = true) : s.kinds = [.register s] := by
  cases s <;> first | rfl | cases h

theorem allSay_mem {s : Slot} {b : Register} {off : Int64} {parts : List Part}
    (htakes : s.takes (.mem b off) = true)
    (h : partsOf name p s (.mem b off) = .ok parts) :
    AllSay wrapped s.kinds parts (Operand.contents wrapped s (.mem b off)) := by
  obtain ⟨hfault, rfl⟩ := ok_of_checked h
  cases s with
  | addr => exact .one (says_register hfault)
  | mem | memCompressed | memSp => exact .cons (says_register hfault) (.one (.number off))
  | _ => cases htakes

/-- The parts of an operand that its slot takes say what the operand says. -/
theorem allSay_of_partsOf {s : Slot} {a : Operand} {parts : List Part} (htakes : s.takes a = true)
    (h : partsOf name p s a = .ok parts) :
    AllSay wrapped s.kinds parts (a.contents wrapped s) := by
  cases a with
  | reg r =>
    obtain ⟨hfault, rfl⟩ := ok_of_checked h
    rw [kinds_of_isRegister (Bool.and_eq_true_iff.mp htakes).1]
    exact .one (says_register hfault)
  | mem b off => exact allSay_mem htakes h
  | labelMem b l =>
    obtain ⟨hfault, rfl⟩ := ok_of_checked h
    obtain rfl : s = .labelMem := eq_of_beq (Bool.and_eq_true_iff.mp htakes).1
    exact .cons (says_register hfault) (.one (.label l))
  | imm v =>
    cases h
    obtain rfl : s = .imm := eq_of_beq htakes
    exact .one (.number v)
  | label l =>
    cases h
    obtain rfl : s = .label := eq_of_beq htakes
    exact .one (.label l)
  | csr n =>
    cases h
    obtain rfl : s = .csr := eq_of_beq htakes
    have hn : numeral wrapped (Int64.ofNat n.toNat) = n.toNat := numeral_ofNat n.toNat_lt
    have hsaid : Says wrapped .number (.imm (Int64.ofNat n.toNat)) (.number _) := .number _
    rw [hn] at hsaid
    exact .one hsaid
  | rounding m =>
    obtain rfl : s = .rounding := eq_of_beq htakes
    rw [partsOf] at h
    split at h
    next hmode =>
      cases h
      refine .one (.rounding ?_)
      simp only [isRoundingMode, Bool.or_eq_true, decide_eq_true_eq, beq_iff_eq] at hmode
      rcases hmode with hmode | rfl
      · omega
      · decide
    · cases h
  | fence set =>
    cases h
    obtain rfl : s = .fence := eq_of_beq htakes
    exact .one (.fence set.toNat_lt)
  | regList rs =>
    obtain rfl : s = .regList := eq_of_beq htakes
    rw [partsOf] at h
    split at h
    · cases h
    · cases h
      exact .one (.list rs)

def optionalLast : List Slot → Bool
  | [] => true
  | s :: ss => if s.isOptional then ss.all (·.isOptional) else optionalLast ss

theorem allSay_omitted {ss : List Slot} {parts : List Part}
    (hs : ∀ s ∈ ss, s.isOptional = true) (h : partsOfAll name p ss [] = .ok parts) :
    AllSay wrapped (ss.flatMap (·.kinds)) parts (ss.flatMap (·.omitted)) := by
  induction ss generalizing parts with
  | nil =>
    cases h
    exact .nil
  | cons s ss ih =>
    obtain ⟨rest, hrest, rfl⟩ := map_eq_ok h
    have htail := ih (fun t ht => hs t (List.mem_cons_of_mem _ ht)) hrest
    have hoptional := hs s List.mem_cons_self
    cases s with
    | rounding => exact .cons .noRounding htail
    | fence => exact .cons .noFence htail
    | _ => cases hoptional

/-- The parts of all operands that the slots take say what the operands say. -/
theorem allSay_of_partsOfAll {ss : List Slot} {args : List Operand} {parts : List Part}
    (hlast : optionalLast ss = true) (haccepts : Template.accepts.go ss args = true)
    (h : partsOfAll name p ss args = .ok parts) :
    AllSay wrapped (ss.flatMap (·.kinds)) parts (contents wrapped ss args) := by
  induction ss generalizing args parts with
  | nil =>
    cases args with
    | nil =>
      cases h
      exact .nil
    | cons a as => cases haccepts
  | cons s ss ih =>
    cases args with
    | nil =>
      have hoptional : s.isOptional = true := haccepts
      rw [optionalLast, if_pos hoptional, List.all_eq_true] at hlast
      exact allSay_omitted (List.forall_mem_cons.mpr ⟨hoptional, hlast⟩) h
    | cons a as =>
      obtain ⟨htakes, hgo⟩ := Bool.and_eq_true_iff.mp haccepts
      obtain ⟨front, hfront, h⟩ := bind_eq_ok h
      obtain ⟨rest, hrest, h⟩ := bind_eq_ok h
      cases h
      have hlast' : optionalLast ss = true := by
        rw [optionalLast] at hlast
        split at hlast
        · cases ss with
          | nil => rfl
          | cons s' ss =>
            obtain ⟨hhead, htail⟩ := Bool.and_eq_true_iff.mp hlast
            rw [optionalLast, if_pos hhead]
            exact htail
        · exact hlast
      rw [List.flatMap_cons, contents]
      exact (allSay_of_partsOf htakes hfront).append (ih hlast' hgo hrest)

theorem takes_of_zip {ss : List Slot} {args : List Operand}
    (h : Template.accepts.go ss args = true) {s : Slot} {a : Operand}
    (hsa : (s, a) ∈ ss.zip args) : s.takes a = true := by
  induction ss generalizing args with
  | nil => cases hsa
  | cons s' ss ih =>
    cases args with
    | nil => cases hsa
    | cons a' as =>
      obtain ⟨htakes, hgo⟩ := Bool.and_eq_true_iff.mp h
      rcases List.mem_cons.mp hsa with heq | hsa
      · cases heq
        exact htakes
      · exact ih hgo hsa

/-- A plain base stands at distance zero. -/
theorem eq_mem_zero_of_takes {a : Operand} (h : Slot.addr.takes a = true) :
    ∃ b, a = .mem b 0 := by
  cases a with
  | mem b off =>
    simp only [Slot.takes, Slot.isMemory, Bool.false_and, Bool.false_or, Bool.and_eq_true,
      beq_iff_eq] at h
    exact ⟨b, by rw [h.1.2]⟩
  | _ => cases h

end MachineCode.Riscv
