import MachineCode.Proofs.X86.Readings

/-!
Sizes of operands in a match. Registers and memory in slots for any size all state the operand
size, and it is stated by one of them, unless the mode has to say it. Every operand of the match is
an operand in normal form with the size of its slot.
-/
namespace MachineCode.X86

def Slot.sizeVote (s : Slot) (a : Operand) : Option Nat :=
  match a with
  | .reg _ | .mem _ => if s.size = .any then SizeVotes.widthIn s a else none
  | _ => none

def Slot.immVote (s : Slot) (a : Operand) : Option Nat :=
  match a with
  | .reg _ | .mem _ => none
  | a => if s.size = .any && a.width ≠ 0 then some a.width else none

namespace SizeVotes

variable {name : String} {v v' : SizeVotes} {s : Slot} {a : Operand} {xs : List (Slot × Operand)}

structure Counted (v v' : SizeVotes) (s : Slot) (a : Operand) : Prop where
  operand : v'.operand = v.operand.or (s.sizeVote a)
  agrees : ∀ w ∈ s.sizeVote a, v'.operand = some w
  imm : v'.imm = v.imm.or (s.immVote a)

theorem counted_of_any (h : v.add name s a = .ok v') (hs : s.size = .any) : Counted v v' s a := by
  unfold add at h
  rw [if_neg (not_not.mpr hs)] at h
  cases a with
  | reg _ | mem _ =>
    dsimp only at h
    split at h
    next hnone =>
      cases h
      exact ⟨by simp [Slot.sizeVote, hs, hnone], by simp [Slot.sizeVote, hs, hnone],
        by simp [Slot.immVote]⟩
    next w hw hfirst =>
      cases h
      exact ⟨by simp_all [Slot.sizeVote], by simp [Slot.sizeVote, hs, hw], by simp [Slot.immVote]⟩
    next w u hw hsecond =>
      obtain ⟨rfl, rfl⟩ := ok_of_when h
      exact ⟨by simp_all, by simp_all [Slot.sizeVote], by simp [Slot.immVote]⟩
  | imm _ | addr _ | disp _ =>
    dsimp only at h
    split at h
    next hzero =>
      cases h
      exact ⟨(Option.or_none).symm, nofun, by simp [Slot.immVote, hzero]⟩
    next hnot hfirst =>
      cases h
      exact ⟨(Option.or_none).symm, nofun, by simp_all [Slot.immVote]⟩
    next hnot hsecond =>
      obtain ⟨rfl, rfl⟩ := ok_of_when h
      exact ⟨(Option.or_none).symm, nofun, by simp_all [Slot.immVote]⟩

theorem counted_of_add (h : v.add name s a = .ok v') : Counted v v' s a := by
  by_cases hs : s.size = .any
  · exact counted_of_any h hs
  · unfold add at h
    rw [if_pos hs] at h
    cases h
    have hsize : s.sizeVote a = none := by
      cases a <;> first | rfl | exact if_neg hs
    have himm : s.immVote a = none := by
      cases a <;> simp [Slot.immVote, hs]
    exact ⟨by rw [hsize, Option.or_none], by rw [hsize]; exact nofun, by rw [himm, Option.or_none]⟩

theorem counted_of_foldlM (h : xs.foldlM (fun v (s, a) => v.add name s a) v = .ok v') :
    (∀ n ∈ v.operand, v'.operand = some n) ∧ (∀ n ∈ v.imm, v'.imm = some n) ∧
      (∀ x ∈ xs, ∀ w ∈ x.1.sizeVote x.2, v'.operand = some w) ∧
        (∀ n ∈ v'.operand, v.operand = some n ∨ ∃ x ∈ xs, x.1.sizeVote x.2 = some n) ∧
          ∀ n ∈ v'.imm, v.imm = some n ∨ ∃ x ∈ xs, x.1.immVote x.2 = some n := by
  induction xs generalizing v with
  | nil =>
    obtain rfl := Except.ok.inj h
    exact ⟨fun _ h => h, fun _ h => h, fun _ h => absurd h List.not_mem_nil, fun _ => Or.inl,
      fun _ => Or.inl⟩
  | cons x xs ih =>
    rw [List.foldlM_cons] at h
    obtain ⟨u, hadd, h⟩ := bind_eq_ok h
    obtain ⟨hoperand, hagrees, himm⟩ := counted_of_add hadd
    obtain ⟨hkept, hkeptImm, hlater, hfrom, hfromImm⟩ := ih h
    refine ⟨?_, ?_, ?_, ?_, ?_⟩
    · intro n hn
      exact hkept n (by rw [hoperand, Option.mem_def.mp hn]; rfl)
    · intro n hn
      exact hkeptImm n (by rw [himm, Option.mem_def.mp hn]; rfl)
    · rintro y hy w hw
      rcases List.mem_cons.mp hy with rfl | hy
      · exact hkept w (hagrees w hw)
      · exact hlater y hy w hw
    · intro n hn
      rcases hfrom n hn with hu | ⟨y, hy, hvote⟩
      · rw [hoperand, Option.or_eq_some_iff] at hu
        rcases hu with hu | ⟨-, hvote⟩
        · exact Or.inl hu
        · exact Or.inr ⟨x, List.mem_cons_self, hvote⟩
      · exact Or.inr ⟨y, List.mem_cons_of_mem _ hy, hvote⟩
    · intro n hn
      rcases hfromImm n hn with hu | ⟨y, hy, hvote⟩
      · rw [himm, Option.or_eq_some_iff] at hu
        rcases hu with hu | ⟨-, hvote⟩
        · exact Or.inl hu
        · exact Or.inr ⟨x, List.mem_cons_self, hvote⟩
      · exact Or.inr ⟨y, List.mem_cons_of_mem _ hy, hvote⟩

end SizeVotes

structure Sizing (name : String) (mode : Mode) (settled : List Operand) (m : Match)
    (votes : SizeVotes) (imm : Nat) : Prop where
  collected : SizeVotes.collect name (m.form.slots.zip settled) = .ok votes
  sizes : settleSizes name mode m.form votes = .ok (m.operandSize, imm)
  args : List.Forall₂ (fun x a => resize name m.operandSize imm x.1 x.2 = .ok a)
    (m.form.slots.zip settled) m.args

section Sizing

variable {c : Matcher} {inst : Inst} {ops settled : List Operand} {m : Match}

theorem mem_zip_of_forall₂ {R : Slot × Operand → Operand → Prop} {slots : List Slot}
    {ys xs : List Operand} (h : List.Forall₂ R (slots.zip ys) xs) :
    (∀ s x, (s, x) ∈ slots.zip xs → ∃ y, (s, y) ∈ slots.zip ys ∧ R (s, y) x) ∧
      ∀ s y, (s, y) ∈ slots.zip ys → ∃ x, (s, x) ∈ slots.zip xs ∧ R (s, y) x := by
  induction slots generalizing ys xs with
  | nil => exact ⟨fun _ _ => nofun, fun _ _ => nofun⟩
  | cons t slots ih =>
    cases ys with
    | nil =>
      cases h
      exact ⟨fun _ _ => nofun, fun _ _ => nofun⟩
    | cons y ys =>
      rw [List.zip_cons_cons] at h
      obtain ⟨x, xs, hx, hrest, rfl⟩ := List.forall₂_cons_left_iff.mp h
      obtain ⟨hleft, hright⟩ := ih hrest
      rw [List.zip_cons_cons, List.zip_cons_cons]
      constructor
      · intro s' x' hmem
        rcases List.mem_cons.mp hmem with heq | hmem
        · cases heq
          exact ⟨y, List.mem_cons_self, hx⟩
        · obtain ⟨y', hy', hr⟩ := hleft s' x' hmem
          exact ⟨y', List.mem_cons_of_mem _ hy', hr⟩
      · intro s' y' hmem
        rcases List.mem_cons.mp hmem with heq | hmem
        · cases heq
          exact ⟨x, List.mem_cons_self, hx⟩
        · obtain ⟨x', hx', hr⟩ := hright s' y' hmem
          exact ⟨x', List.mem_cons_of_mem _ hx', hr⟩

theorem resized_of_resizeHeld {name : String} {operand : Option Nat} {imm : Nat}
    {slots : List Slot} {args args' : List Held}
    (h : resizeHeld name operand imm slots args = (args', none)) (s : Scratch)
    (hlength : slots.length = args.length) :
    List.Forall₂ (fun x a => resize name operand imm x.1 x.2 = .ok a)
      (slots.zip (args.map s.operand)) (args'.map s.operand) := by
  induction args generalizing slots args' with
  | nil =>
    obtain rfl : slots = [] := List.eq_nil_of_length_eq_zero hlength
    cases h
    exact .nil
  | cons x args ih =>
    obtain ⟨slot, slots, rfl⟩ := List.exists_cons_of_length_eq_add_one hlength
    have hrest : slots.length = args.length := Nat.succ.inj hlength
    cases x with
    | memory =>
      obtain ⟨rfl, hlater⟩ := Prod.mk.inj h
      exact .cons rfl (ih (Prod.ext rfl hlater) hrest)
    | plain a =>
      rw [resizeHeld] at h
      split at h
      · cases h
      next a' ha =>
        obtain ⟨rfl, hlater⟩ := Prod.mk.inj h
        exact .cons ha (ih (Prod.ext rfl hlater) hrest)

theorem Matcher.Finds.sizing (h : c.Finds inst ops m) : OneMem ops ∧
    ∃ settled votes imm, Matched c inst ops settled m ∧
      Sizing inst.name c.mode settled m votes imm := by
  obtain ⟨s, held, addrSize, hholds, hprepared, hsize, hcandidate⟩ := h
  have hmatched := hcandidate.matched hholds hprepared hsize
  have hinst : held.inst = inst := (inst_of_settle hprepared.settled).trans hholds.inst
  obtain ⟨after, hresize, hm⟩ := hcandidate.sized
  have hlength : m.form.slots.length = held.args.length := by
    rw [hcandidate.length, Scratch.operands, List.length_map]
  have hargs : m.args = after.operands := congrArg Match.args hm
  unfold Scratch.resizeArgs at hresize
  split at hresize
  · cases hresize
  next operandSize imm hsizes =>
    obtain ⟨votes, hvotes, hsettle⟩ := bind_eq_ok hsizes
    split at hresize
    · cases hresize
    next args hheld =>
      obtain ⟨rfl, hsize⟩ := Prod.mk.inj hresize
      obtain rfl := Except.ok.inj hsize
      rw [hinst] at hvotes hsettle hheld
      refine ⟨hholds.oneMem, held.operands, votes, imm, hmatched, hvotes, hsettle, ?_⟩
      rw [hargs]
      exact resized_of_resizeHeld hheld held hlength

namespace Sizing

variable {name : String} {mode : Mode} {votes : SizeVotes} {imm : Nat} {s : Slot} {x : Operand}

/-- Where an operand of the match comes from. -/
theorem exists_resized (h : Sizing name mode settled m votes imm) (hx : (s, x) ∈ m.slots) :
    ∃ y, (s, y) ∈ m.form.slots.zip settled ∧ resize name m.operandSize imm s y = .ok x :=
  (mem_zip_of_forall₂ h.args).1 s x hx

theorem operandSize_eq (h : Sizing name mode settled m votes imm) :
    (∀ w ∈ votes.operand, m.operandSize = some w) ∧
      (m.form.has .autoNo32 = false → ∀ n ∈ m.operandSize, votes.operand = some n) ∧
        ∀ n ∈ m.operandSize, imm = min n 4 := by
  have hsizes := h.sizes
  unfold settleSizes at hsizes
  dsimp only at hsizes
  split at hsizes
  next n hn =>
    obtain ⟨-, hpair⟩ := ok_of_unless hsizes
    obtain ⟨hsize, rfl⟩ := Prod.mk.inj hpair
    rw [← hsize]
    refine ⟨fun w hw => ?_, fun hno n' hn' => ?_, ?_⟩
    · rw [← hn]
      split
      · rw [Option.mem_def.mp hw]
        rfl
      · exact hw
    · rw [hno, Bool.and_false, if_neg Bool.false_ne_true] at hn
      exact hn.trans hn'
    · rintro n' ⟨⟩
      rfl
  next hnone =>
    obtain ⟨-, hpair⟩ := ok_of_unless hsizes
    obtain ⟨hsize, -⟩ := Prod.mk.inj hpair
    rw [← hsize]
    refine ⟨fun w hw => ?_, fun _ => nofun, nofun⟩
    rw [Option.mem_def.mp hw] at hnone
    split at hnone <;> cases hnone

end Sizing

end Sizing

section Width

variable {name : String} {operand : Option Nat} {imm : Nat} {s : Slot} {x y : Operand}
  {exact : Bool}

theorem Imm.width_ofSize (v : Int64) (size : Nat) :
    (Imm.ofSize v size).width ≤ 4 ∨
      (Imm.ofSize v size).width = 8 ∧ size ≠ 1 ∧ size ≠ 2 ∧ size ≠ 4 := by
  unfold Imm.ofSize
  split
  next h =>
    simp only [Bool.or_eq_true, decide_eq_true_eq] at h
    exact Or.inl (by dsimp only; omega)
  next h =>
    simp only [Bool.or_eq_true, decide_eq_true_eq, not_or] at h
    exact Or.inr ⟨rfl, h.1.1, h.1.2, h.2⟩

theorem Disp.width_ofSize (v : Int32) (size : Nat) : (Disp.ofSize v size).width ≤ 4 := by
  unfold Disp.ofSize
  split
  next h =>
    simp only [Bool.or_eq_true, decide_eq_true_eq] at h
    dsimp only [Disp.width]
    omega
  · exact Nat.le_refl 4

/-- A slot takes a number that states its size only if that is the size of the slot. -/
theorem Slot.bytes_eq_of_takes {n : Nat} (htrailing : s.kind.isTrailing = true)
    (h : (match s.size with
      | .any => s.kind.takesWidth n
      | .unsized => false
      | size => size.bytes == n) = true) : n ≤ 4 ∨ n = s.size.bytes := by
  obtain ⟨kind, size⟩ := s
  cases size with
  | any =>
    cases kind with
    | imm => exact Or.inl (by simpa [SlotKind.takesWidth] using h)
    | offset => cases h
    | _ => cases htrailing
  | unsized => cases h
  | _ => exact Or.inr (beq_iff_eq.mp h).symm

def Slot.numberSize (s : Slot) (imm : Nat) : Nat := if s.size = .any then imm else s.size.bytes

theorem Slot.width_resized (htrailing : s.kind.isTrailing = true)
    (htakes : s.takes y exact = true) (h : resize name operand imm s y = .ok x) :
    x.width ≤ 4 ∨ x.width = s.size.bytes ∨
      x.width = 8 ∧ s.numberSize imm ≠ 1 ∧ s.numberSize imm ≠ 2 ∧ s.numberSize imm ≠ 4 := by
  obtain ⟨hkind, hsize⟩ := Bool.and_eq_true_iff.mp htakes
  unfold Slot.takesSize at hsize
  unfold resize at h
  dsimp only at h
  generalize hn : (if s.size = .any then imm else s.size.bytes) = n at h
  rw [show s.numberSize imm = n from hn]
  have hcut : ∀ v, (Imm.ofSize v n).width ≤ 4 ∨ (Imm.ofSize v n).width = s.size.bytes ∨
      (Imm.ofSize v n).width = 8 ∧ n ≠ 1 ∧ n ≠ 2 ∧ n ≠ 4 :=
    fun v => (Imm.width_ofSize v n).imp_right Or.inr
  split at h
  next v =>
    obtain ⟨-, rfl⟩ := ok_of_unless h
    exact hcut v
  next i hunsized =>
    obtain rfl := Except.ok.inj h
    split
    next hw =>
      obtain ⟨v, w⟩ := i
      cases w with
      | zero => exact absurd rfl (hunsized v)
      | succ w => exact (Slot.bytes_eq_of_takes htrailing hsize).imp_right Or.inl
    · exact hcut i.value
  next v =>
    obtain rfl := Except.ok.inj h
    exact Or.inl (Disp.width_ofSize v n)
  next l =>
    obtain rfl := Except.ok.inj h
    dsimp only at hsize
    split
    next hzero =>
      rw [if_pos hzero] at hsize
      simp only [Bool.or_eq_true, Bool.and_eq_true, beq_iff_eq] at hsize
      obtain rfl : s.size.bytes = n := by
        rw [← hn, if_neg]
        rcases hsize with hsize | ⟨hsize, -⟩ <;> rw [hsize] <;> decide
      exact Or.inr (Or.inl rfl)
    next hnot =>
      rw [if_neg hnot] at hsize
      exact Or.inr (Or.inl (beq_iff_eq.mp hsize).symm)
  next _ himm hnumber hlabel =>
    obtain rfl := Except.ok.inj h
    cases y with
    | addr a => exact Or.inr (Or.inl (beq_iff_eq.mp hsize).symm)
    | imm i => exact absurd rfl (himm i)
    | disp d =>
      cases d with
      | label l => exact absurd rfl (hlabel l)
      | rel v w =>
        cases w with
        | zero => exact absurd rfl (hnumber v)
        | succ w => exact (Slot.bytes_eq_of_takes htrailing hsize).imp_right Or.inl
    | reg r =>
      rw [SlotKind.isTrailing_of_reg hkind] at htrailing
      cases htrailing
    | mem a =>
      rw [(SlotKind.kind_of_takesMem (Slot.takes_mem htakes).1).2] at htrailing
      cases htrailing

theorem Sizing.width_trailing {c : Matcher} {inst : Inst} {ops settled : List Operand} {m : Match}
    {mode : Mode} {votes : SizeVotes} (hsizing : Sizing name mode settled m votes imm)
    (h : Matched c inst ops settled m) (hx : (s, x) ∈ m.slots)
    (htrailing : s.kind.isTrailing = true) : x.width ≤ 4 ∨ x.width = s.size.bytes ∨
      x.width = 8 ∧ s.numberSize imm ≠ 1 ∧ s.numberSize imm ≠ 2 ∧ s.numberSize imm ≠ 4 := by
  obtain ⟨y, hy, hresize⟩ := hsizing.exists_resized hx
  exact Slot.width_resized htrailing ((Form.takes_iff.mp h.takes).2.2.2 _ hy) hresize

end Width

end MachineCode.X86
