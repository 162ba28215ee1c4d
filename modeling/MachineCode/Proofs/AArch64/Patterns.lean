import MachineCode.Proofs.Stretches

/-!
Classes of instructions. A class is known by bits that all of its words have, and tables of classes
are searched from the front. All words that agree outside some bits are of one class, if the
bits that they share are enough to tell.
-/
namespace MachineCode.AArch64

structure Pattern (α : Type) where
  mask : Word
  value : Word
  what : α
  deriving DecidableEq

def classify {α : Type} : List (Pattern α) → Word → Option α
  | [], _ => none
  | p :: ps, w => if w &&& p.mask = p.value then some p.what else classify ps w

/-- The class of all words that differ from one word only in the bits of `cover`, if they are of
one class. -/
def settled {α : Type} (base cover : Word) : List (Pattern α) → Option α
  | [] => none
  | p :: ps =>
    if (base ^^^ p.value) &&& p.mask &&& ~~~cover ≠ 0 then settled base cover ps
    else if p.mask &&& cover = 0 ∧ base &&& p.mask = p.value then some p.what
    else none

def AgreeOutside (cover base w : Word) : Prop :=
  ∀ i < 32, cover.getLsbD i = false → w.getLsbD i = base.getLsbD i

section Classes

variable {base cover w : Word}

theorem agreeOutside_of_laid {fields : List Field} (base : Word) (h : Laid fields) :
    AgreeOutside (covered (fields.map (·.1))) base (base ||| join fields) := by
  intro i hi hclear
  rw [getLsbD_covered _ hi, List.any_eq_false] at hclear
  apply h.getLsbD_of_not_covers
  intro f hf hcovers
  exact hclear f.1 (List.mem_map_of_mem hf) (decide_eq_true hcovers)

theorem AgreeOutside.read_eq {ss : List Stretch} (h : AgreeOutside (covered ss) base w)
    {t : Stretch} (hapart : ∀ s ∈ ss, t.Apart s) : t.read w = t.read base := by
  apply Nat.eq_of_testBit_eq
  intro j
  rw [Stretch.testBit_read, Stretch.testBit_read]
  by_cases hj : j < t.width
  · have hcovers : t.Covers (t.pos + j) := ⟨by omega, by unfold Stretch.stop; omega⟩
    by_cases hin : t.pos + j < 32
    · have hclear : (covered ss).getLsbD (t.pos + j) = false := by
        rw [getLsbD_covered _ hin, List.any_eq_false]
        intro s hs hcover
        exact (hapart s hs).not_covers hcovers (of_decide_eq_true hcover)
      rw [h _ hin hclear]
    · rw [BitVec.getLsbD_of_ge w _ (by omega), BitVec.getLsbD_of_ge base _ (by omega)]
  · rw [decide_eq_false hj, Bool.false_and, Bool.false_and]

/-- A word that differs from the fixed bits of a pattern where it agrees with another does not
match it. -/
theorem and_mask_ne {mask value : Word} (h : AgreeOutside cover base w)
    (hne : (base ^^^ value) &&& mask &&& ~~~cover ≠ 0) : w &&& mask ≠ value := by
  intro hmatches
  apply hne
  apply BitVec.eq_of_getLsbD_eq
  intro i hi
  have hbit := congrArg (BitVec.getLsbD · i) hmatches
  simp only [BitVec.getLsbD_and] at hbit
  simp only [BitVec.getLsbD_and, BitVec.getLsbD_xor, BitVec.getLsbD_not, hi, decide_true,
    Bool.true_and]
  cases hc : cover.getLsbD i with
  | true => simp
  | false =>
    rw [h i hi hc] at hbit
    rw [← hbit]
    cases base.getLsbD i <;> cases mask.getLsbD i <;> simp

theorem and_mask_congr {mask : Word} (h : AgreeOutside cover base w) (hmask : mask &&& cover = 0) :
    w &&& mask = base &&& mask := by
  apply BitVec.eq_of_getLsbD_eq
  intro i hi
  rw [BitVec.getLsbD_and, BitVec.getLsbD_and]
  cases hbit : mask.getLsbD i with
  | false => rw [Bool.and_false, Bool.and_false]
  | true =>
    have hm := congrArg (BitVec.getLsbD · i) hmask
    have hclear : cover.getLsbD i = false := by simpa [hbit] using hm
    rw [h i hi hclear]

theorem classify_of_settled {α : Type} {a : α} {ps : List (Pattern α)}
    (h : AgreeOutside cover base w) (hs : settled base cover ps = some a) :
    classify ps w = some a := by
  induction ps with
  | nil => cases hs
  | cons p ps ih =>
    rw [settled] at hs
    by_cases hne : (base ^^^ p.value) &&& p.mask &&& ~~~cover ≠ 0
    · rw [if_pos hne] at hs
      rw [classify, if_neg (and_mask_ne h hne)]
      exact ih hs
    · rw [if_neg hne] at hs
      by_cases hfixed : p.mask &&& cover = 0 ∧ base &&& p.mask = p.value
      · rw [if_pos hfixed] at hs
        rw [classify, if_pos ((and_mask_congr h hfixed.1).trans hfixed.2)]
        exact hs
      · rw [if_neg hfixed] at hs
        cases hs

end Classes

end MachineCode.AArch64
