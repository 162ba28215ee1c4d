import Mathlib.Algebra.Ring.Nat
import Mathlib.Data.List.Forall2
import Mathlib.Data.List.Pairwise
import MachineCode.BitField

/-!
Words that are put together from numbers. Each number has a stretch of bits of its own; where the
stretches are apart and the fixed bits are clear there, every number can be read back, and all
other bits are the fixed ones.
-/
namespace MachineCode

structure Stretch where
  pos : Nat
  width : Nat
  deriving DecidableEq, Repr

namespace Stretch

def stop (s : Stretch) : Nat := s.pos + s.width

def read (s : Stretch) (w : Word) : Nat := (w.extractLsb' s.pos s.width).toNat

def place (s : Stretch) (n : Nat) : Word := BitVec.ofNat 32 n <<< s.pos

def Apart (s t : Stretch) : Prop := s.stop ≤ t.pos ∨ t.stop ≤ s.pos

instance (s t : Stretch) : Decidable (s.Apart t) := inferInstanceAs (Decidable (_ ∨ _))

def Covers (s : Stretch) (i : Nat) : Prop := s.pos ≤ i ∧ i < s.stop

instance (s : Stretch) (i : Nat) : Decidable (s.Covers i) := inferInstanceAs (Decidable (_ ∧ _))

variable {s t : Stretch} {n i : Nat}

theorem covers_mk {pos width : Nat} : Covers ⟨pos, width⟩ i ↔ pos ≤ i ∧ i < pos + width := Iff.rfl

theorem Apart.symm (h : s.Apart t) : t.Apart s := Or.symm h

theorem Apart.not_covers (h : s.Apart t) (hs : s.Covers i) : ¬ t.Covers i := by
  unfold Apart at h
  unfold Covers at *
  omega

theorem testBit_read (s : Stretch) (w : Word) (j : Nat) :
    (s.read w).testBit j = (decide (j < s.width) && w.getLsbD (s.pos + j)) := by
  rw [read, ← BitVec.getLsbD, BitVec.getLsbD_extractLsb']

theorem getLsbD_place (s : Stretch) (n : Nat) {i : Nat} (hi : i < 32) :
    (s.place n).getLsbD i = (decide (s.pos ≤ i) && n.testBit (i - s.pos)) := by
  rw [place, BitVec.getLsbD_shiftLeft, BitVec.getLsbD_ofNat]
  by_cases hp : s.pos ≤ i
  · have hlt : i - s.pos < 32 := by omega
    simp [hi, hp, hlt]
  · simp [hp, Nat.lt_of_not_le hp]

/-- A number that fits sets no bits outside its stretch. -/
theorem getLsbD_place_of_not_covers (hn : n < 2 ^ s.width) (hc : ¬ s.Covers i) :
    (s.place n).getLsbD i = false := by
  by_cases hi : i < 32
  · rw [getLsbD_place s n hi, Bool.and_eq_false_iff, decide_eq_false_iff_not]
    by_cases hp : s.pos ≤ i
    · right
      unfold Covers stop at hc
      have hle : 2 ^ s.width ≤ 2 ^ (i - s.pos) := Nat.pow_le_pow_right (by omega) (by omega)
      exact Nat.testBit_lt_two_pow (Nat.lt_of_lt_of_le hn hle)
    · exact Or.inl hp
  · exact BitVec.getLsbD_of_ge _ _ (by omega)

theorem read_or (s : Stretch) (w w' : Word) : s.read (w ||| w') = s.read w ||| s.read w' := by
  apply Nat.eq_of_testBit_eq
  intro j
  rw [Nat.testBit_or, testBit_read, testBit_read, testBit_read, BitVec.getLsbD_or,
    Bool.and_or_distrib_left]

theorem read_lt (s : Stretch) (w : Word) : s.read w < 2 ^ s.width := BitVec.isLt _

@[simp] theorem read_zero (s : Stretch) : s.read 0 = 0 := by
  apply Nat.eq_of_testBit_eq
  intro j
  simp [testBit_read]

theorem read_place (hn : n < 2 ^ s.width) (hs : s.stop ≤ 32) : s.read (s.place n) = n := by
  apply Nat.eq_of_testBit_eq
  intro j
  rw [testBit_read]
  by_cases hj : j < s.width
  · rw [getLsbD_place s n (by unfold stop at hs; omega)]
    simp [hj]
  · have hle : 2 ^ s.width ≤ 2 ^ j := Nat.pow_le_pow_right (by omega) (by omega)
    rw [Nat.testBit_lt_two_pow (Nat.lt_of_lt_of_le hn hle), decide_eq_false hj, Bool.false_and]

end Stretch

def Within (ss : List Stretch) (w : Word) : Prop :=
  ∀ i, w.getLsbD i = true → ∃ s ∈ ss, s.Covers i

namespace Within

variable {s : Stretch} {ss ts : List Stretch} {w w' : Word}

theorem zero (ss : List Stretch) : Within ss 0 := by
  intro i hi
  simp at hi

theorem place {n : Nat} (hn : n < 2 ^ s.width) : Within [s] (s.place n) := by
  intro i hi
  refine ⟨s, List.mem_singleton_self s, ?_⟩
  by_contra hc
  rw [Stretch.getLsbD_place_of_not_covers hn hc] at hi
  cases hi

/-- Nothing can be read apart from the stretches. -/
theorem read_eq_zero (h : Within ss w) (hs : ∀ t ∈ ss, s.Apart t) : s.read w = 0 := by
  apply Nat.eq_of_testBit_eq
  intro j
  rw [Stretch.testBit_read, Nat.zero_testBit, Bool.and_eq_false_iff]
  by_cases hj : j < s.width
  · right
    cases hbit : w.getLsbD (s.pos + j) with
    | false => rfl
    | true =>
      obtain ⟨t, ht, hcovers⟩ := h _ hbit
      have hown : s.Covers (s.pos + j) := ⟨by omega, by unfold Stretch.stop; omega⟩
      exact absurd hcovers ((hs t ht).not_covers hown)
  · exact Or.inl (decide_eq_false hj)

theorem and_eq_zero (h : Within ss w) (h' : Within ts w')
    (hapart : ∀ s ∈ ss, ∀ t ∈ ts, s.Apart t) : w &&& w' = 0 := by
  apply BitVec.eq_of_getLsbD_eq
  intro i hi
  rw [BitVec.getLsbD_and]
  cases hw : w.getLsbD i with
  | false => simp
  | true =>
    cases hw' : w'.getLsbD i with
    | false => simp
    | true =>
      obtain ⟨s, hs, hcs⟩ := h i hw
      obtain ⟨t, ht, hct⟩ := h' i hw'
      exact absurd hct ((hapart s hs t ht).not_covers hcs)

theorem and_eq_zero_of_read (h : Within ss w) (hclear : ∀ s ∈ ss, s.read w' = 0) :
    w' &&& w = 0 := by
  apply BitVec.eq_of_getLsbD_eq
  intro i hi
  rw [BitVec.getLsbD_and]
  cases hw : w.getLsbD i with
  | false => simp
  | true =>
    obtain ⟨s, hs, hlow, hhigh⟩ := h i hw
    unfold Stretch.stop at hhigh
    have hbit := congrArg (Nat.testBit · (i - s.pos)) (hclear s hs)
    simpa [Stretch.testBit_read, show i - s.pos < s.width by omega,
      show s.pos + (i - s.pos) = i by omega] using hbit

end Within

def covered (ss : List Stretch) : Word :=
  ss.foldr (fun s w => (BitVec.allOnes s.width).setWidth 32 <<< s.pos ||| w) 0

theorem getLsbD_covered (ss : List Stretch) {i : Nat} (hi : i < 32) :
    (covered ss).getLsbD i = ss.any fun s => decide (s.Covers i) := by
  induction ss with
  | nil => simp [covered]
  | cons s ss ih =>
    have hcons : covered (s :: ss) =
        (BitVec.allOnes s.width).setWidth 32 <<< s.pos ||| covered ss := rfl
    rw [hcons, BitVec.getLsbD_or, ih, List.any_cons, BitVec.getLsbD_shiftLeft,
      BitVec.getLsbD_setWidth, BitVec.getLsbD_allOnes, decide_eq_true hi]
    congr 1
    unfold Stretch.Covers Stretch.stop
    by_cases hlow : s.pos ≤ i
    · have hin : i - s.pos < 32 := by omega
      by_cases hhigh : i < s.pos + s.width
      · simp [hlow, hhigh, hin, show i - s.pos < s.width by omega]
      · simp [hhigh, show ¬ i - s.pos < s.width by omega]
    · simp [hlow, show i < s.pos by omega]

abbrev Field := Stretch × Nat

def join (fields : List Field) : Word := fields.foldr (fun f w => f.1.place f.2 ||| w) 0

@[simp] theorem join_nil : join [] = 0 := rfl

@[simp] theorem join_cons (f : Field) (fields : List Field) :
    join (f :: fields) = f.1.place f.2 ||| join fields := rfl

theorem join_append (fields rest : List Field) :
    join (fields ++ rest) = join fields ||| join rest := by
  induction fields with
  | nil => simp
  | cons f fields ih => rw [List.cons_append, join_cons, join_cons, ih, BitVec.or_assoc]

theorem getLsbD_join (fields : List Field) (i : Nat) :
    (join fields).getLsbD i = fields.any fun f => (f.1.place f.2).getLsbD i := by
  induction fields with
  | nil => simp
  | cons f fields ih => rw [join_cons, BitVec.getLsbD_or, ih, List.any_cons]

structure Sets (ss : List Stretch) (ns : List Nat) (bits : Word) : Prop where
  fits : List.Forall₂ (fun s n => n < 2 ^ s.width) ss ns
  bits_eq : bits = join (ss.zip ns)

namespace Sets

theorem nil : Sets [] [] 0 := ⟨.nil, rfl⟩

theorem one {s : Stretch} {n : Nat} (h : n < 2 ^ s.width) : Sets [s] [n] (s.place n) :=
  ⟨.cons h .nil, by simp⟩

theorem cons {s : Stretch} {n : Nat} {ss : List Stretch} {ns : List Nat} {bits : Word}
    (h : n < 2 ^ s.width) (hrest : Sets ss ns bits) :
    Sets (s :: ss) (n :: ns) (s.place n ||| bits) :=
  ⟨.cons h hrest.fits, by rw [List.zip_cons_cons, join_cons, hrest.bits_eq]⟩

theorem append {ss ts : List Stretch} {ns ms : List Nat} {bits bits' : Word} (h : Sets ss ns bits)
    (h' : Sets ts ms bits') : Sets (ss ++ ts) (ns ++ ms) (bits ||| bits') where
  fits := List.rel_append h.fits h'.fits
  bits_eq := by
    rw [List.zip_append h.fits.length_eq, join_append, h.bits_eq, h'.bits_eq]

theorem zeros (ss : List Stretch) : Sets ss (ss.map fun _ => 0) 0 := by
  induction ss with
  | nil => exact nil
  | cons s ss ih =>
    have hplace : s.place 0 = 0 := by simp [Stretch.place]
    have hcons := cons (s := s) (Nat.two_pow_pos s.width) ih
    rwa [hplace, show (0 : Word) ||| 0 = 0 by decide] at hcons

theorem of_low_clear {pos : Nat} {bits : Word} (hp : pos ≤ 32)
    (h : ∀ i < pos, bits.getLsbD i = false) :
    Sets [⟨pos, 32 - pos⟩] [bits.toNat >>> pos] bits := by
  have hlt : bits.toNat >>> pos < 2 ^ (32 - pos) := by
    rw [Nat.shiftRight_eq_div_pow, Nat.div_lt_iff_lt_mul (Nat.two_pow_pos pos), ← Nat.pow_add,
      Nat.sub_add_cancel hp]
    exact bits.isLt
  have hplace : bits = Stretch.place ⟨pos, 32 - pos⟩ (bits.toNat >>> pos) := by
    apply BitVec.eq_of_getLsbD_eq
    intro i hi
    rw [Stretch.getLsbD_place _ _ hi, Nat.testBit_shiftRight]
    by_cases hlow : i < pos
    · simp [h i hlow, show ¬ pos ≤ i by omega]
    · rw [decide_eq_true (show pos ≤ i by omega), Bool.true_and,
        show pos + (i - pos) = i by omega, BitVec.getLsbD]
  conv_rhs => rw [hplace]
  exact one hlt

end Sets

structure Laid (fields : List Field) : Prop where
  fits : ∀ f ∈ fields, f.2 < 2 ^ f.1.width
  inside : ∀ f ∈ fields, f.1.stop ≤ 32
  apart : (fields.map (·.1)).Pairwise Stretch.Apart

namespace Laid

variable {base : Word} {fields : List Field} {f : Field}

theorem eq_or_apart (h : Laid fields) {g : Field} (hf : f ∈ fields) (hg : g ∈ fields) :
    f = g ∨ f.1.Apart g.1 := by
  have hsymm : Std.Symm fun f g : Field => f.1.Apart g.1 := ⟨fun _ _ => Stretch.Apart.symm⟩
  by_cases he : f = g
  · exact Or.inl he
  · exact Or.inr ((List.pairwise_map.mp h.apart).forall hf hg he)

/-- A number can be read back where the fixed bits are clear. -/
theorem read_join (h : Laid fields) (hf : f ∈ fields) (hclear : f.1.read base = 0) :
    f.1.read (base ||| join fields) = f.2 := by
  apply Nat.eq_of_testBit_eq
  intro j
  rw [Stretch.testBit_read]
  by_cases hj : j < f.1.width
  · have hin := h.inside f hf
    have hcovers : f.1.Covers (f.1.pos + j) := ⟨by omega, by unfold Stretch.stop; omega⟩
    have hbase : base.getLsbD (f.1.pos + j) = false := by
      have hzero := congrArg (Nat.testBit · j) hclear
      simpa [Stretch.testBit_read, hj] using hzero
    have hown : (f.1.place f.2).getLsbD (f.1.pos + j) = f.2.testBit j := by
      rw [Stretch.getLsbD_place _ _ (by unfold Stretch.stop at hin; omega)]
      simp
    rw [BitVec.getLsbD_or, hbase, getLsbD_join, Bool.false_or, decide_eq_true hj, Bool.true_and,
      Bool.eq_iff_iff, List.any_eq_true, ← hown]
    -- A bit of another number would lie in two stretches.
    constructor
    · rintro ⟨g, hg, hbit⟩
      rcases h.eq_or_apart hf hg with rfl | hapart
      · exact hbit
      · rw [Stretch.getLsbD_place_of_not_covers (h.fits g hg) (hapart.not_covers hcovers)] at hbit
        cases hbit
    · intro hbit
      exact ⟨f, hf, hbit⟩
  · rw [decide_eq_false hj, Bool.false_and]
    refine (Nat.testBit_lt_two_pow (Nat.lt_of_lt_of_le (h.fits f hf) ?_)).symm
    exact Nat.pow_le_pow_right (by omega) (by omega)

theorem getLsbD_of_not_covers (h : Laid fields) {i : Nat}
    (hi : ∀ f ∈ fields, ¬ f.1.Covers i) : (base ||| join fields).getLsbD i = base.getLsbD i := by
  rw [BitVec.getLsbD_or, getLsbD_join]
  have hnone : (fields.any fun f => (f.1.place f.2).getLsbD i) = false := by
    rw [List.any_eq_false]
    intro f hf
    simp [Stretch.getLsbD_place_of_not_covers (h.fits f hf) (hi f hf)]
  rw [hnone, Bool.or_false]

end Laid

end MachineCode
