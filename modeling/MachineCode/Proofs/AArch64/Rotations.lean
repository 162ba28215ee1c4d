import Mathlib.Data.List.Rotate
import MachineCode.Proofs.AArch64.Bitmasks

/-!
Rotated runs. The values with an encoding are those that repeat a run of ones, rotated within an
element. Such a value tells the size of its element, the length of the run and the rotation, so it
has one encoding only, up to the bits of the rotation that the size of the element leaves out.
-/
namespace MachineCode.AArch64.Bitmask

/-- A value that repeats, in elements of `w` bits, a run of ones that is rotated to the right. -/
structure Repeats (v : BitVec 64) (w ones r : Nat) : Prop where
  some_ones : 0 < ones
  some_zeros : ones < w
  rotation : r < w
  bit : ∀ i < 64, v.getLsbD i = decide ((i + r) % w < ones)

def log (m : Bitmask) : Nat := (m.n * 64 + (63 - m.imms)).log2

def size (m : Bitmask) : Nat := 1 <<< m.log

def visible (v : BitVec 64) (is64 : Bool) : BitVec 64 :=
  if is64 then v else (v.setWidth 32).setWidth 64

/-! ### What a repeated run tells -/

/-- Every place of an element is taken by some bit. -/
theorem add_sub_mod {w r a : Nat} (hr : r < w) (ha : a < w) : ((a + (w - r)) % w + r) % w = a := by
  rw [Nat.mod_add_mod, Nat.add_assoc, Nat.sub_add_cancel (Nat.le_of_lt hr), Nat.add_mod_right,
    Nat.mod_eq_of_lt ha]

theorem mod_add_mod_of_dvd {w n i r : Nat} (h : w ∣ n) : (i % n + r) % w = (i + r) % w := by
  rw [Nat.add_mod, Nat.mod_mod_of_dvd i h, ← Nat.add_mod]

/-- A run that looks the same after a rotation has been rotated all the way round. -/
theorem mod_eq_zero_of_run {w ones t : Nat} (hpos : 0 < ones) (hlt : ones < w)
    (h : ∀ i < w, decide ((i + t) % w < ones) = decide (i < ones)) : t % w = 0 := by
  have hback : ∀ i < w, ((i + t % w) % w < ones ↔ i < ones) := by
    intro i hi
    rw [Nat.add_mod_mod]
    exact decide_eq_decide.mp (h i hi)
  have hmod : t % w < w := Nat.mod_lt _ (by omega)
  generalize t % w = s at hback hmod
  -- The first zero behind the run, and the last one of the run.
  have hzero := hback ones hlt
  have hone := hback (ones - 1) (by omega)
  by_cases hsum : ones + s < w
  · rw [Nat.mod_eq_of_lt (by omega)] at hone
    omega
  · rw [Nat.mod_eq_sub_mod (by omega), Nat.mod_eq_of_lt (by omega)] at hzero
    omega

theorem countP_range_lt {ones w : Nat} (h : ones ≤ w) :
    (List.range w).countP (fun i => decide (i < ones)) = ones := by
  obtain ⟨k, rfl⟩ := Nat.exists_eq_add_of_le h
  rw [List.range_add, List.countP_append, List.countP_map, List.countP_eq_length.mpr,
    List.countP_eq_zero.mpr, List.length_range, Nat.add_zero]
  · simp
  · simp

/-- A rotation changes no number of places. -/
theorem countP_rotated (p : Nat → Bool) (w r : Nat) :
    (List.range w).countP (fun i => p ((i + r) % w)) = (List.range w).countP p := by
  have hmap : (List.range w).map (fun i => (i + r) % w) = (List.range w).rotate r := by
    apply List.ext_getElem
    · simp
    · intro i hi hi'
      simp [List.getElem_rotate]
  calc (List.range w).countP (fun i => p ((i + r) % w))
    _ = ((List.range w).map fun i => (i + r) % w).countP p := (List.countP_map).symm
    _ = ((List.range w).rotate r).countP p := by rw [hmap]
    _ = (List.range w).countP p := (List.rotate_perm _ _).countP_eq _

namespace Repeats

variable {v : BitVec 64} {w ones r : Nat}

theorem getLsbD_elem (h : Repeats v w ones r) (hw : w ≤ 64) {i : Nat} (hi : i < w) :
    (v.setWidth w).getLsbD i = decide ((i + r) % w < ones) := by
  rw [BitVec.getLsbD_setWidth, decide_eq_true hi, Bool.true_and, h.bit i (by omega)]

theorem popCount_eq (h : Repeats v w ones r) (hw : w ≤ 64) : popCount (v.setWidth w) = ones := by
  unfold popCount
  rw [List.countP_congr fun i hi => by rw [h.getLsbD_elem hw (List.mem_range.mp hi)],
    countP_rotated fun i => decide (i < ones)]
  exact countP_range_lt (Nat.le_of_lt h.some_zeros)

/-- The rotation that brings the run back to the lowest bits is the only one that does. -/
theorem rotateRight_eq_run_iff (h : Repeats v w ones r) (hw : w ≤ 64) {k : Nat} (hk : k < w) :
    (v.setWidth w).rotateRight k = run w ones ↔ k = (w - r) % w := by
  have hbit : ∀ i < w, ((v.setWidth w).rotateRight k).getLsbD i =
      decide ((i + (k + r)) % w < ones) := by
    intro i hi
    rw [getLsbD_rotateRight_of_lt _ hk hi, h.getLsbD_elem hw (Nat.mod_lt _ (by omega)),
      Nat.mod_add_mod, Nat.add_assoc]
  have hr := h.rotation
  constructor
  · intro heq
    have hround : (k + r) % w = 0 := by
      refine mod_eq_zero_of_run h.some_ones h.some_zeros fun i hi => ?_
      rw [← hbit i hi, heq, getLsbD_run, decide_eq_true hi, Bool.true_and]
    by_cases hsum : k + r < w
    · rw [Nat.mod_eq_of_lt hsum] at hround
      obtain ⟨rfl, rfl⟩ : k = 0 ∧ r = 0 := by omega
      simp
    · rw [Nat.mod_eq_sub_mod (by omega), Nat.mod_eq_of_lt (by omega)] at hround
      rw [Nat.mod_eq_of_lt (by omega)]
      omega
  · rintro rfl
    apply BitVec.eq_of_getLsbD_eq
    intro i hi
    rw [hbit i hi, Nat.add_comm i, Nat.add_assoc, Nat.mod_add_mod, ← Nat.add_assoc,
      Nat.sub_add_cancel (Nat.le_of_lt hr), Nat.add_mod_left, Nat.mod_eq_of_lt hi, getLsbD_run,
      decide_eq_true hi, Bool.true_and]

/-- A run in an element does not fill its halves alike. -/
theorem not_halved (h : Repeats v w ones r) {half : Nat} (hw : w = half + half) (hle : w ≤ 64) :
    v.extractLsb' 0 half ≠ v.extractLsb' half half := by
  intro heq
  have hr := h.rotation
  have hpos := h.some_ones
  have hlt := h.some_zeros
  have hcopy : ∀ i < half, v.getLsbD i = v.getLsbD (i + half) := by
    intro i hi
    have hbit := congrArg (BitVec.getLsbD · i) heq
    simpa [BitVec.getLsbD_extractLsb', hi, Nat.add_comm] using hbit
  -- So a place in the element looks like the one half an element further on.
  have hsame : ∀ a < w, (a < ones ↔ (a + half) % w < ones) := by
    intro a ha
    have hback := add_sub_mod hr ha
    have hi : (a + (w - r)) % w < w := Nat.mod_lt _ (by omega)
    generalize (a + (w - r)) % w = i at hback hi
    have hturn : (a + half) % w = (i + half + r) % w := by
      rw [← hback, Nat.mod_add_mod, Nat.add_right_comm]
    rw [hturn, ← hback]
    by_cases hlow : i < half
    · have hbits := hcopy i hlow
      rw [h.bit i (by omega), h.bit (i + half) (by omega)] at hbits
      exact decide_eq_decide.mp hbits
    · have hbits := hcopy (i - half) (by omega)
      rw [Nat.sub_add_cancel (by omega), h.bit i (by omega), h.bit (i - half) (by omega)] at hbits
      have hround : (i + half + r) % w = (i - half + r) % w := by
        rw [show i + half + r = i - half + r + w by omega, Nat.add_mod_right]
      rw [hround]
      exact (decide_eq_decide.mp hbits).symm
  have hfirst := (hsame 0 (by omega)).mp hpos
  have hlast := hsame (w - 1) (by omega)
  rw [Nat.zero_add, Nat.mod_eq_of_lt (by omega)] at hfirst
  rw [Nat.mod_eq_sub_mod (by omega), Nat.mod_eq_of_lt (by omega)] at hlast
  omega

/-- The element of a repeated run is the shortest one. -/
theorem period_eq {p : Nat} (h : Repeats v (2 ^ p) ones r) (hp : 0 < p) {k : Nat} (hpk : p ≤ k)
    (hk : k ≤ 6) : period v k = p := by
  induction k with
  | zero => omega
  | succ k ih =>
    cases k with
    | zero =>
      rw [period]
      omega
    | succ k =>
      have hdouble : 2 ^ (k + 2) = 2 ^ (k + 1) + 2 ^ (k + 1) := by
        rw [Nat.pow_succ]
        omega
      have hle : 2 ^ (k + 2) ≤ 64 := Nat.pow_le_pow_right (n := 2) (by omega) hk
      rw [period, Nat.one_shiftLeft]
      rcases Nat.lt_or_eq_of_le hpk with hlt | rfl
      · have hhalves : v.extractLsb' 0 (2 ^ (k + 1)) =
            v.extractLsb' (2 ^ (k + 1)) (2 ^ (k + 1)) := by
          apply BitVec.eq_of_getLsbD_eq
          intro i hi
          obtain ⟨c, hc⟩ : 2 ^ p ∣ 2 ^ (k + 1) := Nat.pow_dvd_pow 2 (by omega)
          have hround : (2 ^ (k + 1) + i + r) % 2 ^ p = (i + r) % 2 ^ p := by
            rw [hc, Nat.add_assoc, Nat.mul_add_mod]
          simp only [BitVec.getLsbD_extractLsb', hi, decide_true, Bool.true_and]
          rw [h.bit _ (by omega), h.bit _ (by omega), hround, Nat.zero_add]
        rw [if_pos hhalves]
        exact ih (by omega) (by omega)
      · rw [if_neg (h.not_halved hdouble hle)]

theorem ne_zero (h : Repeats v w ones r) (hw : w ≤ 64) : v ≠ 0 := by
  rintro rfl
  have hlt := h.some_zeros
  have hbit := h.bit ((0 + (w - r)) % w) (Nat.lt_of_lt_of_le (Nat.mod_lt _ (by omega)) hw)
  rw [add_sub_mod h.rotation (by omega), decide_eq_true h.some_ones] at hbit
  simp at hbit

theorem ne_allOnes (h : Repeats v w ones r) (hw : w ≤ 64) : v ≠ BitVec.allOnes 64 := by
  rintro rfl
  have hlt := h.some_zeros
  have hin : (ones + (w - r)) % w < 64 := Nat.lt_of_lt_of_le (Nat.mod_lt _ (by omega)) hw
  have hbit := h.bit _ hin
  rw [add_sub_mod h.rotation hlt, BitVec.getLsbD_allOnes, decide_eq_true hin] at hbit
  simp at hbit

end Repeats

/-- A repeated run is encoded by what it tells. -/
theorem encode_of_repeats {v : BitVec 64} {is64 : Bool} {p ones r : Nat} (hp : 0 < p) (hp6 : p ≤ 6)
    (h : Repeats (widen v is64) (1 <<< p) ones r) : encode v is64 = some
      ⟨if 1 <<< p = 64 then 1 else 0, r, (63 - (2 * (1 <<< p) - 1) % 64) ||| (ones - 1)⟩ := by
  have hle : 1 <<< p ≤ 64 := by
    rw [Nat.one_shiftLeft]
    exact Nat.pow_le_pow_right (n := 2) (by omega) hp6
  have hperiod : period (widen v is64) 6 = p := by
    rw [Nat.one_shiftLeft] at h
    exact h.period_eq hp hp6 (Nat.le_refl 6)
  have hr := h.rotation
  have hfind : (List.range (1 <<< p)).find? (fun k => decide
      (((widen v is64).setWidth (1 <<< p)).rotateRight k = run (1 <<< p) ones)) =
        some ((1 <<< p - r) % (1 <<< p)) := by
    rw [List.find?_range_eq_some]
    have hback : (1 <<< p - r) % (1 <<< p) < 1 <<< p := Nat.mod_lt _ (by omega)
    refine ⟨decide_eq_true ((h.rotateRight_eq_run_iff hle hback).mpr rfl),
      List.mem_range.mpr hback, fun j hj => ?_⟩
    rw [decide_eq_false fun heq => ?_, Bool.not_false]
    have := (h.rotateRight_eq_run_iff hle (by omega)).mp heq
    omega
  have hagain : (1 <<< p - (1 <<< p - r) % (1 <<< p)) % (1 <<< p) = r := by
    rcases Nat.eq_zero_or_pos r with rfl | hpos
    · simp
    · rw [Nat.mod_eq_of_lt (show 1 <<< p - r < 1 <<< p by omega), Nat.mod_eq_of_lt (by omega)]
      omega
  unfold encode
  dsimp only
  rw [if_neg (not_or.mpr ⟨h.ne_zero hle, h.ne_allOnes hle⟩), hperiod, h.popCount_eq hle, hfind,
    Option.map_some, hagain]

/-! ### What the three numbers tell -/

theorem numbers_of_log : ∀ n < 2, ∀ imms < 64, 0 < log ⟨n, 0, imms⟩ →
    (if 1 <<< log ⟨n, 0, imms⟩ = 64 then 1 else 0) = n ∧
      (63 - (2 * (1 <<< log ⟨n, 0, imms⟩) - 1) % 64) ||| (imms % (1 <<< log ⟨n, 0, imms⟩)) =
        imms := by
  decide +kernel

theorem log_le : ∀ n < 2, ∀ imms < 64, log ⟨n, 0, imms⟩ ≤ if n = 0 then 5 else 6 := by
  decide +kernel

theorem getLsbD_widen_false (v : BitVec 64) {i : Nat} (hi : i < 64) :
    (widen v false).getLsbD i = v.getLsbD (i % 32) := by
  rw [widen, if_neg Bool.false_ne_true, BitVec.getLsbD_append, BitVec.getLsbD_setWidth,
    BitVec.getLsbD_setWidth]
  by_cases hlow : i < 32
  · simp [hlow, Nat.mod_eq_of_lt hlow]
  · rw [show i % 32 = i - 32 by omega]
    simp [hlow, show i - 32 < 32 by omega]

theorem widen_visible (v : BitVec 64) (is64 : Bool) :
    widen (visible v is64) is64 = widen v is64 := by
  cases is64 with
  | true => rfl
  | false =>
    apply BitVec.eq_of_getLsbD_eq
    intro i hi
    have hin : i % 32 < 64 := by omega
    rw [getLsbD_widen_false _ hi, getLsbD_widen_false _ hi, visible, if_neg Bool.false_ne_true,
      BitVec.getLsbD_setWidth, BitVec.getLsbD_setWidth]
    simp [hin, show i % 32 < 32 by omega]

theorem encode_visible (v : BitVec 64) (is64 : Bool) :
    encode (visible v is64) is64 = encode v is64 := by
  unfold encode
  rw [widen_visible]

theorem decode_eq_some {m : Bitmask} {is64 : Bool} {v : BitVec 64} (h : decode m is64 = some v) :
    m.n < 2 ∧ m.imms < 64 ∧ (is64 = false → m.n = 0) ∧ 0 < m.log ∧
      m.imms % m.size + 1 < m.size ∧
      v = visible ((((run m.size (m.imms % m.size + 1)).rotateRight (m.immr % m.size)).replicate
        (64 / m.size)).setWidth 64) is64 := by
  unfold decode at h
  split at h
  · cases h
  next hvalid =>
    simp only [Bool.or_eq_true, Bool.and_eq_true, decide_eq_true_eq, Bool.not_eq_true', bne_iff_ne,
      not_or, not_and, not_not] at hvalid
    dsimp only at h
    split at h
    · cases h
    next hlength =>
      have hlog : 0 < m.log := Nat.pos_of_ne_zero fun hzero => hlength (Or.inr (by
        rw [show (m.n * 64 + (63 - m.imms)).log2 = m.log from rfl, hzero]
        decide))
      split at h
      · cases h
      next hfull =>
        change ¬ m.imms % m.size = m.size - 1 at hfull
        have hpos : 0 < m.size := by
          rw [size, Nat.one_shiftLeft]
          exact Nat.two_pow_pos _
        have hlt : m.imms % m.size < m.size := Nat.mod_lt _ hpos
        exact ⟨by omega, by omega, hvalid.2, hlog, by omega, (Option.some.inj h).symm⟩

theorem repeats_replicate {w ones r : Nat} (hdvd : w ∣ 64) (hpos : 0 < ones) (hlt : ones < w)
    (hr : r < w) :
    Repeats ((((run w ones).rotateRight r).replicate (64 / w)).setWidth 64) w ones r where
  some_ones := hpos
  some_zeros := hlt
  rotation := hr
  bit := by
    intro i hi
    have hin : i % w < w := Nat.mod_lt _ (by omega)
    rw [BitVec.getLsbD_setWidth, decide_eq_true hi, Bool.true_and, BitVec.getLsbD_replicate,
      Nat.mul_div_cancel' hdvd, decide_eq_true hi, Bool.true_and,
      getLsbD_rotateRight_of_lt _ hr hin, getLsbD_run, Nat.mod_add_mod,
      decide_eq_true (Nat.mod_lt _ (by omega)), Bool.true_and]

/-- A run that fits into half the register repeats in the copy of that half. -/
theorem Repeats.widen {v : BitVec 64} {is64 : Bool} {w ones r : Nat} (h : Repeats v w ones r)
    (hw : is64 = true ∨ w ∣ 32) : Repeats (Bitmask.widen v is64) w ones r := by
  cases is64 with
  | true => exact h
  | false =>
    have hdvd := hw.resolve_left Bool.false_ne_true
    refine { h with bit := fun i hi => ?_ }
    rw [getLsbD_widen_false v hi, h.bit _ (by omega), mod_add_mod_of_dvd hdvd]

theorem size_dvd {n imms : Nat} (hn : n < 2) (himms : imms < 64) :
    1 <<< log ⟨n, 0, imms⟩ ∣ if n = 0 then 32 else 64 := by
  have hle := log_le n hn imms himms
  rw [Nat.one_shiftLeft]
  by_cases hzero : n = 0
  · rw [if_pos hzero] at hle ⊢
    exact Nat.pow_dvd_pow 2 hle
  · rw [if_neg hzero] at hle ⊢
    exact Nat.pow_dvd_pow 2 hle

theorem size_le {m : Bitmask} {is64 : Bool} {v : BitVec 64} (h : decode m is64 = some v) :
    m.size ≤ if is64 then 64 else 32 := by
  obtain ⟨hn, himms, hnarrow, -, -, -⟩ := decode_eq_some h
  have hdvd : m.size ∣ if m.n = 0 then 32 else 64 := size_dvd hn himms
  cases is64 with
  | true =>
    refine Nat.le_trans (Nat.le_of_dvd (by split <;> decide) hdvd) ?_
    split <;> decide
  | false =>
    rw [if_pos (hnarrow rfl)] at hdvd
    exact Nat.le_of_dvd (by decide) hdvd

theorem repeats_of_decode {m : Bitmask} {is64 : Bool} {v : BitVec 64}
    (h : decode m is64 = some v) :
    Repeats (widen v is64) m.size (m.imms % m.size + 1) (m.immr % m.size) := by
  obtain ⟨hn, himms, hnarrow, -, hlt, rfl⟩ := decode_eq_some h
  have hdvd : m.size ∣ if m.n = 0 then 32 else 64 := size_dvd hn himms
  have hfull : m.size ∣ 64 := by
    split at hdvd
    · exact Nat.dvd_trans hdvd (by decide)
    · exact hdvd
  rw [widen_visible]
  refine (repeats_replicate hfull (Nat.succ_pos _) hlt (Nat.mod_lt _ (by omega))).widen ?_
  cases is64 with
  | true => exact Or.inl rfl
  | false =>
    rw [if_pos (hnarrow rfl)] at hdvd
    exact Or.inr hdvd

/-- The numbers of a value are those that it has been made of, but for the bits of the rotation
that are above the size of the element. -/
theorem encode_of_decode {m : Bitmask} {is64 : Bool} {v : BitVec 64} (h : decode m is64 = some v) :
    encode v is64 = some ⟨m.n, m.immr % m.size, m.imms⟩ := by
  obtain ⟨hn, himms, -, hlog, -, -⟩ := decode_eq_some h
  have hle : m.log ≤ 6 := by
    have : m.log ≤ if m.n = 0 then 5 else 6 := log_le m.n hn m.imms himms
    split at this <;> omega
  obtain ⟨hsize, hones⟩ := numbers_of_log m.n hn m.imms himms hlog
  have hencode := encode_of_repeats hlog hle (repeats_of_decode h)
  rw [Nat.add_sub_cancel] at hencode
  rw [hencode]
  exact congrArg some (congr (congrArg (fun n => Bitmask.mk n (m.immr % m.size)) hsize) hones)

theorem encode_isSome_iff {v : BitVec 64} {is64 : Bool} :
    (encode v is64).isSome = true ↔ ∃ p ones r, 0 < p ∧ 2 ^ p ≤ (if is64 then 64 else 32) ∧
      0 < ones ∧ ones < 2 ^ p ∧ ∀ i < if is64 then 64 else 32,
        v.getLsbD i = decide ((i + r) % 2 ^ p < ones) := by
  constructor
  · intro h
    obtain ⟨m, hm⟩ := Option.isSome_iff_exists.mp h
    have hdecode : decode m is64 = some (visible v is64) := decode_encode hm
    obtain ⟨-, -, -, hlog, -, -⟩ := decode_eq_some hdecode
    have hsize : m.size = 2 ^ m.log := Nat.one_shiftLeft _
    have hruns := repeats_of_decode hdecode
    have hle := size_le hdecode
    rw [widen_visible, hsize] at hruns
    rw [hsize] at hle
    refine ⟨m.log, m.imms % 2 ^ m.log + 1, m.immr % 2 ^ m.log, hlog, hle, hruns.some_ones,
      hruns.some_zeros, fun i hi => ?_⟩
    cases is64 with
    | true => exact hruns.bit i hi
    | false =>
      have hlow : i < 32 := hi
      rw [← hruns.bit i (by omega), getLsbD_widen_false v (by omega), Nat.mod_eq_of_lt hlow]
  · rintro ⟨p, ones, r, hp, hle, hpos, hlt, hbit⟩
    have hp6 : p ≤ 6 := by
      refine (Nat.pow_le_pow_iff_right (by decide : 1 < 2)).mp (Nat.le_trans hle ?_)
      split <;> decide
    have hrun : Repeats (widen v is64) (1 <<< p) ones (r % 2 ^ p) := by
      rw [Nat.one_shiftLeft]
      refine ⟨hpos, hlt, Nat.mod_lt _ (Nat.two_pow_pos p), fun i hi => ?_⟩
      rw [Nat.add_mod_mod]
      cases is64 with
      | true => exact hbit i hi
      | false =>
        have hdvd : 2 ^ p ∣ 32 := Nat.pow_dvd_pow 2 (n := 5)
          ((Nat.pow_le_pow_iff_right (by decide : 1 < 2)).mp hle)
        have hlow : i % 32 < if false = true then 64 else 32 := Nat.mod_lt _ (by decide)
        rw [getLsbD_widen_false v hi, hbit _ hlow, mod_add_mod_of_dvd hdvd]
    rw [encode_of_repeats hp hp6 hrun]
    rfl

/-- Bitmask immediates are exact. A value can be encoded if and only if some encoding has it for
its value; its encoding then decodes to it, or to its low half for the narrow width; and the value
of an encoding is encoded by the same numbers, the rotation reduced to the size of the element.
So two encodings of one value differ in nothing but the rotation, and there by whole elements. -/
theorem bitmasks_exact (v : BitVec 64) (is64 : Bool) :
    ((encode v is64).isSome = true ↔ ∃ m, decode m is64 = some (visible v is64)) ∧
      (∀ m, encode v is64 = some m → decode m is64 = some (visible v is64)) ∧
      (∀ m, decode m is64 = some v → encode v is64 = some ⟨m.n, m.immr % m.size, m.imms⟩) ∧
      ∀ m m', decode m is64 = some v → decode m' is64 = some v →
        m.n = m'.n ∧ m.imms = m'.imms ∧ m.immr % m.size = m'.immr % m'.size := by
  refine ⟨⟨fun h => ?_, fun ⟨m, hm⟩ => ?_⟩, fun m => decode_encode, fun m => encode_of_decode, ?_⟩
  · obtain ⟨m, hm⟩ := Option.isSome_iff_exists.mp h
    exact ⟨m, decode_encode hm⟩
  · rw [← encode_visible, encode_of_decode hm]
    rfl
  · intro m m' hm hm'
    have hsame := (encode_of_decode hm).symm.trans (encode_of_decode hm')
    injection hsame with hsame
    injection hsame with hn hr hs
    exact ⟨hn, hs, hr⟩

end MachineCode.AArch64.Bitmask
