import Mathlib.Algebra.Ring.Nat
import MachineCode.AArch64.Immediate

/-!
Bitmask immediates. A value that has an encoding repeats its lowest element all over the register,
and the encoding names the size of the element, its number of ones and how far they are rotated.
So decoding the encoding of a value gives the value back.
-/
namespace MachineCode.AArch64.Bitmask

theorem period_le (v : BitVec 64) (k : Nat) : period v k ≤ k := by
  fun_induction period v k with
  | case1 => exact Nat.le_refl _
  | case2 => exact Nat.le_refl _
  | case3 k half heq ih => omega
  | case4 k half hne => exact Nat.le_refl _

theorem period_pos (v : BitVec 64) {k : Nat} (h : 0 < k) : 0 < period v k := by
  fun_induction period v k with
  | case1 => omega
  | case2 => omega
  | case3 k half heq ih => exact ih (by omega)
  | case4 k half hne => omega

/-- The lowest bits up to `2 ^ k` repeat those up to the period. -/
theorem getLsbD_period (v : BitVec 64) (k : Nat) : ∀ i < 2 ^ k,
    v.getLsbD i = v.getLsbD (i % 2 ^ period v k) := by
  fun_induction period v k with
  | case1 =>
    intro i hi
    rw [Nat.mod_eq_of_lt hi]
  | case2 =>
    intro i hi
    rw [Nat.mod_eq_of_lt hi]
  | case3 k half heq ih =>
    intro i hi
    have hhalf : half = 2 ^ (k + 1) := Nat.one_shiftLeft _
    by_cases hlt : i < 2 ^ (k + 1)
    · exact ih i hlt
    · -- A bit of the upper half is that of the lower one.
      have hdouble : 2 ^ (k + 2) = 2 ^ (k + 1) * 2 := Nat.pow_succ ..
      have hlow : i - half < half := by omega
      have hbit := congrArg (BitVec.getLsbD · (i - half)) heq
      simp only [BitVec.getLsbD_extractLsb', hlow, decide_true, Bool.true_and, Nat.zero_add] at hbit
      rw [show half + (i - half) = i by omega] at hbit
      obtain ⟨c, hc⟩ : 2 ^ period v (k + 1) ∣ half := hhalf ▸ Nat.pow_dvd_pow 2 (period_le v _)
      have hmod : i % 2 ^ period v (k + 1) = (i - half) % 2 ^ period v (k + 1) := by
        have hsum : i = i - half + 2 ^ period v (k + 1) * c := by omega
        rw [hsum, Nat.add_mul_mod_self_left, ← hsum]
      rw [← hbit, ih (i - half) (by omega), hmod]
  | case4 k half hne =>
    intro i hi
    rw [Nat.mod_eq_of_lt hi]

theorem getLsbD_run (w ones i : Nat) :
    (run w ones).getLsbD i = (decide (i < w) && decide (i < ones)) := by
  simp [run]

theorem getLsbD_rotateRight_of_lt {w r i : Nat} (x : BitVec w) (hr : r < w) (hi : i < w) :
    (x.rotateRight r).getLsbD i = x.getLsbD ((i + r) % w) := by
  rw [BitVec.getLsbD_rotateRight, Nat.mod_eq_of_lt hr]
  by_cases hlow : i < w - r
  · rw [decide_eq_true hlow, cond_true, Nat.mod_eq_of_lt (by omega), Nat.add_comm]
  · have hmod : (i + r) % w = i - (w - r) := by
      rw [Nat.mod_eq_sub_mod (by omega), Nat.mod_eq_of_lt (by omega)]
      omega
    rw [decide_eq_false hlow, cond_false, decide_eq_true hi, Bool.true_and, hmod]

theorem rotateRight_rotateRight {w r : Nat} (x : BitVec w) (hr : r < w) :
    (x.rotateRight r).rotateRight ((w - r) % w) = x := by
  apply BitVec.eq_of_getLsbD_eq
  intro i hi
  have hfull : ((i + (w - r) % w) % w + r) % w = i := by
    rw [Nat.mod_add_mod, Nat.add_right_comm, Nat.add_mod_mod, Nat.add_assoc,
      show r + (w - r) = w by omega, Nat.add_mod_right, Nat.mod_eq_of_lt hi]
  rw [getLsbD_rotateRight_of_lt _ (Nat.mod_lt _ (by omega)) hi,
    getLsbD_rotateRight_of_lt _ hr (Nat.mod_lt _ (by omega)), hfull]

theorem getLsbD_of_rotated {v : BitVec 64} {w r ones : Nat} (hr : r < w)
    (hperiod : ∀ i < 64, v.getLsbD i = v.getLsbD (i % w))
    (hrun : (v.setWidth w).rotateRight r = run w ones) {i : Nat} (hi : i < 64) :
    v.getLsbD i = ((run w ones).rotateRight ((w - r) % w)).getLsbD (i % w) := by
  have hlt : i % w < w := Nat.mod_lt _ (by omega)
  rw [← hrun, rotateRight_rotateRight _ hr, BitVec.getLsbD_setWidth, decide_eq_true hlt,
    Bool.true_and, hperiod i hi]

theorem ones_bounds {v : BitVec 64} {w r ones : Nat} (hr : r < w)
    (hperiod : ∀ i < 64, v.getLsbD i = v.getLsbD (i % w))
    (hrun : (v.setWidth w).rotateRight r = run w ones)
    (hzero : v ≠ 0) (hall : v ≠ BitVec.allOnes 64) : 0 < ones ∧ ones < w := by
  have hbit : ∀ i < 64, ∃ j < w, v.getLsbD i = decide (j < ones) := by
    intro i hi
    have hpos : 0 < w := by omega
    refine ⟨_, Nat.mod_lt (i % w + (w - r) % w) hpos, ?_⟩
    rw [getLsbD_of_rotated hr hperiod hrun hi,
      getLsbD_rotateRight_of_lt _ (Nat.mod_lt _ hpos) (Nat.mod_lt _ hpos), getLsbD_run,
      decide_eq_true (Nat.mod_lt _ hpos), Bool.true_and]
  constructor
  · apply Nat.pos_of_ne_zero
    rintro rfl
    apply hzero
    apply BitVec.eq_of_getLsbD_eq
    intro i hi
    obtain ⟨j, -, hj⟩ := hbit i hi
    simp [hj]
  · apply Nat.lt_of_not_le
    intro hle
    apply hall
    apply BitVec.eq_of_getLsbD_eq
    intro i hi
    obtain ⟨j, hlt, hj⟩ := hbit i hi
    rw [hj, BitVec.getLsbD_allOnes, decide_eq_true hi, decide_eq_true (Nat.lt_of_lt_of_le hlt hle)]

theorem length_and_run : ∀ p < 7, ∀ ones < 1 <<< p, 0 < p → 0 < ones →
    (63 - (2 * (1 <<< p) - 1) % 64) ||| (ones - 1) ≤ 63 ∧
    ((63 - (2 * (1 <<< p) - 1) % 64) ||| (ones - 1)) % (1 <<< p) = ones - 1 ∧
    ((if 1 <<< p = 64 then 1 else 0) * 64 +
      (63 - ((63 - (2 * (1 <<< p) - 1) % 64) ||| (ones - 1)))).log2 = p := by
  decide +kernel

theorem replicate_eq {v : BitVec 64} {w r ones : Nat} (hdvd : w ∣ 64) (hr : r < w)
    (hperiod : ∀ i < 64, v.getLsbD i = v.getLsbD (i % w))
    (hrun : (v.setWidth w).rotateRight r = run w ones) :
    (((run w ones).rotateRight ((w - r) % w)).replicate (64 / w)).setWidth 64 = v := by
  apply BitVec.eq_of_getLsbD_eq
  intro i hi
  rw [BitVec.getLsbD_setWidth, decide_eq_true hi, Bool.true_and, BitVec.getLsbD_replicate,
    Nat.mul_div_cancel' hdvd, decide_eq_true hi, Bool.true_and,
    ← getLsbD_of_rotated hr hperiod hrun hi]

/-- A value in both halves has a period of half the register at most. -/
theorem period_widen (v : BitVec 64) : period (widen v false) 6 ≤ 5 := by
  have hhalves : (widen v false).extractLsb' 0 (1 <<< 5) =
      (widen v false).extractLsb' (1 <<< 5) (1 <<< 5) := by
    apply BitVec.eq_of_getLsbD_eq
    intro i hi
    have hlt : i < 32 := hi
    rw [BitVec.getLsbD_extractLsb', BitVec.getLsbD_extractLsb', widen, if_neg Bool.false_ne_true,
      BitVec.getLsbD_append, BitVec.getLsbD_append]
    simp [hlt]
  rw [period, if_pos hhalves]
  exact period_le _ 5

theorem setWidth_widen (v : BitVec 64) : (widen v false).setWidth 32 = v.setWidth 32 := by
  apply BitVec.eq_of_getLsbD_eq
  intro i hi
  rw [widen, if_neg Bool.false_ne_true, BitVec.getLsbD_setWidth, BitVec.getLsbD_append,
    BitVec.getLsbD_setWidth]
  simp [hi]

theorem decode_of_log2 {n immr imms p : Nat} {is64 : Bool} (hn : n ≤ if is64 then 1 else 0)
    (himmr : immr < 1 <<< p) (himms : imms ≤ 63) (hp : 0 < p) (hp6 : p ≤ 6)
    (hlog : (n * 64 + (63 - imms)).log2 = p) (hs : imms % (1 <<< p) + 1 < 1 <<< p) :
    decode ⟨n, immr, imms⟩ is64 = some (
      let v := (((run (1 <<< p) (imms % (1 <<< p) + 1)).rotateRight immr).replicate
        (64 / (1 <<< p))).setWidth 64
      if is64 then v else (v.setWidth 32).setWidth 64) := by
  have hsize : 1 <<< p ≤ 64 := by
    rw [Nat.one_shiftLeft]
    exact Nat.pow_le_pow_right (n := 2) (by omega) hp6
  have hvalid : (decide (n > 1) || decide (immr > 63) || decide (imms > 63) ||
      (!is64 && n != 0)) = false := by
    cases is64 <;> simp at hn ⊢ <;> omega
  have hpos : n * 64 + (63 - imms) ≠ 0 := by
    intro hzero
    rw [hzero] at hlog
    have : Nat.log2 0 = 0 := by decide
    omega
  unfold decode
  dsimp only
  rw [hvalid, hlog, if_neg Bool.false_ne_true, if_neg (by omega), if_neg (by omega),
    Nat.mod_eq_of_lt himmr]

theorem decode_encode {v : BitVec 64} {is64 : Bool} {m : Bitmask} (h : encode v is64 = some m) :
    decode m is64 = some (if is64 then v else (v.setWidth 32).setWidth 64) := by
  unfold encode at h
  dsimp only at h
  split at h
  · cases h
  next hne =>
    obtain ⟨r, hfind, rfl⟩ := Option.map_eq_some_iff.mp h
    obtain ⟨hzero, hall⟩ := not_or.mp hne
    have hr := List.mem_range.mp (List.mem_of_find?_eq_some hfind)
    have hrun := List.find?_some hfind
    rw [decide_eq_true_eq] at hrun
    have hle : period (widen v is64) 6 ≤ 6 := period_le _ 6
    have hpp : 0 < period (widen v is64) 6 := period_pos _ (by omega)
    have hperiod : ∀ i < 64, (widen v is64).getLsbD i =
        (widen v is64).getLsbD (i % (1 <<< period (widen v is64) 6)) := by
      rw [Nat.one_shiftLeft]
      exact getLsbD_period (widen v is64) 6
    obtain ⟨hpos, hlt⟩ := ones_bounds hr hperiod hrun hzero hall
    obtain ⟨himms, hmod, hlog⟩ := length_and_run _ (by omega) _ hlt hpp hpos
    have hdvd : 1 <<< period (widen v is64) 6 ∣ 64 := by
      rw [Nat.one_shiftLeft]
      exact Nat.pow_dvd_pow 2 hle
    -- Elements of the full register are for 64 bits only.
    have hn : (if 1 <<< period (widen v is64) 6 = 64 then 1 else 0) ≤ if is64 then 1 else 0 := by
      cases is64 with
      | true => split <;> decide
      | false =>
        have hlow : 1 <<< period (widen v false) 6 ≤ 32 := by
          rw [Nat.one_shiftLeft]
          exact Nat.pow_le_pow_right (n := 2) (by omega) (period_widen v)
        rw [if_neg (by omega)]
        exact Nat.zero_le _
    rw [decode_of_log2 hn (Nat.mod_lt _ (by omega)) himms hpp hle hlog (by omega), hmod,
      show popCount _ - 1 + 1 = popCount _ from Nat.sub_add_cancel hpos,
      replicate_eq hdvd hr hperiod hrun]
    cases is64 with
    | true => rfl
    | false => simp only [Bool.false_eq_true, if_false, setWidth_widen]

end MachineCode.AArch64.Bitmask
