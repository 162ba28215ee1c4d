import MachineCode.Proofs.Upkeep

/-!
Regions. Their capacities are whole pages, and when code outgrows one region it moves to another
of at least twice the capacity. Only a commit moves code.
-/
namespace MachineCode

theorem le_pageCeil (n : Nat) : n ≤ pageCeil n := by
  unfold pageCeil pageSize
  omega

theorem pageSize_dvd_pageCeil (n : Nat) : pageSize ∣ pageCeil n := Nat.dvd_mul_left ..

namespace Memory

theorem le_doubled (capacity size : Nat) : capacity ≤ doubled capacity size := by
  fun_induction doubled capacity size with
  | case1 capacity h ih => omega
  | case2 capacity h => exact Nat.le_refl _

theorem size_le_doubled {capacity : Nat} (size : Nat) (h : 0 < capacity) :
    size ≤ doubled capacity size := by
  fun_induction doubled capacity size with
  | case1 capacity hlt ih => exact ih (by omega)
  | case2 capacity hlt => omega

/-- A new region is at least twice as large, no smaller than the configured minimum, and holds
the code. -/
theorem nextCapacity_bounds (old minimum size : Nat) :
    2 * old ≤ nextCapacity old minimum size ∧ minimum ≤ nextCapacity old minimum size ∧
      size ≤ nextCapacity old minimum size ∧ pageSize ∣ nextCapacity old minimum size := by
  have hpos : 0 < max (max (2 * old) minimum) pageSize := by
    unfold pageSize
    omega
  have hlow := le_doubled (max (max (2 * old) minimum) pageSize) size
  have hsize := size_le_doubled size hpos
  have hceil := le_pageCeil (doubled (max (max (2 * old) minimum) pageSize) size)
  refine ⟨?_, ?_, ?_, pageSize_dvd_pageCeil _⟩
  · exact Nat.le_trans (by omega) hceil
  · exact Nat.le_trans (by omega) hceil
  · exact Nat.le_trans hsize hceil

theorem release_capacity (m : Memory) (i : Nat) :
    (m.release i).1.current.capacity = m.current.capacity := by
  unfold release region? setRegion
  by_cases hi : i = m.past.length
  · simp [hi]
  · simp only [if_neg hi]
    split <;> simp

theorem unlock_capacity (m : Memory) (guard : Nat) :
    (m.unlock guard).1.current.capacity = m.current.capacity := by
  unfold unlock
  split
  · exact release_capacity _ _
  · rfl

theorem move_capacity (m : Memory) (base : UInt64) (minimum : Nat) (code : Bytes) :
    (m.move base minimum code).1.current.capacity =
      nextCapacity m.current.capacity minimum code.length :=
  release_capacity _ _

end Memory

namespace Assembler

def capacity (a : Assembler) : Nat := a.memory.current.capacity

/-- The region stays, or the code moves to one that is at least twice as large, no smaller than
the configured minimum, and holds the code. -/
inductive Grows (a b : Assembler) : Prop where
  | stays : b.region = a.region → b.capacity = a.capacity → Grows a b
  | moves : b.region = a.region + 1 → 2 * a.capacity ≤ b.capacity → a.minCapacity ≤ b.capacity →
      b.committed ≤ b.capacity → pageSize ∣ b.capacity → Grows a b

theorem Grows.capacity {a b : Assembler} (h : Grows a b) (hregion : b.region = a.region) :
    b.capacity = a.capacity := by
  cases h with
  | stays _ hcap => exact hcap
  | moves hmoved => omega

variable {a b : Assembler}

theorem commit_region {next : UInt64} (hb : a.commit next = .ok b) :
    b.minCapacity = a.minCapacity ∧
      (b.region = a.region ∧ b.capacity = a.capacity ∧
        (a.scratch = [] ∨ a.offset ≤ a.capacity) ∨
      b.region = a.region + 1 ∧
        b.capacity = Memory.nextCapacity a.capacity a.minCapacity b.committed) := by
  have hc := whenOpen_eq_ok hb
  split at hc
  · rename_i hnone
    simp only [Bool.and_eq_true, List.isEmpty_iff] at hnone
    obtain rfl := Except.ok.inj hc
    exact ⟨rfl, Or.inl ⟨rfl, rfl, Or.inl hnone.1.1⟩⟩
  · obtain ⟨refs, hrefs, hc⟩ := bind_eq_ok (mapError_eq_ok hc)
    simp only at hc
    split at hc
    · rename_i hroom
      obtain ⟨code, hcode, hb⟩ := bind_eq_ok hc
      obtain rfl := Except.ok.inj hb
      exact ⟨rfl, Or.inl ⟨rfl, rfl, Or.inr (of_decide_eq_true hroom)⟩⟩
    · obtain ⟨code, hcode, hb⟩ := bind_eq_ok hc
      obtain rfl := Except.ok.inj hb
      obtain ⟨hmc, -, hmp⟩ := a.memory.move_current next a.minCapacity code
      refine ⟨rfl, Or.inr ⟨hmp, ?_⟩⟩
      have hlen : committed { a with memory := (a.memory.move next a.minCapacity code).1 } =
          code.length := congrArg List.length hmc
      exact (a.memory.move_capacity next a.minCapacity code).trans
        (congrArg (Memory.nextCapacity _ _) hlen.symm)

theorem commit_grows {next : UInt64} (hb : a.commit next = .ok b) :
    b.minCapacity = a.minCapacity ∧ Grows a b := by
  obtain ⟨hmin, ⟨hregion, hcap, -⟩ | ⟨hregion, hcap⟩⟩ := commit_region hb
  · exact ⟨hmin, .stays hregion hcap⟩
  · obtain ⟨hdouble, hleast, hsize, hpages⟩ :=
      Memory.nextCapacity_bounds a.capacity a.minCapacity b.committed
    rw [← hcap] at hdouble hleast hsize hpages
    exact ⟨hmin, .moves hregion hdouble hleast hsize hpages⟩

/-- Regions only change when code is committed. -/
theorem perform_grows {op : Operation} (hb : a.perform op = .ok b) :
    b.minCapacity = a.minCapacity ∧ Grows a b := by
  cases op with
  | extend data =>
    obtain rfl := extend_eq_ok hb
    exact ⟨rfl, .stays rfl rfl⟩
  | align n fill =>
    obtain rfl := align_eq_ok hb
    exact ⟨rfl, .stays rfl rfl⟩
  | newDynamic =>
    obtain rfl := Except.ok.inj hb
    exact ⟨rfl, .stays rfl rfl⟩
  | globalLabel name =>
    obtain ⟨-, rfl⟩ := globalLabel_eq_ok hb
    exact ⟨rfl, .stays rfl rfl⟩
  | dynamicLabel id =>
    obtain ⟨-, rfl⟩ := dynamicLabel_eq_ok hb
    exact ⟨rfl, .stays rfl rfl⟩
  | localLabel name =>
    obtain ⟨ps, -, rfl⟩ := localLabel_eq_ok hb
    exact ⟨rfl, .stays rfl rfl⟩
  | append c =>
    obtain ⟨-, ps, -, rfl⟩ := append_eq_ok hb rfl
    exact ⟨rfl, .stays rfl rfl⟩
  | relocate u =>
    obtain ⟨-, ps, -, rfl⟩ := append_eq_ok hb rfl
    exact ⟨rfl, .stays rfl rfl⟩
  | emit instruction =>
    have hi := whenOpen_eq_ok hb
    cases instruction with
    | error e => cases hi
    | ok c =>
      obtain ⟨-, ps, -, rfl⟩ := append_eq_ok hi rfl
      exact ⟨rfl, .stays rfl rfl⟩
  | commit next => exact commit_grows hb
  | finalize next =>
    obtain ⟨c, hc, hb⟩ := bind_eq_ok hb
    obtain rfl := Except.ok.inj hb
    obtain ⟨hmin, hgrows⟩ := commit_grows hc
    refine ⟨hmin, ?_⟩
    cases hgrows with
    | stays hregion hcap => exact .stays hregion hcap
    | moves hregion hdouble hleast hsize hpages => exact .moves hregion hdouble hleast hsize hpages
  | alter next script =>
    obtain ⟨c, m, writes, hc, hm, -, rfl⟩ := alter_eq_ok hb
    obtain ⟨hmin, hgrows⟩ := commit_grows hc
    refine ⟨hmin, ?_⟩
    cases hgrows with
    | stays hregion hcap => exact .stays hregion hcap
    | moves hregion hdouble hleast hsize hpages =>
      exact .moves hregion hdouble hleast (Nat.le_trans (Nat.le_of_eq hm.length) hsize) hpages
  | alterUncommitted script =>
    obtain ⟨m, writes, -, -, rfl⟩ := alterUncommitted_eq_ok hb
    exact ⟨rfl, .stays rfl rfl⟩
  | close =>
    obtain rfl := Except.ok.inj hb
    refine ⟨?_, .stays a.close_alike.region ?_⟩
    · unfold close
      split <;> rfl
    · unfold close
      split
      · exact a.memory.release_capacity _
      · rfl
  | closeBuffer =>
    obtain rfl := Except.ok.inj hb
    refine ⟨?_, .stays a.closeBuffer_alike.region ?_⟩
    · unfold closeBuffer
      split <;> rfl
    · unfold closeBuffer
      split
      · exact a.memory.release_capacity _
      · rfl
  | lock =>
    obtain ⟨⟨guard, c⟩, hc, rfl⟩ := map_eq_ok hb
    have halike := lock_alike hc
    unfold lock Memory.lock at hc
    split at hc
    · rename_i hm
      split at hm
      · cases hm
      · obtain ⟨-, rfl⟩ := Prod.mk.inj (Except.ok.inj hm)
        obtain ⟨-, rfl⟩ := Prod.mk.inj (Except.ok.inj hc)
        exact ⟨rfl, .stays halike.region rfl⟩
    · cases hc
  | unlock guard =>
    obtain rfl := Except.ok.inj hb
    exact ⟨rfl, .stays (a.unlock_alike guard).region (a.memory.unlock_capacity guard)⟩

end Assembler

end MachineCode
