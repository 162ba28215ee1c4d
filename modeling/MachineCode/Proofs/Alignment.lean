import MachineCode.Writer
import MachineCode.Proofs.Effects
import MachineCode.Proofs.Execution
import MachineCode.Proofs.NoOperations

/-!
Alignment. Code is filled up to a multiple of a number with the fewest bytes there can be, either
with one byte over and over or with instructions that do nothing. If that is impossible nothing is
appended, although instructions of fixed length are appended one after the other.
-/
namespace MachineCode

namespace Assembler

variable {offset n : Nat}

theorem gap_lt (offset : Nat) (hn : 0 < n) : gap offset n < n := Nat.mod_lt _ hn

theorem gap_of_dvd (h : n ∣ offset) : gap offset n = 0 := by
  rw [gap, Nat.mod_eq_zero_of_dvd h, Nat.sub_zero, Nat.mod_self]

theorem gap_of_not_dvd (hn : 0 < n) (h : ¬ n ∣ offset) : gap offset n = n - offset % n := by
  have hrest := Nat.pos_of_ne_zero (mt Nat.dvd_of_mod_eq_zero h)
  exact Nat.mod_eq_of_lt (by omega)

theorem gap_pos (hn : 0 < n) (h : ¬ n ∣ offset) : 0 < gap offset n := by
  have hlt := Nat.mod_lt offset hn
  rw [gap_of_not_dvd hn h]
  omega

theorem dvd_add_gap (offset : Nat) (hn : 0 < n) : n ∣ offset + gap offset n := by
  by_cases h : n ∣ offset
  · rwa [gap_of_dvd h]
  · have hlt := Nat.mod_lt offset hn
    have hsum : offset + (n - offset % n) = n * (offset / n) + n := by
      have hdiv := Nat.div_add_mod offset n
      omega
    rw [gap_of_not_dvd hn h, hsum]
    exact Nat.dvd_add (Nat.dvd_mul_right ..) (Nat.dvd_refl n)

/-- No fewer bytes lead to a multiple. -/
theorem gap_le (hn : 0 < n) {k : Nat} (h : n ∣ offset + k) : gap offset n ≤ k := by
  by_contra hk
  have hdiff : n ∣ gap offset n - k := by
    have hsub := Nat.dvd_sub (dvd_add_gap offset hn) h
    rwa [Nat.add_sub_add_left] at hsub
  have hle := Nat.le_of_dvd (by omega) hdiff
  have hlt := gap_lt offset hn
  omega

/-- The gap is one of whole units if and only if it begins at one. -/
theorem dvd_gap_iff (offset : Nat) {unit : Nat} (hn : 0 < n) (h : unit ∣ n) :
    unit ∣ gap offset n ↔ unit ∣ offset := by
  have hsum : unit ∣ offset + gap offset n := Nat.dvd_trans h (dvd_add_gap offset hn)
  exact ⟨fun hgap => (Nat.dvd_add_left hgap).mp hsum,
    fun hoffset => (Nat.dvd_add_right hoffset).mp hsum⟩

end Assembler

def Written.outcome (r : Written) : Except Failure Unit × Writer :=
  (match r.2 with
    | none => .ok ()
    | some f => .error f, r.1)

namespace Writer

variable {w : Writer} {e : Encoder} {n : Int}

def extended (w : Writer) (data : Bytes) : Writer :=
  { w with assembler := { w.assembler with scratch := w.assembler.scratch ++ data } }

def failed (w : Writer) (f : Failure) : Written := ({ w with error? := some f }, some f)

theorem extended_nil : w.extended [] = w := by
  rw [extended, List.append_nil]

theorem extended_extended (data data' : Bytes) :
    (w.extended data).extended data' = w.extended (data ++ data') := by
  simp only [extended, List.append_assoc]

theorem offset_extended (data : Bytes) :
    (w.extended data).assembler.offset = w.assembler.offset + data.length := by
  simp only [extended, Assembler.offset, Assembler.committed, List.length_append]
  omega

theorem step_extend (herror : w.error? = none) (data : Bytes) : w.step (·.extend data) =
    if w.assembler.isOpen then (w.extended data, none) else w.failed (.one .finalized) := by
  obtain ⟨encoder?, a, error?⟩ := w
  cases herror
  dsimp only [step]
  rw [Assembler.extend, Assembler.whenOpen]
  cases a.isOpen <;> rfl

abbrev Act := Course Writer Failure

def fail (f : Failure) : Act Unit := do
  modify fun w => { w with error? := some f }
  throw f

def checkError : Act Unit := do
  let w ← get
  match w.error? with
  | some f => throw f
  | none => return

def push (data : Bytes) : Act Unit := do
  let w ← get
  match w.assembler.extend data with
  | .ok assembler => set { w with assembler }
  | .error f => fail f

/-- Appends no-operations portion by portion and stops at the first that cannot be appended. -/
def pushNops (length : Int) : Act Unit := do
  checkError
  let w ← get
  match w.encoder with
  | none => return
  | some e =>
    match e.nopPortions length with
    | .error error => fail (.one error)
    | .ok portions => portions.forM push

def pushAlignment (n : Int) : Act Unit := do
  checkError
  let w ← get
  match w.encoder with
  | none => return
  | some e =>
    if !e.canAlign n then throw (.one (.alignment n))
    else
      let rest := w.assembler.offset % n.toNat
      if rest ≠ 0 then pushNops (n - rest)

theorem outcome_checkError : checkError.outcome w =
    some (match w.error? with
      | some f => .error f
      | none => .ok (), w) := by
  rw [checkError, Course.outcome_bind, Course.outcome_get]
  dsimp only
  cases w.error? <;> rfl

theorem outcome_push (data : Bytes) : (push data).outcome w = some (if w.assembler.isOpen then
    (.ok (), w.extended data) else (w.failed (.one .finalized)).outcome) := by
  rw [push, Course.outcome_bind, Course.outcome_get]
  dsimp only
  rw [Assembler.extend, Assembler.whenOpen]
  cases w.assembler.isOpen <;> rfl

theorem outcome_pushes (ho : w.assembler.isOpen = true) (portions : List Bytes) :
    (portions.forM push).outcome w = some (.ok (), w.extended portions.flatten) := by
  induction portions generalizing w with
  | nil =>
    rw [List.flatten_nil, extended_nil]
    rfl
  | cons p ps ih =>
    show (push p >>= fun _ => ps.forM push).outcome w = _
    rw [Course.outcome_bind, outcome_push, if_pos ho]
    refine (ih (w := w.extended p) ho).trans ?_
    rw [List.flatten_cons, extended_extended]

/-- All portions of no-operations have some bytes, but for the only one of x86. -/
theorem nop_eq (he : w.encoder = some e) (length : Int) : w.nop length = w.step fun a =>
    match e.nopPortions length with
    | .error error => .error (.one error)
    | .ok [] => .ok a
    | .ok portions => a.extend portions.flatten := by
  rw [nop, he]
  congr 1
  funext a
  dsimp only
  rw [e.nops_eq]
  cases e with
  | x86 x =>
    rw [Encoder.nopPortions]
    cases X86.nops length.toNat <;> rfl
  | aarch64 =>
    rw [Encoder.nopPortions]
    by_cases hwords : length % 4 ≠ 0
    · rw [if_pos hwords]
      rfl
    · rw [if_neg hwords]
      cases (length / 4).toNat <;> rfl
  | riscv p =>
    rw [Encoder.nopPortions]
    by_cases hparts : (length < 0 || length % 2 != 0 || (length % 4 != 0 && !p.has [.c])) = true
    · rw [if_pos hparts]
      rfl
    · rw [if_neg hparts, Riscv.nopList]
      by_cases hhalf : length.toNat % 4 = 2
      · rw [if_pos hhalf]
        cases length.toNat / 4 <;> rfl
      · rw [if_neg hhalf]
        cases length.toNat / 4 <;> rfl

theorem outcome_pushNops (length : Int) :
    (pushNops length).outcome w = some (w.nop length).outcome := by
  rw [pushNops, Course.outcome_bind, outcome_checkError]
  obtain ⟨encoder?, a, error?⟩ := w
  cases error? with
  | some f => rfl
  | none =>
    cases encoder? with
    | none => rfl
    | some e =>
      rw [nop_eq rfl]
      dsimp only
      rw [Course.outcome_bind, Course.outcome_get]
      dsimp only
      rcases e.nopPortions length with error | _ | ⟨p, ps⟩
      · rfl
      · rfl
      · dsimp only
        rw [step_extend rfl]
        by_cases ho : a.isOpen = true
        · rw [outcome_pushes ho, if_pos ho]
          rfl
        · -- The first portion fails, so that no other one is tried.
          show (push p >>= fun _ => ps.forM push).outcome _ = _
          rw [Course.outcome_bind, outcome_push, if_neg ho, if_neg ho]
          rfl

theorem alignPc_eq (herror : w.error? = none) (he : w.encoder = some e) (n : Int) :
    w.alignPc n =
      if e.canAlign n = true then
        if n.toNat ∣ w.assembler.offset then (w, none)
        else w.nop (Assembler.gap w.assembler.offset n.toNat)
      else (w, some (.one (.alignment n))) := by
  rw [alignPc, herror, he]
  dsimp only
  by_cases hn : e.canAlign n = true
  · have hpos : 0 < n.toNat := by
      have hn := (Encoder.canAlign_iff.mp hn).pos
      omega
    rw [if_pos hn, hn]
    by_cases hdvd : n.toNat ∣ w.assembler.offset
    · rw [if_pos hdvd, Assembler.gap_of_dvd hdvd]
      rfl
    · have hlt := Nat.mod_lt w.assembler.offset hpos
      rw [if_neg hdvd, Assembler.gap_of_not_dvd hpos hdvd, Bool.not_true,
        if_neg Bool.false_ne_true]
      split
      · omega
      · rfl
  · rw [if_neg hn, Bool.eq_false_iff.mpr hn]
    rfl

theorem outcome_pushAlignment (n : Int) :
    (pushAlignment n).outcome w = some (w.alignPc n).outcome := by
  rw [pushAlignment, Course.outcome_bind, outcome_checkError]
  obtain ⟨encoder?, a, error?⟩ := w
  cases error? with
  | some f => rfl
  | none =>
    cases encoder? with
    | none => rfl
    | some e =>
      rw [alignPc_eq rfl rfl]
      dsimp only
      rw [Course.outcome_bind, Course.outcome_get]
      dsimp only
      by_cases hn : e.canAlign n = true
      · have hpos := (Encoder.canAlign_iff.mp hn).pos
        rw [if_pos hn, hn, Bool.not_true, if_neg Bool.false_ne_true]
        by_cases hdvd : n.toNat ∣ a.offset
        · rw [if_pos hdvd, if_neg (not_not_intro (Nat.mod_eq_zero_of_dvd hdvd))]
          rfl
        · have hlt := Nat.mod_lt a.offset (show 0 < n.toNat by omega)
          have hgap : n - (a.offset % n.toNat : Nat) = Assembler.gap a.offset n.toNat := by
            rw [Assembler.gap_of_not_dvd (by omega) hdvd]
            omega
          rw [if_neg hdvd, if_pos (mt Nat.dvd_of_mod_eq_zero hdvd), hgap]
          exact outcome_pushNops _
      · rw [if_neg hn, Bool.eq_false_iff.mpr hn]
        rfl

/-- A positive number of bytes that instructions can fill is appended, or the assembler is not
open. -/
theorem nop_of_dvd (herror : w.error? = none) (he : w.encoder = some e) {length : Nat}
    (hpos : 0 < length) (h : e.nopUnit ∣ length) :
    ∃ is, e.Idles is ∧ is.flatten.length = length ∧
      w.nop length = if w.assembler.isOpen then (w.extended is.flatten, none)
        else w.failed (.one .finalized) := by
  obtain ⟨is, hidles, hnops, hlength⟩ := Encoder.nops_of_dvd h
  refine ⟨is, hidles, hlength, ?_⟩
  rw [e.nops_eq] at hnops
  obtain ⟨portions, hportions, hflatten⟩ := map_eq_ok hnops
  rw [nop_eq he, hportions]
  cases portions with
  | nil =>
    rw [← hflatten] at hlength
    exact absurd hlength (by rw [List.flatten_nil, List.length_nil]; omega)
  | cons p ps =>
    rw [← hflatten, ← step_extend herror]

theorem nop_of_not_dvd (herror : w.error? = none) (he : w.encoder = some e) {length : Nat}
    (h : ¬ e.nopUnit ∣ length) :
    ∃ f, w.nop length = w.failed f := by
  obtain ⟨error, herr⟩ := Encoder.nops_of_not_dvd h
  rw [e.nops_eq] at herr
  refine ⟨.one error, ?_⟩
  rw [nop_eq he, step, herror]
  dsimp only
  cases hportions : e.nopPortions length with
  | ok portions =>
    rw [hportions] at herr
    cases herr
  | error error' =>
    rw [hportions] at herr
    cases herr
    rfl

inductive Aligning (w : Writer) (e : Encoder) (n : Int) : Written → Prop where
  /-- An earlier instruction has failed. -/
  | failed {f} (herror : w.error? = some f) : Aligning w e n (w, some f)
  | unalignable (herror : w.error? = none) (hn : ¬ e.Alignable n) :
      Aligning w e n (w, some (.one (.alignment n)))
  | aligned (herror : w.error? = none) (hn : e.Alignable n)
      (hoffset : n.toNat ∣ w.assembler.offset) : Aligning w e n (w, none)
  /-- No instruction begins at the offset. -/
  | astray {f} (herror : w.error? = none) (hn : e.Alignable n)
      (hunit : ¬ e.nopUnit ∣ w.assembler.offset) : Aligning w e n (w.failed f)
  | closed {f} (herror : w.error? = none) (hn : e.Alignable n)
      (hoffset : ¬ n.toNat ∣ w.assembler.offset) (hopen : w.assembler.isOpen = false) :
      Aligning w e n (w.failed f)
  | filled {is} (herror : w.error? = none) (hn : e.Alignable n)
      (hunit : e.nopUnit ∣ w.assembler.offset) (hopen : w.assembler.isOpen = true)
      (hidles : e.Idles is)
      (hlength : is.flatten.length = Assembler.gap w.assembler.offset n.toNat) :
      Aligning w e n (w.extended is.flatten, none)

theorem aligning_alignPc (he : w.encoder = some e) (n : Int) : Aligning w e n (w.alignPc n) := by
  cases herror : w.error? with
  | some f =>
    rw [alignPc, herror]
    exact .failed herror
  | none =>
    rw [alignPc_eq herror he]
    split
    · rename_i hn
      have hn := Encoder.canAlign_iff.mp hn
      have hpos : 0 < n.toNat := by
        have hn := hn.pos
        omega
      split
      · rename_i hdvd
        exact .aligned herror hn hdvd
      · rename_i hdvd
        have hgap := Assembler.gap_pos hpos hdvd
        have hunit := Assembler.dvd_gap_iff w.assembler.offset hpos hn.dvd
        by_cases hoffset : e.nopUnit ∣ w.assembler.offset
        · obtain ⟨is, hidles, hlength, hnop⟩ := nop_of_dvd herror he hgap (hunit.mpr hoffset)
          rw [hnop]
          split
          · rename_i hopen
            exact .filled herror hn hoffset hopen hidles hlength
          · rename_i hopen
            exact .closed herror hn hdvd (Bool.eq_false_iff.mpr hopen)
        · obtain ⟨f, hnop⟩ := nop_of_not_dvd herror he (mt hunit.mp hoffset)
          rw [hnop]
          exact .astray herror hn hoffset
    · rename_i hn
      exact .unalignable herror (mt Encoder.canAlign_iff.mpr hn)

theorem Aligning.succeeds_iff {r : Written} (h : Aligning w e n r) : r.2 = none ↔
    w.error? = none ∧ e.Alignable n ∧ e.nopUnit ∣ w.assembler.offset ∧
      (w.assembler.isOpen = true ∨ n ∣ w.assembler.offset) := by
  have hiff (hn : e.Alignable n) : n ∣ w.assembler.offset ↔ n.toNat ∣ w.assembler.offset := by
    have hpos := hn.pos
    rw [← Int.natCast_dvd_natCast, Int.toNat_of_nonneg (by omega)]
  cases h with
  | failed herror => exact iff_of_false (nomatch ·) fun h => nomatch herror.symm.trans h.1
  | unalignable herror hn => exact iff_of_false (nomatch ·) fun h => hn h.2.1
  | aligned herror hn hoffset =>
    exact iff_of_true rfl
      ⟨herror, hn, Nat.dvd_trans hn.dvd hoffset, .inr ((hiff hn).mpr hoffset)⟩
  | astray herror hn hunit => exact iff_of_false (nomatch ·) fun h => hunit h.2.2.1
  | closed herror hn hoffset hopen =>
    refine iff_of_false (nomatch ·) fun h => ?_
    rcases h.2.2.2 with ho | hdvd
    · rw [hopen] at ho
      cases ho
    · exact hoffset ((hiff hn).mp hdvd)
  | filled herror hn hunit hopen hidles hlength =>
    exact iff_of_true rfl ⟨herror, hn, hunit, .inl hopen⟩

theorem run_align_cases (w : Writer) (n : Int) (fill : UInt8) :
    (w.assembler.isOpen = true ∧ 0 < n) ∧ w.run (·.align n fill) =
        (w.extended (List.replicate (Assembler.gap w.assembler.offset n.toNat) fill), none) ∨
      ¬ (w.assembler.isOpen = true ∧ 0 < n) ∧ ∃ f, w.run (·.align n fill) = (w, some f) := by
  rw [run, Assembler.align, Assembler.whenOpen]
  by_cases ho : w.assembler.isOpen = true
  · rw [if_pos ho]
    by_cases hn : n ≤ 0
    · rw [if_pos hn]
      exact .inr ⟨fun h => absurd h.2 (by omega), _, rfl⟩
    · rw [if_neg hn, Assembler.extend, Assembler.whenOpen, if_pos ho]
      exact .inl ⟨⟨ho, by omega⟩, rfl⟩
  · rw [if_neg ho]
    exact .inr ⟨fun h => ho h.1, _, rfl⟩

end Writer

/-- Some bytes, and no fewer would do, take the code to a multiple of a number. Nothing else
changes. -/
structure FillsUp (w : Writer) (n : Int) (data : Bytes) (w' : Writer) : Prop where
  appended : w' = w.extended data
  aligned : n ∣ w'.assembler.offset
  fewest : ∀ k : Nat, n ∣ w.assembler.offset + k → data.length ≤ k
  short : data.length < n

theorem FillsUp.of_length {w : Writer} {n : Int} (hn : 0 < n) {data : Bytes}
    (h : data.length = Assembler.gap w.assembler.offset n.toNat) :
    FillsUp w n data (w.extended data) := by
  obtain ⟨m, rfl⟩ := Int.eq_ofNat_of_zero_le (Int.le_of_lt hn)
  rw [Int.toNat_natCast] at h
  have hpos : 0 < m := by omega
  refine ⟨rfl, ?_, fun k hk => ?_, ?_⟩
  · rw [w.offset_extended, h, Int.natCast_dvd_natCast]
    exact Assembler.dvd_add_gap _ hpos
  · rw [h]
    exact Assembler.gap_le hpos (by exact_mod_cast hk)
  · rw [h]
    exact_mod_cast Assembler.gap_lt _ hpos

structure PadsExactly (w : Writer) (n : Int) (fill : UInt8) : Prop where
  succeeds_iff : (w.run (·.align n fill)).2 = none ↔ w.assembler.isOpen = true ∧ 0 < n
  padded : ∀ w', w.run (·.align n fill) = (w', none) →
    ∃ k, FillsUp w n (List.replicate k fill) w'
  kept : ∀ w' f, w.run (·.align n fill) = (w', some f) → w' = w

theorem padsExactly (w : Writer) (n : Int) (fill : UInt8) : PadsExactly w n fill := by
  rcases w.run_align_cases n fill with ⟨hcan, hrun⟩ | ⟨hcannot, f, hrun⟩
  · constructor
    · rw [hrun]
      exact iff_of_true rfl hcan
    · intro w' h
      rw [hrun] at h
      cases h
      exact ⟨_, .of_length hcan.2 List.length_replicate⟩
    · intro w' f h
      rw [hrun] at h
      cases h
  · constructor
    · rw [hrun]
      exact iff_of_false (nomatch ·) hcannot
    · intro w' h
      rw [hrun] at h
      cases h
    · intro w' f' h
      rw [hrun] at h
      cases h
      rfl

structure FillsExactly (w : Writer) (e : Encoder) (n : Int) : Prop where
  succeeds_iff : (w.alignPc n).2 = none ↔
    w.error? = none ∧ e.Alignable n ∧ e.nopUnit ∣ w.assembler.offset ∧
      (w.assembler.isOpen = true ∨ n ∣ w.assembler.offset)
  filled : ∀ w', w.alignPc n = (w', none) → ∃ is, e.Idles is ∧ FillsUp w n is.flatten w'
  kept : ∀ w' f, w.alignPc n = (w', some f) → w'.assembler = w.assembler
  /-- It is the same if the instructions are appended one after the other until one fails. -/
  stepwise : (Writer.pushAlignment n).outcome w = some (w.alignPc n).outcome

theorem fillsExactly {w : Writer} {e : Encoder} (he : w.encoder = some e) (n : Int) :
    FillsExactly w e n where
  succeeds_iff := (Writer.aligning_alignPc he n).succeeds_iff
  filled w' h := by
    have haligning := Writer.aligning_alignPc he n
    rw [h] at haligning
    cases haligning with
    | aligned herror hn hoffset =>
      have hfills : FillsUp w n [] (w.extended []) :=
        .of_length hn.pos (Assembler.gap_of_dvd hoffset).symm
      rw [w.extended_nil] at hfills
      exact ⟨[], e.idles_nil, hfills⟩
    | filled herror hn hunit hopen hidles hlength => exact ⟨_, hidles, .of_length hn.pos hlength⟩
  kept w' f h := by
    have haligning := Writer.aligning_alignPc he n
    rw [h] at haligning
    cases haligning <;> rfl
  stepwise := Writer.outcome_pushAlignment n

/-- Alignment to any number, at any offset: it succeeds under the conditions named, it then appends
the fewest bytes that lead to a multiple, and otherwise it appends nothing. -/
theorem gaps_filled_exactly (w : Writer) (n : Int) :
    (∀ fill, PadsExactly w n fill) ∧ ∀ e, w.encoder = some e → FillsExactly w e n :=
  ⟨padsExactly w n, fun _ he => fillsExactly he n⟩

def afterReturn : Writer where
  encoder := some (.riscv .rv64gc)
  assembler := { scratch := [0x82, 0x80] }

theorem gaps_filled_exactly_return :
    afterReturn.encoder = some (.riscv .rv64gc) ∧
      afterReturn.alignPc 8 = (afterReturn.extended [0x13, 0, 0, 0, 0x01, 0], none) ∧
      FillsExactly afterReturn (.riscv .rv64gc) 8 :=
  ⟨rfl, rfl, (gaps_filled_exactly afterReturn 8).2 _ rfl⟩

end MachineCode
