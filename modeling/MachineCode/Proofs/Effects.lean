import MachineCode.Proofs.Session

/-!
What each operation does when it succeeds, said once for each; later proofs do not look inside.
-/
namespace MachineCode

theorem resolve_eq_ok {l : Labels} {r q : Reference} (h : l.resolve r = .ok q) :
    ((r.bound.isSome ∨ r.target.isExternal = true) ∧ q = r) ∨
      r.bound = none ∧ ∃ offset, l.lookup r.target = some offset ∧
        q = { r with bound := some offset } := by
  unfold Labels.resolve at h
  split at h
  · rename_i hb
    simp only [Bool.or_eq_true] at hb
    exact Or.inl ⟨hb, (Except.ok.inj h).symm⟩
  · rename_i hb
    simp only [Bool.or_eq_true, not_or, Bool.not_eq_true, Option.isSome_eq_false_iff,
      Option.isNone_iff_eq_none] at hb
    split at h
    · rename_i offset ho
      exact Or.inr ⟨hb.1, offset, ho, (Except.ok.inj h).symm⟩
    · cases h

namespace Assembler

variable {a b : Assembler}

theorem whenOpen_eq_ok {α : Type} {op : Except Failure α} {x : α} (h : a.whenOpen op = .ok x) :
    op = .ok x := by
  unfold whenOpen at h
  split at h
  · exact h
  · cases h

theorem extend_eq_ok {data : Bytes} (h : a.extend data = .ok b) :
    b = { a with scratch := a.scratch ++ data } :=
  (Except.ok.inj (whenOpen_eq_ok h)).symm

theorem align_eq_ok {n : Int} {fill : UInt8} (h : a.align n fill = .ok b) :
    b = { a with scratch := a.scratch ++ List.replicate (gap a.offset n.toNat) fill } := by
  have hn := whenOpen_eq_ok h
  split at hn
  · cases hn
  · exact extend_eq_ok hn

theorem globalLabel_eq_ok {name : String} (h : a.globalLabel name = .ok b) :
    a.labels.globals.lookup name = none ∧
      b = { a with labels.globals := (name, a.offset) :: a.labels.globals } := by
  have hl := whenOpen_eq_ok h
  unfold Labels.bindGlobal at hl
  cases hg : a.labels.globals.lookup name with
  | some offset =>
    rw [hg] at hl
    cases hl
  | none =>
    rw [hg] at hl
    exact ⟨rfl, (Except.ok.inj hl).symm⟩

theorem dynamicLabel_eq_ok {id : UInt32} (h : a.dynamicLabel id = .ok b) :
    a.labels.dynamics[id.toNat]? = some none ∧
      b = { a with labels.dynamics := a.labels.dynamics.set id.toNat (some a.offset) } := by
  have hl := whenOpen_eq_ok h
  unfold Labels.bindDynamic at hl
  cases hd : a.labels.dynamics[id.toNat]? with
  | none =>
    rw [hd] at hl
    cases hl
  | some offset? =>
    rw [hd] at hl
    cases offset? with
    | some offset => cases hl
    | none => exact ⟨rfl, (Except.ok.inj hl).symm⟩

def drained (a : Assembler) (name : String) : List Reference :=
  (a.labels.waitingFor name).map fun r => { r with bound := some a.offset }

theorem localLabel_eq_ok {name : String} (h : a.localLabel name = .ok b) :
    ∃ ps, Patch.For a.scratch a.committed 0 ((a.drained name).filter (!·.baseDependent)) ps ∧
      b = { a with
        scratch := Patch.applyAll ps a.scratch a.committed
        pending := a.pending ++ (a.drained name).filter (·.baseDependent)
        labels := a.labels.bindLocal name a.offset } := by
  have hl := whenOpen_eq_ok h
  simp only at hl
  split at hl
  · cases hl
  · rename_i ps hps
    obtain ⟨hmade, hcomplete⟩ := mem_of_gather hps
    refine ⟨ps, ⟨?_, ?_⟩, (Except.ok.inj hl).symm⟩
    · intro p hp
      obtain ⟨r, hr, he⟩ := hmade p hp
      exact ⟨r, hr, mapError_eq_ok he⟩
    · intro r hr
      obtain ⟨p, hp, he⟩ := hcomplete r hr
      exact ⟨p, hp, mapError_eq_ok he⟩

def eager? (l : Labels) (r : Reference) : Option Reference :=
  match r.target with
  | .backward name =>
    if r.baseDependent then none else some { r with bound := l.locals.lookup name }
  | _ => none

def postponed? (l : Labels) (r : Reference) : Option Reference :=
  match r.target with
  | .forward _ => none
  | .backward name =>
    if r.baseDependent then some { r with bound := l.locals.lookup name } else none
  | _ => some r

def waiting? (r : Reference) : Option Reference :=
  match r.target with
  | .forward _ => some r
  | _ => none

structure Accepted (committed stop : Nat) (r : Reference) : Prop where
  anchored : r.anchor = stop
  unbound : r.bound = none
  valid : r.target.isValid = true
  low : committed ≤ r.field
  high : r.fieldEnd ≤ stop

theorem field_bounds {r : Reference} {lo : Nat} (h : r.fieldWithin lo = true) :
    lo ≤ r.field ∧ r.fieldEnd ≤ r.anchor := by
  simp only [Reference.fieldWithin, Bool.and_eq_true, decide_eq_true_eq] at h
  unfold Reference.fieldEnd Reference.field
  omega

def settle (a : Assembler) (scratch : Bytes) (r : Reference) : Except Error Recorded :=
  match r.target with
  | .forward _ => .ok (.waits r)
  | .backward _ => do
    let r ← a.labels.resolve r
    if r.baseDependent then .ok (.later r) else .now <$> patch scratch a.committed 0 r
  | _ => .ok (.later r)

structure Settled (l : Labels) (committed : Nat) (scratch : Bytes) (r : Reference) (x : Recorded) :
    Prop where
  found : ∀ name, r.target = .backward name → ∃ offset, l.locals.lookup name = some offset
  waiting : x.waiting? = waiting? r
  pending : x.pending? = postponed? l r
  patched : ∀ q, eager? l r = some q →
    ∃ p, x.patch? = some p ∧ Patch.ofReference scratch committed 0 q = .ok p
  unpatched : eager? l r = none → x.patch? = none

theorem settle_eq_ok {scratch : Bytes} {r : Reference} {x : Recorded} (hr : r.bound = none)
    (h : a.settle scratch r = .ok x) : Settled a.labels a.committed scratch r x := by
  unfold settle at h
  cases ht : r.target with
  | nowhere | global | dynamic | external | forward =>
    simp only [ht] at h
    obtain rfl := Except.ok.inj h
    constructor <;> simp [ht, waiting?, postponed?, eager?, Recorded.waiting?, Recorded.pending?,
      Recorded.patch?]
  | backward name =>
    simp only [ht] at h
    obtain ⟨q, hq, h⟩ := bind_eq_ok h
    obtain ⟨-, offset, ho, rfl⟩ :=
      (resolve_eq_ok hq).resolve_left (by simp [hr, ht, Target.isExternal])
    replace ho : a.labels.locals.lookup name = some offset := by
      rwa [ht] at ho
    by_cases hb : r.baseDependent = true
    · obtain rfl := Except.ok.inj ((if_pos hb).symm.trans h)
      constructor <;> simp [ht, ho, hb, waiting?, postponed?, eager?, Recorded.waiting?,
        Recorded.pending?, Recorded.patch?]
    · obtain ⟨p, hp, rfl⟩ := map_eq_ok ((if_neg hb).symm.trans h)
      have hp := mapError_eq_ok hp
      rw [ht] at hp
      constructor <;> simp [ht, ho, hb, hp, waiting?, postponed?, eager?, Recorded.waiting?,
        Recorded.pending?, Recorded.patch?]

theorem record_eq_ok {scratch : Bytes} {u : Use} {x : Recorded}
    (h : a.record scratch u = .ok x) :
    ∃ r, Operation.reference? (a.committed + scratch.length) u = some r ∧
      Accepted a.committed (a.committed + scratch.length) r ∧
      Settled a.labels a.committed scratch r x := by
  obtain ⟨target, addend, rel?⟩ := u
  unfold record at h
  split at h
  · rename_i rel hvalid hrel
    obtain rfl : rel? = some rel := hrel
    simp only [Bool.not_eq_true'] at h
    split at h
    · cases h
    · rename_i hw
      obtain ⟨hlow, hhigh⟩ := field_bounds (Bool.not_eq_false _ ▸ hw)
      have hs : a.settle scratch
          { anchor := a.committed + scratch.length, target, addend, rel } = .ok x := h
      exact ⟨_, rfl, ⟨rfl, rfl, hvalid, hlow, hhigh⟩, settle_eq_ok rfl hs⟩
  · cases h

theorem mapM_record_eq_ok {scratch : Bytes} {us : List Use} {xs : List Recorded}
    (h : us.mapM (a.record scratch) = .ok xs) {refs : List Reference}
    (hrefs : us.filterMap (Operation.reference? (a.committed + scratch.length)) = refs) :
    (∀ r ∈ refs, Accepted a.committed (a.committed + scratch.length) r ∧
      ∀ name, r.target = .backward name → ∃ offset, a.labels.locals.lookup name = some offset) ∧
    xs.filterMap (·.waiting?) = refs.filterMap waiting? ∧
    xs.filterMap (·.pending?) = refs.filterMap (postponed? a.labels) ∧
    Patch.For scratch a.committed 0 (refs.filterMap (eager? a.labels))
      (xs.filterMap (·.patch?)) := by
  induction us generalizing xs refs with
  | nil =>
    obtain rfl : ([] : List Recorded) = xs := Except.ok.inj h
    obtain rfl : ([] : List Reference) = refs := hrefs
    exact ⟨by simp, rfl, rfl, by simp, by simp⟩
  | cons u us ih =>
    rw [List.mapM_cons] at h
    obtain ⟨x, hx, h⟩ := bind_eq_ok h
    obtain ⟨ys, hys, h⟩ := bind_eq_ok h
    obtain rfl : x :: ys = xs := Except.ok.inj h
    obtain ⟨r, hr, hacc, hs⟩ := record_eq_ok hx
    obtain ⟨hall, hwait, hpend, hfor⟩ := ih hys rfl
    rw [List.filterMap_cons_some hr] at hrefs
    subst hrefs
    refine ⟨?_, ?_, ?_, ?_⟩
    · intro q hq
      rcases List.mem_cons.mp hq with rfl | hq
      · exact ⟨hacc, hs.found⟩
      · exact hall q hq
    · simp only [List.filterMap_cons, hs.waiting, hwait]
    · simp only [List.filterMap_cons, hs.pending, hpend]
    · cases he : eager? a.labels r with
      | none =>
        rw [List.filterMap_cons_none he, List.filterMap_cons_none (hs.unpatched he)]
        exact hfor
      | some q =>
        obtain ⟨p, hp, hq⟩ := hs.patched q he
        rw [List.filterMap_cons_some he, List.filterMap_cons_some hp]
        exact hfor.cons hq

theorem append_eq_ok {c : Code} (h : a.append c = .ok b) {refs : List Reference}
    (hrefs : c.refs.filterMap (Operation.reference? (a.offset + c.code.length)) = refs) :
    (∀ r ∈ refs, Accepted a.committed (a.offset + c.code.length) r ∧
      ∀ name, r.target = .backward name → ∃ offset, a.labels.locals.lookup name = some offset) ∧
    ∃ ps, Patch.For (a.scratch ++ c.code) a.committed 0 (refs.filterMap (eager? a.labels)) ps ∧
      b = { a with
        scratch := Patch.applyAll ps (a.scratch ++ c.code) a.committed
        labels.waiting := a.labels.waiting ++ refs.filterMap waiting?
        pending := a.pending ++ refs.filterMap (postponed? a.labels) } := by
  have hlen : a.offset + c.code.length = a.committed + (a.scratch ++ c.code).length := by
    rw [offset, List.length_append, Nat.add_assoc]
  rw [hlen] at hrefs ⊢
  have ha := whenOpen_eq_ok h
  simp only at ha
  split at ha
  · cases ha
  · rename_i xs hxs
    obtain ⟨hall, hwait, hpend, hfor⟩ := mapM_record_eq_ok hxs hrefs
    rw [hwait, hpend] at ha
    exact ⟨hall, _, hfor, (Except.ok.inj ha).symm⟩

theorem patched_eq_ok {code code' : Bytes} {base : UInt64} {refs : List Reference}
    (h : patched code base refs = .ok code') :
    ∃ ps, Patch.For code 0 base refs ps ∧ code' = Patch.applyAll ps code 0 := by
  obtain ⟨ps, hps, rfl⟩ := map_eq_ok h
  obtain ⟨hmade, hcomplete⟩ := mem_of_gather hps
  refine ⟨ps, ⟨?_, ?_⟩, rfl⟩
  · intro p hp
    obtain ⟨r, hr, he⟩ := hmade p hp
    exact ⟨r, hr, mapError_eq_ok he⟩
  · intro r hr
    obtain ⟨p, hp, he⟩ := hcomplete r hr
    exact ⟨p, hp, mapError_eq_ok he⟩

theorem resolved_eq_ok {refs : List Reference} (h : a.resolved = .ok refs) :
    a.labels.waiting = [] ∧ (∀ q ∈ refs, ∃ r ∈ a.pending, a.labels.resolve r = .ok q) ∧
      ∀ r ∈ a.pending, ∃ q ∈ refs, a.labels.resolve r = .ok q := by
  unfold resolved at h
  split at h
  · rename_i found hfound
    split at h
    · rename_i hw
      obtain rfl := Except.ok.inj h
      exact ⟨List.isEmpty_iff.mp hw, mem_of_gather hfound⟩
    · cases h
  · cases h

/-- A successful commit resolves all pending references, and `moved` anew if the code moves. -/
structure Commits (a : Assembler) (next : UInt64) (b : Assembler) (refs moved : List Reference) :
    Prop where
  waiting : a.labels.waiting = []
  made : ∀ q ∈ refs, ∃ r ∈ a.pending, a.labels.resolve r = .ok q
  complete : ∀ r ∈ a.pending, ∃ q ∈ refs, a.labels.resolve r = .ok q
  labels : b.labels = a.labels
  scratch : b.scratch = []
  pending : b.pending = []
  managed : b.managed = a.managed ++ refs.filter (·.baseDependent)
  place : (b.region = a.region ∧ b.base = a.base ∧ moved = []) ∨
    (b.region = a.region + 1 ∧ b.base = next ∧
      moved = if a.committed = 0 then [] else a.managed)
  code : ∃ ps, Patch.For a.image 0 b.base (moved ++ refs) ps ∧
    b.memory.current.code = Patch.applyAll ps a.image 0

end Assembler

namespace Memory

/-- Whoever lets go of a region, the code stays as and where it is. -/
theorem release_current (m : Memory) (i : Nat) :
    (m.release i).1.current.code = m.current.code ∧
      (m.release i).1.current.base = m.current.base ∧
      (m.release i).1.past.length = m.past.length := by
  unfold release region? setRegion
  by_cases hi : i = m.past.length
  · simp [hi]
  · simp only [if_neg hi]
    split <;> simp

theorem unlock_current (m : Memory) (guard : Nat) :
    (m.unlock guard).1.current.code = m.current.code ∧
      (m.unlock guard).1.current.base = m.current.base ∧
      (m.unlock guard).1.past.length = m.past.length := by
  unfold unlock
  split
  · exact release_current _ _
  · exact ⟨rfl, rfl, rfl⟩

theorem move_current (m : Memory) (base : UInt64) (minimum : Nat) (code : Bytes) :
    (m.move base minimum code).1.current.code = code ∧
      (m.move base minimum code).1.current.base = base ∧
      (m.move base minimum code).1.past.length = m.past.length + 1 := by
  obtain ⟨hc, hb, hp⟩ := release_current { m with
    past := m.past ++ [m.current]
    current := ⟨base, nextCapacity m.current.capacity minimum code.length, code, 1⟩ } m.past.length
  exact ⟨hc, hb, hp.trans (by simp)⟩

end Memory

namespace Assembler

variable {a b : Assembler}

theorem commit_eq_ok {next : UInt64} (h : a.commit next = .ok b) :
    ∃ refs moved, Commits a next b refs moved := by
  have hc := whenOpen_eq_ok h
  split at hc
  · rename_i hnone
    simp only [Bool.and_eq_true, List.isEmpty_iff] at hnone
    obtain ⟨⟨hs, hp⟩, hw⟩ := hnone
    obtain rfl := Except.ok.inj hc
    refine ⟨[], [], hw, by simp, by simp [hp], rfl, hs, hp, by simp, Or.inl ⟨rfl, rfl, rfl⟩,
      [], ⟨by simp, by simp⟩, ?_⟩
    simp [image, hs, Patch.applyAll]
  · obtain ⟨refs, hrefs, hc⟩ := bind_eq_ok (mapError_eq_ok hc)
    obtain ⟨hwait, hmade, hcomplete⟩ := resolved_eq_ok hrefs
    simp only at hc
    split at hc
    · obtain ⟨code, hcode, hb⟩ := bind_eq_ok hc
      obtain rfl := Except.ok.inj hb
      exact ⟨refs, [], hwait, hmade, hcomplete, rfl, rfl, rfl, rfl, Or.inl ⟨rfl, rfl, rfl⟩,
        patched_eq_ok hcode⟩
    · obtain ⟨code, hcode, hb⟩ := bind_eq_ok hc
      obtain rfl := Except.ok.inj hb
      obtain ⟨hmc, hmb, hmp⟩ := a.memory.move_current next a.minCapacity code
      obtain ⟨ps, hps, hcode⟩ := patched_eq_ok hcode
      refine ⟨refs, _, hwait, hmade, hcomplete, rfl, rfl, rfl, rfl, Or.inr ⟨hmp, hmb, rfl⟩,
        ps, ?_, hmc.trans hcode⟩
      change Patch.For a.image 0 (a.memory.move next a.minCapacity code).1.current.base _ ps
      rw [hmb]
      exact hps

structure Alike (a b : Assembler) : Prop where
  labels : b.labels = a.labels
  scratch : b.scratch = a.scratch
  pending : b.pending = a.pending
  managed : b.managed = a.managed
  code : b.memory.current.code = a.memory.current.code
  base : b.base = a.base
  region : b.region = a.region

theorem close_alike (a : Assembler) : Alike a a.close := by
  unfold close
  split
  · obtain ⟨hc, hb, hp⟩ := a.memory.release_current a.memory.past.length
    exact ⟨rfl, rfl, rfl, rfl, hc, hb, hp⟩
  · exact ⟨rfl, rfl, rfl, rfl, rfl, rfl, rfl⟩

theorem closeBuffer_alike (a : Assembler) : Alike a a.closeBuffer := by
  unfold closeBuffer
  split
  · obtain ⟨hc, hb, hp⟩ := a.memory.release_current a.memory.past.length
    exact ⟨rfl, rfl, rfl, rfl, hc, hb, hp⟩
  · exact ⟨rfl, rfl, rfl, rfl, rfl, rfl, rfl⟩

theorem lock_alike {guard : Nat} (h : a.lock = .ok (guard, b)) : Alike a b := by
  unfold lock Memory.lock at h
  split at h
  · rename_i hm
    split at hm
    · cases hm
    · obtain ⟨-, rfl⟩ := Prod.mk.inj (Except.ok.inj hm)
      obtain ⟨-, rfl⟩ := Prod.mk.inj (Except.ok.inj h)
      exact ⟨rfl, rfl, rfl, rfl, rfl, rfl, rfl⟩
  · cases h

theorem unlock_alike (a : Assembler) (guard : Nat) : Alike a (a.unlock guard) := by
  obtain ⟨hc, hb, hp⟩ := a.memory.unlock_current guard
  exact ⟨rfl, rfl, rfl, rfl, hc, hb, hp⟩

theorem finalize_eq_ok {next : UInt64} (h : a.finalize next = .ok b) :
    ∃ c, a.commit next = .ok c ∧ Alike c b := by
  obtain ⟨c, hc, hb⟩ := bind_eq_ok h
  obtain rfl := Except.ok.inj hb
  exact ⟨c, hc, rfl, rfl, rfl, rfl, rfl, rfl, rfl⟩

end Assembler

end MachineCode
