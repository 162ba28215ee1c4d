import MachineCode.Proofs.Lifetimes

/-!
Who holds regions, and how long. A ledger knows nothing of the counts that regions keep: it is
written from the operations that succeeded. A lock hands out a guard on the region that is current
then, an unlock takes the guard back, and the current region has an owner until that is closed. In
every state that can be reached the count of a region is the number of its holders by the ledger,
and memory has been given back, once, exactly if there are none left.
-/
namespace MachineCode

/-- A guard that a lock handed out, with the region that was current then. -/
structure Handout where
  guard : Nat
  region : Nat
  deriving DecidableEq, Repr

inductive Owner where
  | assembler | buffer | nobody
  deriving DecidableEq, Repr

structure Ledger where
  /-- All guards that were ever handed out. -/
  handed : List Handout := []
  /-- Those that were unlocked, once for each time. -/
  unlocked : List Nat := []
  /-- The owner of the current region. -/
  owner : Owner := .assembler
  deriving DecidableEq, Repr

namespace Ledger

def Outstanding (l : Ledger) (h : Handout) : Prop := h ∈ l.handed ∧ h.guard ∉ l.unlocked

instance (l : Ledger) (h : Handout) : Decidable (l.Outstanding h) :=
  inferInstanceAs (Decidable (_ ∧ _))

def guardsOn (l : Ledger) (region : Nat) : Nat :=
  l.handed.countP fun h => !l.unlocked.contains h.guard && h.region == region

/-- The number of holders of a region: its guards and, for the current one, the owner. -/
def holders (l : Ledger) (current region : Nat) : Nat :=
  l.guardsOn region + if region = current ∧ l.owner ≠ .nobody then 1 else 0

/-- The ledger after an operation that succeeds. -/
def after (l : Ledger) (a : Assembler) : Operation → Ledger
  | .lock =>
    match a.lock with
    | .ok (guard, _) => { l with handed := l.handed ++ [⟨guard, a.region⟩] }
    | .error _ => l
  | .unlock guard =>
    if guard ∈ l.handed.map (·.guard) then { l with unlocked := l.unlocked ++ [guard] } else l
  | .finalize _ => { l with owner := .buffer }
  | .close => if l.owner = .assembler then { l with owner := .nobody } else l
  | .closeBuffer => if l.owner = .buffer then { l with owner := .nobody } else l
  | _ => l

theorem mem_handed_after {l : Ledger} {a : Assembler} {op : Operation} {h : Handout}
    (hh : h ∈ l.handed) : h ∈ (l.after a op).handed := by
  unfold after
  split
  · split
    · exact List.mem_append_left _ hh
    · exact hh
  · split <;> exact hh
  · exact hh
  · split <;> exact hh
  · split <;> exact hh
  · exact hh

end Ledger

structure Shared where
  assembler : Assembler
  ledger : Ledger := {}

namespace Shared

/-- An operation waits until no guard is outstanding on a region that it writes to. -/
def Enabled (s : Shared) (op : Operation) : Prop :=
  ∀ c ∈ op.writesIn s.assembler, s.ledger.guardsOn c.region = 0

instance (s : Shared) (op : Operation) : Decidable (s.Enabled op) :=
  inferInstanceAs (Decidable (∀ c ∈ _, _))

inductive Step (s : Shared) (op : Operation) : Shared → Prop where
  | done {b : Assembler} : s.Enabled op → s.assembler.perform op = .ok b →
      Step s op ⟨b, s.ledger.after s.assembler op⟩
  | refused {f : Failure} : s.assembler.perform op = .error f → Step s op s

inductive Execution : Shared → Shared → Prop where
  | refl (s : Shared) : Execution s s
  | step {s t u : Shared} {op : Operation} : Step s op t → Execution t u → Execution s u

theorem Execution.trans {s t u : Shared} (h : Execution s t) (h' : Execution t u) :
    Execution s u := by
  induction h with
  | refl _ => exact h'
  | step hs _ ih => exact .step hs (ih h')

end Shared

/-! ### The ledger and the memory -/

def Owner.ofStage : Stage → Owner
  | .building => assembler
  | .finalized => buffer
  | .closed | .disposed => nobody

structure Records (l : Ledger) (a : Assembler) : Prop where
  numbered : l.handed.map (·.guard) = List.range l.handed.length
  guards : a.memory.guards = l.handed.map fun h => ⟨h.region, !l.unlocked.contains h.guard⟩
  owner : l.owner = Owner.ofStage a.stage
  unlocked : ∀ guard ∈ l.unlocked, guard ∈ l.handed.map (·.guard)

namespace Records

variable {l : Ledger} {a b : Assembler}

theorem length_guards (h : Records l a) : a.memory.guards.length = l.handed.length := by
  rw [h.guards, List.length_map]

theorem outstanding (h : Records l a) (i : Nat) : a.memory.outstanding i = l.guardsOn i := by
  unfold Memory.outstanding Ledger.guardsOn
  rw [h.guards, List.countP_map]
  rfl

theorem owned_iff (h : Records l a) : l.owner ≠ .nobody ↔ a.owned = true := by
  rw [h.owner]
  unfold Assembler.owned Assembler.isOpen Assembler.hasBuffer
  cases a.stage <;> decide

theorem owner_eq_assembler_iff (h : Records l a) : l.owner = .assembler ↔ a.isOpen = true := by
  rw [h.owner]
  unfold Assembler.isOpen
  cases a.stage <;> decide

theorem owner_eq_buffer_iff (h : Records l a) : l.owner = .buffer ↔ a.hasBuffer = true := by
  rw [h.owner]
  unfold Assembler.hasBuffer
  cases a.stage <;> decide

theorem holders (h : Records l a) (i : Nat) :
    l.holders a.region i =
      a.memory.outstanding i + if i = a.memory.past.length ∧ a.owned = true then 1 else 0 := by
  rw [Ledger.holders, ← h.outstanding]
  simp only [h.owned_iff]
  rfl

theorem guard_eq (h : Records l a) {j : Nat} {x : Handout} (hx : l.handed[j]? = some x) :
    x.guard = j := by
  obtain ⟨hlt, -⟩ := List.getElem?_eq_some_iff.mp hx
  have hat : (l.handed.map (·.guard))[j]? = some x.guard := by rw [List.getElem?_map, hx]; rfl
  rw [h.numbered, List.getElem?_range hlt] at hat
  exact (Option.some.inj hat).symm

theorem mem_handed_iff (h : Records l a) {guard : Nat} :
    guard ∈ l.handed.map (·.guard) ↔ guard < l.handed.length := by
  rw [h.numbered, List.mem_range]

theorem getElem?_guards (h : Records l a) {x : Handout} (hx : x ∈ l.handed) :
    a.memory.guards[x.guard]? = some ⟨x.region, !l.unlocked.contains x.guard⟩ := by
  obtain ⟨j, hj⟩ := List.mem_iff_getElem?.mp hx
  obtain rfl := h.guard_eq hj
  rw [h.guards, List.getElem?_map, hj]
  rfl

/-- Operations that leave guards and owner alone need no entry. -/
theorem keep (h : Records l a) (hguards : b.memory.guards = a.memory.guards)
    (hstage : b.stage = a.stage) : Records l b where
  numbered := h.numbered
  guards := hguards.trans h.guards
  owner := by rw [hstage, h.owner]
  unlocked := h.unlocked

end Records

theorem Memory.guards_move (m : Memory) (base : UInt64) (minimum : Nat) (code : Bytes) :
    (m.move base minimum code).1.guards = m.guards := by
  obtain ⟨capacity, hmove⟩ := m.move_eq base minimum code
  rw [hmove, guards_release]
  rfl

theorem Memory.guards_unlock (m : Memory) (guard : Nat) :
    (m.unlock guard).1.guards = m.guards.modify guard fun g => { g with locked := false } := by
  unfold unlock
  split
  · rename_i i hg
    rw [guards_release]
    refine (List.modify_eq_set_getElem? _ _ _).trans ?_ |>.symm
    rw [hg]
    rfl
  · rename_i hg
    refine (List.modify_eq_set_getElem? _ _ _).trans ?_ |>.symm
    cases hat : m.guards[guard]? with
    | none => rfl
    | some g =>
      obtain ⟨i, locked⟩ := g
      cases locked with
      | true => exact absurd hat (hg i)
      | false =>
        obtain ⟨hlt, hget⟩ := List.getElem?_eq_some_iff.mp hat
        exact (congrArg (m.guards.set guard) hget.symm).trans (List.set_getElem_self hlt)

namespace Assembler

variable {a b c : Assembler}

theorem commit_guards {next : UInt64} (h : a.commit next = .ok b) :
    b.memory.guards = a.memory.guards ∧ b.stage = a.stage := by
  have hc := whenOpen_eq_ok h
  split at hc
  · obtain rfl := Except.ok.inj hc
    exact ⟨rfl, rfl⟩
  · obtain ⟨refs, -, hc⟩ := bind_eq_ok (mapError_eq_ok hc)
    simp only at hc
    split at hc
    · obtain ⟨code, -, hb⟩ := bind_eq_ok hc
      obtain rfl := Except.ok.inj hb
      exact ⟨rfl, rfl⟩
    · obtain ⟨code, -, hb⟩ := bind_eq_ok hc
      obtain rfl := Except.ok.inj hb
      exact ⟨a.memory.guards_move next a.minCapacity code, rfl⟩

theorem writesIn_guards {op : Operation} (hc : c ∈ op.writesIn a) :
    c.memory.guards = a.memory.guards := by
  have hself : ∀ {p : Bool}, c ∈ (if p then [a] else []) → c.memory.guards = a.memory.guards := by
    intro p hc
    cases p with
    | true => rw [List.mem_singleton.mp hc]
    | false => cases hc
  cases op with
  | commit next => exact hself hc
  | finalize next => exact hself hc
  | alter next script =>
    rcases List.mem_append.mp hc with hc | hc
    · exact hself hc
    · cases hb : a.commit next with
      | error f =>
        rw [hb] at hc
        cases hc
      | ok b =>
        rw [hb] at hc
        rw [List.mem_singleton.mp hc]
        exact (commit_guards hb).1
  | _ => cases hc

/-- What a lock of a region that is held does. -/
theorem lock_eq_ok_iff {guard : Nat} : a.lock = .ok (guard, b) ↔
    a.memory.current.holders ≠ 0 ∧ guard = a.memory.guards.length ∧
      b = { a with memory := { a.memory with
        current := { a.memory.current with holders := a.memory.current.holders + 1 }
        guards := a.memory.guards ++ [⟨a.region, true⟩] } } := by
  unfold lock Memory.lock
  by_cases hzero : a.memory.current.holders = 0
  · simp [hzero]
  · simp [hzero, region, eq_comm]

theorem lock_eq_released_iff :
    a.lock = .error (.one .released) ↔ a.memory.current.holders = 0 := by
  unfold lock Memory.lock
  by_cases hzero : a.memory.current.holders = 0
  · simp [hzero]
  · simp [hzero]

end Assembler

namespace Records

open Assembler

variable {l : Ledger} {a b : Assembler}

theorem lock (h : Records l a) {guard : Nat} (hb : a.lock = .ok (guard, b)) :
    Records (l.after a .lock) b := by
  obtain ⟨-, hguard, rfl⟩ := Assembler.lock_eq_ok_iff.mp hb
  have hafter : l.after a .lock = { l with handed := l.handed ++ [⟨guard, a.region⟩] } := by
    rw [Ledger.after, hb]
  rw [h.length_guards] at hguard
  rw [hafter]
  constructor
  · simp [h.numbered, hguard, List.range_succ]
  · -- The number is new, so it is not among the unlocked ones.
    have hnew : guard ∉ l.unlocked := by
      intro hmem
      have hlt := h.mem_handed_iff.mp (h.unlocked guard hmem)
      omega
    simp [h.guards, hnew]
  · exact h.owner
  · intro g hg
    rw [List.map_append]
    exact List.mem_append_left _ (h.unlocked g hg)

theorem unlock (h : Records l a) (guard : Nat) :
    Records (l.after a (.unlock guard)) (a.unlock guard) := by
  have hguards := a.memory.guards_unlock guard
  by_cases hmem : guard ∈ l.handed.map (·.guard)
  · have hafter : l.after a (.unlock guard) = { l with unlocked := l.unlocked ++ [guard] } :=
      if_pos hmem
    rw [hafter]
    constructor
    · exact h.numbered
    · refine hguards.trans (List.ext_getElem? ?_)
      intro j
      rw [List.getElem?_modify, h.guards, List.getElem?_map, List.getElem?_map]
      cases hx : l.handed[j]? with
      | none => rfl
      | some x =>
        obtain rfl := h.guard_eq hx
        by_cases hguard : guard = x.guard
        · simp [hguard]
        · simp [hguard, Ne.symm hguard]
    · exact h.owner
    · intro g hg
      rcases List.mem_append.mp hg with hg | hg
      · exact h.unlocked g hg
      · exact List.mem_singleton.mp hg ▸ hmem
  · have hafter : l.after a (.unlock guard) = l := if_neg hmem
    rw [hafter]
    rw [h.mem_handed_iff, ← h.length_guards] at hmem
    exact h.keep (hguards.trans (List.modify_eq_self (Nat.le_of_not_lt hmem))) rfl

/-- The owner of the current region changes hands. -/
theorem own (h : Records l a) {owner : Owner} (hguards : b.memory.guards = a.memory.guards)
    (howner : owner = Owner.ofStage b.stage) : Records { l with owner } b where
  numbered := h.numbered
  guards := hguards.trans h.guards
  owner := howner
  unlocked := h.unlocked

theorem close (h : Records l a) : Records (l.after a .close) a.close := by
  by_cases hopen : a.isOpen = true
  · have hafter : l.after a .close = { l with owner := .nobody } :=
      if_pos (h.owner_eq_assembler_iff.mpr hopen)
    rw [hafter, Assembler.close, if_pos hopen]
    exact h.own (a.memory.guards_release _) rfl
  · have hafter : l.after a .close = l := if_neg (mt h.owner_eq_assembler_iff.mp hopen)
    rw [hafter, Assembler.close, if_neg hopen]
    exact h

theorem closeBuffer (h : Records l a) : Records (l.after a .closeBuffer) a.closeBuffer := by
  by_cases hbuffer : a.hasBuffer = true
  · have hafter : l.after a .closeBuffer = { l with owner := .nobody } :=
      if_pos (h.owner_eq_buffer_iff.mpr hbuffer)
    rw [hafter, Assembler.closeBuffer, if_pos hbuffer]
    exact h.own (a.memory.guards_release _) rfl
  · have hafter : l.after a .closeBuffer = l := if_neg (mt h.owner_eq_buffer_iff.mp hbuffer)
    rw [hafter, Assembler.closeBuffer, if_neg hbuffer]
    exact h

/-- Each operation that succeeds leaves the entry that it should. -/
theorem perform {op : Operation} (h : Records l a) (hb : a.perform op = .ok b) :
    Records (l.after a op) b := by
  cases op with
  | extend data =>
    obtain rfl := extend_eq_ok hb
    exact h.keep rfl rfl
  | align n fill =>
    obtain rfl := align_eq_ok hb
    exact h.keep rfl rfl
  | newDynamic =>
    obtain rfl := Except.ok.inj hb
    exact h.keep rfl rfl
  | globalLabel name =>
    obtain ⟨-, rfl⟩ := globalLabel_eq_ok hb
    exact h.keep rfl rfl
  | dynamicLabel id =>
    obtain ⟨-, rfl⟩ := dynamicLabel_eq_ok hb
    exact h.keep rfl rfl
  | localLabel name =>
    obtain ⟨ps, -, rfl⟩ := localLabel_eq_ok hb
    exact h.keep rfl rfl
  | append c =>
    obtain ⟨-, ps, -, rfl⟩ := append_eq_ok hb rfl
    exact h.keep rfl rfl
  | relocate u =>
    obtain ⟨-, ps, -, rfl⟩ := append_eq_ok hb rfl
    exact h.keep rfl rfl
  | emit instruction =>
    have hi := whenOpen_eq_ok hb
    cases instruction with
    | error e => cases hi
    | ok c =>
      obtain ⟨-, ps, -, rfl⟩ := append_eq_ok hi rfl
      exact h.keep rfl rfl
  | alterUncommitted script =>
    obtain ⟨m, writes, -, -, rfl⟩ := alterUncommitted_eq_ok hb
    exact h.keep rfl rfl
  | commit next =>
    obtain ⟨hguards, hstage⟩ := commit_guards hb
    exact h.keep hguards hstage
  | finalize next =>
    obtain ⟨c, hc, hb⟩ := bind_eq_ok hb
    obtain rfl := Except.ok.inj hb
    exact h.own (commit_guards hc).1 rfl
  | alter next script =>
    obtain ⟨c, m, writes, hc, -, -, rfl⟩ := alter_eq_ok hb
    obtain ⟨hguards, hstage⟩ := commit_guards hc
    exact h.keep hguards hstage
  | close =>
    obtain rfl := Except.ok.inj hb
    exact h.close
  | closeBuffer =>
    obtain rfl := Except.ok.inj hb
    exact h.closeBuffer
  | lock =>
    obtain ⟨⟨guard, c⟩, hc, rfl⟩ := map_eq_ok hb
    exact h.lock hc
  | unlock guard =>
    obtain rfl := Except.ok.inj hb
    exact h.unlock guard

end Records

/-! ### Executions -/

/-- What a guard sees between two states: the region that was current when it was handed out, held
and with the code and the base address that it had. -/
def Handout.Sees (h : Handout) (s t : Shared) : Prop :=
  ∃ r r', s.assembler.memory.region? h.region = some r ∧
    t.assembler.memory.guarded? h.guard = some r' ∧
    t.assembler.memory.region? h.region = some r' ∧
    r'.code = r.code ∧ r'.base = r.base ∧ r'.holders ≠ 0

/-- What a lock does: it hands out a new guard on the current region, whose count goes up by one. All
else stays as it is, and the guard keeps seeing what is there until it is unlocked. -/
structure Locks (s : Shared) (guard : Nat) (b : Assembler) : Prop where
  fresh : ∀ h ∈ s.ledger.handed, h.guard ≠ guard
  locked : b.memory.guards[guard]? = some ⟨s.assembler.region, true⟩
  current : b.memory.current = { s.assembler.memory.current with
    holders := s.assembler.memory.current.holders + 1 }
  past : b.memory.past = s.assembler.memory.past
  guards : ∀ g, g ≠ guard → b.memory.guards[g]? = s.assembler.memory.guards[g]?
  others : b = { s.assembler with memory := b.memory }
  kept : ∀ t, Shared.Execution ⟨b, s.ledger.after s.assembler .lock⟩ t →
    guard ∉ t.ledger.unlocked → Handout.Sees ⟨guard, s.assembler.region⟩ s t

structure Accountable (s : Shared) : Prop where
  /-- The count of a region is the number of its holders. -/
  counted : ∀ i r, s.assembler.memory.region? i = some r →
    r.holders = s.ledger.holders s.assembler.region i
  /-- Regions are given back one by one, none of them twice, and exactly those that have memory and
  no holder. -/
  unmapped : ∃ freed : List Nat, freed.Nodup ∧
    s.assembler.unmapped = s.assembler.memory.bases freed ∧
    ∀ i, i ∈ freed ↔ ∃ r, s.assembler.memory.region? i = some r ∧ r.hasMemory = true ∧
      s.ledger.holders s.assembler.region i = 0
  released : s.assembler.lock = .error (.one .released) ↔
    s.assembler.memory.current.holders = 0
  lockable : s.assembler.memory.current.holders ≠ 0 →
    ∃ guard b, s.assembler.lock = .ok (guard, b) ∧ Locks s guard b
  snapshots : ∀ t, s.Execution t → ∀ h ∈ s.ledger.handed, h.guard ∉ t.ledger.unlocked →
    h.Sees s t

namespace Shared

variable {s t : Shared}

/-- The invariant of all executions: regions are held by guards and owner, those without holders have
been given back, and the ledger records all that. -/
structure Settled (s : Shared) : Prop where
  custody : ∃ freed, s.assembler.Custody freed
  records : Records s.ledger s.assembler

theorem Settled.held (h : s.Settled) : s.assembler.memory.Held s.assembler.owned := by
  obtain ⟨freed, hcustody⟩ := h.custody
  exact hcustody.held

theorem Settled.holders_eq (h : s.Settled) {i : Nat} {r : Region}
    (hr : s.assembler.memory.region? i = some r) :
    r.holders = s.ledger.holders s.assembler.region i :=
  (h.held.counted i r hr).trans (h.records.holders i).symm

theorem settled_start (capacity : Nat) : Settled { assembler := { minCapacity := capacity } } where
  custody := ⟨[], Assembler.custody_start capacity⟩
  records := ⟨rfl, rfl, rfl, by simp⟩

theorem Step.turns {op : Operation} (h : s.Settled) (hs : s.Step op t) :
    s.assembler.Turns t.assembler ∧ Records t.ledger t.assembler := by
  cases hs with
  | done hen hb =>
    have hunread : ∀ c ∈ op.writesIn s.assembler, c.Unread := by
      intro c hc
      rw [Assembler.Unread, Memory.outstanding, Assembler.writesIn_guards hc]
      exact (h.records.outstanding _).trans (hen c hc)
    exact ⟨Assembler.perform_turns h.held hunread hb, h.records.perform hb⟩
  | refused hb => exact ⟨⟨[], h.held.stays, by simp⟩, h.records⟩

theorem Step.settled {op : Operation} (h : s.Settled) (hs : s.Step op t) : t.Settled := by
  obtain ⟨hturns, hrecords⟩ := hs.turns h
  obtain ⟨freed, hcustody⟩ := h.custody
  exact ⟨⟨_, hcustody.turns hturns⟩, hrecords⟩

namespace Execution

theorem settled (h : Execution s t) (hs : s.Settled) : t.Settled := by
  induction h with
  | refl _ => exact hs
  | step hstep _ ih => exact ih (hstep.settled hs)

theorem sees (h : Execution s t) (hs : s.Settled) :
    s.assembler.memory.Sees t.assembler.memory := by
  induction h with
  | refl _ => exact hs.held.sees
  | step hstep _ ih =>
    obtain ⟨⟨events, hturns, -⟩, -⟩ := hstep.turns hs
    exact (hturns.sees hs.held).trans (ih (hstep.settled hs))

theorem handed (h : Execution s t) {x : Handout} (hx : x ∈ s.ledger.handed) :
    x ∈ t.ledger.handed := by
  induction h with
  | refl _ => exact hx
  | step hstep _ ih =>
    cases hstep with
    | done _ _ => exact ih (Ledger.mem_handed_after hx)
    | refused _ => exact ih hx

/-- Up to its unlock a guard sees one region, and holds it. -/
theorem snapshot (h : Execution s t) (hs : s.Settled) {x : Handout} (hx : x ∈ s.ledger.handed)
    (hlocked : x.guard ∉ t.ledger.unlocked) : x.Sees s t := by
  have ht := h.settled hs
  have hat := hs.records.getElem?_guards hx
  have hat' := ht.records.getElem?_guards (h.handed hx)
  have hyes : (!t.ledger.unlocked.contains x.guard) = true := by simpa using hlocked
  rw [hyes] at hat'
  obtain ⟨locked, hlater, hsame⟩ := h.sees hs _ _ _ hat
  obtain ⟨-, rfl⟩ := Guard.mk.inj (Option.some.inj (hat'.symm.trans hlater))
  obtain ⟨-, r, r', hr, hr', hcode, hbase⟩ := hsame rfl
  have hregion' := (Memory.guarded?_eq hat').symm.trans hr'
  refine ⟨r, r', (Memory.guarded?_eq hat).symm.trans hr, hr', hregion', hcode, hbase, ?_⟩
  have hcount := ht.held.counted _ _ hregion'
  have hone := Memory.outstanding_ne_zero hat'
  omega

end Execution

theorem lock_step {guard : Nat} {b : Assembler} (hb : s.assembler.lock = .ok (guard, b)) :
    s.Step .lock ⟨b, s.ledger.after s.assembler .lock⟩ := by
  refine .done ?_ ?_
  · intro c hc
    cases hc
  · change s.assembler.lock.map (·.2) = .ok b
    rw [hb]
    rfl

theorem Settled.kept (h : s.Settled) {guard : Nat} {b : Assembler}
    (hb : s.assembler.lock = .ok (guard, b))
    (ht : Execution ⟨b, s.ledger.after s.assembler .lock⟩ t)
    (hguard : guard ∉ t.ledger.unlocked) : Handout.Sees ⟨guard, s.assembler.region⟩ s t := by
  have hafter : s.ledger.after s.assembler .lock =
      { s.ledger with handed := s.ledger.handed ++ [⟨guard, s.assembler.region⟩] } := by
    rw [Ledger.after, hb]
  have hmem : (⟨guard, s.assembler.region⟩ : Handout) ∈
      (s.ledger.after s.assembler .lock).handed := by
    rw [hafter]
    exact List.mem_append_right _ (List.mem_singleton_self _)
  obtain ⟨r, r', hr, hrest⟩ := ht.snapshot ((lock_step hb).settled h) hmem hguard
  obtain ⟨-, -, rfl⟩ := Assembler.lock_eq_ok_iff.mp hb
  obtain rfl := Option.some.inj ((Memory.region?_current _).symm.trans hr)
  exact ⟨s.assembler.memory.current, r', Memory.region?_current _, hrest⟩

/-- A lock succeeds if the current region has a holder. -/
theorem Settled.locks (h : s.Settled) (hheld : s.assembler.memory.current.holders ≠ 0) :
    ∃ guard b, s.assembler.lock = .ok (guard, b) ∧ Locks s guard b := by
  have hlock := Assembler.lock_eq_ok_iff.mpr ⟨hheld, rfl, rfl⟩
  refine ⟨_, _, hlock, ?_⟩
  constructor
  · intro x hx
    have hlt := h.records.mem_handed_iff.mp (List.mem_map_of_mem hx)
    rw [h.records.length_guards]
    exact Nat.ne_of_lt hlt
  · simp
  · rfl
  · rfl
  · intro g hg
    rcases Nat.lt_or_gt_of_ne hg with hlt | hgt
    · exact List.getElem?_append_left hlt
    · rw [List.getElem?_eq_none (Nat.le_of_lt hgt), List.getElem?_eq_none (by simp; omega)]
  · rfl
  · intro t ht hguard
    exact h.kept hlock ht hguard

theorem Settled.unmapped (h : s.Settled) : ∃ freed : List Nat, freed.Nodup ∧
    s.assembler.unmapped = s.assembler.memory.bases freed ∧
    ∀ i, i ∈ freed ↔ ∃ r, s.assembler.memory.region? i = some r ∧ r.hasMemory = true ∧
      s.ledger.holders s.assembler.region i = 0 := by
  obtain ⟨freed, hcustody⟩ := h.custody
  refine ⟨freed, hcustody.once, hcustody.logged, ?_⟩
  intro i
  rw [hcustody.freed_iff]
  refine exists_congr fun r => and_congr_right fun hr => and_congr_right fun _ => ?_
  rw [hcustody.held.free_iff hr, h.holders_eq hr]

/-! ### Runs -/

def step (s : Shared) (op : Operation) : Shared :=
  match s.assembler.perform op with
  | .ok b => ⟨b, s.ledger.after s.assembler op⟩
  | .error _ => s

def run (s : Shared) (ops : List Operation) : Shared := ops.foldl step s

def Unblocked (s : Shared) : List Operation → Prop
  | [] => True
  | op :: rest => s.Enabled op ∧ (s.step op).Unblocked rest

instance decidableUnblocked : (ops : List Operation) → (s : Shared) → Decidable (s.Unblocked ops)
  | [], _ => .isTrue trivial
  | op :: rest, s =>
    have := decidableUnblocked rest (s.step op)
    inferInstanceAs (Decidable (_ ∧ _))

theorem execution_run {ops : List Operation} (h : s.Unblocked ops) : s.Execution (s.run ops) := by
  induction ops generalizing s with
  | nil => exact .refl s
  | cons op rest ih =>
    obtain ⟨hen, hrest⟩ := h
    have hstep : s.Step op (s.step op) := by
      unfold step
      cases hb : s.assembler.perform op with
      | ok b => exact .done hen hb
      | error f => exact .refused hb
    exact .step hstep (ih hrest)

end Shared

/-- In every state that operations lead to, the count of a region is the number of its holders by
the ledger, a region without holders has been given back once, and a lock succeeds as long as
there is a holder and gives a guard that keeps its region until it is unlocked. -/
theorem regions_live_while_held {capacity : Nat} {s : Shared}
    (h : Shared.Execution { assembler := { minCapacity := capacity } } s) : Accountable s := by
  have hs : s.Settled := h.settled (Shared.settled_start capacity)
  constructor
  · intro i r hr
    exact hs.holders_eq hr
  · exact hs.unmapped
  · exact Assembler.lock_eq_released_iff
  · exact hs.locks
  · intro t ht x hx hlocked
    exact ht.snapshot hs hx hlocked

def holdingOps : List Operation :=
  [.extend [1], .commit 0x1000, .lock, .extend (List.replicate 4096 0), .commit 0x9000, .lock,
    .lock, .unlock 1, .unlock 1, .finalize 0, .closeBuffer, .closeBuffer]

def leavingOps : List Operation := [.lock, .unlock 0, .unlock 3, .unlock 2, .lock]

theorem regions_live_while_held_closing :
    ∃ s t, Shared.Execution { assembler := { minCapacity := 4096 } } s ∧
      s.ledger = ⟨[⟨0, 1⟩, ⟨1, 2⟩, ⟨2, 2⟩], [1, 1], .nobody⟩ ∧
      s.assembler.memory.past.map (·.holders) = [0, 1] ∧
      s.assembler.memory.current.holders = 1 ∧ s.assembler.unmapped = [] ∧ Accountable s ∧
      Shared.Execution s t ∧
      t.ledger = ⟨[⟨0, 1⟩, ⟨1, 2⟩, ⟨2, 2⟩, ⟨3, 2⟩], [1, 1, 0, 3, 2], .nobody⟩ ∧
      t.assembler.memory.current.holders = 0 ∧ t.assembler.unmapped = [0x1000, 0x9000] ∧
      Accountable t := by
  let start : Shared := { assembler := { minCapacity := 4096 } }
  have hwaits : start.Unblocked holdingOps ∧ (start.run holdingOps).Unblocked leavingOps := by
    decide +kernel
  have hs := Shared.execution_run hwaits.1
  have ht := Shared.execution_run hwaits.2
  refine ⟨start.run holdingOps, (start.run holdingOps).run leavingOps, hs, ?_, ?_, ?_, ?_,
    regions_live_while_held hs, ht, ?_, ?_, ?_, regions_live_while_held (hs.trans ht)⟩
  all_goals decide +kernel

end MachineCode
