import MachineCode.Proofs.Tracking

/-!
Every operation keeps track: what its success does to the lists of an assembler is what it does
to the history.
-/
namespace MachineCode

structure Calm (new : History) : Prop where
  committed : .committed ∉ new
  altered : ∀ writes, .altered writes ∉ new
  locals : ∀ name, new.bindings (.local name) = []

theorem calm_appended (data : Bytes) (refs : List Reference) :
    Calm (.appended data :: refs.map .recorded) :=
  ⟨by simp, by simp, fun _ => History.bindings_appended data refs _⟩

theorem Held.append {a b : Assembler} {before after new : History} {r : Reference}
    (hh : Held a before r after) (hc : .committed ∉ new) (ha : ∀ writes, .altered writes ∉ new)
    (hcom : b.committed = a.committed) (hoff : a.offset ≤ b.offset) :
    Held b before r (after ++ new) := by
  refine ⟨hh.unbound, hh.valid, hh.backward, Nat.le_trans hh.inside hoff, ?_, ?_⟩
  · intro hnot
    obtain ⟨hlow, hold⟩ := hh.uncommitted fun h => hnot (List.mem_append_left _ h)
    refine ⟨hcom ▸ hlow, ?_⟩
    intro writes hw
    exact (List.mem_append.mp hw).elim (hold writes) (ha writes)
  · intro hin
    obtain ⟨hf, hend, hsize⟩ := hh.committed ((List.mem_append.mp hin).resolve_right hc)
    exact ⟨hf.append new, hcom ▸ hend, hsize⟩

theorem Assembler.length_image (a : Assembler) : a.image.length = a.offset :=
  List.length_append

namespace Tracks

variable {h new : History} {a b : Assembler} {q : Reference}

theorem start (capacity : Nat) : Tracks [] { minCapacity := capacity } where
  length := rfl
  binds := Binds.start
  held hr := by simp [History.Records] at hr
  planted hw := by cases hw
  waiting q := by simp [Waiting, History.Records]
  pending q := by simp [Pending, History.Records]
  managed q := by
    refine ⟨nofun, ?_⟩
    rintro ⟨-, rest, later, hs, -⟩
    cases hs with
    | recorded hr => simp [History.Records] at hr
    | altered he => simp at he

/-- An operation that commits and alters nothing and binds no local label. What was recorded
before it is as it was; what is new is to be shown. -/
theorem grow (ht : Tracks h a) (hn : Calm new) (hcom : b.committed = a.committed)
    (hoff : b.offset = a.offset + new.code.length) (hbinds : Binds (h ++ new) b.labels)
    (hheld : ∀ {mid r after}, new.Records mid r after → Held b (h ++ mid) r after)
    (hwait : ∀ q, q ∈ b.labels.waiting ↔ q ∈ a.labels.waiting ∨
      ∃ mid after, new.Records mid q after ∧ Waits q after)
    (hpend : ∀ q, q ∈ b.pending ↔ q ∈ a.pending ∨
      ∃ mid r after, new.Records mid r after ∧ Postponed r after ∧
        q = provisional (h ++ mid) r after)
    (hman : b.managed = a.managed) : Tracks (h ++ new) b where
  length := by rw [History.code_append, List.length_append, ht.length, hoff]
  binds := hbinds
  held hr := by
    rcases History.records_append.mp hr with ⟨tail, hold, rfl⟩ | ⟨mid, rfl, hnew⟩
    · exact (ht.held hold).append hn.committed hn.altered hcom (by omega)
    · exact hheld hnew
  planted hw := by
    rw [hcom]
    exact ht.planted ((List.mem_append.mp hw).resolve_right (hn.altered _))
  waiting q := by rw [hwait, ht.waiting, waiting_append hn.committed hn.locals]
  pending q := by rw [hpend, ht.pending, pending_append hn.committed hn.locals]
  managed q := by rw [hman, ht.managed, kept_append ht.orderly hn.committed hn.altered]

theorem grow_quiet (ht : Tracks h a) (hn : Calm new) (hrefs : new.references = [])
    (hcom : b.committed = a.committed) (hoff : b.offset = a.offset + new.code.length)
    (hbinds : Binds (h ++ new) b.labels) (hwait : b.labels.waiting = a.labels.waiting)
    (hpend : b.pending = a.pending) (hman : b.managed = a.managed) : Tracks (h ++ new) b := by
  have none : ∀ {mid r after}, ¬ new.Records mid r after := by
    intro mid r after hr
    exact absurd hr.mem (hrefs ▸ List.not_mem_nil)
  exact ht.grow hn hcom hoff hbinds (fun hr => absurd hr none) (by simp [hwait, none])
    (by simp [hpend, none]) hman

theorem alike (ht : Tracks h a) (hab : Assembler.Alike a b) : Tracks (h ++ []) b := by
  have hcom : b.committed = a.committed := congrArg List.length hab.code
  refine ht.grow_quiet ⟨by simp, by simp, fun _ => rfl⟩ rfl hcom ?_ ?_ ?_ hab.pending hab.managed
  · rw [Assembler.offset, Assembler.offset, hcom, hab.scratch]
    rfl
  · rw [hab.labels]
    exact ht.binds.append fun _ => rfl
  · rw [hab.labels]

/-- A field that depends on the base address lies in the committed code and is not empty. -/
theorem field_stands (ht : Tracks h a) {rest : List Overwrite} {later : History}
    (hs : Stands h q rest later) (hdep : q.baseDependent = true) :
    q.fieldEnd ≤ a.committed ∧ 0 < q.rel.size := by
  cases hs with
  | recorded hr hc he =>
    subst he
    obtain ⟨-, hend, hsize⟩ := (ht.held hr).committed hc
    exact ⟨hend, hsize hdep⟩
  | altered he hq =>
    have hfits := ht.planted (he ▸ List.mem_append_right _ (List.mem_cons_self ..)) _
      (List.mem_append_right _ (List.mem_cons_self ..))
    obtain ⟨-, hend, hsize⟩ := hfits.refs q hq
    exact ⟨Nat.le_trans hend hfits.within, hsize⟩

theorem field_kept (ht : Tracks h a) (hq : Kept h q) :
    q.fieldEnd ≤ a.committed ∧ 0 < q.rel.size := by
  obtain ⟨hdep, rest, later, hs, -⟩ := hq
  exact ht.field_stands hs hdep

theorem field_waiting (ht : Tracks h a) (hq : q ∈ a.labels.waiting) :
    a.committed ≤ q.field ∧ q.fieldEnd ≤ a.offset := by
  obtain ⟨before, after, hr, hw⟩ := (ht.waiting q).mp hq
  have hh := ht.held hr
  exact ⟨(hh.uncommitted hw.1).1, hh.inside⟩

theorem mem_drained (ht : Tracks h a) {name : String} : q ∈ a.drained name ↔
    ∃ r, (Waiting h r ∧ r.target.name = name) ∧ q = { r with bound := some a.offset } := by
  simp only [Assembler.drained, Labels.waitingFor, List.mem_map, List.mem_filter, beq_iff_eq,
    ht.waiting, @eq_comm _ q]

theorem field_drained (ht : Tracks h a) {name : String} (hq : q ∈ a.drained name) :
    a.committed ≤ q.field ∧ q.fieldEnd ≤ a.offset := by
  obtain ⟨r, hr, rfl⟩ := List.mem_map.mp hq
  have hw : a.committed ≤ r.field ∧ r.fieldEnd ≤ a.offset :=
    ht.field_waiting (List.mem_filter.mp hr).1
  exact hw

theorem localLabel_resolves (ht : Tracks h a) {name : String} (hb : a.localLabel name = .ok b) :
    Resolves 0 ((a.drained name).filter (!·.baseDependent)) a.image b.image := by
  obtain ⟨ps, hps, rfl⟩ := Assembler.localLabel_eq_ok hb
  exact Resolves.of_patches hps fun r hr => ht.field_drained (List.mem_filter.mp hr).1

theorem localLabel (ht : Tracks h a) {name : String} (hb : a.localLabel name = .ok b) :
    Tracks (h ++ [Happening.bound (.local name) a.offset]) b := by
  have hoff : b.offset = a.offset := by
    rw [← b.length_image, ← a.length_image]
    exact (ht.localLabel_resolves hb).length
  obtain ⟨ps, hps, rfl⟩ := Assembler.localLabel_eq_ok hb
  refine ⟨?_, ht.binds.bindLocal name a.offset, ?_, ?_, ?_, ?_, ?_⟩
  · rw [hoff, History.code_append]
    simpa [History.code] using ht.length
  · intro before r after hr
    obtain ⟨tail, hold, rfl⟩ := hr.of_append rfl
    exact (ht.held hold).append (by simp) (by simp) rfl (Nat.le_of_eq hoff.symm)
  · intro writes hw
    exact ht.planted (by simpa using hw)
  · intro q
    rw [waiting_bound, ← ht.waiting]
    simp [Labels.bindLocal]
  · intro q
    rw [pending_bound, ← ht.pending, List.mem_append, List.mem_filter, ht.mem_drained, and_comm]
  · intro q
    rw [kept_append ht.orderly (by simp) (by simp)]
    exact ht.managed q

/-- Appended code has its references to local labels resolved at once, unless they depend on the
base address. -/
theorem append_resolves {c : Code} (hb : a.append c = .ok b) {refs : List Reference}
    (hrefs : c.refs.filterMap (Operation.reference? (a.offset + c.code.length)) = refs) :
    Resolves 0 (refs.filterMap (Assembler.eager? a.labels)) (a.image ++ c.code) b.image := by
  obtain ⟨hall, ps, hps, rfl⟩ := Assembler.append_eq_ok hb hrefs
  have himage : a.image ++ c.code = a.memory.current.code ++ (a.scratch ++ c.code) :=
    List.append_assoc ..
  rw [himage]
  refine Resolves.of_patches hps ?_
  intro q hq
  obtain ⟨r, hr, he⟩ := List.mem_filterMap.mp hq
  have hacc := (hall r hr).1
  have hsame : q.field = r.field ∧ q.fieldEnd = r.fieldEnd := by
    unfold Assembler.eager? at he
    split at he
    · split at he
      · cases he
      · obtain rfl := Option.some.inj he
        exact ⟨rfl, rfl⟩
    · cases he
  have hlen : a.offset + c.code.length =
      a.memory.current.code.length + (a.scratch ++ c.code).length := by
    rw [List.length_append, ← Nat.add_assoc]
    rfl
  rw [hsame.1, hsame.2, ← hlen]
  exact ⟨hacc.low, hacc.high⟩

/-- What is put off when it is recorded, from the labels that are bound then. -/
theorem postponed?_eq_some {l : Labels} {r : Reference} {mid after : History} (hb : Binds h l)
    (hmid : ∀ k, mid.bindings k = []) (hafter : ∀ k, after.bindings k = [])
    (hc : .committed ∉ after) :
    Assembler.postponed? l r = some q ↔ Postponed r after ∧ q = provisional (h ++ mid) r after := by
  unfold Assembler.postponed? Postponed provisional meaning
  cases ht : r.target with
  | forward name => simp [hafter]
  | backward name =>
    by_cases hd : r.baseDependent = true
    · simp [hc, hd, denoted, hmid, hb.locals, eq_comm]
    · simp [hd]
  | nowhere | global | dynamic | external => simp [hc, eq_comm]

theorem waiting?_eq_some {r : Reference} {after : History} (hafter : ∀ k, after.bindings k = [])
    (hc : .committed ∉ after) : Assembler.waiting? r = some q ↔ r = q ∧ Waits r after := by
  unfold Assembler.waiting? Waits
  cases ht : r.target <;> simp [hc, hafter]

theorem append (ht : Tracks h a) {c : Code} (hb : a.append c = .ok b) :
    Tracks (h ++ Operation.appends a c) b := by
  unfold Operation.appends
  generalize hrefs : c.refs.filterMap (Operation.reference? (a.offset + c.code.length)) = refs
  have hoff : b.offset = a.offset + c.code.length := by
    rw [← b.length_image, (append_resolves hb hrefs).length, List.length_append, a.length_image]
  obtain ⟨hall, ps, hps, rfl⟩ := Assembler.append_eq_ok hb hrefs
  refine ht.grow (calm_appended ..) rfl ?_ ?_ ?_ ?_ ?_ rfl
  · rw [hoff, History.code_appended]
  · exact (ht.binds.append (History.bindings_appended c.code refs)).withWaiting _
  · intro mid r after hr
    obtain ⟨hr, -, -, hc, ha⟩ := History.records_appended hr
    obtain ⟨hacc, hfound⟩ := hall r hr
    refine ⟨hacc.unbound, hacc.valid, ?_, hoff ▸ hacc.high, fun _ => ⟨hacc.low, ha⟩,
      fun hin => absurd hin hc⟩
    intro name hname
    obtain ⟨offset, ho⟩ := hfound name hname
    rw [ht.binds.locals] at ho
    intro hnil
    rw [History.bindings_append, List.append_eq_nil_iff] at hnil
    rw [hnil.1] at ho
    cases ho
  · intro q
    rw [List.mem_append, List.mem_filterMap]
    refine or_congr_right ?_
    constructor
    · rintro ⟨r, hr, he⟩
      obtain ⟨mid, after, hrec⟩ := History.exists_records_appended hr c.code
      obtain ⟨-, -, haft, hc, -⟩ := History.records_appended hrec
      obtain ⟨rfl, hw⟩ := (waiting?_eq_some haft hc).mp he
      exact ⟨mid, after, hrec, hw⟩
    · rintro ⟨mid, after, hrec, hw⟩
      obtain ⟨hr, -, haft, hc, -⟩ := History.records_appended hrec
      exact ⟨q, hr, (waiting?_eq_some haft hc).mpr ⟨rfl, hw⟩⟩
  · intro q
    rw [List.mem_append, List.mem_filterMap]
    refine or_congr_right ?_
    constructor
    · rintro ⟨r, hr, he⟩
      obtain ⟨mid, after, hrec⟩ := History.exists_records_appended hr c.code
      obtain ⟨-, hm, haft, hc, -⟩ := History.records_appended hrec
      exact ⟨mid, r, after, hrec, (postponed?_eq_some ht.binds hm haft hc).mp he⟩
    · rintro ⟨mid, r, after, hrec, hpost⟩
      obtain ⟨hr, hm, haft, hc, -⟩ := History.records_appended hrec
      exact ⟨r, hr, (postponed?_eq_some ht.binds hm haft hc).mpr hpost⟩

theorem lookup_eq_denoted {l : Labels} {before after : History} {r : Reference} (hb : Binds h l)
    (hr : h.Records before r after) (hforward : ∀ name, r.target ≠ .forward name)
    (hbackward : ∀ name, r.target ≠ .backward name) :
    l.lookup r.target = denoted before after r.target := by
  have hbind : ∀ k, h.bindings k = (before ++ after).bindings k := by
    intro k
    rw [hr, History.bindings_append, History.bindings_append, History.bindings_recorded]
  cases htar : r.target with
  | forward name => exact absurd htar (hforward name)
  | backward name => exact absurd htar (hbackward name)
  | global name => rw [denoted, Labels.lookup, hb.globals, hbind]
  | dynamic id => rw [denoted, Labels.lookup, hb.dynamics, hbind]
  | nowhere | external => rfl

theorem meaning_external {r : Reference} (hu : r.bound = none) (he : r.target.isExternal = true)
    (before after : History) : meaning before r after = r := by
  obtain ⟨anchor, target, addend, rel, bound⟩ := r
  cases target with
  | external address =>
    obtain rfl : bound = none := hu
    rfl
  | nowhere | global | forward | backward | dynamic => cases he

/-- A reference that was put off resolves to what it means. -/
theorem resolve_provisional (ht : Tracks h a) {before after : History} {r : Reference}
    (hr : h.Records before r after) (hp : Postponed r after)
    (hq : a.labels.resolve (provisional before r after) = .ok q) :
    q = meaning before r after ∧ Found before r after := by
  have hh := ht.held hr
  -- A local label was looked up in time ...
  have known : (denoted before after r.target).isSome → provisional before r after =
      meaning before r after → q = meaning before r after ∧ Found before r after := by
    intro hs he
    rw [he] at hq
    rcases resolve_eq_ok hq with ⟨-, rfl⟩ | ⟨hnone, -⟩
    · exact ⟨rfl, Or.inl hs⟩
    · simp [meaning] at hnone
      simp [hnone] at hs
  -- ... and any other is looked up now.
  have other : (∀ name, r.target ≠ .forward name) → (∀ name, r.target ≠ .backward name) →
      provisional before r after = r → q = meaning before r after ∧ Found before r after := by
    intro hforward hbackward he
    rw [he] at hq
    rcases resolve_eq_ok hq with ⟨hs | hext, rfl⟩ | ⟨-, offset, ho, rfl⟩
    · simp [hh.unbound] at hs
    · exact ⟨(meaning_external hh.unbound hext ..).symm, Or.inr hext⟩
    · rw [lookup_eq_denoted ht.binds hr hforward hbackward] at ho
      exact ⟨by rw [meaning, ho], Or.inl (by rw [ho]; rfl)⟩
  cases htar : r.target with
  | forward name =>
    rw [Postponed, htar] at hp
    refine known ?_ (by rw [provisional, htar])
    simp [htar, denoted, List.isSome_head?, hp.2.1]
  | backward name =>
    refine known ?_ (by rw [provisional, htar])
    simp [htar, denoted, List.getLast?_isSome, hh.backward name htar]
  | nowhere | global | dynamic | external =>
    exact other (by simp [htar]) (by simp [htar]) (by rw [provisional, htar])

theorem mem_resolved (ht : Tracks h a) {next : UInt64} {refs moved : List Reference}
    (hc : Assembler.Commits a next b refs moved) (q : Reference) : q ∈ refs ↔ Due h q := by
  constructor
  · intro hq
    obtain ⟨p, hp, hpq⟩ := hc.made q hq
    obtain ⟨before, r, after, hr, hpost, rfl⟩ := (ht.pending p).mp hp
    exact ⟨before, r, after, hr, hpost, (ht.resolve_provisional hr hpost hpq).1⟩
  · rintro ⟨before, r, after, hr, hpost, rfl⟩
    obtain ⟨q, hq, hpq⟩ := hc.complete _ ((ht.pending _).mpr ⟨before, r, after, hr, hpost, rfl⟩)
    exact (ht.resolve_provisional hr hpost hpq).1 ▸ hq

/-- Nothing is kept as long as nothing is committed. -/
theorem mem_moved (ht : Tracks h a) {next : UInt64} {refs moved : List Reference}
    (hc : Assembler.Commits a next b refs moved) (q : Reference) :
    q ∈ moved ↔ b.region ≠ a.region ∧ Kept h q := by
  rcases hc.place with ⟨hreg, -, hm⟩ | ⟨hreg, -, hm⟩
  · simp [hreg, hm]
  · rw [hm, ← ht.managed, hreg]
    by_cases h0 : a.committed = 0
    · simp only [if_pos h0, List.not_mem_nil, false_iff, not_and]
      intro _ hq
      obtain ⟨hend, hsize⟩ := ht.field_kept ((ht.managed q).mp hq)
      unfold Reference.fieldEnd at hend
      omega
    · simp [if_neg h0]

/-- Everything that was recorded before a commit is in committed code. -/
theorem committed_of_records {before after : History} {r : Reference}
    (hr : History.Records (h ++ [Happening.committed]) before r after) : .committed ∈ after := by
  obtain ⟨tail, -, rfl⟩ := hr.of_append rfl
  simp

/-- A commit resolves what is due, and what is kept if the code moves. -/
theorem commit_resolves (ht : Tracks h a) {next : UInt64} (hb : a.commit next = .ok b) :
    ∃ refs, Resolves b.base refs a.image b.memory.current.code ∧
      ∀ q, q ∈ refs ↔ Due h q ∨ b.region ≠ a.region ∧ Kept h q := by
  obtain ⟨refs, moved, hc⟩ := Assembler.commit_eq_ok hb
  obtain ⟨ps, hps, hcode⟩ := hc.code
  refine ⟨moved ++ refs, ?_, ?_⟩
  · rw [hcode]
    refine Resolves.of_all_patches hps ?_
    intro q hq
    rw [a.length_image]
    rcases List.mem_append.mp hq with hq | hq
    · have hk := ((ht.mem_moved hc q).mp hq).2
      exact Nat.le_trans (ht.field_kept hk).1 (Nat.le_add_right _ _)
    · obtain ⟨before, r, after, hr, -, rfl⟩ := (ht.mem_resolved hc q).mp hq
      exact (ht.held hr).inside
  · intro q
    rw [List.mem_append, ht.mem_moved hc, ht.mem_resolved hc, or_comm]

theorem not_waits_of_commits (ht : Tracks h a) {next : UInt64} {refs moved : List Reference}
    (hc : Assembler.Commits a next b refs moved) {before after : History} {r : Reference}
    (hr : h.Records before r after) : ¬ Waits r after := by
  intro hw
  have hm := (ht.waiting r).mpr ⟨before, after, hr, hw⟩
  rw [hc.waiting] at hm
  cases hm

/-- Once nothing waits, all uncommitted references have found their targets or are resolved by
the commit. -/
theorem found_of_commits (ht : Tracks h a) {next : UInt64} {refs moved : List Reference}
    (hc : Assembler.Commits a next b refs moved) {before after : History} {r : Reference}
    (hr : h.Records before r after) (hnot : .committed ∉ after) : Found before r after := by
  have hw := ht.not_waits_of_commits hc hr
  have due : Postponed r after → Found before r after := by
    intro hp
    obtain ⟨q, -, hq⟩ := hc.complete _ ((ht.pending _).mpr ⟨before, r, after, hr, hp, rfl⟩)
    exact (ht.resolve_provisional hr hp hq).2
  cases htar : r.target with
  | forward name =>
    have hn : after.bindings (.local name) ≠ [] := fun hn => hw ⟨hnot, name, htar, hn⟩
    exact Or.inl (by simp [htar, denoted, List.isSome_head?, hn])
  | backward name =>
    exact Or.inl (by simp [htar, denoted, List.getLast?_isSome, (ht.held hr).backward name htar])
  | nowhere | global | dynamic | external =>
    exact due ⟨hnot, by rw [htar]; trivial⟩

theorem held_commit (ht : Tracks h a) {next : UInt64} (hb : a.commit next = .ok b)
    (hcom : b.committed = a.offset) {before tail : History} {r : Reference}
    (hr : h.Records before r tail) : Held b before r (tail ++ [Happening.committed]) := by
  have hh := ht.held hr
  obtain ⟨refs, moved, hc⟩ := Assembler.commit_eq_ok hb
  have hend : r.fieldEnd ≤ b.committed := hcom ▸ hh.inside
  refine ⟨hh.unbound, hh.valid, hh.backward, Nat.le_trans hend (Nat.le_add_right _ _), ?_,
    fun _ => ?_⟩
  · intro hnot
    exact absurd (by simp) hnot
  by_cases hin : .committed ∈ tail
  · obtain ⟨hf, -, hsize⟩ := hh.committed hin
    exact ⟨hf.append _, hend, hsize⟩
  · refine ⟨(ht.found_of_commits hc hr hin).append _, hend, ?_⟩
    intro hdep
    obtain ⟨all, hres, hall⟩ := ht.commit_resolves hb
    have hput := postponed_of_baseDependent hdep (ht.not_waits_of_commits hc hr) hin
    have hdue : Due h (meaning before r tail) := ⟨before, r, tail, hr, hput, rfl⟩
    obtain ⟨data, hdata⟩ := hres.accepted _ ((hall _).mpr (Or.inl hdue))
    refine r.rel.rewritable_write.nonempty (Bytes.length_slice _ _ _ ?_) hdata
    rw [a.length_image]
    exact hh.inside

/-- A commit adds the references that it has resolved and that depend on the base address. -/
theorem managed_commit (ht : Tracks h a) {next : UInt64} {refs moved : List Reference}
    (hc : Assembler.Commits a next b refs moved) (q : Reference) :
    q ∈ b.managed ↔ Kept (h ++ [Happening.committed]) q := by
  rw [hc.managed, List.mem_append, List.mem_filter, ht.managed, ht.mem_resolved hc,
    kept_committed ht.orderly]
  refine or_congr_right ?_
  constructor
  · rintro ⟨⟨before, r, after, hr, hp, he⟩, hdep⟩
    exact ⟨hdep, before, r, after, hr, hp.1, he⟩
  · rintro ⟨hdep, before, r, after, hr, hnot, rfl⟩
    have hw := ht.not_waits_of_commits hc hr
    exact ⟨⟨before, r, after, hr, postponed_of_baseDependent hdep hw hnot, rfl⟩, hdep⟩

theorem commit (ht : Tracks h a) {next : UInt64} (hb : a.commit next = .ok b) :
    Tracks (h ++ [Happening.committed]) b := by
  obtain ⟨all, hres, -⟩ := ht.commit_resolves hb
  obtain ⟨refs, moved, hc⟩ := Assembler.commit_eq_ok hb
  have hcom : b.committed = a.offset := by
    rw [← a.length_image]
    exact hres.length
  have hoff : b.offset = b.committed := by
    rw [Assembler.offset, hc.scratch]
    rfl
  refine ⟨?_, ?_, ?_, ?_, ?_, ?_, ht.managed_commit hc⟩
  · rw [History.code_append, hoff, hcom, ← ht.length]
    simp [History.code]
  · rw [hc.labels]
    exact ht.binds.append fun _ => rfl
  · intro before r after hr
    obtain ⟨tail, hold, rfl⟩ := hr.of_append rfl
    exact ht.held_commit hb hcom hold
  · intro writes hw w hmem
    have hfits := ht.planted (by simpa using hw) w hmem
    exact ⟨Nat.le_trans hfits.within (hcom ▸ Nat.le_add_right _ _), hfits.refs⟩
  · intro q
    rw [hc.labels, hc.waiting]
    refine ⟨fun hq => absurd hq List.not_mem_nil, ?_⟩
    rintro ⟨before, after, hr, hw⟩
    exact absurd (committed_of_records hr) hw.1
  · intro q
    rw [hc.pending]
    refine ⟨fun hq => absurd hq List.not_mem_nil, ?_⟩
    rintro ⟨before, r, after, hr, hp, -⟩
    exact absurd (committed_of_records hr) hp.1

theorem altered (ht : Tracks h a) {writes : List Overwrite} {m : Modifier}
    (hdone : ∀ {before r after}, h.Records before r after → .committed ∈ after)
    (hm : Modifier.Leaves a.modifier writes m) :
    Tracks (h ++ [Happening.altered writes])
      { a with memory := a.memory.setCode m.code, managed := m.managed a.managed } := by
  have hlen : m.code.length = a.committed := hm.length
  have hoff : Assembler.offset
      { a with memory := a.memory.setCode m.code, managed := m.managed a.managed } = a.offset :=
    congrArg (· + a.scratch.length) hlen
  refine ⟨?_, ht.binds.append fun _ => rfl, ?_, ?_, ?_, ?_, ?_⟩
  · rw [History.code_append, hoff, ← ht.length]
    simp [History.code]
  · intro before r after hr
    obtain ⟨tail, hrec, rfl⟩ := hr.of_append rfl
    have hh := ht.held hrec
    refine ⟨hh.unbound, hh.valid, hh.backward, hoff ▸ hh.inside, ?_, fun _ => ?_⟩
    · intro hnot
      exact absurd (List.mem_append_left _ (hdone hrec)) hnot
    · obtain ⟨hf, hend, hsize⟩ := hh.committed (hdone hrec)
      exact ⟨hf.append _, Nat.le_trans hend (Nat.le_of_eq hlen.symm), hsize⟩
  · intro vs hvs w hw
    have hfits : w.Fits a.committed := by
      rcases List.mem_append.mp hvs with hvs | hvs
      · exact ht.planted hvs w hw
      · obtain rfl := Happening.altered.inj (List.mem_singleton.mp hvs)
        exact hm.fits w hw
    exact ⟨Nat.le_trans hfits.within (Nat.le_of_eq hlen.symm), hfits.refs⟩
  · intro q
    refine (ht.waiting q).trans ⟨?_, ?_⟩
    · rintro ⟨before, after, hr, hw⟩
      exact absurd (hdone hr) hw.1
    · rintro ⟨before, after, hr, hw⟩
      obtain ⟨tail, hrec, rfl⟩ := hr.of_append rfl
      exact absurd (List.mem_append_left _ (hdone hrec)) hw.1
  · intro q
    refine (ht.pending q).trans ⟨?_, ?_⟩
    · rintro ⟨before, r, after, hr, hp, -⟩
      exact absurd (hdone hr) hp.1
    · rintro ⟨before, r, after, hr, hp, -⟩
      obtain ⟨tail, hrec, rfl⟩ := hr.of_append rfl
      exact absurd (List.mem_append_left _ (hdone hrec)) hp.1
  · intro q
    rw [kept_altered ht.orderly, ← ht.managed]
    have hend : ∀ q ∈ a.managed, q.fieldEnd ≤ a.committed :=
      fun q hq => (ht.field_kept ((ht.managed q).mp hq)).1
    exact Assembler.mem_managed_of_leaves hm hend q

theorem extend (ht : Tracks h a) (data : Bytes) :
    Tracks (h ++ [Happening.appended data]) { a with scratch := a.scratch ++ data } := by
  refine ht.grow_quiet ⟨by simp, by simp, fun _ => rfl⟩ rfl rfl ?_ ?_ rfl rfl rfl
  · simp [Assembler.offset, Assembler.committed, History.code, Nat.add_assoc]
  · exact ht.binds.append fun _ => rfl

theorem bind (ht : Tracks h a) {l : Label} {labels : Labels} (hl : ∀ name, l ≠ .local name)
    (hb : Binds (h ++ [Happening.bound l a.offset]) labels)
    (hw : labels.waiting = a.labels.waiting) :
    Tracks (h ++ [Happening.bound l a.offset]) { a with labels } := by
  refine ht.grow_quiet ⟨by simp, by simp, ?_⟩ rfl rfl rfl hb hw rfl rfl
  intro name
  rw [History.bindings_bound, if_neg (hl name)]

theorem alterUncommitted (ht : Tracks h a) {writes : List Overwrite} {m : ScratchModifier}
    (hm : ScratchModifier.Leaves a.scratchModifier writes m) :
    Tracks (h ++ [Happening.reworked writes]) { a with scratch := m.scratch } := by
  refine ht.grow_quiet ⟨by simp, by simp, fun _ => rfl⟩ rfl rfl ?_ ?_ rfl rfl rfl
  · exact congrArg (a.committed + ·) hm.length
  · exact ht.binds.append fun _ => rfl

/-- Every operation that succeeds keeps track. -/
theorem perform (ht : Tracks h a) {op : Operation} (hb : a.perform op = .ok b) :
    Tracks (h ++ op.happenings a) b := by
  cases op with
  | extend data =>
    obtain rfl := Assembler.extend_eq_ok hb
    exact ht.extend data
  | align n fill =>
    obtain rfl := Assembler.align_eq_ok hb
    exact ht.extend _
  | newDynamic =>
    obtain rfl := Except.ok.inj hb
    exact ht.grow_quiet ⟨nofun, nofun, fun _ => rfl⟩ rfl rfl rfl
      (ht.binds.newDynamic.append fun _ => rfl) rfl rfl rfl
  | globalLabel name =>
    obtain ⟨hn, rfl⟩ := Assembler.globalLabel_eq_ok hb
    exact ht.bind (by simp) (ht.binds.bindGlobal hn a.offset) rfl
  | dynamicLabel id =>
    obtain ⟨hn, rfl⟩ := Assembler.dynamicLabel_eq_ok hb
    exact ht.bind (by simp) (ht.binds.bindDynamic hn a.offset) rfl
  | localLabel name => exact ht.localLabel hb
  | append c => exact ht.append hb
  | relocate u => exact ht.append hb
  | emit instruction =>
    have hi := Assembler.whenOpen_eq_ok hb
    cases instruction with
    | error e => cases hi
    | ok c => exact ht.append hi
  | commit next => exact ht.commit hb
  | finalize next =>
    obtain ⟨c, hc, hcb⟩ := Assembler.finalize_eq_ok hb
    have hf := (ht.commit hc).alike hcb
    rw [List.append_nil] at hf
    exact hf
  | alter next script =>
    obtain ⟨c, m, writes, hc, hm, he, rfl⟩ := Assembler.alter_eq_ok hb
    have hf := (ht.commit hc).altered committed_of_records hm
    rw [he]
    rw [List.append_assoc] at hf
    exact hf
  | alterUncommitted script =>
    obtain ⟨m, writes, hm, he, rfl⟩ := Assembler.alterUncommitted_eq_ok hb
    rw [he]
    exact ht.alterUncommitted hm
  | close =>
    obtain rfl := Except.ok.inj hb
    exact ht.alike a.close_alike
  | closeBuffer =>
    obtain rfl := Except.ok.inj hb
    exact ht.alike a.closeBuffer_alike
  | lock =>
    obtain ⟨⟨guard, c⟩, hc, rfl⟩ := map_eq_ok hb
    exact ht.alike (Assembler.lock_alike hc)
  | unlock guard =>
    obtain rfl := Except.ok.inj hb
    exact ht.alike (a.unlock_alike guard)

end Tracks

namespace Session

/-- What holds at the start and is kept by every operation that succeeds holds of every run. -/
theorem run_induction {P : Session → Prop} {s : Session} {ops : List Operation} (hs : P s)
    (hstep : ∀ {t op b}, op ∈ ops → P t → t.assembler.perform op = .ok b →
      P ⟨b, t.history ++ op.happenings t.assembler⟩) : P (s.run ops) := by
  induction ops generalizing s with
  | nil => exact hs
  | cons op ops ih =>
    have hfirst : P (s.step op) := by
      unfold step
      split
      · rename_i b hb
        exact hstep (List.mem_cons_self ..) hs hb
      · exact hs
    exact ih hfirst fun hop => hstep (List.mem_cons_of_mem _ hop)

theorem tracks_run (capacity : Nat) (ops : List Operation) :
    Tracks ((start capacity).run ops).history ((start capacity).run ops).assembler :=
  run_induction (P := fun s => Tracks s.history s.assembler) (Tracks.start capacity)
    fun _ ht hb => ht.perform hb

end Session

end MachineCode
