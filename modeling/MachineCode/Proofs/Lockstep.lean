import MachineCode.Proofs.Deferral

/-!
Eager and deferred resolution agree. A program and the one in which dynamic labels stand for local
ones run in lockstep: they have the same bytes committed, and an operation that fails in the one
only, because a local reference does not fit, keeps the other from ever committing again.
-/
namespace MachineCode

structure Session.Sound (s : Session) : Prop where
  tracks : Tracks s.history s.assembler
  bounds : s.assembler.InBounds
  upToDate : s.history.references.Pairwise Reference.Apart → UpToDate s.history s.assembler

namespace Session.Sound

theorem start (capacity : Nat) : (Session.start capacity).Sound :=
  ⟨.start capacity, .start capacity,
    Session.upToDate_run capacity fun _ h => absurd h List.not_mem_nil⟩

theorem perform {s : Session} (hs : s.Sound) {op : Operation} (hop : op.alters = false)
    {b : Assembler} (hb : s.assembler.perform op = .ok b) :
    Session.Sound ⟨b, s.history ++ op.happenings s.assembler⟩ := by
  refine ⟨hs.tracks.perform hb, hs.bounds.perform hs.tracks hb, fun hp => ?_⟩
  refine (hs.upToDate ?_).perform hs.tracks hop hb hp
  rw [History.references_append] at hp
  exact (List.pairwise_append.mp hp).1

theorem run {s : Session} (hs : s.Sound) {ops : List Operation}
    (hops : ∀ op ∈ ops, op.alters = false) : (s.run ops).Sound :=
  Session.run_induction hs fun hop hs hb => hs.perform (hops _ hop) hb

end Session.Sound

/-- The labels that are set aside: each is bound where the binding that it stands for took place,
if it did, and the last one never is. -/
structure Front (slots : Slots) (h : History) (front : List (Option Nat)) : Prop where
  length : front.length = slots.length + 1
  spare : front[slots.length]? = some none
  bound : ∀ name n, (name, n) ∈ slots →
    front[slots.idxOf (name, n)]? = some ((h.bindings (.local name))[n - 1]?)

theorem Front.append {slots : Slots} {h new : History} {front : List (Option Nat)}
    (hf : Front slots h front) (hn : ∀ name, new.bindings (.local name) = []) :
    Front slots (h ++ new) front := by
  refine ⟨hf.length, hf.spare, fun name n hmem => ?_⟩
  rw [History.bindings_append, hn, List.append_nil]
  exact hf.bound name n hmem

/-- What has to be known of the operations to come: the bindings that they may bring are foreseen,
and there are enough numbers for all labels. -/
structure Ahead (slots : Slots) (s : Session) (rest : List Operation) : Prop where
  positive : ∀ name, (name, 0) ∉ slots
  foreseen : ∀ name n, 0 < n → n ≤ (s.history.bindings (.local name)).length +
    (rest.filterMap (·.boundLocal?)).count name → (name, n) ∈ slots
  room : slots.length + 1 + s.assembler.labels.dynamics.length +
    rest.countP (·.isNewDynamic) < UInt32.size

theorem Slots.toNat_shifted (slots : Slots) (id : UInt32) : (slots.shifted id).toNat =
    min (id.toNat + (slots.length + 1)) (UInt32.size - 1) := by
  have hsize : UInt32.size = 4294967296 := rfl
  exact UInt32.toNat_ofNat_of_lt' (by omega)

namespace Ahead

variable {slots : Slots} {s : Session} {rest : List Operation} (ha : Ahead slots s rest)

include ha

theorem toNat_fresh (name : String) (n : Nat) :
    (slots.fresh name n).toNat = slots.idxOf (name, n) := by
  have hle : slots.idxOf (name, n) ≤ slots.length := List.idxOf_le_length
  have hroom := ha.room
  exact UInt32.toNat_ofNat_of_lt' (by omega)

theorem toNat_shifted_of_lt {id : UInt32}
    (h : id.toNat < s.assembler.labels.dynamics.length) :
    (slots.shifted id).toNat = id.toNat + (slots.length + 1) := by
  have hroom := ha.room
  rw [slots.toNat_shifted]
  omega

end Ahead

structure Lockstep (slots : Slots) (s s' : Session) : Prop where
  sound : s.Sound
  sound' : s'.Sound
  paired : Paired slots s.history s'.history
  memory : s'.assembler.memory = s.assembler.memory
  stage : s'.assembler.stage = s.assembler.stage
  minimum : s'.assembler.minCapacity = s.assembler.minCapacity
  globals : s'.assembler.labels.globals = s.assembler.labels.globals
  dynamics : ∃ front, Front slots s.history front ∧
    s'.assembler.labels.dynamics = front ++ s.assembler.labels.dynamics

namespace Lockstep

variable {slots : Slots} {s s' : Session} {rest : List Operation}

theorem offset_eq (hl : Lockstep slots s s') : s'.assembler.offset = s.assembler.offset := by
  rw [← hl.sound'.tracks.length, hl.paired.code_eq, hl.sound.tracks.length]

theorem isOpen_eq (hl : Lockstep slots s s') : s'.assembler.isOpen = s.assembler.isOpen := by
  unfold Assembler.isOpen
  rw [hl.stage]

theorem committed_eq (hl : Lockstep slots s s') :
    s'.assembler.committed = s.assembler.committed := by
  unfold Assembler.committed
  rw [hl.memory]

section labels

variable (hl : Lockstep slots s s') (ha : Ahead slots s rest)

include hl ha in
theorem lookup_fresh (name : String) (n : Nat) :
    s'.assembler.labels.lookup (.dynamic (slots.fresh name (n + 1))) =
      (s.history.bindings (.local name))[n]? := by
  obtain ⟨front, hfront, hd⟩ := hl.dynamics
  simp only [Labels.lookup, ha.toNat_fresh, hd]
  by_cases hmem : (name, n + 1) ∈ slots
  · have hlt := List.idxOf_lt_length_of_mem hmem
    rw [List.getElem?_append_left (by rw [hfront.length]; omega), hfront.bound name _ hmem]
    rfl
  · -- Bindings that are not foreseen do not take place.
    have hnone : (s.history.bindings (.local name))[n]? = none := by
      refine List.getElem?_eq_none (Nat.le_of_not_lt fun hlt => hmem ?_)
      exact ha.foreseen name (n + 1) (Nat.succ_pos n) (by omega)
    rw [List.idxOf_eq_length hmem, List.getElem?_append_left (by rw [hfront.length]; omega),
      hfront.spare, hnone]
    rfl

include hl ha in
theorem lookup_spare (name : String) :
    s'.assembler.labels.lookup (.dynamic (slots.fresh name 0)) = none := by
  obtain ⟨front, hfront, hd⟩ := hl.dynamics
  simp only [Labels.lookup, ha.toNat_fresh, hd]
  rw [List.idxOf_eq_length (ha.positive name),
    List.getElem?_append_left (by rw [hfront.length]; omega), hfront.spare]
  rfl

include hl ha in
theorem dynamics_shifted (id : UInt32) :
    s'.assembler.labels.dynamics[(slots.shifted id).toNat]? =
      s.assembler.labels.dynamics[id.toNat]? := by
  obtain ⟨front, hfront, hd⟩ := hl.dynamics
  have hroom := ha.room
  have hsize : UInt32.size = 4294967296 := rfl
  have hshift := slots.toNat_shifted id
  rw [hd, List.getElem?_append_right (by rw [hfront.length, hshift]; omega), hfront.length, hshift]
  by_cases hlt : id.toNat < s.assembler.labels.dynamics.length
  · congr 1
    omega
  · rw [List.getElem?_eq_none (by omega), List.getElem?_eq_none (by omega)]

end labels

section meaning

variable {before after before' after' : History} {r : Reference} (hl : Lockstep slots s s')
  (ha : Ahead slots s rest) (hr : s.history.Records before r after)

include hl ha hr

/-- The label that stands for a local one is bound where the local reference means. -/
theorem lookup_target :
    s'.assembler.labels.lookup (slots.target before r.target) = denoted before after r.target := by
  have hbindings (l : Label) : s.history.bindings l = before.bindings l ++ after.bindings l := by
    rw [hr, History.bindings_append, History.bindings_recorded]
  cases htar : r.target with
  | forward name =>
    rw [Slots.target, hl.lookup_fresh ha, hbindings, List.getElem?_append_right (Nat.le_refl _),
      Nat.sub_self, denoted, List.head?_eq_getElem?]
  | backward name =>
    rw [Slots.target, denoted, List.getLast?_eq_getElem?]
    cases hn : (before.bindings (.local name)).length with
    | zero => rw [hl.lookup_spare ha, List.getElem?_eq_none (by omega)]
    | succ n =>
      rw [hl.lookup_fresh ha, hbindings, List.getElem?_append_left (by omega), Nat.add_sub_cancel]
  | global name =>
    have hsame := Tracks.lookup_eq_denoted hl.sound.tracks.binds hr (by simp [htar])
      (by simp [htar])
    rw [htar] at hsame
    rw [← hsame]
    exact congrArg (List.lookup name) hl.globals
  | dynamic id =>
    have hsame := Tracks.lookup_eq_denoted hl.sound.tracks.binds hr (by simp [htar])
      (by simp [htar])
    rw [htar] at hsame
    rw [← hsame, Slots.target, Labels.lookup, hl.dynamics_shifted ha]
    rfl
  | nowhere | external => rfl

variable (hr' : s'.history.Records before' (slots.deferred before r) after')

include hr'

theorem denoted_eq :
    denoted before' after' (slots.target before r.target) = denoted before after r.target := by
  obtain ⟨-, -, hforward, hbackward⟩ := slots.target_cases before r.target
  have hlookup : s'.assembler.labels.lookup (slots.target before r.target) =
      denoted before' after' (slots.target before r.target) :=
    Tracks.lookup_eq_denoted hl.sound'.tracks.binds hr' hforward hbackward
  exact hlookup.symm.trans (hl.lookup_target ha hr)

theorem value_eq (base : UInt64) :
    (meaning before' (slots.deferred before r) after').value base =
      (meaning before r after).value base := by
  rw [meaning, meaning, ← slots.value_deferred before r]
  exact congrArg (fun bound => ({ slots.deferred before r with bound } : Reference).value base)
    (hl.denoted_eq ha hr hr')

theorem found_iff : Found before' (slots.deferred before r) after' ↔ Found before r after := by
  have hd := hl.denoted_eq ha hr hr'
  obtain ⟨hext, -⟩ := slots.target_cases before r.target
  unfold Found Slots.deferred
  simp only [hd, hext]

end meaning

section commit

variable (hl : Lockstep slots s s') (ha : Ahead slots s rest)

include hl ha

theorem resolvable_iff (base : UInt64) :
    Resolvable s'.history base ↔ Resolvable s.history base := by
  constructor
  · intro hres before r after hr
    obtain ⟨before', after', hr', -⟩ := hl.paired.records hr
    obtain ⟨hfound, hfault⟩ := hres hr'
    rw [hl.value_eq ha hr hr'] at hfault
    exact ⟨(hl.found_iff ha hr hr').mp hfound, hfault⟩
  · intro hres before' r' after' hr'
    obtain ⟨before, r, after, hr, rfl, -⟩ := hl.paired.records' hr'
    obtain ⟨hfound, hfault⟩ := hres hr
    rw [← hl.value_eq ha hr hr'] at hfault
    exact ⟨(hl.found_iff ha hr hr').mpr hfound, hfault⟩

omit ha in
theorem scratch_length_eq : s'.assembler.scratch.length = s.assembler.scratch.length := by
  have hoff := hl.offset_eq
  have hcom := hl.committed_eq
  unfold Assembler.offset at hoff
  omega

omit ha in
theorem nextBase_eq (next : UInt64) : s'.assembler.nextBase next = s.assembler.nextBase next := by
  unfold Assembler.nextBase Assembler.base
  rw [hl.memory, hl.scratch_length_eq]

variable (hapart : s.history.references.Pairwise Reference.Apart) {next : UInt64}

include hapart

/-- A commit succeeds in both sessions or in none. -/
theorem commit_iff : (∃ b', s'.assembler.commit next = .ok b') ↔
    ∃ b, s.assembler.commit next = .ok b := by
  have hu := hl.sound.upToDate hapart
  have hu' := hl.sound'.upToDate (hl.paired.apart hapart)
  cases hopen : s.assembler.isOpen with
  | true =>
    rw [hl.sound.tracks.commit_succeeds_iff hu hl.sound.bounds hapart hopen,
      hl.sound'.tracks.commit_succeeds_iff hu' hl.sound'.bounds (hl.paired.apart hapart)
        (hl.isOpen_eq.trans hopen), hl.nextBase_eq, hl.resolvable_iff ha]
  | false =>
    have hopen' := hl.isOpen_eq.trans hopen
    simp [Assembler.commit, Assembler.whenOpen, hopen, hopen']

theorem commit {b b' : Assembler} (hb : s.assembler.commit next = .ok b)
    (hb' : s'.assembler.commit next = .ok b') :
    Lockstep slots ⟨b, s.history ++ [Happening.committed]⟩
      ⟨b', s'.history ++ [Happening.committed]⟩ := by
  have hperform : s.assembler.perform (.commit next) = .ok b := hb
  have hperform' : s'.assembler.perform (.commit next) = .ok b' := hb'
  have hsound : Session.Sound ⟨b, s.history ++ [Happening.committed]⟩ :=
    hl.sound.perform rfl hperform
  have hsound' : Session.Sound ⟨b', s'.history ++ [Happening.committed]⟩ :=
    hl.sound'.perform rfl hperform'
  have hap : (History.references (s.history ++ [Happening.committed])).Pairwise
      Reference.Apart := by
    rw [History.references_append]
    exact (List.append_nil _).symm ▸ hapart
  obtain ⟨refs, moved, hc⟩ := Assembler.commit_eq_ok hb
  obtain ⟨refs', moved', hc'⟩ := Assembler.commit_eq_ok hb'
  have hpaired := hl.paired.committed
  have hbase : b'.base = b.base := by
    rw [Assembler.base_of_commit hl.sound'.bounds hb', Assembler.base_of_commit hl.sound.bounds hb,
      hl.nextBase_eq]
  -- Outside of all fields the bytes are those that were appended; in a field they follow from the
  -- value, and that is the same whichever label the reference is to.
  have himage : b.image = b'.image := by
    refine (hsound.upToDate hap).image_eq (hsound'.upToDate (hpaired.apart hap))
      hpaired.code_eq.symm ?_ ?_
    · intro i hnone r' hr' hcovers
      obtain ⟨before', after', hr'⟩ := History.exists_records hr'
      obtain ⟨before, r, after, hr, rfl, -⟩ := hpaired.records' hr'
      exact hnone r hr.mem hcovers
    · intro before r after hr
      refine ⟨not_open_of_committed hr, ?_⟩
      obtain ⟨tail, hold, rfl⟩ := hr.of_append rfl
      obtain ⟨before', tail', hold', -⟩ := hl.paired.records hold
      refine ⟨before', _, _, hold'.append _, not_open_of_committed (hold'.append _), rfl, rfl, ?_⟩
      rw [meaning_append_of_bindings (fun _ => rfl), meaning_append_of_bindings (fun _ => rfl),
        hl.value_eq ha hold hold', hbase]
  have hcode : b'.memory.current.code = b.memory.current.code := by
    rw [← Assembler.commit_image hb', ← Assembler.commit_image hb, himage]
  obtain ⟨hstage, hmemory⟩ := Assembler.commit_memory hl.sound.bounds hb
  obtain ⟨hstage', hmemory'⟩ := Assembler.commit_memory hl.sound'.bounds hb'
  refine ⟨hsound, hsound', hpaired, ?_, ?_, ?_, ?_, ?_⟩
  · show b'.memory = b.memory
    rw [hmemory', hmemory, hl.memory, hl.scratch_length_eq, hl.minimum, hcode]
  · exact hstage'.trans (hl.stage.trans hstage.symm)
  · exact (Assembler.commit_grows hb').1.trans
      (hl.minimum.trans (Assembler.commit_grows hb).1.symm)
  · show b'.labels.globals = b.labels.globals
    rw [hc'.labels, hc.labels, hl.globals]
  · obtain ⟨front, hfront, hd⟩ := hl.dynamics
    refine ⟨front, hfront.append fun _ => rfl, ?_⟩
    show b'.labels.dynamics = front ++ b.labels.dynamics
    rw [hc'.labels, hc.labels, hd]

end commit

end Lockstep

end MachineCode
