import MachineCode.Proofs.Histories
import MachineCode.Proofs.Scripts

/-!
What the lists of an assembler hold at any time, told from the history alone: the labels that were
bound, the references that wait for a label or for the commit, and those that are resolved anew
whenever the code moves. Every operation keeps this up, whatever came before it.
-/
namespace MachineCode

structure Binds (h : History) (l : Labels) : Prop where
  globals : ∀ name, l.globals.lookup name = (h.bindings (.global name)).head?
  locals : ∀ name, l.locals.lookup name = (h.bindings (.local name)).getLast?
  dynamics : ∀ id : UInt32, (l.dynamics[id.toNat]?).join = (h.bindings (.dynamic id)).head?
  once : ∀ k, (∀ name, k ≠ .local name) → (h.bindings k).length ≤ 1

structure Held (a : Assembler) (before : History) (r : Reference) (after : History) : Prop where
  unbound : r.bound = none
  valid : r.target.isValid = true
  backward : ∀ name, r.target = .backward name → before.bindings (.local name) ≠ []
  inside : r.fieldEnd ≤ a.offset
  uncommitted : .committed ∉ after → a.committed ≤ r.field ∧ ∀ writes, .altered writes ∉ after
  committed : .committed ∈ after → Found before r after ∧ r.fieldEnd ≤ a.committed ∧
    (r.baseDependent = true → 0 < r.rel.size)

/-- A reference that is put off, as it is remembered until then: local labels may be bound anew,
so only their offsets are looked up in time. -/
def provisional (before : History) (r : Reference) (after : History) : Reference :=
  match r.target with
  | .forward _ | .backward _ => meaning before r after
  | _ => r

def Waiting (h : History) (q : Reference) : Prop :=
  ∃ before after, h.Records before q after ∧ Waits q after

def Pending (h : History) (q : Reference) : Prop :=
  ∃ before r after, h.Records before r after ∧ Postponed r after ∧ q = provisional before r after

/-- A reference that the next commit resolves. -/
def Due (h : History) (q : Reference) : Prop :=
  ∃ before r after, h.Records before r after ∧ Postponed r after ∧ q = meaning before r after

structure Tracks (h : History) (a : Assembler) : Prop where
  length : h.code.length = a.offset
  binds : Binds h a.labels
  held : ∀ {before r after}, h.Records before r after → Held a before r after
  planted : ∀ {writes}, .altered writes ∈ h → ∀ w ∈ writes, w.Fits a.committed
  waiting : ∀ q, q ∈ a.labels.waiting ↔ Waiting h q
  pending : ∀ q, q ∈ a.pending ↔ Pending h q
  managed : ∀ q, q ∈ a.managed ↔ Kept h q

theorem Tracks.orderly {h : History} {a : Assembler} (ht : Tracks h a) : Orderly h :=
  ⟨fun hr hc => ((ht.held hr).committed hc).1, fun hr hc => ((ht.held hr).uncommitted hc).2⟩

section lists

variable {h new : History} {q : Reference}

/-- Where no local label is bound and nothing is committed, the references that wait are those
that waited and new ones. -/
theorem waiting_append (hc : .committed ∉ new) (hl : ∀ name, new.bindings (.local name) = []) :
    Waiting (h ++ new) q ↔ Waiting h q ∨ ∃ mid after, new.Records mid q after ∧ Waits q after := by
  constructor
  · rintro ⟨before, after, hr, hw⟩
    rcases History.records_append.mp hr with ⟨tail, hold, rfl⟩ | ⟨mid, rfl, hnew⟩
    · exact Or.inl ⟨before, tail, hold, (waits_append hc hl).mp hw⟩
    · exact Or.inr ⟨mid, after, hnew, hw⟩
  · rintro (⟨before, after, hr, hw⟩ | ⟨mid, after, hr, hw⟩)
    · exact ⟨before, after ++ new, hr.append new, (waits_append hc hl).mpr hw⟩
    · exact ⟨h ++ mid, after, History.records_append.mpr (Or.inr ⟨mid, rfl, hr⟩), hw⟩

theorem Postponed.append {r : Reference} {after : History} (hp : Postponed r after)
    (hc : .committed ∉ new) : Postponed r (after ++ new) := by
  obtain ⟨ha, hp⟩ := hp
  refine ⟨by simp [ha, hc], ?_⟩
  cases ht : r.target with
  | forward name =>
    rw [ht] at hp
    simp [hp.1, hp.2]
  | nowhere | global | backward | dynamic | external =>
    rw [ht] at hp
    exact hp

/-- What is put off is remembered as it is. -/
theorem Postponed.provisional_append {r : Reference} {after : History} (hp : Postponed r after)
    (before new : History) : provisional before r (after ++ new) = provisional before r after := by
  unfold provisional meaning
  cases ht : r.target with
  | forward name =>
    rw [Postponed, ht] at hp
    have hs : (after.bindings (.local name)).head?.isSome := by
      simp [List.isSome_head?, hp.2.1]
    simp only [denoted, History.bindings_append, head?_append_of_isSome hs]
  | nowhere | global | backward | dynamic | external => rfl

/-- A reference that is put off was so before, or it has waited until now. -/
theorem Postponed.of_append {r : Reference} {after : History} (hp : Postponed r (after ++ new)) :
    Postponed r after ∨ Waits r after ∧ r.baseDependent = true ∧
      ∃ name, r.target = .forward name ∧ new.bindings (.local name) ≠ [] := by
  rcases Open.of_append (Or.inr hp) with hw | hp
  · obtain ⟨hc, name, ht, hn⟩ := hw
    rw [Postponed, ht] at hp
    exact Or.inr ⟨⟨hc, name, ht, hn⟩, hp.2.2, name, ht, by simpa [hn] using hp.2.1⟩
  · exact Or.inl hp

theorem pending_append (hc : .committed ∉ new) (hl : ∀ name, new.bindings (.local name) = []) :
    Pending (h ++ new) q ↔ Pending h q ∨ ∃ mid r after, new.Records mid r after ∧
      Postponed r after ∧ q = provisional (h ++ mid) r after := by
  constructor
  · rintro ⟨before, r, after, hr, hp, hq⟩
    rcases History.records_append.mp hr with ⟨tail, hold, rfl⟩ | ⟨mid, rfl, hnew⟩
    · rcases hp.of_append with hp | ⟨-, -, name, -, hn⟩
      · exact Or.inl ⟨before, r, tail, hold, hp, hq.trans (hp.provisional_append ..)⟩
      · exact absurd (hl name) hn
    · exact Or.inr ⟨mid, r, after, hnew, hp, hq⟩
  · rintro (⟨before, r, after, hr, hp, hq⟩ | ⟨mid, r, after, hr, hp, hq⟩)
    · exact ⟨before, r, after ++ new, hr.append new, hp.append hc,
        hq.trans (hp.provisional_append ..).symm⟩
    · exact ⟨h ++ mid, r, after, History.records_append.mpr (Or.inr ⟨mid, rfl, hr⟩), hp, hq⟩

/-- A binding of a local label ends the wait of the references to it. -/
theorem waiting_bound {name : String} {offset : Nat} :
    Waiting (h ++ [Happening.bound (.local name) offset]) q ↔
      Waiting h q ∧ q.target.name ≠ name := by
  constructor
  · rintro ⟨before, after, hr, hc, n, ht, hn⟩
    obtain ⟨tail, hold, rfl⟩ := hr.of_append rfl
    simp only [History.bindings_append, History.bindings_bound, List.append_eq_nil_iff] at hn
    refine ⟨⟨before, tail, hold, by simpa using hc, n, ht, hn.1⟩, ?_⟩
    rintro rfl
    simp [ht, Target.name] at hn
  · rintro ⟨⟨before, after, hr, hc, n, ht, hn⟩, hne⟩
    have hne : name ≠ n := by simpa [ht, Target.name, eq_comm] using hne
    exact ⟨before, _, hr.append _, by simpa using hc, n, ht, by
      simp [History.bindings_bound, hn, hne]⟩

/-- References that depend on the base address are put off when their wait ends. -/
theorem pending_bound {name : String} {offset : Nat} :
    Pending (h ++ [Happening.bound (.local name) offset]) q ↔ Pending h q ∨ q.baseDependent = true ∧
      ∃ r, (Waiting h r ∧ r.target.name = name) ∧ q = { r with bound := some offset } := by
  have hfirst {r : Reference} {before after : History} (ht : r.target = .forward name)
      (hn : after.bindings (.local name) = []) :
      provisional before r (after ++ [Happening.bound (.local name) offset]) =
        { r with bound := some offset } := by
    rw [← meaning_bound ht hn, provisional, ht]
  constructor
  · rintro ⟨before, r, after, hr, hp, rfl⟩
    obtain ⟨tail, hold, rfl⟩ := hr.of_append rfl
    rcases hp.of_append with hp | ⟨hw, hb, n, ht, hn⟩
    · exact Or.inl ⟨before, r, tail, hold, hp, hp.provisional_append ..⟩
    · obtain rfl : name = n := by simpa [History.bindings_bound] using hn
      obtain ⟨hc, m, hm, hnone⟩ := hw
      obtain rfl : name = m := Target.forward.inj (ht.symm.trans hm)
      rw [hfirst ht hnone]
      exact Or.inr ⟨hb, r, ⟨⟨before, tail, hold, hc, name, ht, hnone⟩, by rw [ht]; rfl⟩, rfl⟩
  · rintro (⟨before, r, after, hr, hp, hq⟩ | ⟨hb, r, ⟨⟨before, after, hr, hc, n, ht, hn⟩, he⟩, rfl⟩)
    · exact ⟨before, r, _, hr.append _, hp.append (by simp),
        hq.trans (hp.provisional_append ..).symm⟩
    · obtain rfl : n = name := by rwa [ht] at he
      refine ⟨before, r, _, hr.append _, ⟨by simpa using hc, ?_⟩, (hfirst ht hn).symm⟩
      simp only [ht]
      refine ⟨?_, hb⟩
      simp [History.bindings_bound]

end lists

namespace Binds

variable {h new : History} {l : Labels}

theorem start : Binds [] {} := ⟨fun _ => rfl, fun _ => rfl, fun _ => rfl, fun _ _ => Nat.zero_le _⟩

theorem append (hb : Binds h l) (hn : ∀ k, new.bindings k = []) : Binds (h ++ new) l := by
  constructor
  · intro name
    rw [History.bindings_append, hn, List.append_nil, hb.globals]
  · intro name
    rw [History.bindings_append, hn, List.append_nil, hb.locals]
  · intro id
    rw [History.bindings_append, hn, List.append_nil, hb.dynamics]
  · intro k hk
    rw [History.bindings_append, hn, List.append_nil]
    exact hb.once k hk

/-- A label that is bound for the first time is bound once. -/
theorem once_bound (hb : Binds h l) {k : Label} {offset : Nat} (hk : h.bindings k = [])
    (j : Label) (hj : ∀ name, j ≠ .local name) :
    (History.bindings (h ++ [Happening.bound k offset]) j).length ≤ 1 := by
  rw [History.bindings_append, History.bindings_bound]
  by_cases he : k = j
  · subst he
    simp [hk]
  · simpa [he] using hb.once j hj

theorem bindGlobal (hb : Binds h l) {name : String} (hn : l.globals.lookup name = none)
    (offset : Nat) : Binds (h ++ [Happening.bound (.global name) offset])
      { l with globals := (name, offset) :: l.globals } := by
  have hnone : h.bindings (.global name) = [] := by
    rw [hb.globals] at hn
    exact List.head?_eq_none_iff.mp hn
  refine ⟨?_, ?_, ?_, hb.once_bound hnone⟩
  · intro n
    rw [History.bindings_append, History.bindings_bound, List.lookup_cons]
    by_cases he : n = name
    · subst he
      simp [hnone]
    · simp [beq_false_of_ne he, Ne.symm he, hb.globals]
  · intro n
    simpa [History.bindings_bound] using hb.locals n
  · intro id
    simpa [History.bindings_bound] using hb.dynamics id

theorem bindDynamic (hb : Binds h l) {id : UInt32} (hn : l.dynamics[id.toNat]? = some none)
    (offset : Nat) : Binds (h ++ [Happening.bound (.dynamic id) offset])
      { l with dynamics := l.dynamics.set id.toNat (some offset) } := by
  have hnone : h.bindings (.dynamic id) = [] := by
    have hd := hb.dynamics id
    rw [hn] at hd
    exact List.head?_eq_none_iff.mp hd.symm
  refine ⟨?_, ?_, ?_, hb.once_bound hnone⟩
  · intro n
    simpa [History.bindings_bound] using hb.globals n
  · intro n
    simpa [History.bindings_bound] using hb.locals n
  · intro j
    rw [History.bindings_append, History.bindings_bound]
    by_cases he : id = j
    · subst he
      obtain ⟨hlt, -⟩ := List.getElem?_eq_some_iff.mp hn
      simp [hnone, hlt]
    · have hne : id.toNat ≠ j.toNat := fun h => he (UInt32.toNat_inj.mp h)
      simp [he, List.getElem?_set_ne hne, hb.dynamics]

theorem bindLocal (hb : Binds h l) (name : String) (offset : Nat) :
    Binds (h ++ [Happening.bound (.local name) offset]) (l.bindLocal name offset) := by
  refine ⟨?_, ?_, ?_, ?_⟩
  · intro n
    simpa [History.bindings_bound, Labels.bindLocal] using hb.globals n
  · intro n
    rw [History.bindings_append, History.bindings_bound, Labels.bindLocal, List.lookup_cons]
    by_cases he : n = name
    · simp [he]
    · simp [beq_false_of_ne he, Ne.symm he, hb.locals]
  · intro id
    simpa [History.bindings_bound, Labels.bindLocal] using hb.dynamics id
  · intro k hk
    have hne : Label.local name ≠ k := (hk name).symm
    simpa [History.bindings_bound, hne] using hb.once k hk

theorem withWaiting (hb : Binds h l) (waiting : List Reference) : Binds h { l with waiting } :=
  ⟨hb.globals, hb.locals, hb.dynamics, hb.once⟩

theorem newDynamic (hb : Binds h l) : Binds h l.newDynamic.2 := by
  refine ⟨hb.globals, hb.locals, ?_, hb.once⟩
  intro id
  rw [← hb.dynamics]
  simp only [Labels.newDynamic, List.getElem?_append]
  split
  · rfl
  · rw [List.getElem?_eq_none (by omega : l.dynamics.length ≤ id.toNat)]
    cases id.toNat - l.dynamics.length <;> rfl

end Binds

end MachineCode
