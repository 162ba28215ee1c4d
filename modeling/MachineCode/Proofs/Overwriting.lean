import Mathlib.Data.List.Basic
import Mathlib.Data.List.Pairwise
import MachineCode.Proofs.Acceptance
import MachineCode.Proofs.LiveRuns

/-!
Overwriting and appending agree. The same code may be written over committed bytes, where its
references are resolved one after the other at the real base address, or be appended and
committed, where some are resolved at once, at no address yet, and the others together. The bytes
are the same, the same references are kept up afterwards, and the same values are turned away.
-/
namespace MachineCode

namespace Resolves

variable {base : UInt64} {refs refs' : List Reference} {x y z : Bytes}

/-- Fields that are apart from all that is resolved keep what is in them. -/
theorem slice_apart (h : Resolves base refs x y) {s : Reference} (hs : ∀ r ∈ refs, r.Apart s) :
    y.slice s.field s.rel.size = x.slice s.field s.rel.size := by
  apply Bytes.slice_congr
  intro i hlo hhi
  apply h.outside i
  intro r hr hc
  exact (hs r hr).not_covers hc ⟨hlo, hhi⟩

/-- References in fields that are apart are resolved one after the other as well as all
together. -/
theorem trans (h : Resolves base refs x y) (h' : Resolves base refs' y z)
    (hapart : ∀ r ∈ refs, ∀ s ∈ refs', r.Apart s) : Resolves base (refs ++ refs') x z := by
  have hslice : ∀ s ∈ refs', y.slice s.field s.rel.size = x.slice s.field s.rel.size := by
    intro s hs
    exact h.slice_apart fun r hr => hapart r hr s hs
  refine ⟨h'.length.trans h.length, ?_, ?_, ?_⟩
  · intro i hi
    have hlater := h'.outside i fun s hs => hi s (List.mem_append_right _ hs)
    have hfirst := h.outside i fun r hr => hi r (List.mem_append_left _ hr)
    exact hlater.trans hfirst
  · intro r hr
    rcases List.mem_append.mp hr with hr | hr
    · exact h.accepted r hr
    · exact hslice r hr ▸ h'.accepted r hr
  · rintro i ⟨r, hr, hc⟩
    by_cases hlater : ∃ s ∈ refs', s.Covers i
    · obtain ⟨s, hs, hsc, data, hw, he⟩ := h'.inside i hlater
      exact ⟨s, List.mem_append_right _ hs, hsc, data, hslice s hs ▸ hw, he⟩
    · have hr : r ∈ refs := by
        rcases List.mem_append.mp hr with hr | hr
        · exact hr
        · exact absurd ⟨r, hr, hc⟩ hlater
      obtain ⟨s, hs, hsc, data, hw, he⟩ := h.inside i ⟨r, hr, hc⟩
      have hstays := h'.outside i fun t ht htc => hlater ⟨t, ht, htc⟩
      exact ⟨s, List.mem_append_left _ hs, hsc, data, hw, hstays.trans he⟩

/-- A byte is settled by the reference whose field it is in. -/
theorem getElem?_congr (h : Resolves base refs x y) (h' : Resolves base refs' x z) {i : Nat}
    (hsame : ∀ r, r.Covers i → (r ∈ refs ↔ r ∈ refs'))
    (hone : ∀ r ∈ refs, ∀ s ∈ refs, r.Covers i → s.Covers i → r = s) : y[i]? = z[i]? := by
  by_cases hi : ∃ r ∈ refs, r.Covers i
  · obtain ⟨r, hr, hc, data, hw, he⟩ := h.inside i hi
    obtain ⟨s, hs, hsc, data', hw', he'⟩ := h'.inside i ⟨r, (hsame r hc).mp hr, hc⟩
    obtain rfl := hone r hr s ((hsame s hsc).mpr hs) hc hsc
    obtain rfl := Except.ok.inj (hw.symm.trans hw')
    exact he.trans he'.symm
  · have hout := h.outside i fun r hr hc => hi ⟨r, hr, hc⟩
    have hout' := h'.outside i fun r hr hc => hi ⟨r, (hsame r hc).mpr hr, hc⟩
    exact hout.trans hout'.symm

end Resolves

instance : Std.Symm Reference.Apart := ⟨fun _ _ => Reference.Apart.symm⟩

theorem eq_or_apart {refs : List Reference} (h : refs.Pairwise Reference.Apart) {r s : Reference}
    (hr : r ∈ refs) (hs : s ∈ refs) : r = s ∨ r.Apart s := by
  by_cases he : r = s
  · exact Or.inl he
  · exact Or.inr (h.forall hr hs he)

namespace Labels

variable {l : Labels} {r q : Reference}

/-- The references whose targets are known, with the offsets of these. -/
def found (l : Labels) (refs : List Reference) : List Reference :=
  refs.filterMap fun r => (l.resolve r).toOption

theorem mem_found {refs : List Reference} :
    q ∈ l.found refs ↔ ∃ r ∈ refs, l.resolve r = .ok q := by
  unfold found
  rw [List.mem_filterMap]
  constructor
  · rintro ⟨r, hr, hq⟩
    cases hres : l.resolve r with
    | error e => simp [hres, Except.toOption] at hq
    | ok p =>
      rw [hres] at hq
      exact ⟨r, hr, hres ▸ congrArg Except.ok (Option.some.inj hq)⟩
  · rintro ⟨r, hr, hq⟩
    exact ⟨r, hr, by rw [hq]; rfl⟩

theorem found_cons_ok {refs : List Reference} (h : l.resolve r = .ok q) :
    l.found (r :: refs) = q :: l.found refs :=
  List.filterMap_cons_some (by rw [h]; rfl)

theorem found_append (refs refs' : List Reference) :
    l.found (refs ++ refs') = l.found refs ++ l.found refs' := List.filterMap_append

/-- All of a reference but the offset of its target is as it was recorded. -/
theorem resolve_same (h : l.resolve r = .ok q) :
    q.anchor = r.anchor ∧ q.rel = r.rel ∧ q.target = r.target ∧ q.addend = r.addend := by
  rcases resolve_eq_ok h with ⟨-, rfl⟩ | ⟨-, offset, -, rfl⟩
  · exact ⟨rfl, rfl, rfl, rfl⟩
  · exact ⟨rfl, rfl, rfl, rfl⟩

theorem resolve_field (h : l.resolve r = .ok q) : q.field = r.field ∧ q.fieldEnd = r.fieldEnd := by
  obtain ⟨hanchor, hrel, -⟩ := resolve_same h
  simp [Reference.fieldEnd, Reference.field, hanchor, hrel]

theorem resolve_congr {l' : Labels} (h : ∀ t, l'.lookup t = l.lookup t) (r : Reference) :
    l'.resolve r = l.resolve r := by
  unfold resolve
  rw [h]

theorem found_apart {refs : List Reference} (h : refs.Pairwise Reference.Apart) :
    (l.found refs).Pairwise Reference.Apart := by
  unfold found
  refine List.Pairwise.filterMap _ ?_ h
  intro r s hrs p hp q hq
  cases hr : l.resolve r with
  | error e => simp [hr, Except.toOption] at hp
  | ok p' =>
    cases hs : l.resolve s with
    | error e => simp [hs, Except.toOption] at hq
    | ok q' =>
      obtain rfl : p' = p := by simpa [hr, Except.toOption] using hp
      obtain rfl : q' = q := by simpa [hs, Except.toOption] using hq
      obtain ⟨hp, hpe⟩ := resolve_field hr
      obtain ⟨hq, hqe⟩ := resolve_field hs
      unfold Reference.Apart at hrs ⊢
      omega

end Labels

def recordedAt (stop : Nat) (us : List Use) : List Reference :=
  us.filterMap (Operation.reference? stop)

/-- A new reference that can be resolved at once: its target is known and is not the next binding
of a label. -/
structure Definite (l : Labels) (r : Reference) : Prop where
  unbound : r.bound = none
  backward : ∀ name, r.target ≠ .forward name
  found : ∃ q, l.resolve r = .ok q

namespace Modifier

variable {m m' : Modifier}

/-- One use resolved: its reference with the target found, written to its field. `pre` stands for
whatever is before the new code. -/
theorem resolve_resolves {pre code code' : Bytes} {u : Use} {q : Reference}
    (hpre : pre.length = m.cursor) (h : m.resolve code u = .ok (q, code')) :
    ∃ r, Operation.reference? (m.cursor + code.length) u = some r ∧ Definite m.labels r ∧
      m.labels.resolve r = .ok q ∧ Resolves m.base [q] (pre ++ code) (pre ++ code') := by
  have hin := (resolve_within h).field
  unfold resolve at h
  split at h
  · rename_i rel hvalid hrel
    simp only at h
    split at h
    · cases h
    split at h
    · cases h
    rename_i hforward
    obtain ⟨s, hs, h⟩ := bind_eq_ok h
    obtain ⟨p, hp, h⟩ := bind_eq_ok h
    obtain ⟨rfl, rfl⟩ := Prod.mk.inj (Except.ok.inj h)
    refine ⟨_, by rw [Operation.reference?, hrel]; rfl, ⟨rfl, ?_, s, hs⟩, hs, ?_⟩
    · intro name hname
      exact hforward name hname
    · have hfor : Patch.For code pre.length m.base [s] [p] := by
        rw [hpre]
        exact Patch.For.cons ⟨by simp, by simp⟩ (mapError_eq_ok hp)
      have hres := Resolves.of_patches hfor (by simpa [hpre] using hin)
      rwa [hpre] at hres
  · cases h

theorem resolveAll_found {code code' : Bytes} {us : List Use} {qs : List Reference}
    (h : m.resolveAll code us = .ok (qs, code')) :
    qs = m.labels.found (recordedAt (m.cursor + code.length) us) ∧
      ∀ r ∈ recordedAt (m.cursor + code.length) us, Definite m.labels r := by
  induction us generalizing code qs with
  | nil =>
    obtain ⟨rfl, -⟩ := Prod.mk.inj (Except.ok.inj h)
    exact ⟨rfl, by simp [recordedAt]⟩
  | cons u us ih =>
    obtain ⟨⟨q, code₁⟩, hq, h⟩ := bind_eq_ok h
    obtain ⟨⟨rest, code₂⟩, hrest, h⟩ := bind_eq_ok h
    obtain ⟨rfl, rfl⟩ := Prod.mk.inj (Except.ok.inj h)
    obtain ⟨r, hr, hdef, hres, -⟩ := resolve_resolves (List.length_replicate (a := 0)) hq
    obtain ⟨hqs, hall⟩ := ih hrest
    rw [(resolve_eq_ok hq).1] at hqs hall
    have hcons : recordedAt (m.cursor + code.length) (u :: us) =
        r :: recordedAt (m.cursor + code.length) us := List.filterMap_cons_some hr
    rw [hcons, Labels.found_cons_ok hres, ← hqs]
    refine ⟨rfl, ?_⟩
    intro s hs
    rcases List.mem_cons.mp hs with rfl | hs
    · exact hdef
    · exact hall s hs

theorem resolveAll_resolves {pre code code' : Bytes} {us : List Use} {qs : List Reference}
    (hpre : pre.length = m.cursor) (h : m.resolveAll code us = .ok (qs, code'))
    (hapart : qs.Pairwise Reference.Apart) : Resolves m.base qs (pre ++ code) (pre ++ code') := by
  induction us generalizing code qs with
  | nil =>
    obtain ⟨rfl, rfl⟩ := Prod.mk.inj (Except.ok.inj h)
    exact .refl ..
  | cons u us ih =>
    obtain ⟨⟨q, code₁⟩, hq, h⟩ := bind_eq_ok h
    obtain ⟨⟨rest, code₂⟩, hrest, h⟩ := bind_eq_ok h
    obtain ⟨rfl, rfl⟩ := Prod.mk.inj (Except.ok.inj h)
    obtain ⟨hhead, htail⟩ := List.pairwise_cons.mp hapart
    obtain ⟨r, -, -, -, hone⟩ := resolve_resolves hpre hq
    exact hone.trans (ih hrest htail) (by simpa using hhead)

end Modifier

namespace Assembler

variable {a b : Assembler} {l : Labels} {r q : Reference}

/-- A reference whose target is known is resolved at once, or put off and resolved to the same at
the commit. -/
theorem eager_or_postponed (hdef : Definite l r) (hq : l.resolve r = .ok q) :
    (eager? l r = some q ∧ postponed? l r = none ∧ q.baseDependent = false ∧
        ∃ name, q.target = .backward name) ∨
      (eager? l r = none ∧ (∃ p, postponed? l r = some p ∧ l.resolve p = .ok q) ∧
        ∀ name, q.target = .backward name → q.baseDependent = true) := by
  obtain ⟨-, hrel, htarget, -⟩ := Labels.resolve_same hq
  have hdep : q.baseDependent = r.baseDependent := by
    simp [Reference.baseDependent, hrel, htarget]
  unfold eager? postponed?
  cases ht : r.target with
  | forward name => exact absurd ht (hdef.backward name)
  | backward name =>
    obtain ⟨-, offset, ho, rfl⟩ :=
      (resolve_eq_ok hq).resolve_left (by simp [hdef.unbound, ht, Target.isExternal])
    have ho : l.locals.lookup name = some offset := by rwa [ht] at ho
    by_cases hb : r.baseDependent = true
    · refine Or.inr ⟨by simp [hb], ⟨{ r with bound := some offset }, ?_, ?_⟩, fun _ _ => ?_⟩
      · simp [hb, ho, ← ht]
      · simp [Labels.resolve]
      · exact hdep.trans hb
    · refine Or.inl ⟨?_, by simp [hb], ?_, name, ht⟩
      · simp [hb, ho, ← ht]
      · exact hdep.trans (Bool.eq_false_iff.mpr hb)
  | nowhere | global | dynamic | external =>
    refine Or.inr ⟨rfl, ⟨r, rfl, hq⟩, ?_⟩
    intro name hname
    rw [htarget, ht] at hname
    cases hname

theorem commit_managed {next : UInt64} (h : a.commit next = .ok b) :
    b.managed = a.managed ++ (a.labels.found a.pending).filter (·.baseDependent) := by
  have hc := whenOpen_eq_ok h
  split at hc
  · rename_i hnone
    simp only [Bool.and_eq_true, List.isEmpty_iff] at hnone
    obtain rfl := Except.ok.inj hc
    simp [hnone.1.2, Labels.found]
  · obtain ⟨refs, hrefs, hc⟩ := bind_eq_ok (mapError_eq_ok hc)
    obtain rfl : refs = a.labels.found a.pending := (lost_of_resolved hrefs).2
    simp only at hc
    split at hc
    · obtain ⟨code, -, hb⟩ := bind_eq_ok hc
      exact Except.ok.inj hb ▸ rfl
    · obtain ⟨code, -, hb⟩ := bind_eq_ok hc
      exact Except.ok.inj hb ▸ rfl

/-- What a commit writes: the pending references, and no others than those of code that moves. -/
theorem commit_writes (ha : a.InBounds) {next : UInt64} (hb : a.commit next = .ok b) :
    ∃ refs, Resolves b.base refs a.image b.memory.current.code ∧
      (∀ q ∈ refs, q ∈ a.managed ∨ q ∈ a.labels.found a.pending) ∧
      ∀ q ∈ a.labels.found a.pending, q ∈ refs := by
  obtain ⟨refs, moved, hc⟩ := commit_eq_ok hb
  obtain ⟨ps, hps, hcode⟩ := hc.code
  have hmoved : ∀ q ∈ moved, q ∈ a.managed := by
    intro q hq
    rcases hc.place with ⟨-, -, rfl⟩ | ⟨-, -, rfl⟩
    · cases hq
    · split at hq
      · cases hq
      · exact hq
  have hfound : ∀ q, q ∈ refs ↔ q ∈ a.labels.found a.pending := by
    intro q
    rw [Labels.mem_found]
    constructor
    · exact hc.made q
    · rintro ⟨r, hr, hq⟩
      obtain ⟨q', hq', hres⟩ := hc.complete r hr
      obtain rfl := Except.ok.inj (hq.symm.trans hres)
      exact hq'
  refine ⟨moved ++ refs, ?_, ?_, ?_⟩
  · rw [hcode]
    refine Resolves.of_all_patches hps ?_
    intro q hq
    rw [a.length_image]
    rcases List.mem_append.mp hq with hq | hq
    · exact Nat.le_trans ((ha.managed q (hmoved q hq)).field).2 (Nat.le_add_right _ _)
    · obtain ⟨r, hr, hres⟩ := hc.made q hq
      rw [(Labels.resolve_field hres).2]
      exact ((ha.pending r hr).field).2
  · intro q hq
    rcases List.mem_append.mp hq with hq | hq
    · exact Or.inl (hmoved q hq)
    · exact Or.inr ((hfound q).mp hq)
  · intro q hq
    exact List.mem_append_right _ ((hfound q).mpr hq)

theorem found_postponed {refs : List Reference} (hall : ∀ r ∈ refs, Definite l r) :
    (l.found (refs.filterMap (postponed? l))).filter (·.baseDependent) =
      (l.found refs).filter (·.baseDependent) := by
  induction refs with
  | nil => rfl
  | cons r refs ih =>
    have hdef := hall r (List.mem_cons_self ..)
    obtain ⟨q, hq⟩ := hdef.found
    have hrest := ih fun s hs => hall s (List.mem_cons_of_mem _ hs)
    rw [Labels.found_cons_ok hq]
    rcases eager_or_postponed hdef hq with ⟨-, hnone, hdep, -⟩ | ⟨-, ⟨p, hp, hpq⟩, -⟩
    · rw [List.filterMap_cons_none hnone, List.filter_cons_of_neg (by simp [hdep]), hrest]
    · rw [List.filterMap_cons_some hp, Labels.found_cons_ok hpq, List.filter_cons, List.filter_cons,
        hrest]

end Assembler

namespace Modifier

/-- The references of new code at the cursor, as they are recorded. -/
def recorded (m : Modifier) (c : Code) : List Reference :=
  recordedAt (m.cursor + c.code.length) c.refs

def meant (m : Modifier) (c : Code) : List Reference := m.labels.found (m.recorded c)

end Modifier

/-- Code is to be written over the bytes at the cursor of a modifier, or to be appended at the
same offset of an assembler whose labels are bound to the same offsets, and to be committed at the
same base address. The fields of its references have no byte in common. -/
structure SamePlace (m : Modifier) (a : Assembler) (c : Code) (next : UInt64) : Prop where
  cursor : m.cursor = a.offset
  lookup : ∀ t, m.labels.lookup t = a.labels.lookup t
  base : m.base = if a.memory.hasRoom (a.scratch.length + c.code.length) then a.base else next
  apart : (m.recorded c).Pairwise Reference.Apart

namespace SamePlace

variable {m m' : Modifier} {a a₁ b : Assembler} {c : Code} {next : UInt64} {q : Reference}

theorem resolve (hp : SamePlace m a c next) (r : Reference) :
    a.labels.resolve r = m.labels.resolve r :=
  Labels.resolve_congr (fun t => (hp.lookup t).symm) r

theorem definite (hp : SamePlace m a c next) {r : Reference} (h : Definite m.labels r) :
    Definite a.labels r := by
  obtain ⟨hunbound, hbackward, q, hq⟩ := h
  exact ⟨hunbound, hbackward, q, (hp.resolve r).trans hq⟩

structure Appended (m : Modifier) (a : Assembler) (c : Code) (a₁ : Assembler) : Prop where
  stage : a₁.stage = a.stage
  memory : a₁.memory = a.memory
  managed : a₁.managed = a.managed
  waiting : a₁.labels.waiting = a.labels.waiting ++ (m.recorded c).filterMap Assembler.waiting?
  length : a₁.scratch.length = a.scratch.length + c.code.length
  resolve : ∀ r, a₁.labels.resolve r = m.labels.resolve r
  pending : a₁.pending = a.pending ++ (m.recorded c).filterMap (Assembler.postponed? a.labels)
  resolves : Resolves 0 ((m.recorded c).filterMap (Assembler.eager? a.labels)) (a.image ++ c.code)
    a₁.image

theorem appended (hp : SamePlace m a c next) (h₁ : a.append c = .ok a₁) : Appended m a c a₁ := by
  have hrefs : c.refs.filterMap (Operation.reference? (a.offset + c.code.length)) =
      m.recorded c := by
    rw [Modifier.recorded, hp.cursor]
    rfl
  have hres := Tracks.append_resolves h₁ hrefs
  obtain ⟨-, ps, -, rfl⟩ := Assembler.append_eq_ok h₁ hrefs
  refine ⟨rfl, rfl, rfl, rfl, ?_, ?_, rfl, hres⟩
  · have hlen := hres.length
    simp only [Assembler.image, List.length_append] at hlen
    change (Patch.applyAll ps (a.scratch ++ c.code) a.committed).length = _
    omega
  · intro r
    rw [← hp.resolve]
    refine Labels.resolve_congr (fun t => ?_) r
    cases t <;> rfl

theorem nextBase (hp : SamePlace m a c next) (h₁ : Appended m a c a₁) :
    a₁.nextBase next = m.base := by
  rw [Assembler.nextBase, Assembler.base, h₁.memory, h₁.length, hp.base]
  rfl

/-- The references of the new code are those that are resolved at once and those that are put
off and resolved at the commit. -/
theorem mem_meant (hp : SamePlace m a c next) (h₁ : Appended m a c a₁)
    (hall : ∀ r ∈ m.recorded c, Definite m.labels r) :
    q ∈ m.meant c ↔ q ∈ (m.recorded c).filterMap (Assembler.eager? a.labels) ∨
      q ∈ a₁.labels.found ((m.recorded c).filterMap (Assembler.postponed? a.labels)) := by
  rw [Modifier.meant, Labels.mem_found, Labels.mem_found, List.mem_filterMap]
  constructor
  · rintro ⟨r, hr, hq⟩
    rcases Assembler.eager_or_postponed (hp.definite (hall r hr)) ((hp.resolve r).trans hq) with
      ⟨heager, -⟩ | ⟨-, ⟨p, hpost, hpq⟩, -⟩
    · exact Or.inl ⟨r, hr, heager⟩
    · refine Or.inr ⟨p, List.mem_filterMap.mpr ⟨r, hr, hpost⟩, ?_⟩
      rw [h₁.resolve, ← hp.resolve, hpq]
  · rintro (⟨r, hr, heager⟩ | ⟨p, hpost, hpq⟩)
    · obtain ⟨q', hq'⟩ := (hall r hr).found
      refine ⟨r, hr, ?_⟩
      rcases Assembler.eager_or_postponed (hp.definite (hall r hr)) ((hp.resolve r).trans hq') with
        ⟨heager', -⟩ | ⟨hnone, -⟩
      · obtain rfl := Option.some.inj (heager'.symm.trans heager)
        exact hq'
      · rw [hnone] at heager
        cases heager
    · obtain ⟨r, hr, hpost⟩ := List.mem_filterMap.mp hpost
      obtain ⟨q', hq'⟩ := (hall r hr).found
      refine ⟨r, hr, ?_⟩
      rcases Assembler.eager_or_postponed (hp.definite (hall r hr)) ((hp.resolve r).trans hq') with
        ⟨-, hnone, -⟩ | ⟨-, ⟨p', hpost', hpq'⟩, -⟩
      · rw [hnone] at hpost
        cases hpost
      · obtain rfl := Option.some.inj (hpost'.symm.trans hpost)
        rw [h₁.resolve, ← hp.resolve, hpq'] at hpq
        rw [← Except.ok.inj hpq]
        exact hq'

theorem eager_ne_postponed (hp : SamePlace m a c next) (h₁ : Appended m a c a₁)
    (hall : ∀ r ∈ m.recorded c, Definite m.labels r)
    (hq : q ∈ (m.recorded c).filterMap (Assembler.eager? a.labels)) :
    q.baseDependent = false ∧
      q ∉ a₁.labels.found ((m.recorded c).filterMap (Assembler.postponed? a.labels)) := by
  obtain ⟨r, hr, heager⟩ := List.mem_filterMap.mp hq
  obtain ⟨q', hq'⟩ := (hall r hr).found
  rcases Assembler.eager_or_postponed (hp.definite (hall r hr)) ((hp.resolve r).trans hq') with
    ⟨heager', -, hdep, name, hname⟩ | ⟨hnone, -⟩
  · obtain rfl := Option.some.inj (heager'.symm.trans heager)
    refine ⟨hdep, ?_⟩
    intro hlate
    obtain ⟨p, hpost, hpq⟩ := Labels.mem_found.mp hlate
    obtain ⟨s, hs, hpost⟩ := List.mem_filterMap.mp hpost
    obtain ⟨t, ht⟩ := (hall s hs).found
    rcases Assembler.eager_or_postponed (hp.definite (hall s hs)) ((hp.resolve s).trans ht) with
      ⟨-, hnone, -⟩ | ⟨-, ⟨p', hpost', hpq'⟩, hback⟩
    · rw [hnone] at hpost
      cases hpost
    · obtain rfl := Option.some.inj (hpost'.symm.trans hpost)
      rw [h₁.resolve, ← hp.resolve, hpq'] at hpq
      obtain rfl := Except.ok.inj hpq
      rw [hback name hname] at hdep
      cases hdep
  · rw [hnone] at heager
    cases heager

theorem code_eq (hp : SamePlace m a c next) (ha : a.InBounds) (h₁ : a.append c = .ok a₁)
    (hb : a₁.commit next = .ok b) (hall : ∀ r ∈ m.recorded c, Definite m.labels r) {data : Bytes}
    (hin : ∀ q ∈ m.meant c, m.cursor ≤ q.field)
    (hdata : Resolves m.base (m.meant c) (a.image ++ c.code) (a.image ++ data)) {i : Nat}
    (hi : m.cursor ≤ i) : (a.image ++ data)[i]? = b.memory.current.code[i]? := by
  have happ := hp.appended h₁
  have hmeant := fun q => hp.mem_meant (q := q) happ hall
  obtain ⟨refs, hlater, hmade, hcomplete⟩ := Assembler.commit_writes (ha.append h₁) hb
  rw [(Assembler.base_of_commit (ha.append h₁) hb).trans (hp.nextBase happ)] at hlater
  -- Whatever else the commit writes lies before the new code.
  have hold : ∀ q ∈ refs, q.fieldEnd ≤ m.cursor ∨
      q ∈ a₁.labels.found ((m.recorded c).filterMap (Assembler.postponed? a.labels)) := by
    intro q hq
    rcases hmade q hq with hq | hq
    · left
      rw [hp.cursor]
      exact Nat.le_trans ((ha.managed q (happ.managed ▸ hq)).field).2 (Nat.le_add_right ..)
    · obtain ⟨r, hr, hres⟩ := Labels.mem_found.mp hq
      rw [happ.pending] at hr
      rcases List.mem_append.mp hr with hr | hr
      · left
        rw [hp.cursor, (Labels.resolve_field hres).2]
        exact ((ha.pending r hr).field).2
      · exact Or.inr (Labels.mem_found.mpr ⟨r, hr, hres⟩)
  have hnew : ∀ q ∈ a₁.labels.found ((m.recorded c).filterMap (Assembler.postponed? a.labels)),
      q ∈ refs := by
    intro q hq
    obtain ⟨r, hr, hres⟩ := Labels.mem_found.mp hq
    refine hcomplete q (Labels.mem_found.mpr ⟨r, ?_, hres⟩)
    rw [happ.pending]
    exact List.mem_append_right _ hr
  have hapart : (m.meant c).Pairwise Reference.Apart := Labels.found_apart hp.apart
  have heager := happ.resolves.rebase (fun q hq => (hp.eager_ne_postponed happ hall hq).1) m.base
  have hboth := heager.trans hlater (by
    intro q hq s hs
    have hqm := (hmeant q).mpr (Or.inl hq)
    rcases hold s hs with hend | hs
    · exact Or.inr (Nat.le_trans hend (hin q hqm))
    · refine (eq_or_apart hapart hqm ((hmeant s).mpr (Or.inr hs))).resolve_left ?_
      rintro rfl
      exact (hp.eager_ne_postponed happ hall hq).2 hs)
  refine hdata.getElem?_congr hboth ?_ ?_
  · intro q hc
    rw [hmeant, List.mem_append]
    refine or_congr_right ⟨hnew q, ?_⟩
    intro hq
    refine (hold q hq).resolve_left ?_
    intro hend
    have hlt := hc.2
    omega
  · intro q hq s hs hqc hsc
    exact (eq_or_apart hapart hq hs).resolve_right fun hne => hne.not_covers hqc hsc

/-- The bytes are the same, and so are the references that are kept up. -/
theorem append_eq (hp : SamePlace m a c next) (ha : a.InBounds) (hm : m.append c = .ok m')
    (h₁ : a.append c = .ok a₁) (hb : a₁.commit next = .ok b) :
    m'.code.slice m.cursor c.code.length = b.memory.current.code.slice m.cursor c.code.length ∧
      m'.added = m.added ++ (m.meant c).filter (·.baseDependent) ∧
      b.managed = a.managed ++ (a.labels.found a.pending).filter (·.baseDependent) ++
        (m.meant c).filter (·.baseDependent) := by
  obtain ⟨x, hx, hm⟩ := bind_eq_ok hm
  obtain ⟨⟨qs, data⟩, hall, hm⟩ := bind_eq_ok hm
  obtain rfl := Except.ok.inj hm
  have hroom := Modifier.checkRoom_eq_ok hx
  obtain ⟨hlen, hfields⟩ := Modifier.resolveAll_eq_ok hall
  have hpre : a.image.length = m.cursor := a.length_image.trans hp.cursor.symm
  obtain ⟨hqs, hdef⟩ := Modifier.resolveAll_found hall
  obtain rfl : qs = m.meant c := hqs
  have hdata := Modifier.resolveAll_resolves hpre hall (Labels.found_apart hp.apart)
  refine ⟨?_, rfl, ?_⟩
  · -- Both stretches are the new code with its references resolved.
    apply Bytes.slice_congr
    intro i hlo hhi
    rw [← hp.code_eq ha h₁ hb hdef (fun q hq => (hfields q hq).1) hdata hlo]
    have hput : (m.code.overwrite m.cursor data)[i]? = data[i - m.cursor]? := by
      rw [Bytes.getElem?_overwrite (by omega), if_pos ⟨hlo, by omega⟩]
    rw [List.getElem?_append_right (by omega), hpre]
    exact hput
  · have happ := hp.appended h₁
    have hfound : ∀ refs, a₁.labels.found refs = a.labels.found refs := by
      intro refs
      exact List.filterMap_congr fun r _ => by rw [happ.resolve, hp.resolve]
    have hmeant : m.meant c = a.labels.found (m.recorded c) :=
      List.filterMap_congr fun r _ => by rw [hp.resolve]
    have hlate : (a.labels.found
        ((m.recorded c).filterMap (Assembler.postponed? a.labels))).filter (·.baseDependent) =
          (a.labels.found (m.recorded c)).filter (·.baseDependent) :=
      Assembler.found_postponed fun r hr => hp.definite (hdef r hr)
    rw [Assembler.commit_managed hb, happ.managed, hfound, happ.pending, Labels.found_append,
      List.filter_append, List.append_assoc, hmeant, hlate]

end SamePlace

def Reference.refusal? (base : UInt64) (q : Reference) : Option Error :=
  (q.rel.fault? (q.value base)).map fun f => .unwritable q.target q.field f (q.value base)

theorem Reference.refusal?_congr {q : Reference} (h : q.baseDependent = false) (b c : UInt64) :
    q.refusal? b = q.refusal? c := by
  unfold refusal?
  rw [value_of_not_baseDependent h b c]

theorem Reference.rejection?_eq {code : Bytes} {base : UInt64} {q : Reference}
    (h : q.fieldEnd ≤ code.length) : q.rejection? code base = q.refusal? base := by
  have hslice := Bytes.length_slice code q.field q.rel.size h
  unfold rejection? refusal?
  cases hw : q.rel.write (code.slice q.field q.rel.size) (q.value base) with
  | ok data =>
    rw [Relocation.fault?_of_ok hslice hw]
    rfl
  | error f =>
    rw [Relocation.fault?_of_error hslice hw]
    rfl

theorem Resolves.refusal?_eq_none {base : UInt64} {refs : List Reference} {x y : Bytes}
    (h : Resolves base refs x y) {q : Reference} (hq : q ∈ refs) (hin : q.fieldEnd ≤ x.length) :
    q.refusal? base = none := by
  obtain ⟨data, hw⟩ := h.accepted q hq
  unfold Reference.refusal?
  rw [Relocation.fault?_of_ok (Bytes.length_slice x q.field q.rel.size hin) hw]
  rfl

theorem Assembler.patch_cases (code : Bytes) {lo : Nat} (base : UInt64) {q : Reference}
    (hlow : lo ≤ q.field) (hhigh : q.fieldEnd ≤ lo + code.length) :
    (∃ p, patch code lo base q = .ok p ∧ q.refusal? base = none) ∨
      ∃ e, patch code lo base q = .error e ∧ q.refusal? base = some e := by
  have hslice : (code.slice (q.field - lo) q.rel.size).length = q.rel.size := by
    unfold Reference.fieldEnd at hhigh
    exact Bytes.length_slice _ _ _ (by omega)
  unfold patch Patch.ofReference Reference.refusal?
  cases hw : q.rel.write (code.slice (q.field - lo) q.rel.size) (q.value base) with
  | ok data => exact Or.inl ⟨_, rfl, by rw [Relocation.fault?_of_ok hslice hw]; rfl⟩
  | error f => exact Or.inr ⟨_, rfl, by rw [Relocation.fault?_of_error hslice hw]; rfl⟩

namespace Modifier

variable {m : Modifier} {n : Nat} {u : Use} {r q : Reference}

structure Admits (m : Modifier) (n : Nat) (u : Use) (r : Reference) : Prop where
  reference : Operation.reference? (m.cursor + n) u = some r
  valid : u.target.isValid = true
  within : r.fieldWithin m.cursor = true
  definite : Definite m.labels r

theorem Admits.resolve_cases {code : Bytes} (h : m.Admits code.length u r)
    (hq : m.labels.resolve r = .ok q) :
    (∃ code', m.resolve code u = .ok (q, code') ∧ q.refusal? m.base = none) ∨
      ∃ e, m.resolve code u = .error e ∧ q.refusal? m.base = some e := by
  obtain ⟨target, addend, rel?⟩ := u
  obtain ⟨href, hvalid, hwithin, hdef⟩ := h
  cases rel? with
  | none => cases href
  | some rel =>
    obtain rfl := Option.some.inj href
    obtain ⟨hlow, hhigh⟩ := Assembler.field_bounds hwithin
    obtain ⟨hfield, hend⟩ := Labels.resolve_field hq
    have hvalid : target.isValid = true := hvalid
    have hresolve : m.resolve code ⟨target, addend, some rel⟩ = (do
        let p ← Assembler.patch code m.cursor m.base q
        return (q, code.overwrite (p.offset - m.cursor) p.data)) := by
      have hin : ({ anchor := m.cursor + code.length, target, addend, rel } :
          Reference).fieldWithin m.cursor = true := hwithin
      unfold resolve
      simp only [hvalid, hin, Bool.not_true, Bool.false_eq_true, if_false]
      split
      · exact absurd rfl (hdef.backward _)
      · rw [hq, ok_bind]
    rw [hresolve]
    rcases Assembler.patch_cases code m.base (hfield ▸ hlow) (hend ▸ hhigh) with
      ⟨p, hp, hnone⟩ | ⟨e, he, hsome⟩
    · exact Or.inl ⟨_, by rw [hp]; rfl, hnone⟩
    · exact Or.inr ⟨e, by rw [he]; rfl, hsome⟩

/-- Uses that are in order fail for the first value that is refused, and for nothing else. -/
theorem resolveAll_cases {code : Bytes} {us : List Use}
    (h : ∀ u ∈ us, ∃ r, m.Admits code.length u r) :
    (∃ x, m.resolveAll code us = .ok x ∧
        ∀ q ∈ m.labels.found (recordedAt (m.cursor + code.length) us), q.refusal? m.base = none) ∨
      ∃ q ∈ m.labels.found (recordedAt (m.cursor + code.length) us), ∃ e,
        q.refusal? m.base = some e ∧ m.resolveAll code us = .error e := by
  induction us generalizing code with
  | nil => exact Or.inl ⟨_, rfl, by simp [recordedAt, Labels.found]⟩
  | cons u us ih =>
    obtain ⟨r, hadm⟩ := h u (List.mem_cons_self ..)
    obtain ⟨q, hq⟩ := hadm.definite.found
    have hcons : m.labels.found (recordedAt (m.cursor + code.length) (u :: us)) =
        q :: m.labels.found (recordedAt (m.cursor + code.length) us) := by
      rw [← Labels.found_cons_ok hq]
      exact congrArg _ (List.filterMap_cons_some hadm.reference)
    rw [hcons, resolveAll]
    rcases hadm.resolve_cases hq with ⟨code', hcode', hnone⟩ | ⟨e, he, hsome⟩
    · have hlen := (resolve_eq_ok hcode').1
      have hrest := @ih code' fun v hv => hlen ▸ h v (List.mem_cons_of_mem _ hv)
      rw [hlen] at hrest
      rw [hcode', ok_bind]
      rcases hrest with ⟨x, hx, hall⟩ | ⟨q', hq', e, hsome, he⟩
      · refine Or.inl ⟨_, by simp only [hx]; rfl, ?_⟩
        intro s hs
        rcases List.mem_cons.mp hs with rfl | hs
        · exact hnone
        · exact hall s hs
      · exact Or.inr ⟨q', List.mem_cons_of_mem _ hq', e, hsome, by simp only [he]; rfl⟩
    · exact Or.inr ⟨q, List.mem_cons_self .., e, hsome, by rw [he]; rfl⟩

/-- Overwriting is refused for a value that a field does not take. -/
def Refuses (m : Modifier) (c : Code) : Prop :=
  ∃ q ∈ m.meant c, ∃ e, q.refusal? m.base = some e ∧ m.append c = .error e

theorem refuses_iff {c : Code} (hopen : m.closed = false)
    (hroom : m.cursor + c.code.length ≤ m.code.length)
    (h : ∀ u ∈ c.refs, ∃ r, m.Admits c.code.length u r) :
    m.Refuses c ↔ ∃ q ∈ m.meant c, q.refusal? m.base ≠ none := by
  have hcheck : m.checkRoom c.code.length = .ok () := by
    rw [checkRoom, hopen, if_neg (by simp), if_neg (by omega)]
  have hcases := resolveAll_cases h
  constructor
  · rintro ⟨q, hq, e, he, -⟩
    exact ⟨q, hq, by simp [he]⟩
  · rintro ⟨q, hq, hsome⟩
    rcases hcases with ⟨x, -, hnone⟩ | ⟨q', hq', e, he, herr⟩
    · exact absurd (hnone q hq) hsome
    · exact ⟨q', hq', e, he, by rw [append, hcheck, ok_bind, herr]; rfl⟩

end Modifier

namespace Assembler

variable {a a₁ : Assembler} {scratch : Bytes} {u : Use} {r q : Reference}

/-- A use that is in order and whose target is known fails only for a value that is refused. -/
theorem Admits.record_refused {e : Error} (h : a.Admits scratch u r) (hdef : Definite a.labels r)
    (hq : a.labels.resolve r = .ok q) (he : a.record scratch u = .error e) :
    q.baseDependent = false ∧ q.refusal? 0 = some e := by
  obtain ⟨-, hrel, htarget, -⟩ := Labels.resolve_same hq
  obtain ⟨hlow, hhigh⟩ := field_bounds h.within
  obtain ⟨hfield, hend⟩ := Labels.resolve_field hq
  have hanchor : r.anchor = a.committed + scratch.length := by
    obtain ⟨rel, -, rfl⟩ := Option.map_eq_some_iff.mp h.reference
    rfl
  rw [h.record_eq] at he
  unfold settle at he
  split at he
  · cases he
  · rw [hq, ok_bind] at he
    split at he
    · cases he
    · rename_i hdep
      refine ⟨Bool.eq_false_iff.mpr hdep, ?_⟩
      rcases patch_cases scratch 0 (hfield ▸ hlow) (by rw [hend, ← hanchor]; exact hhigh)
        with ⟨p, hp, -⟩ | ⟨e', hp, hsome⟩
      · rw [hp] at he
        cases he
      · rw [hp] at he
        obtain rfl : e' = e := Except.error.inj he
        exact hsome
  · cases he

theorem append_eq_error {c : Code} {f : Failure} (hopen : a.isOpen = true)
    (hf : a.append c = .error f) :
    ∃ u ∈ c.refs, ∃ e, f = .one e ∧ a.record (a.scratch ++ c.code) u = .error e := by
  rw [append, whenOpen, if_pos hopen] at hf
  simp only at hf
  split at hf
  · rename_i e he
    obtain ⟨u, hu, he⟩ := error_of_mapM he
    exact ⟨u, hu, e, (Except.error.inj hf).symm, he⟩
  · cases hf

def Refuses (a : Assembler) (m : Modifier) (c : Code) (next : UInt64) : Prop :=
  ∃ q ∈ m.meant c, ∃ e, q.refusal? m.base = some e ∧ (a.append c = .error (.one e) ∨
    ∃ a₁ es, a.append c = .ok a₁ ∧ a₁.commit next = .error (.many es) ∧ e ∈ es)

end Assembler

/-- All is in order but for values that fields may not take: the alteration is not over and the
code fits, the assembler is open and nothing in it waits for a label, and the uses of the code
have targets that are known and fields inside the code. -/
structure InOrder (m : Modifier) (a : Assembler) (c : Code) : Prop where
  notClosed : m.closed = false
  room : m.cursor + c.code.length ≤ m.code.length
  isOpen : a.isOpen = true
  lost : a.lost = []
  admits : ∀ u ∈ c.refs, ∃ r, m.Admits c.code.length u r

namespace SamePlace

variable {m : Modifier} {a a₁ b : Assembler} {c : Code} {next : UInt64} {q : Reference}

theorem definite_recorded (ho : InOrder m a c) {r : Reference} (hr : r ∈ m.recorded c) :
    Definite m.labels r := by
  obtain ⟨u, hu, href⟩ := List.mem_filterMap.mp hr
  obtain ⟨r', hadm⟩ := ho.admits u hu
  obtain rfl := Option.some.inj (hadm.reference.symm.trans href)
  exact hadm.definite

theorem meant_field (ho : InOrder m a c) (hq : q ∈ m.meant c) :
    m.cursor ≤ q.field ∧ q.fieldEnd ≤ m.cursor + c.code.length := by
  obtain ⟨r, hr, hres⟩ := Labels.mem_found.mp hq
  obtain ⟨u, hu, href⟩ := List.mem_filterMap.mp hr
  obtain ⟨r', hadm⟩ := ho.admits u hu
  obtain rfl := Option.some.inj (hadm.reference.symm.trans href)
  have hanchor : r'.anchor = m.cursor + c.code.length := by
    obtain ⟨rel, -, rfl⟩ := Option.map_eq_some_iff.mp href
    rfl
  obtain ⟨hfield, hend⟩ := Labels.resolve_field hres
  rw [hfield, hend, ← hanchor]
  exact Assembler.field_bounds hadm.within

theorem lost_appended (hp : SamePlace m a c next) (ho : InOrder m a c)
    (h₁ : Appended m a c a₁) : a₁.lost = [] := by
  obtain ⟨hwaiting, hpending⟩ := List.append_eq_nil_iff.mp ho.lost
  refine List.append_eq_nil_iff.mpr ⟨?_, ?_⟩
  · rw [h₁.waiting, hwaiting, List.nil_append, List.filterMap_eq_nil_iff]
    intro r hr
    unfold Assembler.waiting?
    split
    · rename_i name hname
      exact absurd hname ((definite_recorded ho hr).backward name)
    · rfl
  · rw [List.filter_eq_nil_iff]
    intro r hr hlost
    have herror := Labels.resolve_of_lost hlost
    rw [h₁.resolve, ← hp.resolve] at herror
    rw [h₁.pending] at hr
    rcases List.mem_append.mp hr with hr | hr
    · cases hl : a.labels.lost r with
      | true =>
        have hmem := List.mem_filter.mpr ⟨hr, hl⟩
        rw [hpending] at hmem
        cases hmem
      | false =>
        obtain ⟨q, hq⟩ := Labels.resolve_of_not_lost hl
        rw [hq] at herror
        cases herror
    · obtain ⟨s, hs, hpost⟩ := List.mem_filterMap.mp hr
      have hdef := hp.definite (definite_recorded ho hs)
      obtain ⟨q, hq⟩ := hdef.found
      rcases Assembler.eager_or_postponed hdef hq with ⟨-, hnone, -⟩ | ⟨-, ⟨p, hpost', hpq⟩, -⟩
      · rw [hnone] at hpost
        cases hpost
      · obtain rfl := Option.some.inj (hpost'.symm.trans hpost)
        rw [hpq] at herror
        cases herror

theorem refused_of_append (hp : SamePlace m a c next) (ho : InOrder m a c) {f : Failure}
    (hf : a.append c = .error f) :
    ∃ q ∈ m.meant c, ∃ e, q.refusal? m.base = some e ∧ f = .one e := by
  obtain ⟨u, hu, e, rfl, he⟩ := Assembler.append_eq_error ho.isOpen hf
  obtain ⟨r, hadm⟩ := ho.admits u hu
  obtain ⟨q, hq⟩ := hadm.definite.found
  have hstop : a.committed + (a.scratch ++ c.code).length = m.cursor + c.code.length := by
    rw [hp.cursor, List.length_append, ← Nat.add_assoc]
    rfl
  have hwithin : r.fieldWithin a.committed = true := by
    have hin := hadm.within
    have hle : a.committed ≤ m.cursor := hp.cursor ▸ Nat.le_add_right ..
    simp only [Reference.fieldWithin, Bool.and_eq_true, decide_eq_true_eq] at hin ⊢
    omega
  have hadm' : a.Admits (a.scratch ++ c.code) u r :=
    ⟨hstop ▸ hadm.reference, hadm.valid, hwithin⟩
  obtain ⟨hdep, hsome⟩ :=
    hadm'.record_refused (hp.definite hadm.definite) ((hp.resolve r).trans hq) he
  refine ⟨q, Labels.mem_found.mpr ⟨r, ?_, hq⟩, e, ?_, rfl⟩
  · exact List.mem_filterMap.mpr ⟨u, hu, hadm.reference⟩
  · exact (Reference.refusal?_congr hdep m.base 0).trans hsome

theorem refuses_of_refusal (hp : SamePlace m a c next) (ha : a.InBounds) (ho : InOrder m a c)
    (hq : q ∈ m.meant c) (hsome : q.refusal? m.base ≠ none) : a.Refuses m c next := by
  cases h₁ : a.append c with
  | error f =>
    obtain ⟨p, hpm, e, he, rfl⟩ := hp.refused_of_append ho h₁
    exact ⟨p, hpm, e, he, Or.inl h₁⟩
  | ok a₁ =>
    have happ := hp.appended h₁
    have hend := (meant_field ho hq).2
    have hlen : a₁.image.length = m.cursor + c.code.length := by
      rw [happ.resolves.length, List.length_append, a.length_image, hp.cursor]
    rw [← hlen] at hend
    rcases (hp.mem_meant happ fun r hr => definite_recorded ho hr).mp hq with heager | hlate
    · -- What is resolved at once is accepted at no address, and so at every address.
      have hdep := (hp.eager_ne_postponed happ (fun r hr => definite_recorded ho hr) heager).1
      have hnone := happ.resolves.refusal?_eq_none heager (happ.resolves.length ▸ hend)
      exact absurd ((Reference.refusal?_congr hdep m.base 0).trans hnone) hsome
    · have hpending : q ∈ a₁.labels.found a₁.pending := by
        rw [happ.pending, Labels.found_append]
        exact List.mem_append_right _ hlate
      cases h₂ : a₁.commit next with
      | ok b =>
        obtain ⟨refs, hres, -, hcomplete⟩ := Assembler.commit_writes (ha.append h₁) h₂
        rw [(Assembler.base_of_commit (ha.append h₁) h₂).trans (hp.nextBase happ)] at hres
        exact absurd (hres.refusal?_eq_none (hcomplete q hpending) hend) hsome
      | error f =>
        obtain ⟨e, he⟩ := Option.ne_none_iff_exists'.mp hsome
        refine ⟨q, hq, e, he, Or.inr ?_⟩
        rcases Assembler.commit_eq_error h₂ with ⟨hclosed, -⟩ | ⟨-, hreports⟩
        · rw [Assembler.isOpen, happ.stage] at hclosed
          exact absurd ho.isOpen (by simp [Assembler.isOpen, hclosed])
        cases hreports with
        | lost hlost => exact absurd (hp.lost_appended ho happ) hlost
        | rejected _ _ hes =>
          refine ⟨a₁, _, h₁, h₂, ?_⟩
          rw [hes, hp.nextBase happ]
          refine List.mem_filterMap.mpr ⟨q, List.mem_append_right _ hpending, ?_⟩
          exact (Reference.rejection?_eq hend).trans he

theorem refuses_iff (hp : SamePlace m a c next) (ha : a.InBounds) (ho : InOrder m a c) :
    m.Refuses c ↔ a.Refuses m c next := by
  rw [Modifier.refuses_iff ho.notClosed ho.room ho.admits]
  constructor
  · rintro ⟨q, hq, hsome⟩
    exact hp.refuses_of_refusal ha ho hq hsome
  · rintro ⟨q, hq, e, he, -⟩
    exact ⟨q, hq, by simp [he]⟩

end SamePlace

/-- Overwriting committed code comes to the same as appending and committing. -/
structure Interchangeable (m : Modifier) (a : Assembler) (c : Code) (next : UInt64) : Prop where
  agrees : ∀ m' a₁ b, m.append c = .ok m' → a.append c = .ok a₁ → a₁.commit next = .ok b →
    m'.code.slice m.cursor c.code.length = b.memory.current.code.slice m.cursor c.code.length ∧
      m'.added = m.added ++ (m.meant c).filter (·.baseDependent) ∧
      b.managed = a.managed ++ (a.labels.found a.pending).filter (·.baseDependent) ++
        (m.meant c).filter (·.baseDependent)
  refuses_iff : InOrder m a c → (m.Refuses c ↔ a.Refuses m c next)

theorem overwriting_agrees_with_appending (capacity : Nat) (ops : List Operation) {m : Modifier}
    {c : Code} {next : UInt64}
    (hp : SamePlace m ((Session.start capacity).run ops).assembler c next) :
    Interchangeable m ((Session.start capacity).run ops).assembler c next := by
  have ha := ((Live.follows_start capacity).run ops).bounds
  constructor
  · intro m' a₁ b hm h₁ hb
    exact hp.append_eq ha hm h₁ hb
  · intro ho
    exact hp.refuses_iff ha ho

def labelledOps (rest : Bytes) : List Operation :=
  [.globalLabel "start", .extend (List.replicate 200 0), .localLabel "loop", .extend rest,
    .commit 0x1000]

def threeFields : Code :=
  ⟨List.replicate 16 0, [⟨.global "start", 0, some (.x86 ⟨8, 8, .absToRel⟩)⟩,
    ⟨.backward "loop", 0, some (.x86 ⟨4, 4, .relative⟩)⟩,
    ⟨.external 0x5000, 0, some (.x86 ⟨0, 4, .relative⟩)⟩]⟩

def shortJump : Code := ⟨[0], [⟨.global "start", 0, some (.x86 ⟨0, 1, .relative⟩)⟩]⟩

def labelled : Assembler := ((Session.start 4096).run (labelledOps [])).assembler

def labelledModifier : Modifier :=
  { ((Session.start 4096).run (labelledOps (List.replicate 16 1))).assembler.modifier with
    cursor := 200 }

theorem samePlace_labelled {c : Code} (hroom : c.code.length ≤ 16)
    (hapart : (labelledModifier.recorded c).Pairwise Reference.Apart) :
    SamePlace labelledModifier labelled c 0x9000 := by
  have hlabels : labelledModifier.labels = labelled.labels := by decide +kernel
  have hbase : labelledModifier.base = labelled.base := by decide +kernel
  have hmem : labelled.memory.hasRoom (labelled.scratch.length + 16) = true := by decide +kernel
  refine ⟨by decide +kernel, fun t => by rw [hlabels], ?_, hapart⟩
  have hfits : labelled.memory.hasRoom (labelled.scratch.length + c.code.length) = true := by
    simp only [Memory.hasRoom, decide_eq_true_eq] at hmem ⊢
    omega
  rw [hfits, hbase]
  rfl

theorem inOrder_shortJump : InOrder labelledModifier labelled shortJump where
  notClosed := by decide +kernel
  room := by decide +kernel
  isOpen := by decide +kernel
  lost := by decide +kernel
  admits := by
    intro u hu
    obtain rfl := List.mem_singleton.mp hu
    refine ⟨⟨201, .global "start", 0, .x86 ⟨0, 1, .relative⟩, none⟩, rfl, rfl, by decide, rfl,
      nofun,
      ⟨201, .global "start", 0, .x86 ⟨0, 1, .relative⟩, some 0⟩, by decide +kernel⟩

theorem overwriting_agrees_with_appending_jumps :
    (Interchangeable labelledModifier labelled threeFields 0x9000 ∧
      ∃ m' a₁ b, labelledModifier.append threeFields = .ok m' ∧
        labelled.append threeFields = .ok a₁ ∧ a₁.commit 0x9000 = .ok b) ∧
    Interchangeable labelledModifier labelled shortJump 0x9000 ∧
      labelledModifier.Refuses shortJump ∧ labelled.Refuses labelledModifier shortJump 0x9000 := by
  have hthree : SamePlace labelledModifier labelled threeFields 0x9000 :=
    samePlace_labelled (by decide) (by decide +kernel)
  have hshort : SamePlace labelledModifier labelled shortJump 0x9000 :=
    samePlace_labelled (by decide) (by decide +kernel)
  have hwritten : (labelledModifier.append threeFields).toOption.any (fun _ => true) = true := by
    decide +kernel
  have hcommitted : (labelled.append threeFields).toOption.any
      (fun a₁ => (a₁.commit 0x9000).toOption.any fun _ => true) = true := by
    decide +kernel
  obtain ⟨m', hm, -⟩ := exists_eq_ok hwritten
  obtain ⟨a₁, h₁, hcommitted⟩ := exists_eq_ok hcommitted
  obtain ⟨b, hb, -⟩ := exists_eq_ok hcommitted
  have hrefuses : labelledModifier.Refuses shortJump := by
    refine (Modifier.refuses_iff inOrder_shortJump.notClosed inOrder_shortJump.room
      inOrder_shortJump.admits).mpr
        ⟨⟨201, .global "start", 0, .x86 ⟨0, 1, .relative⟩, some 0⟩, ?_, ?_⟩
    · decide +kernel
    · decide +kernel
  have hsame := overwriting_agrees_with_appending 4096 _ hshort
  exact ⟨⟨overwriting_agrees_with_appending 4096 _ hthree, m', a₁, b, hm, h₁, hb⟩, hsame, hrefuses,
    (hsame.refuses_iff inOrder_shortJump).mp hrefuses⟩

end MachineCode
