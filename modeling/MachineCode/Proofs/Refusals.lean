import MachineCode.Proofs.Effects

/-!
Why a commit fails. An assembler that is not open turns it away. Otherwise it reports every
reference whose target is not known, or if all are known, every reference whose value its field
does not take.
-/
namespace MachineCode

namespace Assembler

section errors

variable {α : Type} {xs : List (Except Error α)}

def errors (xs : List (Except Error α)) : List Error :=
  xs.filterMap fun
    | .ok _ => none
    | .error e => some e

theorem errors_of_gather_ok {ys : List α} (h : gather xs = .ok ys) : errors xs = [] := by
  rw [gather_eq_ok h, errors, List.filterMap_map]
  exact List.filterMap_eq_nil_iff.mpr fun _ _ => rfl

theorem gather_eq_error {es : List Error} (h : gather xs = .error es) :
    es = errors xs ∧ es ≠ [] := by
  induction xs generalizing es with
  | nil => cases h
  | cons x xs ih =>
    cases x with
    | ok x =>
      rw [gather] at h
      cases hg : gather xs with
      | ok ys =>
        rw [hg] at h
        cases h
      | error fs =>
        rw [hg] at h
        obtain rfl : fs = es := Except.error.inj h
        exact ih hg
    | error e =>
      rw [gather] at h
      cases hg : gather xs with
      | ok ys =>
        rw [hg] at h
        obtain rfl : [e] = es := Except.error.inj h
        exact ⟨congrArg (e :: ·) (errors_of_gather_ok hg).symm, by simp⟩
      | error fs =>
        rw [hg] at h
        obtain rfl : e :: fs = es := Except.error.inj h
        exact ⟨congrArg (e :: ·) (ih hg).1, by simp⟩

end errors

end Assembler

/-- Whether nothing says where the target of a reference is. -/
def Labels.lost (l : Labels) (r : Reference) : Bool :=
  r.bound.isNone && !r.target.isExternal && (l.lookup r.target).isNone

theorem Labels.resolve_of_lost {l : Labels} {r : Reference} (h : l.lost r = true) :
    l.resolve r = .error (.unknownLabel r.target.label) := by
  simp only [lost, Bool.and_eq_true, Option.isNone_iff_eq_none, Bool.not_eq_true'] at h
  simp only [resolve, h, Option.isSome_none, Bool.or_self, Bool.false_eq_true, if_false]

theorem Labels.resolve_of_not_lost {l : Labels} {r : Reference} (h : l.lost r = false) :
    ∃ q, l.resolve r = .ok q := by
  unfold resolve
  split
  · exact ⟨_, rfl⟩
  · rename_i hb
    simp only [Bool.or_eq_true, not_or, Bool.not_eq_true, Option.isSome_eq_false_iff] at hb
    cases ho : l.lookup r.target with
    | some offset => exact ⟨_, rfl⟩
    | none => simp [lost, hb, ho] at h

def Reference.rejection? (code : Bytes) (base : UInt64) (r : Reference) : Option Error :=
  match r.rel.write (code.slice r.field r.rel.size) (r.value base) with
  | .ok _ => none
  | .error f => some (.unwritable r.target r.field f (r.value base))

namespace Assembler

variable {a : Assembler} {next : UInt64} {f : Failure}

/-- The references that wait for a label or whose label is not bound. -/
def lost (a : Assembler) : List Reference := a.labels.waiting ++ a.pending.filter a.labels.lost

/-- The references that a commit writes: those that are pending, with their targets found, after
those of committed code that has to move. -/
def rewritten (a : Assembler) : List Reference :=
  (if a.memory.hasRoom a.scratch.length || a.committed = 0 then [] else a.managed) ++
    a.pending.filterMap fun r => (a.labels.resolve r).toOption

def nextBase (a : Assembler) (next : UInt64) : UInt64 :=
  if a.memory.hasRoom a.scratch.length then a.base else next

/-- What a commit that fails reports of an open assembler: one error for each lost reference, or
if none is lost, one for each reference that is rejected. -/
inductive Reports (a : Assembler) (next : UInt64) : Failure → Prop where
  | lost {es : List Error} : a.lost ≠ [] →
      es.Perm (a.lost.map fun r => .unknownLabel r.target.label) → Reports a next (.many es)
  | rejected {es : List Error} : a.lost = [] → es ≠ [] →
      es = a.rewritten.filterMap (Reference.rejection? a.image (a.nextBase next)) →
      Reports a next (.many es)

theorem errors_resolve (l : Labels) (refs : List Reference) :
    errors (refs.map l.resolve) =
      (refs.filter l.lost).map fun r => .unknownLabel r.target.label := by
  induction refs with
  | nil => rfl
  | cons r refs ih =>
    cases hr : l.lost r with
    | true =>
      rw [List.filter_cons_of_pos hr, List.map_cons, List.map_cons, Labels.resolve_of_lost hr, ← ih]
      rfl
    | false =>
      obtain ⟨q, hq⟩ := Labels.resolve_of_not_lost hr
      rw [List.filter_cons_of_neg (by simp [hr]), ← ih, List.map_cons, hq]
      rfl

theorem resolved_eq_error {es : List Error} (h : a.resolved = .error es) :
    a.lost ≠ [] ∧ es.Perm (a.lost.map fun r => .unknownLabel r.target.label) := by
  have hwaiting := List.mergeSort_perm (a.labels.waiting.map fun r =>
    Error.unknownLabel r.target.label) fun a b => a.message ≤ b.message
  have herrors := errors_resolve a.labels a.pending
  unfold lost
  rw [List.map_append]
  unfold resolved at h
  cases hg : gather (a.pending.map a.labels.resolve) with
  | ok refs =>
    have hnone : errors (a.pending.map a.labels.resolve) = [] := errors_of_gather_ok hg
    rw [hg] at h
    simp only at h
    split at h
    · cases h
    · rename_i hw
      obtain rfl := Except.error.inj h
      rw [← herrors, hnone, List.append_nil]
      refine ⟨?_, hwaiting⟩
      intro hnil
      exact hw (List.isEmpty_iff.mpr (List.append_eq_nil_iff.mp hnil).1)
  | error fs =>
    rw [hg] at h
    obtain rfl := Except.error.inj h
    obtain ⟨hfs, hne⟩ := gather_eq_error hg
    rw [← herrors, ← hfs]
    refine ⟨?_, hwaiting.append_right fs⟩
    intro hnil
    rw [(List.append_eq_nil_iff.mp hnil).2] at herrors
    exact hne (hfs.trans herrors)

theorem lost_of_resolved {refs : List Reference} (h : a.resolved = .ok refs) :
    a.lost = [] ∧ refs = a.pending.filterMap fun r => (a.labels.resolve r).toOption := by
  unfold resolved at h
  cases hg : gather (a.pending.map a.labels.resolve) with
  | error es =>
    rw [hg] at h
    cases h
  | ok found =>
    rw [hg] at h
    simp only at h
    split at h
    · rename_i hw
      obtain rfl := Except.ok.inj h
      have hnone := (errors_resolve a.labels a.pending).symm.trans (errors_of_gather_ok hg)
      refine ⟨?_, ?_⟩
      · rw [lost, List.isEmpty_iff.mp hw, List.map_eq_nil_iff.mp hnone]
        rfl
      · have he := congrArg (List.filterMap Except.toOption) (gather_eq_ok hg)
        rw [List.filterMap_map, List.filterMap_map] at he
        exact (List.filterMap_some (l := found)).symm.trans he.symm
    · cases h

theorem patched_eq_error {code : Bytes} {base : UInt64} {refs : List Reference} {es : List Error}
    (h : patched code base refs = .error es) :
    es ≠ [] ∧ es = refs.filterMap (Reference.rejection? code base) := by
  unfold patched at h
  cases hg : gather (refs.map (patch code 0 base)) with
  | ok ps =>
    rw [hg] at h
    cases h
  | error fs =>
    rw [hg] at h
    obtain rfl : fs = es := Except.error.inj h
    obtain ⟨hfs, hne⟩ := gather_eq_error hg
    refine ⟨hne, hfs.trans ?_⟩
    rw [errors, List.filterMap_map]
    refine congrArg (List.filterMap · refs) (funext fun r => ?_)
    simp only [Function.comp, patch, Patch.ofReference, Reference.rejection?, Nat.sub_zero]
    cases r.rel.write (code.slice r.field r.rel.size) (r.value base) <;> rfl

theorem commit_eq_error (h : a.commit next = .error f) :
    a.isOpen = false ∧ f = .one .finalized ∨ a.isOpen = true ∧ Reports a next f := by
  unfold commit whenOpen at h
  split at h
  · rename_i ho
    refine Or.inr ⟨ho, ?_⟩
    split at h
    · cases h
    cases hres : a.resolved with
    | error es =>
      rw [hres] at h
      obtain rfl : .many es = f := Except.error.inj h
      obtain ⟨hne, hperm⟩ := resolved_eq_error hres
      exact .lost hne hperm
    | ok refs =>
      obtain ⟨hlost, hrefs⟩ := lost_of_resolved hres
      have hnext : a.nextBase next =
          if a.memory.hasRoom a.scratch.length then a.base else next := rfl
      have hrew : a.rewritten = (if a.memory.hasRoom a.scratch.length || a.committed = 0 then []
          else a.managed) ++ refs := hrefs ▸ rfl
      rw [hres, ok_bind] at h
      by_cases hroom : a.memory.hasRoom a.scratch.length = true
      · rw [if_pos hroom] at h
        cases hp : patched (a.memory.current.code ++ a.scratch) a.base refs with
        | ok code =>
          rw [hp] at h
          cases h
        | error es =>
          rw [hp] at h
          obtain rfl : .many es = f := Except.error.inj h
          obtain ⟨hne, hes⟩ := patched_eq_error hp
          refine .rejected hlost hne (hes.trans ?_)
          rw [hrew, hnext, if_pos hroom, hroom]
          rfl
      · rw [if_neg hroom] at h
        cases hp : patched (a.memory.current.code ++ a.scratch) next
            ((if a.committed = 0 then [] else a.managed) ++ refs) with
        | ok code =>
          simp only [hp] at h
          cases h
        | error es =>
          simp only [hp] at h
          obtain rfl : .many es = f := Except.error.inj h
          obtain ⟨hne, hes⟩ := patched_eq_error hp
          refine .rejected hlost hne (hes.trans ?_)
          rw [hrew, hnext, if_neg hroom, Bool.eq_false_iff.mpr hroom, Bool.false_or]
          simp only [decide_eq_true_eq]
          rfl
  · rename_i ho
    obtain rfl := Except.error.inj h
    exact Or.inl ⟨Bool.eq_false_iff.mpr ho, rfl⟩

end Assembler

end MachineCode
