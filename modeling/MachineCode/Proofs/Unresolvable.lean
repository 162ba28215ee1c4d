import MachineCode.Proofs.Lockstep

/-!
References that cannot be resolved any more. Once an assembler has put off a reference to a label
that is never bound, or that is bound where the value does not fit, no commit succeeds.
-/
namespace MachineCode

/-- The only label that an operation can bind. -/
def Operation.binds? : Operation → Option Label
  | globalLabel name => some (.global name)
  | dynamicLabel id => some (.dynamic id)
  | localLabel name => some (.local name)
  | _ => none

theorem Operation.bindings_happenings (op : Operation) (a : Assembler) (l : Label) :
    (op.happenings a).bindings l = if op.binds? = some l then [a.offset] else [] := by
  cases op with
  | globalLabel name | dynamicLabel id | localLabel name =>
    simp [happenings, History.bindings_bound, binds?]
  | append c => exact History.bindings_appended ..
  | relocate u => exact History.bindings_appended ..
  | emit instruction =>
    cases instruction with
    | error e => rfl
    | ok c => exact History.bindings_appended ..
  | alter next script =>
    simp only [happenings]
    split <;> rfl
  | extend | align | newDynamic | commit | finalize | alterUncommitted | close | closeBuffer | lock
  | unlock => rfl

def Slots.spare (slots : Slots) : UInt32 := UInt32.ofNat slots.length

def Slots.Harmless (slots : Slots) (ops : List Operation) : Prop :=
  ∀ op ∈ ops, op.alters = false ∧ op ≠ .dynamicLabel slots.spare

/-- Nothing that is done can resolve the reference: its label is never bound, or the value does not
fit, wherever the code may lie. -/
inductive Hopeless (slots : Slots) (l : Labels) (q : Reference) : Prop where
  | unbound : q.target = .dynamic slots.spare → l.lookup q.target = none → Hopeless slots l q
  | unfit {id : UInt32} (offset : Nat) : q.target = .dynamic id → l.lookup q.target = some offset →
      q.Misfits offset → Hopeless slots l q

def Doomed (slots : Slots) (a : Assembler) : Prop :=
  ∃ q ∈ a.pending, q.bound = none ∧ Hopeless slots a.labels q

namespace Doomed

variable {slots : Slots} {a b : Assembler}

theorem commit_fails (hd : Doomed slots a) (ha : a.InBounds) (next : UInt64) :
    a.commit next ≠ .ok b := by
  intro hb
  obtain ⟨q, hq, hbound, hless⟩ := hd
  obtain ⟨refs, moved, hc⟩ := Assembler.commit_eq_ok hb
  obtain ⟨p, hp, hres⟩ := hc.complete q hq
  have hext : q.target.isExternal = false := by
    cases hless with
    | unbound ht _ => rw [ht]; rfl
    | unfit offset ht _ _ => rw [ht]; rfl
  obtain ⟨-, offset, hlookup, rfl⟩ := (resolve_eq_ok hres).resolve_left (by simp [hbound, hext])
  cases hless with
  | unbound _ hnone =>
    rw [hnone] at hlookup
    cases hlookup
  | unfit offset _ hsome hmisfits =>
    obtain rfl := Option.some.inj (hsome.symm.trans hlookup)
    obtain ⟨ps, hps, -⟩ := hc.code
    obtain ⟨patch, -, hpatch⟩ := hps.complete _ (List.mem_append_right _ hp)
    obtain ⟨data, hdata, -⟩ := map_eq_ok hpatch
    have hin : q.field + q.rel.size ≤ a.image.length := by
      rw [Assembler.length_image]
      exact (ha.pending q hq).field.2
    exact hmisfits b.base (Relocation.fault?_of_ok (Bytes.length_slice _ _ _ hin) hdata)

theorem perform {h : History} (hd : Doomed slots a) (ht : Tracks h a) (ha : a.InBounds)
    {op : Operation} (hop : op.alters = false) (hspare : op ≠ .dynamicLabel slots.spare)
    (hb : a.perform op = .ok b) : Doomed slots b := by
  -- Only a commit takes references off the list, and none succeeds.
  have hc : .committed ∉ op.happenings a := by
    intro hc
    cases op with
    | commit next => exact hd.commit_fails ha next hb
    | finalize next =>
      obtain ⟨c, hok, -⟩ := Assembler.finalize_eq_ok hb
      exact hd.commit_fails ha next hok
    | alter | alterUncommitted => cases hop
    | emit instruction => cases instruction <;> simp [Operation.happenings, Operation.appends] at hc
    | extend | align | newDynamic | globalLabel | dynamicLabel | localLabel | append | relocate
    | close | closeBuffer | lock | unlock =>
      simp [Operation.happenings, Operation.appends] at hc
  have ht' := ht.perform hb
  obtain ⟨q, hq, hbound, hless⟩ := hd
  refine ⟨q, ?_, hbound, ?_⟩
  · obtain ⟨before, r, after, hr, hp, he⟩ := (ht.pending q).mp hq
    exact (ht'.pending q).mpr ⟨before, r, _, hr.append _, hp.append hc,
      he.trans (hp.provisional_append ..).symm⟩
  · cases hless with
    | unbound htar hnone =>
      refine .unbound htar ?_
      rw [htar, Labels.lookup] at hnone ⊢
      rw [ht.binds.dynamics] at hnone
      rw [ht'.binds.dynamics, History.bindings_append, Operation.bindings_happenings, if_neg,
        List.append_nil, hnone]
      intro he
      cases op with
      | dynamicLabel id =>
        obtain rfl : id = slots.spare := by simpa [Operation.binds?] using he
        exact hspare rfl
      | extend | align | newDynamic | globalLabel | localLabel | append | relocate | emit | commit
      | finalize | alter | alterUncommitted | close | closeBuffer | lock | unlock => cases he
    | unfit offset htar hsome hmisfits =>
      have hkept := (Assembler.perform_relabels hb).kept _ _ (by simp [htar]) hsome
      exact .unfit offset htar hkept hmisfits

theorem run {s : Session} {ops : List Operation} (hd : Doomed slots s.assembler) (hs : s.Sound)
    (hops : slots.Harmless ops) : Doomed slots (s.run ops).assembler := by
  have hall := Session.run_induction (P := fun s => Doomed slots s.assembler ∧ s.Sound) ⟨hd, hs⟩
    fun hop ⟨hd, hs⟩ hb => by
      obtain ⟨halters, hspare⟩ := hops _ hop
      exact ⟨hd.perform hs.tracks hs.bounds halters hspare hb, hs.perform halters hb⟩
  exact hall.1

end Doomed

end MachineCode
