import MachineCode.Proofs.Bounds
import MachineCode.Proofs.Refusals
import MachineCode.Proofs.Relocation

/-!
When a commit succeeds. Whether a field takes a value is a matter of the value alone, so it does
not matter when a field is written or what it holds by then: a commit succeeds if and only if all
targets are known and all values fit.
-/
namespace MachineCode

section verdict

theorem BitField.verdict_relocate (f : BitField) (w w' : Word) (v : Int64) :
    (f.relocate w v).map (fun _ => ()) = (f.relocate w' v).map fun _ => () := by
  unfold relocate
  split
  · rfl
  split <;> rfl

theorem verdict_map {α β : Type} {x x' : Except RelocFault α} {g g' : α → β}
    (h : x.map (fun _ => ()) = x'.map fun _ => ()) :
    (x.map g).map (fun _ => ()) = (x'.map g').map fun _ => () := by
  cases x <;> cases x' <;> exact h

theorem Riscv.Reloc.verdict_write (r : Riscv.Reloc) {buf buf' : Bytes}
    (h : buf.length = buf'.length) (v : Int64) :
    (r.write buf v).map (fun _ => ()) = (r.write buf' v).map fun _ => () := by
  have upper (w w' : Word) :
      (writeUpper w v).map (fun _ => ()) = (writeUpper w' v).map fun _ => () := by
    unfold writeUpper
    split <;> rfl
  cases r with
  | plain n =>
    simp only [write]
    rw [writeSigned_of_length h]
  | b | j | bc | jc =>
    simp only [write]
    exact verdict_map (BitField.verdict_relocate ..)
  | hi20 =>
    simp only [write]
    exact verdict_map (upper ..)
  | lo12 | lo12s => rfl
  | split32 | split32s =>
    simp only [write, writeSplit_eq]
    exact verdict_map (upper _ _)

theorem AArch64.Reloc.verdict_write (r : AArch64.Reloc) {buf buf' : Bytes}
    (h : buf.length = buf'.length) (v : Int64) :
    (r.write buf v).map (fun _ => ()) = (r.write buf' v).map fun _ => () := by
  cases r with
  | plain n =>
    simp only [write, field?]
    rw [writeSigned_of_length h]
  | branch | condBranch | adr | adrp | testBranch =>
    exact verdict_map (BitField.verdict_relocate _ _ _ v)

/-- What stands in a field has no say in what it takes. -/
theorem Relocation.verdict_write (r : Relocation) {buf buf' : Bytes}
    (h : buf.length = buf'.length) (v : Int64) :
    (r.write buf v).map (fun _ => ()) = (r.write buf' v).map fun _ => () := by
  cases r with
  | x86 r =>
    simp only [write, X86.Reloc.write]
    rw [h, writeSigned_of_length h]
  | aarch64 r => exact r.verdict_write h v
  | riscv r => exact r.verdict_write h v

end verdict

/-- The fault of a value, if a field of this kind does not take it. -/
def Relocation.fault? (r : Relocation) (v : Int64) : Option RelocFault :=
  match r.write (List.replicate r.size 0) v with
  | .ok _ => none
  | .error f => some f

theorem Relocation.fault?_of_error {r : Relocation} {buf : Bytes} {v : Int64} {f : RelocFault}
    (hbuf : buf.length = r.size) (h : r.write buf v = .error f) : r.fault? v = some f := by
  have hlen : buf.length = (List.replicate r.size (0 : UInt8)).length := by
    rw [hbuf, List.length_replicate]
  have hv := r.verdict_write hlen v
  rw [h] at hv
  unfold fault?
  cases hw : r.write (List.replicate r.size 0) v with
  | ok d =>
    rw [hw] at hv
    cases hv
  | error g =>
    rw [hw] at hv
    exact congrArg some (Except.error.inj hv).symm

theorem Relocation.fault?_of_ok {r : Relocation} {buf d : Bytes} {v : Int64}
    (hbuf : buf.length = r.size) (h : r.write buf v = .ok d) : r.fault? v = none := by
  have hlen : buf.length = (List.replicate r.size (0 : UInt8)).length := by
    rw [hbuf, List.length_replicate]
  have hv := r.verdict_write hlen v
  rw [h] at hv
  unfold fault?
  cases hw : r.write (List.replicate r.size 0) v with
  | ok d => rfl
  | error g =>
    rw [hw] at hv
    cases hv

/-- Whether a reference can be resolved is a matter of its value alone. -/
theorem Patch.ofReference_fails {code : Bytes} {lo : Nat} {base : UInt64} {r : Reference}
    {f : RelocFault} (hlow : lo ≤ r.field) (hhigh : r.fieldEnd ≤ lo + code.length)
    (h : ofReference code lo base r = .error f) : r.rel.fault? (r.value base) = some f := by
  have hslice : (code.slice (r.field - lo) r.rel.size).length = r.rel.size := by
    unfold Reference.fieldEnd at hhigh
    exact Bytes.length_slice _ _ _ (by omega)
  unfold ofReference at h
  cases hw : r.rel.write (code.slice (r.field - lo) r.rel.size) (r.value base) with
  | ok data =>
    rw [hw] at h
    cases h
  | error g =>
    rw [hw] at h
    obtain rfl : g = f := Except.error.inj h
    exact Relocation.fault?_of_error hslice hw

/-- The value does not fit if the target is at an offset, wherever the code may lie. -/
def Reference.Misfits (r : Reference) (offset : Nat) : Prop :=
  ∀ base, r.rel.fault? (({ r with bound := some offset } : Reference).value base) ≠ none

/-- What is refused while the code is at no address yet fits at none. -/
theorem Patch.misfits_of_ofReference {code : Bytes} {lo offset : Nat} {r : Reference}
    {f : RelocFault} (hdep : r.baseDependent = false) (hlow : lo ≤ r.field)
    (hhigh : r.fieldEnd ≤ lo + code.length)
    (h : ofReference code lo 0 { r with bound := some offset } = .error f) : r.Misfits offset := by
  intro base
  have hfault := ofReference_fails (r := { r with bound := some offset }) hlow hhigh h
  rw [Reference.value_of_not_baseDependent (r := { r with bound := some offset }) hdep base 0]
  exact hfault ▸ Option.some_ne_none f

/-- All targets are known, and all values fit when the code is at `base`. -/
def Resolvable (h : History) (base : UInt64) : Prop :=
  ∀ {before r after}, h.Records before r after → Found before r after ∧
    r.rel.fault? ((meaning before r after).value base) = none

namespace Assembler

variable {a b : Assembler} {next : UInt64}

/-- A commit changes the memory in no other way than that it holds other code, at the next base
address if there is no room for it. -/
theorem commit_memory (ha : InBounds a) (hb : a.commit next = .ok b) :
    b.stage = a.stage ∧ b.memory =
      if a.memory.hasRoom a.scratch.length then a.memory.setCode b.memory.current.code
      else (a.memory.move next a.minCapacity b.memory.current.code).1 := by
  have hc := whenOpen_eq_ok hb
  split at hc
  · rename_i hnone
    simp only [Bool.and_eq_true, List.isEmpty_iff] at hnone
    obtain rfl := Except.ok.inj hc
    have hroom : a.memory.hasRoom a.scratch.length = true := by
      rw [hnone.1.1]
      exact decide_eq_true ha.size
    rw [if_pos hroom]
    exact ⟨rfl, rfl⟩
  · obtain ⟨refs, hrefs, hc⟩ := bind_eq_ok (mapError_eq_ok hc)
    simp only at hc
    split at hc
    · rename_i hroom
      obtain ⟨code, hcode, hb⟩ := bind_eq_ok hc
      obtain rfl := Except.ok.inj hb
      rw [if_pos hroom]
      exact ⟨rfl, rfl⟩
    · rename_i hroom
      obtain ⟨code, hcode, hb⟩ := bind_eq_ok hc
      obtain rfl := Except.ok.inj hb
      rw [if_neg hroom]
      refine ⟨rfl, ?_⟩
      show (a.memory.move next a.minCapacity code).1 = _
      rw [(a.memory.move_current next a.minCapacity code).1]

theorem base_of_commit (ha : InBounds a) (hb : a.commit next = .ok b) :
    b.base = a.nextBase next := by
  rw [base, (commit_memory ha hb).2, nextBase]
  split
  · rfl
  · exact (a.memory.move_current ..).2.1

end Assembler

section commit

variable {h : History} {a b : Assembler} {next : UInt64}

theorem Tracks.resolvable_of_commit (ht : Tracks h a) (hu : UpToDate h a) (ha : a.InBounds)
    (hapart : h.references.Pairwise Reference.Apart) (hb : a.commit next = .ok b) :
    Resolvable h (a.nextBase next) := by
  have hrefs : History.references (h ++ [Happening.committed]) = h.references := by
    rw [History.references_append]
    exact List.append_nil _
  have hcode : History.code (h ++ [Happening.committed]) = h.code := by
    rw [History.code_append]
    exact List.append_nil _
  have hperform : a.perform (.commit next) = .ok b := hb
  have hdone : UpToDate (h ++ [Happening.committed]) b :=
    hu.perform ht rfl hperform (hrefs.symm ▸ hapart)
  intro before r after hr
  constructor
  · obtain ⟨refs, moved, hc⟩ := Assembler.commit_eq_ok hb
    by_cases hin : .committed ∈ after
    · exact ht.orderly.found hr hin
    · exact ht.found_of_commits hc hr hin
  · have hclosed := hdone.closed (hr.append _) fun ho => ho.not_committed (by simp)
    rw [meaning_append_of_bindings (fun _ => rfl), hcode, Assembler.base_of_commit ha hb] at hclosed
    refine Relocation.fault?_of_ok (Bytes.length_slice _ _ _ ?_) hclosed
    rw [ht.length]
    exact (ht.held hr).inside

theorem Tracks.lost_eq_nil (ht : Tracks h a) {base : UInt64} (hres : Resolvable h base) :
    a.lost = [] := by
  rw [Assembler.lost, List.append_eq_nil_iff]
  constructor
  · refine List.eq_nil_iff_forall_not_mem.mpr fun r hr => ?_
    obtain ⟨before, after, hr, -, name, htar, hnone⟩ := (ht.waiting r).mp hr
    rcases (hres hr).1 with hs | hext
    · simp [htar, denoted, hnone] at hs
    · simp [htar, Target.isExternal] at hext
  · refine List.filter_eq_nil_iff.mpr fun q hq hlost => ?_
    obtain ⟨before, r, after, hr, hp, rfl⟩ := (ht.pending q).mp hq
    simp only [Labels.lost, Bool.and_eq_true, Option.isNone_iff_eq_none, Bool.not_eq_true'] at hlost
    obtain ⟨⟨hbound, hext⟩, hlookup⟩ := hlost
    have hfound := (hres hr).1
    cases htar : r.target with
    | forward name | backward name =>
      simp only [provisional, htar, meaning] at hbound
      simp [Found, htar, hbound, Target.isExternal] at hfound
    | nowhere | global | dynamic | external =>
      have hsame : provisional before r after = r := by rw [provisional, htar]
      rw [hsame] at hext hlookup
      rw [Tracks.lookup_eq_denoted ht.binds hr (by simp [htar]) (by simp [htar])] at hlookup
      simp [Found, hlookup, hext] at hfound

/-- What a commit writes was recorded, and is written for what it means. -/
theorem Tracks.records_rewritten (ht : Tracks h a) (hun : ∀ writes, .altered writes ∉ h)
    {q : Reference} (hq : q ∈ a.rewritten) :
    ∃ before r after, h.Records before r after ∧ q = meaning before r after := by
  rcases List.mem_append.mp hq with hq | hq
  · split at hq
    · cases hq
    · obtain ⟨-, rest, later, hs, -⟩ := (ht.managed q).mp hq
      cases hs with
      | recorded hr _ he => exact ⟨_, _, _, hr, he⟩
      | altered he => exact absurd (he ▸ List.mem_append_right _ (List.mem_cons_self ..)) (hun _)
  · obtain ⟨p, hp, hpq⟩ := List.mem_filterMap.mp hq
    obtain ⟨before, r, after, hr, hpost, rfl⟩ := (ht.pending p).mp hp
    have hok : a.labels.resolve (provisional before r after) = .ok q := by
      cases hres : a.labels.resolve (provisional before r after) with
      | error e =>
        rw [hres] at hpq
        cases hpq
      | ok p =>
        rw [hres] at hpq
        exact congrArg Except.ok (Option.some.inj hpq)
    exact ⟨before, r, after, hr, (ht.resolve_provisional hr hpost hok).1⟩

theorem Tracks.commit_of_resolvable (ht : Tracks h a) (hu : UpToDate h a)
    (hopen : a.isOpen = true) (hres : Resolvable h (a.nextBase next)) :
    ∃ b, a.commit next = .ok b := by
  cases hb : a.commit next with
  | ok b => exact ⟨b, rfl⟩
  | error f =>
    rcases Assembler.commit_eq_error hb with ⟨hclosed, -⟩ | ⟨-, hreports⟩
    · rw [hclosed] at hopen
      cases hopen
    cases hreports with
    | lost hlost => exact absurd (ht.lost_eq_nil hres) hlost
    | @rejected es _ hne hes =>
      obtain ⟨e, he⟩ := List.exists_mem_of_ne_nil es hne
      rw [hes] at he
      obtain ⟨q, hq, hrej⟩ := List.mem_filterMap.mp he
      obtain ⟨before, r, after, hr, rfl⟩ := ht.records_rewritten hu.unaltered hq
      unfold Reference.rejection? at hrej
      split at hrej
      · cases hrej
      · rename_i g hw
        have hlen : (a.image.slice r.field r.rel.size).length = r.rel.size :=
          Bytes.length_slice _ _ _ (a.length_image ▸ (ht.held hr).inside)
        have hfault := (hres hr).2
        rw [Relocation.fault?_of_error hlen hw] at hfault
        cases hfault

/-- A commit succeeds if and only if all targets are known and all values fit. -/
theorem Tracks.commit_succeeds_iff (ht : Tracks h a) (hu : UpToDate h a) (ha : a.InBounds)
    (hapart : h.references.Pairwise Reference.Apart) (hopen : a.isOpen = true) :
    (∃ b, a.commit next = .ok b) ↔ Resolvable h (a.nextBase next) :=
  ⟨fun ⟨_, hb⟩ => ht.resolvable_of_commit hu ha hapart hb, ht.commit_of_resolvable hu hopen⟩

end commit

section refusal

theorem error_of_mapM {ε α β : Type} {f : α → Except ε β} {xs : List α} {e : ε}
    (h : xs.mapM f = .error e) : ∃ x ∈ xs, f x = .error e := by
  induction xs with
  | nil => cases h
  | cons x xs ih =>
    rw [List.mapM_cons] at h
    cases hx : f x with
    | error e' =>
      rw [hx] at h
      exact ⟨x, List.mem_cons_self .., hx.trans (congrArg Except.error (Except.error.inj h))⟩
    | ok y =>
      rw [hx, ok_bind] at h
      cases hxs : xs.mapM f with
      | ok ys =>
        rw [hxs] at h
        cases h
      | error e' =>
        rw [hxs] at h
        obtain ⟨z, hz, hfz⟩ := ih (hxs.trans (congrArg Except.error (Except.error.inj h)))
        exact ⟨z, List.mem_cons_of_mem _ hz, hfz⟩

namespace Assembler

variable {a b : Assembler} {scratch : Bytes} {u : Use} {r : Reference}

structure Admits (a : Assembler) (scratch : Bytes) (u : Use) (r : Reference) : Prop where
  reference : Operation.reference? (a.committed + scratch.length) u = some r
  valid : u.target.isValid = true
  within : r.fieldWithin a.committed = true

theorem Admits.record_eq (h : a.Admits scratch u r) : a.record scratch u = a.settle scratch r := by
  obtain ⟨target, addend, rel?⟩ := u
  obtain ⟨href, hvalid, hwithin⟩ := h
  cases rel? with
  | none => cases href
  | some rel =>
    obtain rfl := Option.some.inj href
    have hv : target.isValid = true := hvalid
    unfold record settle
    simp only [hv]
    exact if_neg (by simpa using hwithin)

theorem admits_of_record {x : Recorded} (h : a.record scratch u = .ok x) :
    ∃ r, a.Admits scratch u r := by
  obtain ⟨r, hr, hacc, -⟩ := record_eq_ok h
  have hwithin := record_within h hr
  refine ⟨r, hr, ?_, Reference.fieldWithin_iff.mpr ⟨hwithin.start, hwithin.stop⟩⟩
  obtain ⟨rel, -, rfl⟩ := Option.map_eq_some_iff.mp hr
  exact hacc.valid

/-- What a use that is in order fails for: its local label is not bound yet, or its value does not
fit, wherever the code may lie. -/
theorem Admits.record_fails {e : Error} (h : a.Admits scratch u r)
    (he : a.record scratch u = .error e) : ∃ name, r.target = .backward name ∧
      (a.labels.locals.lookup name = none ∨
        ∃ offset, a.labels.locals.lookup name = some offset ∧ r.Misfits offset) := by
  rw [h.record_eq] at he
  unfold settle at he
  cases htar : r.target with
  | nowhere | global | forward | dynamic | external =>
    rw [htar] at he
    cases he
  | backward name =>
    rw [htar] at he
    simp only at he
    refine ⟨name, rfl, ?_⟩
    have hunbound : r.bound = none := by
      obtain ⟨rel, -, rfl⟩ := Option.map_eq_some_iff.mp h.reference
      rfl
    cases hlookup : a.labels.locals.lookup name with
    | none => exact Or.inl rfl
    | some offset =>
      refine Or.inr ⟨offset, rfl, ?_⟩
      have hresolve : a.labels.resolve r = .ok { r with bound := some offset } := by
        have hl : a.labels.lookup r.target = some offset := by
          rw [htar]
          exact hlookup
        simp [Labels.resolve, hunbound, htar, Target.isExternal, htar ▸ hl]
      rw [hresolve, ok_bind] at he
      split at he
      · cases he
      · rename_i hdep
        have hanchor : r.anchor = a.committed + scratch.length := by
          obtain ⟨rel, -, rfl⟩ := Option.map_eq_some_iff.mp h.reference
          rfl
        obtain ⟨hlow, hhigh⟩ := field_bounds h.within
        rw [hanchor] at hhigh
        cases hp : Patch.ofReference scratch a.committed 0 { r with bound := some offset } with
        | error f =>
          exact Patch.misfits_of_ofReference (Bool.eq_false_iff.mpr hdep) hlow hhigh hp
        | ok p =>
          rw [patch, hp] at he
          cases he

theorem append_fails {c : Code} {f : Failure} (hopen : a.isOpen = true)
    (hf : a.append c = .error f) :
    ∃ u ∈ c.refs, ∃ e, a.record (a.scratch ++ c.code) u = .error e := by
  rw [append, whenOpen, if_pos hopen] at hf
  simp only at hf
  split at hf
  · rename_i e he
    obtain ⟨u, hu, he⟩ := error_of_mapM he
    exact ⟨u, hu, e, he⟩
  · cases hf

theorem records_of_append {c : Code} (hb : a.append c = .ok b) {u : Use} (hu : u ∈ c.refs) :
    ∃ x, a.record (a.scratch ++ c.code) u = .ok x := by
  have hok := whenOpen_eq_ok hb
  simp only at hok
  split at hok
  · cases hok
  · rename_i xs hxs
    exact ok_of_mapM hxs hu

/-- What a local label fails for: the value of a reference that waits for it does not fit,
wherever the code may lie. -/
theorem localLabel_fails {name : String} {f : Failure} (ha : InBounds a) (hopen : a.isOpen = true)
    (hf : a.localLabel name = .error f) : ∃ r ∈ a.labels.waiting, r.target.name = name ∧
      r.Misfits a.offset := by
  rw [localLabel, whenOpen, if_pos hopen] at hf
  simp only at hf
  split at hf
  · rename_i es hes
    obtain ⟨herrors, hne⟩ := gather_eq_error hes
    obtain ⟨e, he⟩ := List.exists_mem_of_ne_nil es hne
    rw [herrors] at he
    obtain ⟨attempt, hattempt, hsome⟩ := List.mem_filterMap.mp he
    obtain ⟨q, hq, rfl⟩ := List.mem_map.mp hattempt
    obtain ⟨hq, hdep⟩ := List.mem_filter.mp hq
    obtain ⟨r, hr, rfl⟩ := List.mem_map.mp hq
    obtain ⟨hwaiting, hname⟩ := List.mem_filter.mp hr
    refine ⟨r, hwaiting, by simpa using hname, ?_⟩
    obtain ⟨hlow, hhigh⟩ := (ha.waiting r hwaiting).field
    cases hp : Patch.ofReference a.scratch a.committed 0 { r with bound := some a.offset } with
    | error g => exact Patch.misfits_of_ofReference ((Bool.not_eq_true' _).mp hdep) hlow hhigh hp
    | ok p =>
      rw [hp] at hsome
      cases hsome
  · cases hf

end Assembler

end refusal

end MachineCode
