import MachineCode.Proofs.Unresolvable

/-!
Steps of two sessions in lockstep. An operation that succeeds in the one keeps the other in step;
one that fails in the one only leaves the other with a reference that is never resolved.
-/
namespace MachineCode

theorem Front.bind {slots : Slots} {h : History} {front : List (Option Nat)} {name : String}
    {n : Nat} (hf : Front slots h front) (hpositive : ∀ name, (name, 0) ∉ slots)
    (hn : (h.bindings (.local name)).length = n) (hmem : (name, n + 1) ∈ slots) (offset : Nat) :
    Front slots (h ++ [Happening.bound (.local name) offset])
      (front.set (slots.idxOf (name, n + 1)) (some offset)) := by
  have hlt := List.idxOf_lt_length_of_mem hmem
  refine ⟨(List.length_set ..).trans hf.length, ?_, fun other k hk => ?_⟩
  · rw [List.getElem?_set_ne (by omega)]
    exact hf.spare
  · rw [History.bindings_append, History.bindings_bound]
    by_cases hsame : (name, n + 1) = (other, k)
    · obtain ⟨rfl, rfl⟩ := Prod.mk.inj hsame
      rw [List.getElem?_set_self (by rw [hf.length]; omega), if_pos rfl, Nat.add_sub_cancel, ← hn,
        List.getElem?_append_right (Nat.le_refl _), Nat.sub_self]
      rfl
    · have hne : slots.idxOf (name, n + 1) ≠ slots.idxOf (other, k) := by
        intro he
        have hat := List.getElem_idxOf (List.idxOf_lt_length_of_mem hk)
        simp only [← he, List.getElem_idxOf] at hat
        exact hsame hat
      rw [List.getElem?_set_ne hne, hf.bound other k hk]
      by_cases hname : name = other
      · subst hname
        have hk0 : k ≠ 0 := fun h0 => hpositive name (h0 ▸ hk)
        have hkn : k ≠ n + 1 := fun hkn => hsame (by rw [hkn])
        rw [if_pos rfl]
        by_cases hlow : k - 1 < n
        · rw [List.getElem?_append_left (by omega)]
        · rw [List.getElem?_eq_none (by omega),
            List.getElem?_eq_none (by rw [List.length_append, List.length_singleton]; omega)]
      · rw [if_neg (by simpa using hname), List.append_nil]

theorem Assembler.perform_emit (a : Assembler) (c : Code) :
    a.perform (.emit (.ok c)) = a.perform (.append c) := by
  simp only [perform, emit, append, whenOpen]
  split <;> rfl

namespace Lockstep

variable {slots : Slots} {s s' : Session} {rest : List Operation} {op op' : Operation}

/-- What succeeds in the one session succeeds in the other as well. What fails in the one may
succeed in the other, but no commit does so any more. -/
def Answers (slots : Slots) (s s' : Session) (op : Operation) (ops' : List Operation) : Prop :=
  match s.assembler.perform op with
  | .ok _ => Lockstep slots (s.step op) (s'.run ops')
  | .error _ => ∀ b', s'.assembler.performAll ops' = .ok b' → Doomed slots b'

theorem answers_of_ok {b b' : Assembler} (hb : s.assembler.perform op = .ok b)
    (hb' : s'.assembler.perform op' = .ok b')
    (hl : Lockstep slots ⟨b, s.history ++ op.happenings s.assembler⟩
      ⟨b', s'.history ++ op'.happenings s'.assembler⟩) : Answers slots s s' op [op'] := by
  unfold Answers
  rw [hb]
  show Lockstep slots (s.step op) (s'.step op')
  rw [Session.step_of_ok hb, Session.step_of_ok hb']
  exact hl

theorem answers_of_error {f f' : Failure} {ops' : List Operation}
    (hf : s.assembler.perform op = .error f) (hf' : s'.assembler.perform op' = .error f') :
    Answers slots s s' op (op' :: ops') := by
  unfold Answers
  rw [hf]
  intro b' hb'
  rw [Assembler.performAll_of_error hf'] at hb'
  cases hb'

theorem Answers.congr {op₂ op₂' : Operation} (h : Answers slots s s' op [op'])
    (hp : s.assembler.perform op₂ = s.assembler.perform op)
    (hh : op₂.happenings s.assembler = op.happenings s.assembler)
    (hp' : s'.assembler.perform op₂' = s'.assembler.perform op')
    (hh' : op₂'.happenings s'.assembler = op'.happenings s'.assembler) :
    Answers slots s s' op₂ [op₂'] := by
  have hstep : s.step op₂ = s.step op := by
    rw [Session.step, Session.step, hp, hh]
  have hstep' : s'.step op₂' = s'.step op' := by
    rw [Session.step, Session.step, hp', hh']
  unfold Answers at h ⊢
  simp only [Assembler.performAll_singleton, Session.run, List.foldl_cons, List.foldl_nil] at h ⊢
  rw [hp, hstep, hp', hstep']
  exact h

theorem answers_quiet (hl : Lockstep slots s s') {b b' : Assembler} (hop : op.alters = false)
    (hop' : op'.alters = false) (hb : s.assembler.perform op = .ok b)
    (hb' : s'.assembler.perform op' = .ok b')
    (hpaired : Paired slots (s.history ++ op.happenings s.assembler)
      (s'.history ++ op'.happenings s'.assembler))
    (hnone : ∀ name, (op.happenings s.assembler).bindings (.local name) = [])
    (hmemory : b'.memory = b.memory) (hstage : b'.stage = b.stage)
    (hglobals : b'.labels.globals = b.labels.globals)
    (hdynamics : ∀ front, s'.assembler.labels.dynamics = front ++ s.assembler.labels.dynamics →
      front.length = slots.length + 1 → b'.labels.dynamics = front ++ b.labels.dynamics) :
    Answers slots s s' op [op'] := by
  refine answers_of_ok hb hb' ⟨hl.sound.perform hop hb, hl.sound'.perform hop' hb', hpaired,
    hmemory, hstage, ?_, hglobals, ?_⟩
  · exact (Assembler.perform_grows hb').1.trans
      (hl.minimum.trans (Assembler.perform_grows hb).1.symm)
  · obtain ⟨front, hfront, hd⟩ := hl.dynamics
    exact ⟨front, hfront.append hnone, hdynamics front hd hfront.length⟩

/-- A session that is not open turns the same operations away as the other. -/
theorem answers_of_closed (hl : Lockstep slots s s') {e e' : Except Failure Assembler}
    {ops' : List Operation} (hclosed : s.assembler.isOpen = false)
    (he : s.assembler.perform op = s.assembler.whenOpen e)
    (he' : s'.assembler.perform op' = s'.assembler.whenOpen e') :
    Answers slots s s' op (op' :: ops') := by
  have hclosed' := hl.isOpen_eq.trans hclosed
  have hf : s.assembler.perform op = .error (.one .finalized) := by
    rw [he, Assembler.whenOpen, hclosed]
    rfl
  have hf' : s'.assembler.perform op' = .error (.one .finalized) := by
    rw [he', Assembler.whenOpen, hclosed']
    rfl
  exact answers_of_error hf hf'

theorem answers_whenOpen (hl : Lockstep slots s s') {e e' : Except Failure Assembler}
    (he : s.assembler.perform op = s.assembler.whenOpen e)
    (he' : s'.assembler.perform op' = s'.assembler.whenOpen e')
    (h : s.assembler.perform op = e → s'.assembler.perform op' = e' →
      Answers slots s s' op [op']) : Answers slots s s' op [op'] := by
  cases hopen : s.assembler.isOpen with
  | false => exact hl.answers_of_closed hopen he he'
  | true =>
    have hopen' := hl.isOpen_eq.trans hopen
    rw [Assembler.whenOpen, if_pos hopen] at he
    rw [Assembler.whenOpen, if_pos hopen'] at he'
    exact h he he'

theorem answers_extend (hl : Lockstep slots s s') (data : Bytes) :
    Answers slots s s' (.extend data) [.extend data] :=
  hl.answers_whenOpen rfl rfl fun hb hb' =>
    hl.answers_quiet rfl rfl hb hb' (hl.paired.appended data) (fun _ => rfl) hl.memory hl.stage
      hl.globals fun _ hd _ => hd

theorem answers_align (hl : Lockstep slots s s') (n : Int) (fill : UInt8) :
    Answers slots s s' (.align n fill) [.align n fill] := by
  refine hl.answers_whenOpen rfl rfl fun hb hb' => ?_
  by_cases hn : n ≤ 0
  · rw [if_pos hn] at hb hb'
    exact answers_of_error hb hb'
  · rw [if_neg hn] at hb hb'
    refine hl.answers_whenOpen hb hb' fun hb hb' => ?_
    refine hl.answers_quiet rfl rfl hb hb' ?_ (fun _ => rfl) hl.memory hl.stage hl.globals
      fun _ hd _ => hd
    simp only [Operation.happenings, hl.offset_eq]
    exact hl.paired.appended _

theorem answers_newDynamic (hl : Lockstep slots s s') :
    Answers slots s s' .newDynamic [.newDynamic] := by
  refine hl.answers_quiet rfl rfl rfl rfl ?_ (fun _ => rfl) hl.memory hl.stage hl.globals ?_
  · simpa [Operation.happenings] using hl.paired
  · intro front hd _
    show s'.assembler.labels.dynamics ++ [none] = front ++ (s.assembler.labels.dynamics ++ [none])
    rw [hd, List.append_assoc]

theorem answers_globalLabel (hl : Lockstep slots s s') (name : String) :
    Answers slots s s' (.globalLabel name) [.globalLabel name] := by
  refine hl.answers_whenOpen rfl rfl fun hb hb' => ?_
  unfold Labels.bindGlobal at hb hb'
  rw [hl.globals] at hb'
  cases hlookup : s.assembler.labels.globals.lookup name with
  | some offset =>
    rw [hlookup] at hb hb'
    exact answers_of_error hb hb'
  | none =>
    rw [hlookup] at hb hb'
    refine hl.answers_quiet rfl rfl hb hb' ?_ (fun _ => rfl) hl.memory hl.stage ?_ fun _ hd _ => hd
    · exact (hl.paired.bound _ _).bound' _ _
    · show (name, s'.assembler.offset) :: s.assembler.labels.globals =
        (name, s.assembler.offset) :: s.assembler.labels.globals
      rw [hl.offset_eq]

theorem answers_dynamicLabel (hl : Lockstep slots s s') (ha : Ahead slots s rest) (id : UInt32) :
    Answers slots s s' (.dynamicLabel id) [.dynamicLabel (slots.shifted id)] := by
  refine hl.answers_whenOpen rfl rfl fun hb hb' => ?_
  unfold Labels.bindDynamic at hb hb'
  rw [hl.dynamics_shifted ha] at hb'
  cases hd : s.assembler.labels.dynamics[id.toNat]? with
  | none =>
    rw [hd] at hb hb'
    exact answers_of_error hb hb'
  | some offset? =>
    rw [hd] at hb hb'
    cases offset? with
    | some offset => exact answers_of_error hb hb'
    | none =>
      refine hl.answers_quiet rfl rfl hb hb' ?_ (fun _ => rfl) hl.memory hl.stage hl.globals ?_
      · exact (hl.paired.bound _ _).bound' _ _
      · intro front hfront hlen
        obtain ⟨hlt, -⟩ := List.getElem?_eq_some_iff.mp hd
        show s'.assembler.labels.dynamics.set (slots.shifted id).toNat (some s'.assembler.offset) =
          front ++ s.assembler.labels.dynamics.set id.toNat (some s.assembler.offset)
        rw [ha.toNat_shifted_of_lt hlt, hfront, hl.offset_eq,
          List.set_append_right _ _ (by omega), hlen, Nat.add_sub_cancel]

/-- Operations that concern the memory alone. -/
theorem answers_memory (hl : Lockstep slots s s') {b b' : Assembler} (hop : op.alters = false)
    (hhap : ∀ a, op.happenings a = []) (hb : s.assembler.perform op = .ok b)
    (hb' : s'.assembler.perform op = .ok b') (halike : Assembler.Alike s.assembler b)
    (halike' : Assembler.Alike s'.assembler b') (hmemory : b'.memory = b.memory)
    (hstage : b'.stage = b.stage) : Answers slots s s' op [op] := by
  refine hl.answers_quiet hop hop hb hb' ?_ (fun _ => by rw [hhap]; rfl) hmemory hstage ?_ ?_
  · rw [hhap, hhap, List.append_nil, List.append_nil]
    exact hl.paired
  · rw [halike.labels, halike'.labels, hl.globals]
  · intro front hd _
    rw [halike.labels, halike'.labels, hd]

theorem answers_close (hl : Lockstep slots s s') : Answers slots s s' .close [.close] := by
  have hsame : s'.assembler.close.memory = s.assembler.close.memory ∧
      s'.assembler.close.stage = s.assembler.close.stage := by
    unfold Assembler.close
    rw [hl.isOpen_eq, hl.memory]
    split
    · exact ⟨rfl, rfl⟩
    · exact ⟨hl.memory, hl.stage⟩
  exact hl.answers_memory rfl (fun _ => rfl) rfl rfl s.assembler.close_alike
    s'.assembler.close_alike hsame.1 hsame.2

theorem answers_closeBuffer (hl : Lockstep slots s s') :
    Answers slots s s' .closeBuffer [.closeBuffer] := by
  have hsame : s'.assembler.closeBuffer.memory = s.assembler.closeBuffer.memory ∧
      s'.assembler.closeBuffer.stage = s.assembler.closeBuffer.stage := by
    unfold Assembler.closeBuffer Assembler.hasBuffer
    rw [hl.stage, hl.memory]
    split
    · exact ⟨rfl, rfl⟩
    · exact ⟨hl.memory, hl.stage⟩
  exact hl.answers_memory rfl (fun _ => rfl) rfl rfl s.assembler.closeBuffer_alike
    s'.assembler.closeBuffer_alike hsame.1 hsame.2

theorem answers_unlock (hl : Lockstep slots s s') (guard : Nat) :
    Answers slots s s' (.unlock guard) [.unlock guard] := by
  have hsame : (s'.assembler.unlock guard).memory = (s.assembler.unlock guard).memory := by
    unfold Assembler.unlock
    rw [hl.memory]
  exact hl.answers_memory rfl (fun _ => rfl) rfl rfl (s.assembler.unlock_alike guard)
    (s'.assembler.unlock_alike guard) hsame hl.stage

theorem answers_lock (hl : Lockstep slots s s') : Answers slots s s' .lock [.lock] := by
  cases hlock : s.assembler.memory.lock with
  | error e =>
    have hlock' : s'.assembler.memory.lock = .error e := hl.memory ▸ hlock
    have hf : s.assembler.perform .lock = .error (.one e) := by
      simp only [Assembler.perform, Assembler.lock, hlock]
      rfl
    have hf' : s'.assembler.perform .lock = .error (.one e) := by
      simp only [Assembler.perform, Assembler.lock, hlock']
      rfl
    exact answers_of_error hf hf'
  | ok x =>
    have hlock' : s'.assembler.memory.lock = .ok x := hl.memory ▸ hlock
    have hb : s.assembler.lock = .ok (x.1, { s.assembler with memory := x.2 }) := by
      simp only [Assembler.lock, hlock]
    have hb' : s'.assembler.lock = .ok (x.1, { s'.assembler with memory := x.2 }) := by
      simp only [Assembler.lock, hlock']
    have hp : s.assembler.perform .lock = .ok { s.assembler with memory := x.2 } := by
      rw [Assembler.perform, hb]
      rfl
    have hp' : s'.assembler.perform .lock = .ok { s'.assembler with memory := x.2 } := by
      rw [Assembler.perform, hb']
      rfl
    exact hl.answers_memory rfl (fun _ => rfl) hp hp' (Assembler.lock_alike hb)
      (Assembler.lock_alike hb') rfl hl.stage

section commit

variable (hl : Lockstep slots s s') (ha : Ahead slots s rest)
  (hapart : s.history.references.Pairwise Reference.Apart) (next : UInt64)

include hl ha hapart

theorem commit_fails {f : Failure} (hf : s.assembler.commit next = .error f) :
    ∃ f', s'.assembler.commit next = .error f' := by
  cases hb' : s'.assembler.commit next with
  | error f' => exact ⟨f', rfl⟩
  | ok b' =>
    obtain ⟨b, hb⟩ := (hl.commit_iff ha hapart).mp ⟨b', hb'⟩
    rw [hb] at hf
    cases hf

theorem answers_commit : Answers slots s s' (.commit next) [.commit next] := by
  cases hb : s.assembler.commit next with
  | ok b =>
    obtain ⟨b', hb'⟩ := (hl.commit_iff ha hapart).mpr ⟨b, hb⟩
    exact answers_of_ok hb hb' (hl.commit ha hapart hb hb')
  | error f =>
    obtain ⟨f', hb'⟩ := hl.commit_fails ha hapart next hb
    exact answers_of_error hb hb'

theorem answers_finalize : Answers slots s s' (.finalize next) [.finalize next] := by
  cases hb : s.assembler.commit next with
  | ok b =>
    obtain ⟨b', hb'⟩ := (hl.commit_iff ha hapart).mpr ⟨b, hb⟩
    have hnext := hl.commit ha hapart hb hb'
    have hdone : s.assembler.perform (.finalize next) = .ok { b with
        stage := .finalized, log := b.log ++ [.finalized b.committed] } := by
      rw [Assembler.perform, Assembler.finalize, hb]
      rfl
    have hdone' : s'.assembler.perform (.finalize next) = .ok { b' with
        stage := .finalized, log := b'.log ++ [.finalized b'.committed] } := by
      rw [Assembler.perform, Assembler.finalize, hb']
      rfl
    exact answers_of_ok hdone hdone' ⟨hl.sound.perform rfl hdone, hl.sound'.perform rfl hdone',
      hnext.paired, hnext.memory, rfl, hnext.minimum, hnext.globals, hnext.dynamics⟩
  | error f =>
    obtain ⟨f', hb'⟩ := hl.commit_fails ha hapart next hb
    have hf : s.assembler.perform (.finalize next) = .error f := by
      rw [Assembler.perform, Assembler.finalize, hb]
      rfl
    have hf' : s'.assembler.perform (.finalize next) = .error f' := by
      rw [Assembler.perform, Assembler.finalize, hb']
      rfl
    exact answers_of_error hf hf'

end commit

section append

variable {scratch scratch' : Bytes} {u : Use} {r : Reference}

theorem admits (hl : Lockstep slots s s') (hlen : scratch'.length = scratch.length)
    (h : s.assembler.Admits scratch u r) :
    s'.assembler.Admits scratch' (slots.use s.history u) (slots.deferred s.history r) := by
  refine ⟨?_, ?_, ?_⟩
  · rw [hl.committed_eq, hlen, slots.reference?_use, h.reference]
    rfl
  · exact (slots.target_cases s.history u.target).2.1.trans h.valid
  · rw [hl.committed_eq]
    exact h.within

theorem admits_of {r' : Reference} (hl : Lockstep slots s s')
    (hlen : scratch'.length = scratch.length)
    (h : s'.assembler.Admits scratch' (slots.use s.history u) r') :
    ∃ r, s.assembler.Admits scratch u r := by
  have href := h.reference
  rw [hl.committed_eq, hlen, slots.reference?_use] at href
  obtain ⟨r, hr, rfl⟩ := Option.map_eq_some_iff.mp href
  refine ⟨r, hr, ?_, ?_⟩
  · exact (slots.target_cases s.history u.target).2.1.symm.trans h.valid
  · have hwithin := h.within
    rw [hl.committed_eq] at hwithin
    exact hwithin

theorem length_scratch_append (hl : Lockstep slots s s') (data : Bytes) :
    (s'.assembler.scratch ++ data).length = (s.assembler.scratch ++ data).length := by
  rw [List.length_append, List.length_append, hl.scratch_length_eq]

/-- A use whose target is not a local label is put off. -/
theorem record_deferred {a : Assembler} {h : History} {r' : Reference}
    (hadmits : a.Admits scratch' (slots.use h u) r') :
    a.record scratch' (slots.use h u) = .ok (.later r') := by
  obtain ⟨-, -, hforward, hbackward⟩ := slots.target_cases h u.target
  have htarget : r'.target = slots.target h u.target := by
    obtain ⟨rel, -, rfl⟩ := Option.map_eq_some_iff.mp hadmits.reference
    rfl
  rw [hadmits.record_eq, Assembler.settle]
  cases ht : slots.target h u.target with
  | forward name => exact absurd ht (hforward name)
  | backward name => exact absurd ht (hbackward name)
  | nowhere | global | dynamic | external => rw [htarget, ht]

section refused

variable (hl : Lockstep slots s s') (ha : Ahead slots s rest)

include hl ha

/-- A backward reference that is refused at once can never be resolved. -/
theorem hopeless_backward {name : String} (htar : r.target = .backward name)
    (hfails : s.assembler.labels.locals.lookup name = none ∨
      ∃ offset, s.assembler.labels.locals.lookup name = some offset ∧ r.Misfits offset) :
    Hopeless slots s'.assembler.labels (slots.deferred s.history r) := by
  have htarget : (slots.deferred s.history r).target =
      .dynamic (slots.fresh name (s.history.bindings (.local name)).length) := by
    rw [Slots.deferred, htar]
    rfl
  rw [hl.sound.tracks.binds.locals] at hfails
  -- A label that was never bound has no latest binding, so the spare one stands for it.
  rcases hfails with hnone | ⟨offset, hsome, hmisfits⟩
  · rw [List.getLast?_eq_none_iff.mp hnone] at htarget
    have hspare : slots.fresh name 0 = slots.spare :=
      congrArg UInt32.ofNat (List.idxOf_eq_length (ha.positive name))
    refine .unbound (htarget.trans (congrArg Target.dynamic hspare)) ?_
    rw [htarget]
    exact hl.lookup_spare ha name
  · refine .unfit offset htarget ?_ hmisfits.deferred
    rw [htarget]
    rw [List.getLast?_eq_getElem?] at hsome
    obtain ⟨hlt, -⟩ := List.getElem?_eq_some_iff.mp hsome
    obtain ⟨n, hn⟩ := Nat.exists_eq_succ_of_ne_zero (Nat.ne_of_gt (Nat.zero_lt_of_lt hlt))
    rw [hn] at hsome ⊢
    exact (hl.lookup_fresh ha name n).trans hsome

/-- Code that is refused for a local reference is not refused in the other session, which puts
the reference off in vain. -/
theorem doomed_append {c : Code} {f : Failure} {b' : Assembler}
    (hopen : s.assembler.isOpen = true) (hf : s.assembler.append c = .error f)
    (hb' : s'.assembler.append (slots.code s.history c) = .ok b') : Doomed slots b' := by
  obtain ⟨u, hu, e, he⟩ := Assembler.append_fails hopen hf
  obtain ⟨x', hx'⟩ := Assembler.records_of_append hb' (List.mem_map_of_mem hu)
  obtain ⟨r', hadmits'⟩ := Assembler.admits_of_record hx'
  obtain ⟨r, hadmits⟩ := hl.admits_of (hl.length_scratch_append c.code) hadmits'
  obtain ⟨name, htar, hfails⟩ := hadmits.record_fails he
  have hless := hl.hopeless_backward ha htar hfails
  have hunbound : r.bound = none := by
    obtain ⟨rel, -, rfl⟩ := Option.map_eq_some_iff.mp hadmits.reference
    rfl
  have hpost : Assembler.postponed? s'.assembler.labels (slots.deferred s.history r) =
      some (slots.deferred s.history r) := by
    simp [Assembler.postponed?, Slots.deferred, Slots.target, htar]
  have hrefs := slots.references_code s.history (s'.assembler.offset + c.code.length) c
  obtain ⟨-, ps, -, rfl⟩ := Assembler.append_eq_ok hb' hrefs
  refine ⟨slots.deferred s.history r, List.mem_append_right _ ?_, hunbound, ?_⟩
  · have href := hadmits.reference
    rw [List.length_append, ← Nat.add_assoc] at href
    have hmem := List.mem_filterMap.mpr ⟨u, hu, href⟩
    refine List.mem_filterMap.mpr ⟨_, List.mem_map_of_mem ?_, hpost⟩
    rw [hl.offset_eq]
    exact hmem
  · cases hless with
    | unbound ht hnone => exact .unbound ht hnone
    | unfit offset ht hsome hmisfits => exact .unfit offset ht hsome hmisfits

omit ha in
theorem append_succeeds {c : Code} {b : Assembler} (hopen : s.assembler.isOpen = true)
    (hb : s.assembler.append c = .ok b) :
    ∃ b', s'.assembler.append (slots.code s.history c) = .ok b' := by
  cases hb' : s'.assembler.append (slots.code s.history c) with
  | ok b' => exact ⟨b', rfl⟩
  | error f' =>
    obtain ⟨u', hu', e', he'⟩ := Assembler.append_fails (hl.isOpen_eq.trans hopen) hb'
    obtain ⟨u, hu, rfl⟩ := List.mem_map.mp hu'
    obtain ⟨x, hx⟩ := Assembler.records_of_append hb hu
    obtain ⟨r, hadmits⟩ := Assembler.admits_of_record hx
    have hok := record_deferred (hl.admits (hl.length_scratch_append c.code) hadmits)
    exact absurd (hok.symm.trans he') (by simp)

theorem answers_append (c : Code) :
    Answers slots s s' (.append c) [.append (slots.code s.history c)] := by
  cases hopen : s.assembler.isOpen with
  | false => exact hl.answers_of_closed hopen rfl rfl
  | true =>
    cases hb : s.assembler.append c with
    | ok b =>
      obtain ⟨b', hb'⟩ := hl.append_succeeds hopen hb
      refine hl.answers_quiet rfl rfl hb hb' ?_ (fun _ => History.bindings_appended ..) ?_ ?_ ?_ ?_
      · have hpaired := hl.paired.appends c.code
          (c.refs.filterMap (Operation.reference? (s.assembler.offset + c.code.length)))
        rw [← slots.references_code] at hpaired
        simp only [Operation.happenings, Operation.appends, hl.offset_eq]
        exact hpaired
      all_goals
        obtain ⟨-, ps, -, rfl⟩ := Assembler.append_eq_ok hb rfl
        obtain ⟨-, ps', -, rfl⟩ := Assembler.append_eq_ok hb' rfl
      · exact hl.memory
      · exact hl.stage
      · exact hl.globals
      · exact fun _ hd _ => hd
    | error f =>
      have hf : s.assembler.perform (.append c) = .error f := hb
      unfold Answers
      rw [hf]
      intro b' hb'
      rw [Assembler.performAll_singleton] at hb'
      exact hl.doomed_append ha hopen hb hb'

theorem answers_emit (instruction : Except Error Code) :
    Answers slots s s' (.emit instruction) [.emit (instruction.map (slots.code s.history))] := by
  cases instruction with
  | error e =>
    exact hl.answers_whenOpen rfl rfl fun hb hb' => answers_of_error hb hb'
  | ok c =>
    exact (hl.answers_append ha c).congr (Assembler.perform_emit ..) rfl
      (Assembler.perform_emit ..) rfl

theorem answers_relocate (u : Use) :
    Answers slots s s' (.relocate u) [.relocate (slots.use s.history u)] :=
  (hl.answers_append ha ⟨[], [u]⟩).congr rfl rfl rfl rfl

end refused

end append

section localLabel

variable {name : String} (hl : Lockstep slots s s')

include hl

theorem waiting_eq_nil : s'.assembler.labels.waiting = [] := by
  refine List.eq_nil_iff_forall_not_mem.mpr fun q hq => ?_
  obtain ⟨before', after', hr', -, name, htar, -⟩ := (hl.sound'.tracks.waiting q).mp hq
  obtain ⟨before, r, after, -, rfl, -⟩ := hl.paired.records' hr'
  exact (slots.target_cases before r.target).2.2.1 name htar

/-- The local label itself makes no difference. -/
theorem localLabel_succeeds (hopen : s.assembler.isOpen = true) (name : String) :
    ∃ c', s'.assembler.perform (.localLabel name) = .ok c' ∧
      Lockstep slots s ⟨c', s'.history ++ [Happening.bound (.local name) s'.assembler.offset]⟩ := by
  have hnone : s'.assembler.labels.waitingFor name = [] := by
    rw [Labels.waitingFor, hl.waiting_eq_nil]
    rfl
  have hok : s'.assembler.perform (.localLabel name) = .ok { s'.assembler with
      pending := s'.assembler.pending ++ []
      labels := s'.assembler.labels.bindLocal name s'.assembler.offset } := by
    rw [Assembler.perform, Assembler.localLabel, Assembler.whenOpen,
      if_pos (hl.isOpen_eq.trans hopen), hnone]
    rfl
  exact ⟨_, hok, hl.sound, hl.sound'.perform rfl hok, hl.paired.bound' _ _, hl.memory, hl.stage,
    hl.minimum, hl.globals, hl.dynamics⟩

/-- The label that is set aside for the next binding can be bound, since that binding is
foreseen. -/
theorem dynamicLabel_fresh (ha : Ahead slots s rest) (hopen : s.assembler.isOpen = true)
    {n : Nat} (hn : (s.history.bindings (.local name)).length = n) (hmem : (name, n + 1) ∈ slots) :
    ∃ b', s'.assembler.perform (.dynamicLabel (slots.fresh name (n + 1))) = .ok b' := by
  obtain ⟨front, hfront, hd⟩ := hl.dynamics
  have hfree : s'.assembler.labels.dynamics[slots.idxOf (name, n + 1)]? = some none := by
    have hlt := List.idxOf_lt_length_of_mem hmem
    rw [hd, List.getElem?_append_left (by rw [hfront.length]; omega), hfront.bound name _ hmem,
      Nat.add_sub_cancel, List.getElem?_eq_none (Nat.le_of_eq hn)]
  rw [Assembler.perform, Assembler.dynamicLabel, Assembler.whenOpen,
    if_pos (hl.isOpen_eq.trans hopen), Labels.bindDynamic, ha.toNat_fresh, hfree]
  exact ⟨_, rfl⟩

theorem bindLocal (ha : Ahead slots s rest) {n : Nat}
    (hn : (s.history.bindings (.local name)).length = n) (hmem : (name, n + 1) ∈ slots)
    {b b' : Assembler} (hb : s.assembler.perform (.localLabel name) = .ok b)
    (hb' : s'.assembler.perform (.dynamicLabel (slots.fresh name (n + 1))) = .ok b') :
    Lockstep slots ⟨b, s.history ++ [Happening.bound (.local name) s.assembler.offset]⟩
      ⟨b', s'.history ++
        [Happening.bound (.dynamic (slots.fresh name (n + 1))) s'.assembler.offset]⟩ := by
  have hsound := hl.sound.perform rfl hb
  have hsound' := hl.sound'.perform rfl hb'
  obtain ⟨ps, -, rfl⟩ := Assembler.localLabel_eq_ok hb
  obtain ⟨-, rfl⟩ := Assembler.dynamicLabel_eq_ok hb'
  refine ⟨hsound, hsound', (hl.paired.bound _ _).bound' _ _, hl.memory, hl.stage, hl.minimum,
    hl.globals, ?_⟩
  obtain ⟨front, hfront, hd⟩ := hl.dynamics
  have hlt := List.idxOf_lt_length_of_mem hmem
  refine ⟨_, hfront.bind ha.positive hn hmem s.assembler.offset, ?_⟩
  show s'.assembler.labels.dynamics.set _ (some s'.assembler.offset) =
    front.set (slots.idxOf (name, n + 1)) (some s.assembler.offset) ++ s.assembler.labels.dynamics
  rw [ha.toNat_fresh, hd, hl.offset_eq, List.set_append_left _ _ (by rw [hfront.length]; omega)]

theorem doomed_localLabel {n : Nat}
    (hn : (s.history.bindings (.local name)).length = n) (hopen : s.assembler.isOpen = true)
    {f : Failure} {b' : Assembler} (hf : s.assembler.perform (.localLabel name) = .error f)
    (hb' : s'.assembler.perform (.dynamicLabel (slots.fresh name (n + 1))) = .ok b') :
    Doomed slots b' := by
  obtain ⟨r, hr, hname, hmisfits⟩ := Assembler.localLabel_fails hl.sound.bounds hopen hf
  obtain ⟨before, after, hrec, hc, m, htar, hwaits⟩ := (hl.sound.tracks.waiting r).mp hr
  obtain rfl : m = name := by rwa [htar] at hname
  -- The label has not been bound since the reference was recorded, so it waits for this binding.
  have hcount : (before.bindings (.local m)).length = n := by
    rw [← hn, hrec, History.bindings_append, History.bindings_recorded, hwaits, List.append_nil]
  have htarget : (slots.deferred before r).target = .dynamic (slots.fresh m (n + 1)) := by
    rw [Slots.deferred, htar, ← hcount]
    rfl
  obtain ⟨before', after', hrec', hc'⟩ := hl.paired.records hrec
  have hpending : slots.deferred before r ∈ s'.assembler.pending := by
    have hpost : Postponed (slots.deferred before r) after' := by
      refine ⟨fun h => hc (hc'.mp h), ?_⟩
      rw [htarget]
      trivial
    refine (hl.sound'.tracks.pending _).mpr ⟨before', _, after', hrec', hpost, ?_⟩
    rw [provisional, htarget]
  obtain ⟨hfree, rfl⟩ := Assembler.dynamicLabel_eq_ok hb'
  obtain ⟨hlt, -⟩ := List.getElem?_eq_some_iff.mp hfree
  rw [← hl.offset_eq] at hmisfits
  refine ⟨_, hpending, (hl.sound.tracks.held hrec).unbound,
    .unfit s'.assembler.offset htarget ?_ hmisfits.deferred⟩
  rw [htarget]
  simp only [Labels.lookup, List.getElem?_set_self hlt, Option.join_some]

theorem answers_localLabel (ha : Ahead slots s (.localLabel name :: rest)) :
    Answers slots s s' (.localLabel name) (slots.operation s.history (.localLabel name)) := by
  cases hopen : s.assembler.isOpen with
  | false => exact hl.answers_of_closed hopen rfl rfl
  | true =>
    -- Binding the local label changes nothing; the other label is bound at the same offset.
    obtain ⟨c', hc', hmid⟩ := hl.localLabel_succeeds hopen name
    obtain ⟨n, hn⟩ : ∃ n, (s.history.bindings (.local name)).length = n := ⟨_, rfl⟩
    have hmem : (name, n + 1) ∈ slots := by
      refine ha.foreseen name (n + 1) (Nat.succ_pos n) ?_
      simp [Operation.boundLocal?, hn]
    obtain ⟨b', hb'⟩ := hmid.dynamicLabel_fresh ha hopen hn hmem
    unfold Answers
    simp only [Slots.operation, hn]
    cases hb : s.assembler.perform (.localLabel name) with
    | ok b =>
      show Lockstep slots (s.step _) ((s'.step _).step _)
      rw [Session.step_of_ok hb, Session.step_of_ok hc']
      simp only [Operation.happenings]
      rw [Session.step_of_ok hb']
      exact hmid.bindLocal ha hn hmem hb hb'
    | error f =>
      intro d' hd'
      rw [Assembler.performAll, List.foldlM_cons, hc', ok_bind, ← Assembler.performAll,
        Assembler.performAll_singleton] at hd'
      exact hmid.doomed_localLabel hn hopen hb hd'

end localLabel

theorem answers (hl : Lockstep slots s s') (ha : Ahead slots s (op :: rest))
    (hapart : s.history.references.Pairwise Reference.Apart) (hop : op.alters = false) :
    Answers slots s s' op (slots.operation s.history op) := by
  cases op with
  | extend data => exact hl.answers_extend data
  | align n fill => exact hl.answers_align n fill
  | newDynamic => exact hl.answers_newDynamic
  | globalLabel name => exact hl.answers_globalLabel name
  | dynamicLabel id => exact hl.answers_dynamicLabel ha id
  | localLabel name => exact hl.answers_localLabel ha
  | append c => exact hl.answers_append ha c
  | relocate u => exact hl.answers_relocate ha u
  | emit instruction => exact hl.answers_emit ha instruction
  | commit next => exact hl.answers_commit ha hapart next
  | finalize next => exact hl.answers_finalize ha hapart next
  | alter | alterUncommitted => cases hop
  | close => exact hl.answers_close
  | closeBuffer => exact hl.answers_closeBuffer
  | lock => exact hl.answers_lock
  | unlock guard => exact hl.answers_unlock guard

end Lockstep

end MachineCode
