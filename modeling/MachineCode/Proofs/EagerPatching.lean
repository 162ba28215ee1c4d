import MachineCode.Proofs.Answers

/-!
Eager and deferred resolution agree over whole runs. References to local labels that do not depend
on the base address are resolved while the code is at no address yet. What this writes is what a
commit at the real base address would have written, and what it refuses no commit would accept.
-/
namespace MachineCode

theorem Assembler.perform_dynamics {a b : Assembler} {op : Operation} (hb : a.perform op = .ok b) :
    b.labels.dynamics.length = a.labels.dynamics.length + if op.isNewDynamic then 1 else 0 := by
  obtain ⟨waiting, hl⟩ := perform_labels hb
  rw [hl]
  cases op with
  | newDynamic => exact List.length_append
  | dynamicLabel id => exact List.length_set
  | extend | align | globalLabel | localLabel | append | relocate | emit | commit | finalize | alter
  | alterUncommitted | close | closeBuffer | lock | unlock => rfl

theorem Operation.binds?_local {op : Operation} {name : String} :
    op.binds? = some (.local name) ↔ op.boundLocal? = some name := by
  cases op <;> simp [binds?, boundLocal?]

namespace Ahead

variable {slots : Slots} {s : Session} {op : Operation} {rest : List Operation}

theorem start (ops : List Operation) (capacity : Nat)
    (hroom : (Slots.ofOperations ops).length + 1 + ops.countP (·.isNewDynamic) <
      UInt32.size) : Ahead (Slots.ofOperations ops) (Session.start capacity) ops where
  positive name := by
    rw [Slots.ofOperations, Slots.mem_ofNames]
    omega
  foreseen name n hn hle := by
    rw [Slots.ofOperations, Slots.mem_ofNames]
    simp only [Session.start, History.bindings, List.filterMap_nil, List.length_nil,
      List.count_nil] at hle ⊢
    omega
  room := hroom

theorem step (ha : Ahead slots s (op :: rest)) : Ahead slots (s.step op) rest := by
  have hpast (name : String) : ((s.step op).history.bindings (.local name)).length +
      (rest.filterMap (·.boundLocal?)).count name ≤
      (s.history.bindings (.local name)).length +
        ((op :: rest).filterMap (·.boundLocal?)).count name := by
    have hcount : ((op :: rest).filterMap (·.boundLocal?)).count name =
        (if op.boundLocal? = some name then 1 else 0) +
          (rest.filterMap (·.boundLocal?)).count name := by
      cases hop : op.boundLocal? with
      | none => simp [hop]
      | some other => simp [hop, List.count_cons, Nat.add_comm]
    rw [hcount]
    unfold Session.step
    split
    · simp only [History.bindings_append, Operation.bindings_happenings, Operation.binds?_local,
        List.length_append]
      split <;> simp only [List.length_singleton, List.length_nil] <;> omega
    · omega
  have hroom : (s.step op).assembler.labels.dynamics.length +
      rest.countP (·.isNewDynamic) ≤ s.assembler.labels.dynamics.length +
        (op :: rest).countP (·.isNewDynamic) := by
    rw [List.countP_cons]
    unfold Session.step
    split
    · rename_i b hb
      have hlen := Assembler.perform_dynamics hb
      simp only
      omega
    · omega
  refine ⟨ha.positive, fun name n hn hle => ha.foreseen name n hn ?_, ?_⟩
  · exact Nat.le_trans hle (hpast name)
  · have := ha.room
    omega

end Ahead

section steps

variable {slots : Slots} {s s' : Session} {op op' : Operation} {rest : List Operation}

theorem Slots.Harmless.append {ops ops' : List Operation} (h : slots.Harmless ops)
    (h' : slots.Harmless ops') : slots.Harmless (ops ++ ops') := by
  intro op hop
  exact (List.mem_append.mp hop).elim (h op) (h' op)

theorem Ahead.harmless_operation (ha : Ahead slots s (op :: rest)) (hop : op.alters = false) :
    slots.Harmless (slots.operation s.history op) := by
  have hroom := ha.room
  have hspare : slots.spare.toNat = slots.length := UInt32.toNat_ofNat_of_lt' (by omega)
  have hbound (id : UInt32) (hid : id.toNat ≠ slots.length) :
      Operation.dynamicLabel id ≠ .dynamicLabel slots.spare := by
    intro he
    exact hid (by rw [Operation.dynamicLabel.inj he, hspare])
  intro op' hop'
  cases op with
  | dynamicLabel id =>
    obtain rfl := List.mem_singleton.mp hop'
    refine ⟨rfl, hbound _ ?_⟩
    rw [slots.toNat_shifted]
    omega
  | localLabel name =>
    rcases List.mem_cons.mp hop' with rfl | hop'
    · exact ⟨rfl, by simp⟩
    · obtain rfl := List.mem_singleton.mp hop'
      refine ⟨rfl, hbound _ ?_⟩
      have hmem := ha.foreseen name ((s.history.bindings (.local name)).length + 1)
        (Nat.succ_pos _) (by simp [Operation.boundLocal?])
      rw [ha.toNat_fresh]
      exact Nat.ne_of_lt (List.idxOf_lt_length_of_mem hmem)
  | alter | alterUncommitted => cases hop
  | extend | align | newDynamic | globalLabel | append | relocate | emit | commit | finalize | close
  | closeBuffer | lock | unlock =>
    obtain rfl := List.mem_singleton.mp hop'
    exact ⟨rfl, by simp⟩

theorem Ahead.harmless_step (ha : Ahead slots s (op :: rest)) (hop : op.alters = false) :
    slots.Harmless (slots.step s op) := by
  unfold Slots.step
  split
  · intro op' hop'
    obtain rfl := List.mem_singleton.mp hop'
    exact ⟨rfl, by simp⟩
  · exact ha.harmless_operation hop

theorem Slots.step_of_ok {b : Assembler} (hb : s.assembler.perform op = .ok b) :
    slots.step s op = slots.operation s.history op := by
  unfold step
  split
  · rename_i hf
    rw [hb] at hf
    cases hf
  · rfl

/-- An operation that fails leaves the one session as it is, and becomes one operation of the
other. -/
theorem Slots.step_of_error (slots : Slots) {f : Failure} (hf : s.assembler.perform op = .error f) :
    (∃ name, op = .localLabel name ∧ slots.step s op = [.localLabel name]) ∨
      ∃ op', slots.operation s.history op = [op'] ∧ slots.step s op = [op'] := by
  unfold step
  cases op with
  | localLabel name =>
    rw [hf]
    exact Or.inl ⟨name, rfl, rfl⟩
  | extend | align | newDynamic | globalLabel | dynamicLabel | append | relocate | emit | commit
  | finalize | alter | alterUncommitted | close | closeBuffer | lock | unlock =>
    exact Or.inr ⟨_, rfl, rfl⟩

namespace Lockstep

theorem step (hl : Lockstep slots s s') (ha : Ahead slots s (op :: rest))
    (hapart : s.history.references.Pairwise Reference.Apart) (hop : op.alters = false) :
    Lockstep slots (s.step op) (s'.run (slots.step s op)) ∨
      Doomed slots (s'.run (slots.step s op)).assembler ∧
        ∃ f, s.assembler.perform op = .error f := by
  have hanswers := hl.answers ha hapart hop
  unfold Answers at hanswers
  cases hb : s.assembler.perform op with
  | ok b =>
    rw [hb] at hanswers
    rw [Slots.step_of_ok hb]
    exact Or.inl hanswers
  | error f =>
    rw [hb] at hanswers
    have hstay : s.step op = s := by
      rw [Session.step, hb]
    rw [hstay]
    rcases slots.step_of_error hb with ⟨name, rfl, hstep⟩ | ⟨op', hsame, hstep⟩
    · -- The label that stands for the next binding is kept for another attempt.
      refine Or.inl ?_
      rw [hstep]
      show Lockstep slots s (s'.step (.localLabel name))
      cases hopen : s.assembler.isOpen with
      | true =>
        obtain ⟨c', hc', hmid⟩ := hl.localLabel_succeeds hopen name
        rw [Session.step_of_ok hc']
        exact hmid
      | false =>
        have hf' : s'.assembler.perform (.localLabel name) = .error (.one .finalized) := by
          rw [Assembler.perform, Assembler.localLabel, Assembler.whenOpen, hl.isOpen_eq, hopen]
          rfl
        rw [Session.step, hf']
        exact hl
    · rw [hstep]
      show Lockstep slots s (s'.step op') ∨ Doomed slots (s'.step op').assembler ∧ _
      rw [hsame] at hanswers
      cases hb' : s'.assembler.perform op' with
      | ok b' =>
        rw [Session.step_of_ok hb']
        exact Or.inr ⟨hanswers b' ((Assembler.performAll_singleton ..).trans hb'), f, rfl⟩
      | error f' =>
        refine Or.inl ?_
        rw [Session.step, hb']
        exact hl

end Lockstep

end steps

section runs

variable {slots : Slots} {s s' : Session} {first more : List Operation}

theorem Session.run_append (s : Session) (ops ops' : List Operation) :
    s.run (ops ++ ops') = (s.run ops).run ops' :=
  List.foldl_append

theorem Session.apart_of_run (h : (s.run first).history.references.Pairwise Reference.Apart) :
    s.history.references.Pairwise Reference.Apart := by
  obtain ⟨new, hnew⟩ : ∃ new, (s.run first).history = s.history ++ new :=
    run_induction (P := fun t => ∃ new, t.history = s.history ++ new) ⟨[], by simp⟩
      fun _ ⟨new, hnew⟩ _ => ⟨_, by rw [hnew, List.append_assoc]⟩
  rw [hnew, History.references_append] at h
  exact (List.pairwise_append.mp h).1

theorem Ahead.harmless_operations (ha : Ahead slots s (first ++ more))
    (hplain : ∀ op ∈ first, op.alters = false) :
    slots.Harmless (slots.operations s first) := by
  induction first generalizing s with
  | nil => exact fun _ h => absurd h List.not_mem_nil
  | cons op first ih =>
    have hfirst := ha.harmless_step (hplain op (List.mem_cons_self ..))
    exact hfirst.append (ih ha.step fun o ho => hplain o (List.mem_cons_of_mem _ ho))

theorem Ahead.run (ha : Ahead slots s (first ++ more)) : Ahead slots (s.run first) more := by
  induction first generalizing s with
  | nil => exact ha
  | cons op first ih => exact ih ha.step

/-- Two sessions stay in lockstep, unless an operation is refused that is not refused in the
other session; then no commit succeeds there any more. -/
theorem Lockstep.run (hl : Lockstep slots s s') (ha : Ahead slots s (first ++ more))
    (hplain : ∀ op ∈ first, op.alters = false)
    (hapart : (s.run first).history.references.Pairwise Reference.Apart) :
    Lockstep slots (s.run first) (s'.run (slots.operations s first)) ∨
      Doomed slots (s'.run (slots.operations s first)).assembler ∧
        ∀ b, s.assembler.performAll first ≠ .ok b := by
  induction first generalizing s s' with
  | nil => exact Or.inl hl
  | cons op first ih =>
    have hop := hplain op (List.mem_cons_self ..)
    have hrest := fun o ho => hplain o (List.mem_cons_of_mem op ho)
    have hrun : s'.run (slots.operations s (op :: first)) =
        (s'.run (slots.step s op)).run (slots.operations (s.step op) first) := by
      rw [Slots.operations, Session.run_append]
    rw [hrun]
    -- `more` stays as it is: the labels that the rest will need are set aside from the start.
    rcases hl.step ha (Session.apart_of_run hapart) hop with
      hnext | ⟨hdoomed, f, hf⟩
    · rcases ih hnext ha.step hrest hapart with hdone | ⟨hdoomed, hfails⟩
      · exact Or.inl hdone
      · exact Or.inr ⟨hdoomed, fun b hb => hfails b (Session.performAll_cons hb).2⟩
    · refine Or.inr ⟨hdoomed.run ?_ (ha.step.harmless_operations hrest), fun b hb => ?_⟩
      · exact hl.sound'.run fun o ho => (ha.harmless_step hop o ho).1
      · rw [Assembler.performAll_of_error hf] at hb
        cases hb

end runs

def Slots.deferring (slots : Slots) (capacity : Nat) (ops : List Operation) : Session :=
  (Session.start capacity).run (slots.program (Session.start capacity) ops)

theorem Session.run_newDynamic (s : Session) (n : Nat) :
    s.run (List.replicate n .newDynamic) = { s with
      assembler.labels.dynamics := s.assembler.labels.dynamics ++ List.replicate n none } := by
  induction n generalizing s with
  | zero => simp [run]
  | succ n ih =>
    have hstep : s.step .newDynamic = { s with
        assembler.labels.dynamics := s.assembler.labels.dynamics ++ [none] } := by
      rw [step_of_ok (b := s.assembler.newDynamic.2) rfl]
      simp [Operation.happenings, Assembler.newDynamic, Labels.newDynamic]
    rw [List.replicate_succ, run, List.foldl_cons, hstep, ← run, ih]
    simp [List.replicate_succ]

theorem Lockstep.start (slots : Slots) (capacity : Nat) : Lockstep slots (Session.start capacity)
    ((Session.start capacity).run (List.replicate (slots.length + 1) .newDynamic)) := by
  have hsound' : Session.Sound
      ((Session.start capacity).run (List.replicate (slots.length + 1) .newDynamic)) :=
    (Session.Sound.start capacity).run fun op hop => by
      rw [List.eq_of_mem_replicate hop]
      rfl
  have hfront : Front slots [] (List.replicate (slots.length + 1) none) := by
    refine ⟨List.length_replicate, ?_, fun name n hmem => ?_⟩
    · rw [List.getElem?_replicate, if_pos (Nat.lt_succ_self _)]
    · have hlt := List.idxOf_lt_length_of_mem hmem
      rw [List.getElem?_replicate, if_pos (by omega)]
      rfl
  rw [Session.run_newDynamic] at hsound' ⊢
  exact ⟨.start capacity, hsound', .start, rfl, rfl, rfl, rfl, _, hfront, by simp [Session.start]⟩

section programs

variable {capacity : Nat} {first rest : List Operation} {slots : Slots}

/-- After each part of a program, the two sessions are in lockstep, or an operation was refused
that would have kept the commits from succeeding. -/
theorem Slots.lockstep_or_doomed (ha : Ahead slots (Session.start capacity) (first ++ rest))
    (hplain : ∀ op ∈ first, op.alters = false)
    (hapart : ((Session.start capacity).run first).history.references.Pairwise Reference.Apart) :
    Lockstep slots ((Session.start capacity).run first) (slots.deferring capacity first) ∨
      Doomed slots (slots.deferring capacity first).assembler ∧
        ∀ b, Assembler.performAll { minCapacity := capacity } first ≠ .ok b := by
  have hrun := (Lockstep.start slots capacity).run ha hplain hapart
  rw [← Session.run_append] at hrun
  exact hrun

theorem Slots.sound_deferring (ha : Ahead slots (Session.start capacity) (first ++ rest))
    (hplain : ∀ op ∈ first, op.alters = false) : (slots.deferring capacity first).Sound := by
  refine (Session.Sound.start capacity).run fun op hop => ?_
  rcases List.mem_append.mp hop with hop | hop
  · rw [List.eq_of_mem_replicate hop]
    rfl
  · exact (ha.harmless_operations hplain op hop).1

/-- An operation that is refused at once, and the operations that stand for it if they are not. -/
theorem Slots.doomed_of_refused {op : Operation} {f : Failure} {b' : Assembler}
    (ha : Ahead slots (Session.start capacity) (first ++ op :: rest))
    (hplain : ∀ o ∈ first, o.alters = false) (hop : op.alters = false)
    (hapart : ((Session.start capacity).run first).history.references.Pairwise Reference.Apart)
    (hf : ((Session.start capacity).run first).assembler.perform op = .error f)
    (hb' : (slots.deferring capacity first).assembler.performAll
      (slots.operation ((Session.start capacity).run first).history op) = .ok b') :
    Doomed slots ((slots.deferring capacity first).run
      (slots.operation ((Session.start capacity).run first).history op)).assembler := by
  rcases lockstep_or_doomed ha hplain hapart with hl | ⟨hdoomed, -⟩
  · have hanswers := hl.answers ha.run hapart hop
    unfold Lockstep.Answers at hanswers
    rw [hf] at hanswers
    rw [Session.run_of_performAll hb']
    exact hanswers b' hb'
  · exact hdoomed.run (sound_deferring ha hplain) (ha.run.harmless_operation hop)

end programs

/-- A program without alterations whose fields are apart, and the one in which references to local
labels are put off: each is to a label that is set aside, as long as there are numbers for these,
and bound where the local reference means. Whenever a commit succeeds in both, it commits the same
bytes at the same base address. An operation that is refused in the first program only keeps the
second from ever committing again, and as long as none is refused, a commit succeeds in both or in
none. -/
theorem deferring_agrees (capacity : Nat) {ops : List Operation}
    (hplain : ∀ op ∈ ops, op.alters = false)
    (hroom : (Slots.ofOperations ops).length + 1 + ops.countP (·.isNewDynamic) < UInt32.size)
    (hapart : ((Session.start capacity).run ops).history.references.Pairwise Reference.Apart) :
    let slots := Slots.ofOperations ops
    let eager first := (Session.start capacity).run first
    let deferred first := slots.deferring capacity first
    (∀ first rest next b', ops = first ++ rest → (deferred first).assembler.commit next = .ok b' →
      ∀ {before r after}, (eager first).history.Records before r after →
        b'.labelOffset (slots.target before r.target) = denoted before after r.target) ∧
    (∀ first rest next b b', ops = first ++ rest → (eager first).assembler.commit next = .ok b →
      (deferred first).assembler.commit next = .ok b' →
      b'.memory.current.code = b.memory.current.code ∧ b'.base = b.base) ∧
    (∀ first op rest f b', ops = first ++ op :: rest →
      (eager first).assembler.perform op = .error f →
      (deferred first).assembler.performAll (slots.operation (eager first).history op) = .ok b' →
      ∀ more next c, slots.Harmless more → ((deferred first).run
        (slots.operation (eager first).history op ++ more)).assembler.commit next ≠ .ok c) ∧
    ∀ first rest b next, ops = first ++ rest →
      Assembler.performAll { minCapacity := capacity } first = .ok b →
      ((∃ c', (deferred first).assembler.commit next = .ok c') ↔ ∃ c, b.commit next = .ok c) := by
  intro slots eager deferred
  have hahead : Ahead slots (Session.start capacity) ops := .start ops capacity hroom
  have ahead {first rest} (he : ops = first ++ rest) : Ahead slots (eager first) rest :=
    (he ▸ hahead).run
  have plain {first rest} (he : ops = first ++ rest) : ∀ op ∈ first, op.alters = false :=
    fun op hop => hplain op (he ▸ List.mem_append_left _ hop)
  have apart {first rest} (he : ops = first ++ rest) :
      (eager first).history.references.Pairwise Reference.Apart := by
    rw [he, Session.run_append] at hapart
    exact Session.apart_of_run hapart
  have both {first rest} (he : ops = first ++ rest) :=
    Slots.lockstep_or_doomed (he ▸ hahead) (plain he) (apart he)
  have sound {first rest} (he : ops = first ++ rest) :=
    Slots.sound_deferring (he ▸ hahead) (plain he)
  refine ⟨?_, ?_, ?_, ?_⟩
  · intro first rest next b' he hb' before r after hr
    rcases both he with hl | ⟨hdoomed, -⟩
    · obtain ⟨refs, moved, hc⟩ := Assembler.commit_eq_ok hb'
      rw [Assembler.labelOffset, hc.labels]
      exact hl.lookup_target (ahead he) hr
    · exact absurd hb' (hdoomed.commit_fails (sound he).bounds next)
  · intro first rest next b b' he hb hb'
    rcases both he with hl | ⟨hdoomed, -⟩
    · have hmemory : b'.memory = b.memory := (hl.commit (ahead he) (apart he) hb hb').memory
      unfold Assembler.base
      rw [hmemory]
      exact ⟨rfl, rfl⟩
    · exact absurd hb' (hdoomed.commit_fails (sound he).bounds next)
  · intro first op rest f b' he hf hb' more next c hmore
    have hop : op.alters = false := hplain op (he ▸ by simp)
    have hsound : ((deferred first).run (slots.operation (eager first).history op)).Sound :=
      (sound he).run fun o ho => ((ahead he).harmless_operation hop o ho).1
    have hdoomed := Slots.doomed_of_refused (he ▸ hahead) (plain he) hop (apart he) hf hb'
    rw [Session.run_append]
    exact (hdoomed.run hsound hmore).commit_fails
      (hsound.run fun o ho => (hmore o ho).1).bounds next
  · intro first rest b next he hb
    rcases both he with hl | ⟨-, hfails⟩
    · rw [← Session.run_of_performAll (s := Session.start capacity) hb]
      exact hl.commit_iff (ahead he) (apart he)
    · exact absurd hb (hfails b)

def localOps : List Operation :=
  [.localLabel "1",
    .append ⟨[0xeb, 0], [⟨.backward "1", 0, some (.x86 ⟨0, 1, .relative⟩)⟩]⟩,
    .append ⟨[0xe9, 0, 0, 0, 0], [⟨.forward "1", 0, some (.x86 ⟨0, 4, .relative⟩)⟩]⟩,
    .append ⟨List.replicate 8 0, [⟨.backward "1", 4, some (.x86 ⟨0, 8, .absToRel⟩)⟩]⟩,
    .localLabel "1",
    .commit 0x1000,
    .extend (List.replicate 4096 0x90),
    .append ⟨[0, 0, 0, 0x90], [⟨.backward "1", 0, some (.aarch64 .adrp)⟩]⟩]

def farJump : Operation :=
  .append ⟨[0xeb, 0], [⟨.backward "1", 0, some (.x86 ⟨0, 1, .relative⟩)⟩]⟩

theorem deferring_agrees_moved :
    let slots := Slots.ofOperations (localOps ++ [farJump])
    let s := (Session.start 0).run localOps
    let s' := slots.deferring 0 localOps
    (∃ b b', s.assembler.commit 0x9000 = .ok b ∧ s'.assembler.commit 0x9000 = .ok b' ∧
      b.region = 2 ∧ b'.memory.current.code = b.memory.current.code) ∧
    (∃ f b', s.assembler.perform farJump = .error f ∧
      s'.assembler.performAll (slots.operation s.history farJump) = .ok b') ∧
    ∀ next c, (s'.run (slots.operation s.history farJump)).assembler.commit next ≠ .ok c := by
  intro slots s s'
  have hplain : ∀ op ∈ localOps ++ [farJump], op.alters = false := by decide
  obtain ⟨hroom, hapart, hok, hok', hfails, haccepts⟩ :
      slots.length + 1 + (localOps ++ [farJump]).countP (·.isNewDynamic) < UInt32.size ∧
      ((Session.start 0).run (localOps ++ [farJump])).history.references.Pairwise
        Reference.Apart ∧
      (s.assembler.commit 0x9000).toOption.any (·.region = 2) = true ∧
      (s'.assembler.commit 0x9000).toOption.any (fun _ => true) = true ∧
      (s.assembler.perform farJump).toOption.isNone = true ∧
      (s'.assembler.performAll (slots.operation s.history farJump)).toOption.any
        (fun _ => true) = true := by
    decide +kernel
  obtain ⟨-, hbytes, hrefused, -⟩ := deferring_agrees 0 hplain hroom hapart
  obtain ⟨b, hb, hregion⟩ := exists_eq_ok hok
  obtain ⟨b', hb', -⟩ := exists_eq_ok hok'
  obtain ⟨c', hc', -⟩ := exists_eq_ok haccepts
  obtain ⟨f, hf⟩ : ∃ f, s.assembler.perform farJump = .error f := by
    cases hf : s.assembler.perform farJump with
    | error f => exact ⟨f, rfl⟩
    | ok c =>
      rw [hf] at hfails
      cases hfails
  refine ⟨⟨b, b', hb, hb', by simpa using hregion, ?_⟩, ⟨f, c', hf, hc'⟩, fun next c => ?_⟩
  · exact (hbytes localOps [farJump] 0x9000 b b' rfl hb hb').1
  · have hnever := hrefused localOps farJump [] f c' rfl hf hc' [] next c
      fun _ h => absurd h List.not_mem_nil
    rwa [List.append_nil] at hnever

end MachineCode
