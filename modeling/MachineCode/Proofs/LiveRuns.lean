import MachineCode.Proofs.Agreement

/-!
Executions that reach into the region of the code, and runs. A commit may fail after it has put
bytes into the live region; they lie behind the committed code then, where nobody looks. So every
run leaves the assembler that it would if a failed operation did nothing.
-/
namespace MachineCode

theorem Bytes.overwrite_at_length (bs rest new : Bytes) :
    (bs ++ rest).overwrite bs.length new = bs ++ (new ++ rest.drop new.length) := by
  rw [← append_overwrite (Nat.le_refl _), Nat.sub_self, overwrite, List.take_zero, List.nil_append,
    Nat.zero_add]

namespace Live

variable {x : Live}

theorem Agrees.andThen {c d : Act Unit} {expected : Except Failure Assembler}
    {f : Assembler → Assembler} (h : Agrees c x expected)
    (hd : ∀ y : Live, y.Full → Agrees d y (.ok (f y.assembler))) :
    Agrees (c >>= fun _ => d) x (expected.map f) := by
  obtain ⟨y, hy, hfull, he⟩ := h
  cases expected with
  | error e =>
    refine ⟨y, ?_, hfull, he⟩
    rw [Course.outcome_bind, hy]
    rfl
  | ok b =>
    obtain ⟨z, hz, hzfull, hzb⟩ := hd y hfull
    refine ⟨z, ?_, hzfull, hzb.trans (congrArg f he)⟩
    rw [Course.outcome_bind, hy]
    exact hz

section region

variable {bytes : Bytes} {n : Nat}

theorem bytes_withBytes : (x.withBytes bytes n).bytes = bytes := List.take_append_drop ..

theorem committed_withBytes (h : n ≤ bytes.length) :
    (x.withBytes bytes n).assembler.committed = n :=
  List.length_take_of_le h

theorem outcome_storesLive {ps : List Patch} (hn : n ≤ bytes.length)
    (h : ∀ p ∈ ps, p.Within bytes.length) :
    (ps.forM storeLive).outcome (x.withBytes bytes n) =
      some (.ok (), x.withBytes (Patch.applyAll ps bytes 0) n) := by
  induction ps generalizing bytes with
  | nil => rfl
  | cons p ps ih =>
    have hp := h p (List.mem_cons_self ..)
    have hwrite := Bytes.write?_eq_some bytes p.data (Nat.zero_le p.offset)
      (Nat.le_trans hp (Nat.le_add_left ..))
    have hlen : (bytes.overwrite (p.offset - 0) p.data).length = bytes.length :=
      Patch.length_apply hp
    show (storeLive p >>= fun _ => ps.forM storeLive).outcome _ = _
    simp only [storeLive, Course.outcome_bind, Course.outcome_get, bytes_withBytes, hwrite,
      Course.outcome_need, Option.map_some, Course.outcome_set, committed_withBytes hn]
    refine ih (hlen ▸ hn) ?_
    intro q hq
    rw [hlen]
    exact h q (List.mem_cons_of_mem _ hq)

theorem foldlM_write? {ps : List Patch} (h : ∀ p ∈ ps, p.Within bytes.length) :
    ps.foldlM (fun bytes p => bytes.write? 0 p.offset p.data) bytes =
      some (Patch.applyAll ps bytes 0) := by
  induction ps generalizing bytes with
  | nil => rfl
  | cons p ps ih =>
    have hp := h p (List.mem_cons_self ..)
    have hwrite := Bytes.write?_eq_some bytes p.data (Nat.zero_le p.offset)
      (Nat.le_trans hp (Nat.le_add_left ..))
    rw [List.foldlM_cons, hwrite]
    refine ih ?_
    intro q hq
    have hlen : (bytes.overwrite (p.offset - 0) p.data).length = bytes.length :=
      Patch.length_apply hp
    rw [hlen]
    exact h q (List.mem_cons_of_mem _ hq)

end region

theorem outcome_stageAll_patched {code : Bytes} {refs : List Reference}
    (h : ∀ r ∈ refs, r.Within 0 code.length) (base : UInt64) :
    (∃ es, Assembler.patched code base refs = .error es ∧
      ∀ x : Live, (stageAll code 0 base (unwritable base) refs).outcome x =
        some (.error (.many es), x)) ∨
    ∃ ps, Assembler.patched code base refs = .ok (Patch.applyAll ps code 0) ∧
      (∀ p ∈ ps, p.Within code.length) ∧
      ∀ x : Live, (stageAll code 0 base (unwritable base) refs).outcome x = some (.ok ps, x) := by
  have hin : ∀ r ∈ refs, r.Within 0 (0 + code.length) := by
    rw [Nat.zero_add]
    exact h
  have hstage (x : Live) := outcome_stageAll (x := x) hin base (unwritable base)
  have hpatched : Assembler.patched code base refs = (Assembler.gather (refs.map fun r =>
      (Patch.ofReference code 0 base r).mapError (unwritable base r))).map
        fun ps => Patch.applyAll ps code 0 := rfl
  cases hg : Assembler.gather (refs.map fun r =>
      (Patch.ofReference code 0 base r).mapError (unwritable base r)) with
  | error es =>
    rw [hg] at hpatched
    exact Or.inl ⟨es, hpatched, fun x => (hstage x).trans (by rw [hg]; rfl)⟩
  | ok ps =>
    rw [hg] at hpatched
    refine Or.inr ⟨ps, hpatched, ?_, fun x => (hstage x).trans (by rw [hg]; rfl)⟩
    intro p hp
    have := (Patch.within_of_gather hin hg p hp).2
    rwa [Nat.zero_add] at this

theorem commitInPlace_agrees (hx : x.Full) {refs : List Reference}
    (hroom : x.assembler.offset ≤ x.assembler.capacity)
    (hrefs : ∀ r ∈ refs, r.Within 0 x.assembler.offset) :
    Agrees (commitInPlace refs) x (((Assembler.patched x.assembler.image x.assembler.base refs).map
      fun code => { x.assembler with
        memory := x.assembler.memory.setCode code }).mapError .many) := by
  obtain ⟨a, slack⟩ := x
  have hfull : a.committed + slack.length = a.capacity := hx
  have hfits : a.committed + a.scratch.length ≤ a.capacity := hroom
  have hlen : a.image.length = a.offset := a.length_image
  -- the bytes of the region once the uncommitted ones are in it
  let rest := slack.drop a.scratch.length
  have hrest : a.offset + rest.length = a.capacity := by
    rw [List.length_drop, Assembler.offset]
    omega
  have hwrite : (Live.mk a slack).bytes.write? 0 a.committed a.scratch =
      some (a.image ++ rest) := by
    rw [Bytes.write?_eq_some _ _ (Nat.zero_le _), Nat.sub_zero]
    · exact congrArg some ((Bytes.overwrite_at_length ..).trans (List.append_assoc ..).symm)
    · rw [bytes, List.length_append]
      exact Nat.le_trans hfits (Nat.le_of_eq (hfull.symm.trans (Nat.zero_add _).symm))
  have htake : (a.image ++ rest).take a.offset = a.image := List.take_left' hlen
  -- none of them counts as committed yet
  have hplaced : (Live.mk a slack).withBytes (a.image ++ rest) a.committed =
      ⟨a, a.scratch ++ rest⟩ := by
    have hcode : (a.image ++ rest).take a.committed = a.memory.current.code := by
      rw [Assembler.image, List.append_assoc]
      exact List.take_left' rfl
    have hslack : (a.image ++ rest).drop a.committed = a.scratch ++ rest := by
      rw [Assembler.image, List.append_assoc]
      exact List.drop_left' rfl
    rw [withBytes, hcode, hslack]
    rfl
  rcases outcome_stageAll_patched (hlen ▸ hrefs) a.base with
    ⟨es, hes, hstage⟩ | ⟨ps, hps, hwithin, hstage⟩
  · rw [hes]
    refine ⟨⟨a, a.scratch ++ rest⟩, ?_, ?_, rfl⟩
    · simp only [commitInPlace, Course.outcome_bind, Course.outcome_get, hwrite,
        Course.outcome_need, Option.map_some, Course.outcome_set, htake, hstage]
      rw [hplaced]
      rfl
    · show a.committed + (a.scratch ++ rest).length = a.capacity
      rw [List.length_append, ← Nat.add_assoc]
      exact hrest
  · rw [hps]
    have hcode : (Patch.applyAll ps a.image 0).length = a.offset :=
      (Patch.length_applyAll hwithin).trans hlen
    have hstores : (ps.forM storeLive).outcome
        ((Live.mk a slack).withBytes (a.image ++ rest) a.committed) =
        some (.ok (), (Live.mk a slack).withBytes (Patch.applyAll ps a.image 0 ++ rest)
          a.committed) := by
      rw [← Patch.applyAll_append hwithin]
      refine outcome_storesLive ?_ fun p hp => ?_
      · rw [List.length_append, hlen, Assembler.offset]
        omega
      · exact Nat.le_trans (hwithin p hp) (by rw [List.length_append]; omega)
    have hdone : (Live.mk a slack).withBytes (Patch.applyAll ps a.image 0 ++ rest) a.offset =
        ⟨{ a with memory := a.memory.setCode (Patch.applyAll ps a.image 0) }, rest⟩ := by
      rw [withBytes, List.take_left' hcode, List.drop_left' hcode]
    refine ⟨⟨{ a with memory := a.memory.setCode (Patch.applyAll ps a.image 0) }, rest⟩,
      ?_, ?_, rfl⟩
    · simp only [commitInPlace, Course.outcome_bind, Course.outcome_get, hwrite,
        Course.outcome_need, Option.map_some, Course.outcome_set, htake, hstage, hstores,
        Course.outcome_modify, bytes_withBytes]
      exact congrArg (fun y => some (Except.ok (), y)) hdone
    · show (Patch.applyAll ps a.image 0).length + rest.length = a.capacity
      rw [hcode]
      exact hrest

/-- Code is copied to the start of an empty region, and the uncommitted bytes behind it. -/
theorem fill_blank {a : Assembler} {n : Nat} (hn : a.offset ≤ n) :
    ∃ copied rest, Bytes.write? (List.replicate n 0) 0 0 a.memory.current.code = some copied ∧
      copied.write? 0 a.committed a.scratch = some (a.image ++ rest) ∧
      a.offset + rest.length = n := by
  have hfits : a.committed + a.scratch.length ≤ n := hn
  let left : Bytes := (List.replicate n 0).drop a.committed
  have hleft : left.length = n - a.committed := by
    rw [List.length_drop, List.length_replicate]
  refine ⟨a.memory.current.code ++ left, left.drop a.scratch.length, ?_, ?_, ?_⟩
  · rw [← Int.natCast_zero, Bytes.write?_eq_some _ _ (Nat.le_refl 0), Nat.sub_zero]
    · exact congrArg some (Bytes.overwrite_at_length [] _ _)
    · rw [List.length_replicate, Nat.zero_add, Nat.zero_add]
      exact Nat.le_trans (Nat.le_add_right ..) hfits
  · rw [Bytes.write?_eq_some _ _ (Nat.zero_le _), Nat.sub_zero]
    · exact congrArg some ((Bytes.overwrite_at_length ..).trans (List.append_assoc ..).symm)
    · rw [List.length_append, hleft]
      show _ ≤ 0 + (a.committed + (n - a.committed))
      omega
  · rw [List.length_drop, hleft, Assembler.offset]
    omega

theorem commitMoved_agrees (hx : x.Full) (next : UInt64) {refs : List Reference}
    (hrefs : ∀ r ∈ (if x.assembler.committed = 0 then [] else x.assembler.managed) ++ refs,
      r.Within 0 x.assembler.offset) :
    Agrees (commitMoved next refs) x (((Assembler.patched x.assembler.image next
      ((if x.assembler.committed = 0 then [] else x.assembler.managed) ++ refs)).map fun code =>
        { x.assembler with
          memory := (x.assembler.memory.move next x.assembler.minCapacity code).1
          log := x.assembler.log ++
            (x.assembler.memory.move next x.assembler.minCapacity code).2 }).mapError .many) := by
  obtain ⟨a, slack⟩ := x
  simp only at hrefs ⊢
  have hlen : a.image.length = a.offset := a.length_image
  obtain ⟨-, -, hsize, -⟩ := Memory.nextCapacity_bounds a.capacity a.minCapacity a.offset
  obtain ⟨copied, rest, hcopied, hfilled, hrest⟩ := fill_blank hsize
  have htake : (a.image ++ rest).take a.offset = a.image := List.take_left' hlen
  rcases outcome_stageAll_patched (hlen ▸ hrefs) next with
    ⟨es, hes, hstage⟩ | ⟨ps, hps, hwithin, hstage⟩
  · rw [hes]
    refine .refused hx ?_
    simp only [commitMoved, Course.outcome_bind, outcome_view, hcopied, hfilled,
      Course.outcome_need, Option.map_some, htake, hstage]
  · rw [hps]
    have hcode : (Patch.applyAll ps a.image 0).length = a.offset :=
      (Patch.length_applyAll hwithin).trans hlen
    have hwrites : ps.foldlM (fun bytes p => bytes.write? 0 p.offset p.data) (a.image ++ rest) =
        some (Patch.applyAll ps a.image 0 ++ rest) := by
      rw [← Patch.applyAll_append hwithin]
      refine foldlM_write? fun p hp => ?_
      exact Nat.le_trans (hwithin p hp) (by rw [List.length_append]; omega)
    refine ⟨⟨{ a with
        memory := (a.memory.move next a.minCapacity (Patch.applyAll ps a.image 0)).1
        log := a.log ++ (a.memory.move next a.minCapacity (Patch.applyAll ps a.image 0)).2 },
      rest⟩, ?_, ?_, rfl⟩
    · simp only [commitMoved, Course.outcome_bind, outcome_view, hcopied, hfilled,
        Course.outcome_need, Option.map_some, htake, hstage, hwrites, Course.outcome_set,
        List.take_left' hcode, List.drop_left' hcode]
      rfl
    · obtain ⟨hmoved, -, -⟩ :=
        a.memory.move_current next a.minCapacity (Patch.applyAll ps a.image 0)
      have hcap := a.memory.move_capacity next a.minCapacity (Patch.applyAll ps a.image 0)
      have hcom := congrArg List.length hmoved
      rw [hcode] at hcap hcom
      exact (congrArg (· + rest.length) hcom).trans (hrest.trans hcap.symm)

theorem Agrees.conclude {c : Act Unit} {expected : Except Failure Assembler}
    (h : Agrees c x expected) (a : Assembler) (refs : List Reference) :
    Agrees (c >>= fun _ => conclude a refs) x (expected.map fun b => { b with
      scratch := []
      pending := []
      managed := b.managed ++ refs.filter (·.baseDependent)
      log := b.log ++ [.committed a.committed a.scratch.length refs.length] }) :=
  h.andThen fun _ hy => .updated hy rfl rfl rfl

theorem commit_agrees (ha : x.assembler.InBounds) (hx : x.Full) (next : UInt64) :
    Agrees (commit next) x (x.assembler.commit next) := by
  refine .whenOpen hx fun _ => ?_
  by_cases hnone : (x.assembler.scratch.isEmpty && x.assembler.pending.isEmpty &&
      x.assembler.labels.waiting.isEmpty) = true
  · rw [if_pos hnone]
    refine .updated hx ?_ rfl rfl
    simp only [Course.outcome_bind, outcome_view, hnone]
    rfl
  rw [if_neg hnone]
  cases hres : x.assembler.resolved with
  | error es =>
    refine .refused hx ?_
    simp only [Course.outcome_bind, outcome_view, hnone, hres]
    rfl
  | ok refs =>
    have hrefs : ∀ r ∈ refs, r.Within 0 x.assembler.offset := by
      intro q hq
      obtain ⟨r, hr, hrq⟩ := (Assembler.resolved_eq_ok hres).2.1 q hq
      exact ((ha.pending r hr).resolved hrq).mono (Nat.zero_le _) (Nat.le_refl _)
    by_cases hroom : x.assembler.memory.hasRoom x.assembler.scratch.length = true
    · have h := (commitInPlace_agrees hx (of_decide_eq_true hroom) hrefs).conclude x.assembler refs
      refine h.congr ?_ ?_
      · simp only [Course.outcome_bind, outcome_view, hnone, hres, hroom, mapError_ok,
          Bool.false_eq_true, if_true, if_false, Course.outcome_ofExcept]
      · rw [ok_bind, if_pos hroom]
        change Except.mapError Failure.many (Assembler.patched x.assembler.image _ _ >>= _) = _
        cases Assembler.patched x.assembler.image x.assembler.base refs with
        | error es => rfl
        | ok code => simp only [ok_bind, List.append_nil]; rfl
    · have hmoved : ∀ r ∈ (if x.assembler.committed = 0 then [] else x.assembler.managed) ++ refs,
          r.Within 0 x.assembler.offset := by
        intro r hr
        rcases List.mem_append.mp hr with hr | hr
        · split at hr
          · cases hr
          · exact (ha.managed r hr).mono (Nat.le_refl _) (Nat.le_add_right ..)
        · exact hrefs r hr
      have h := (commitMoved_agrees hx next hmoved).conclude x.assembler refs
      refine h.congr ?_ ?_
      · simp only [Course.outcome_bind, outcome_view, hnone, hres, hroom, mapError_ok,
          Bool.false_eq_true, if_false, Course.outcome_ofExcept]
      · rw [ok_bind, if_neg hroom]
        change Except.mapError Failure.many (Assembler.patched x.assembler.image _ _ >>= _) = _
        cases Assembler.patched x.assembler.image next _ <;> rfl

/-- The modifier stays in the code, so the stretch that it has touched can be read. -/
theorem edit_agrees (hx : x.Full) (script : List ScriptStep) :
    Agrees (edit script) x (.ok { x.assembler with
      memory := x.assembler.memory.setCode (x.assembler.modifier.run script).state.code
      managed := (x.assembler.modifier.run script).state.managed x.assembler.managed }) := by
  have hscript : executeScript Modifier.execute script x.assembler.modifier =
      some (x.assembler.modifier.run script).state :=
    executeScript_eq_some Modifier.cursor (fun e _ => Modifier.outcome_execute e) script _
  have hin := x.assembler.modifier_inBounds.run script
  obtain ⟨field, hfield⟩ : ∃ field, (x.assembler.modifier.run script).state.code.read? 0
      (x.assembler.modifier.run script).state.touched.1
      ((x.assembler.modifier.run script).state.touched.2 -
        (x.assembler.modifier.run script).state.touched.1) = some field := by
    have htouched := hin.touched
    have hlength := hin.length
    refine ⟨_, Bytes.read?_eq_some (by omega) ?_⟩
    unfold Modifier.touched
    split <;> simp only <;> omega
  refine .updated hx ?_ hin.length rfl
  simp only [edit, Course.outcome_bind, outcome_view, hscript, Course.outcome_need, Option.map_some,
    hfield, outcome_update]

theorem alter_agrees (ha : x.assembler.InBounds) (hx : x.Full) (next : UInt64)
    (script : List ScriptStep) :
    Agrees (alter next script) x ((x.assembler.alter next script).map (·.assembler)) := by
  have h := (commit_agrees ha hx next).andThen
    (f := fun a => { a with
      memory := a.memory.setCode (a.modifier.run script).state.code
      managed := (a.modifier.run script).state.managed a.managed })
    fun y hy => edit_agrees hy script
  unfold Assembler.alter
  cases hc : x.assembler.commit next with
  | error f =>
    rw [hc] at h
    exact h
  | ok b =>
    rw [hc] at h
    exact h

theorem finalize_agrees (ha : x.assembler.InBounds) (hx : x.Full) (next : UInt64) :
    Agrees (finalize next) x (x.assembler.finalize next) := by
  have h := (commit_agrees ha hx next).andThen
    (d := do
      update fun a => { a with stage := .finalized }
      update fun a => { a with log := a.log ++ [.finalized a.committed] })
    (f := fun a => { a with stage := .finalized, log := a.log ++ [.finalized a.committed] })
    fun y hy => .updated hy rfl rfl rfl
  unfold Assembler.finalize
  cases hc : x.assembler.commit next with
  | error f =>
    rw [hc] at h
    exact h
  | ok b =>
    rw [hc] at h
    exact h

theorem alterUncommitted_agrees (hx : x.Full) (script : List ScriptStep) :
    Agrees (alterUncommitted script) x
      ((x.assembler.alterUncommitted script).map (·.assembler)) := by
  have hscript := executeScript_eq_some ScratchModifier.cursor
    (fun e (m : ScratchModifier) => ScratchModifier.outcome_execute (m := m) e) script
    x.assembler.scratchModifier
  have h : Agrees (alterUncommitted script) x (x.assembler.whenOpen (.ok { x.assembler with
      scratch := (x.assembler.scratchModifier.run script).state.scratch })) := by
    refine .whenOpen hx fun _ => .updated hx ?_ rfl rfl
    simp only [Course.outcome_bind, outcome_view, hscript, Course.outcome_need, Option.map_some]
    rfl
  unfold Assembler.alterUncommitted
  unfold Assembler.whenOpen at h ⊢
  split
  · rename_i ho
    rw [if_pos ho] at h
    exact h
  · rename_i ho
    rw [if_neg ho] at h
    exact h

theorem lock_agrees (hx : x.Full) : Agrees lock x (x.assembler.lock.map (·.2)) := by
  cases hl : x.assembler.lock with
  | error f =>
    refine .refused hx ?_
    simp only [lock, Course.outcome_bind, outcome_view, hl, Course.outcome_ofExcept]
  | ok y =>
    obtain ⟨guard, b⟩ := y
    have hop : x.assembler.perform .lock = .ok b := by
      rw [Assembler.perform, hl]
      rfl
    refine .updated hx ?_ (congrArg List.length (Assembler.lock_alike hl).code)
      ((Assembler.perform_grows hop).2.capacity (Assembler.lock_alike hl).region)
    simp only [lock, Course.outcome_bind, outcome_view, hl, Course.outcome_ofExcept]
    rfl

theorem update_agrees (hx : x.Full) {f : Assembler → Assembler} {op : Operation}
    (hop : x.assembler.perform op = .ok (f x.assembler))
    (halike : Assembler.Alike x.assembler (f x.assembler)) :
    Agrees (update f) x (x.assembler.perform op) :=
  hop ▸ .updated hx rfl (congrArg List.length halike.code)
    ((Assembler.perform_grows hop).2.capacity halike.region)

/-- Every operation has an outcome, and that is the expected one. -/
theorem execute_agrees (ha : x.assembler.InBounds) (hx : x.Full) (op : Operation) :
    Agrees (execute op) x (x.assembler.perform op) := by
  cases op with
  | extend data => exact extend_agrees hx data
  | align n fill => exact align_agrees hx n fill
  | newDynamic => exact .updated hx rfl rfl rfl
  | globalLabel name => exact globalLabel_agrees hx name
  | dynamicLabel id => exact dynamicLabel_agrees hx id
  | localLabel name => exact localLabel_agrees ha hx name
  | append c => exact append_agrees hx c
  | relocate u => exact append_agrees hx ⟨[], [u]⟩
  | emit instruction => exact emit_agrees hx instruction
  | commit next => exact commit_agrees ha hx next
  | finalize next => exact finalize_agrees ha hx next
  | alter next script => exact alter_agrees ha hx next script
  | alterUncommitted script => exact alterUncommitted_agrees hx script
  | close => exact update_agrees hx rfl x.assembler.close_alike
  | closeBuffer => exact update_agrees hx rfl x.assembler.closeBuffer_alike
  | lock => exact lock_agrees hx
  | unlock guard =>
    exact update_agrees (f := (·.unlock guard)) hx rfl (x.assembler.unlock_alike guard)

theorem step_of_agrees {op : Operation} {expected : Except Failure Assembler}
    (h : Agrees (execute op) x expected) :
    (x.step op).Full ∧ (x.step op).assembler = expected.toOption.getD x.assembler := by
  obtain ⟨y, hy, hfull, he⟩ := h
  have hstep : x.step op = y := by rw [step, hy]
  exact hstep ▸ ⟨hfull, he⟩

structure Follows (x : Live) (s : Session) : Prop where
  same : x.assembler = s.assembler
  full : x.Full
  tracks : Tracks s.history s.assembler
  bounds : s.assembler.InBounds

theorem Follows.step {s : Session} (h : x.Follows s) (op : Operation) :
    (x.step op).Follows (s.step op) := by
  obtain ⟨hfull, hnext⟩ := step_of_agrees (execute_agrees (h.same ▸ h.bounds) h.full op)
  rw [h.same] at hnext
  unfold Session.step
  cases hb : s.assembler.perform op with
  | error f =>
    rw [hb] at hnext
    exact ⟨hnext, hfull, h.tracks, h.bounds⟩
  | ok b =>
    rw [hb] at hnext
    exact ⟨hnext, hfull, h.tracks.perform hb, h.bounds.perform h.tracks hb⟩

theorem Follows.run {s : Session} (h : x.Follows s) (ops : List Operation) :
    (x.run ops).Follows (s.run ops) := by
  induction ops generalizing x s with
  | nil => exact h
  | cons op ops ih => exact ih (h.step op)

theorem follows_start (capacity : Nat) : (start capacity).Follows (Session.start capacity) :=
  ⟨rfl, rfl, .start capacity, .start capacity⟩

end Live

end MachineCode
