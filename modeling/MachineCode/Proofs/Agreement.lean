import MachineCode.Proofs.Edits

/-!
Executions agree with the operations, those first that leave the region of the code alone. From
any state in bounds every access is in range, so each execution has an outcome; it succeeds or
fails as the operation does, with the same errors, and the assembler that it leaves is the one
after the operation, or the one before it if it fails.
-/
namespace MachineCode

theorem mapM_mapError {ε ε' α β : Type} (f : α → Except ε β) (g : ε → ε') (xs : List α) :
    xs.mapM (fun x => (f x).mapError g) = (xs.mapM f).mapError g := by
  induction xs with
  | nil => rfl
  | cons x xs ih =>
    rw [List.mapM_cons, List.mapM_cons, ih]
    cases f x with
    | error e => rfl
    | ok y => cases xs.mapM f <;> rfl

theorem Reference.Within.resolved {l : Labels} {r q : Reference} {lo hi : Nat}
    (h : r.Within lo hi) (hq : l.resolve r = .ok q) : q.Within lo hi := by
  rcases resolve_eq_ok hq with ⟨-, rfl⟩ | ⟨-, offset, -, rfl⟩
  · exact h
  · exact h.congr rfl rfl

theorem Patch.within_of_gather {code : Bytes} {lo : Nat} {base : UInt64} {refs : List Reference}
    {error : Reference → RelocFault → Error} {ps : List Patch}
    (h : ∀ r ∈ refs, r.Within lo (lo + code.length))
    (hps : Assembler.gather (refs.map fun r =>
      (ofReference code lo base r).mapError (error r)) = .ok ps) :
    ∀ p ∈ ps, lo ≤ p.offset ∧ p.offset + p.data.length ≤ lo + code.length := by
  intro p hp
  obtain ⟨r, hr, he⟩ := (Assembler.mem_of_gather hps).1 p hp
  obtain ⟨ho, hl⟩ := within_of_ofReference (h r hr) (mapError_eq_ok he)
  rw [ho, hl]
  exact (h r hr).field

theorem Assembler.recorded_within {a : Assembler} {scratch : Bytes} {us : List Use}
    {xs : List Recorded} (h : us.mapM (a.record scratch) = .ok xs) :
    ∀ p ∈ xs.filterMap (·.patch?),
      a.committed ≤ p.offset ∧ p.offset + p.data.length ≤ a.committed + scratch.length := by
  intro p hp
  obtain ⟨-, -, -, hfor⟩ := mapM_record_eq_ok h rfl
  obtain ⟨q, hq, he⟩ := hfor.made p hp
  obtain ⟨r, hr, hqr⟩ := List.mem_filterMap.mp hq
  obtain ⟨u, hu, hru⟩ := List.mem_filterMap.mp hr
  obtain ⟨x, hx⟩ := ok_of_mapM h hu
  have hin : q.Within a.committed (a.committed + scratch.length) := by
    unfold eager? at hqr
    split at hqr
    · split at hqr
      · cases hqr
      · exact Option.some.inj hqr ▸ (record_within hx hru).congr rfl rfl
    · cases hqr
  obtain ⟨ho, hl⟩ := Patch.within_of_ofReference hin he
  rw [ho, hl]
  exact hin.field

namespace Live

/-- The bytes of the region are as many as its capacity. -/
def Full (x : Live) : Prop := x.assembler.committed + x.slack.length = x.assembler.capacity

/-- An execution comes to what is expected: the assembler is the expected one, or as before if a
failure is expected. Bytes of the region that are not committed may differ. -/
def Agrees (c : Act Unit) (x : Live) (expected : Except Failure Assembler) : Prop :=
  ∃ y, c.outcome x = some (expected.map fun _ => (), y) ∧ y.Full ∧
    y.assembler = expected.toOption.getD x.assembler

variable {x : Live}

@[simp] theorem outcome_view : view.outcome x = some (.ok x.assembler, x) := rfl

@[simp] theorem outcome_update (f : Assembler → Assembler) :
    (update f).outcome x = some (.ok (), { x with assembler := f x.assembler }) := rfl

@[simp] theorem outcome_checkOpen : checkOpen.outcome x =
    some (if x.assembler.isOpen then .ok () else .error (.one .finalized), x) := by
  simp only [checkOpen, Course.outcome_bind, outcome_view]
  cases x.assembler.isOpen <;> rfl

namespace Agrees

variable {c : Act Unit} {expected : Except Failure Assembler} {b : Assembler}

theorem refused (hx : x.Full) {f : Failure} (h : c.outcome x = some (.error f, x)) :
    Agrees c x (.error f) :=
  ⟨x, h, hx, rfl⟩

theorem updated (hx : x.Full) (h : c.outcome x = some (.ok (), { x with assembler := b }))
    (hcom : b.committed = x.assembler.committed) (hcap : b.capacity = x.assembler.capacity) :
    Agrees c x (.ok b) := by
  refine ⟨_, h, ?_, rfl⟩
  unfold Full at hx ⊢
  rw [hcom, hcap]
  exact hx

theorem congr {d : Act Unit} {expected' : Except Failure Assembler} (h : Agrees c x expected)
    (hd : d.outcome x = c.outcome x) (he : expected' = expected) : Agrees d x expected' := by
  rw [he]
  obtain ⟨y, hy, hrest⟩ := h
  exact ⟨y, hd.trans hy, hrest⟩

theorem whenOpen (hx : x.Full) (h : x.assembler.isOpen = true → Agrees c x expected) :
    Agrees (checkOpen >>= fun _ => c) x (x.assembler.whenOpen expected) := by
  unfold Assembler.whenOpen
  split
  · rename_i ho
    obtain ⟨y, hy, hfull, he⟩ := h ho
    refine ⟨y, ?_, hfull, he⟩
    rw [Course.outcome_bind, outcome_checkOpen, if_pos ho]
    exact hy
  · rename_i ho
    refine refused hx ?_
    rw [Course.outcome_bind, outcome_checkOpen, if_neg ho]

end Agrees

theorem extend_agrees (hx : x.Full) (data : Bytes) :
    Agrees (extend data) x (x.assembler.extend data) :=
  .whenOpen hx fun _ => .updated hx rfl rfl rfl

theorem outcome_pushes (data : Bytes) : (data.forM push).outcome x = some (.ok (),
    { x with assembler := { x.assembler with scratch := x.assembler.scratch ++ data } }) := by
  induction data generalizing x with
  | nil =>
    rw [List.append_nil]
    rfl
  | cons b bs ih =>
    show (push b >>= fun _ => bs.forM push).outcome x = _
    rw [Course.outcome_bind, push, outcome_update]
    refine ih.trans ?_
    simp

theorem align_agrees (hx : x.Full) (n : Int) (fill : UInt8) :
    Agrees (align n fill) x (x.assembler.align n fill) := by
  refine .whenOpen hx fun ho => ?_
  split
  · exact .refused hx rfl
  · rw [Assembler.extend, Assembler.whenOpen, if_pos ho]
    refine .updated hx ?_ rfl rfl
    rw [Course.outcome_bind, outcome_view]
    exact outcome_pushes _

theorem relabel_agrees (hx : x.Full) (labels : Except Error Labels) :
    Agrees (relabel labels) x (match labels with
      | .ok labels => .ok { x.assembler with labels }
      | .error e => .error (.one e)) := by
  cases labels with
  | error e => exact .refused hx rfl
  | ok labels => exact .updated hx rfl rfl rfl

theorem globalLabel_agrees (hx : x.Full) (name : String) :
    Agrees (globalLabel name) x (x.assembler.globalLabel name) :=
  .whenOpen hx fun _ => relabel_agrees hx _

theorem dynamicLabel_agrees (hx : x.Full) (id : UInt32) :
    Agrees (dynamicLabel id) x (x.assembler.dynamicLabel id) :=
  .whenOpen hx fun _ => relabel_agrees hx _

theorem outcome_stageAll {code : Bytes} {lo : Nat} {refs : List Reference}
    (h : ∀ r ∈ refs, r.Within lo (lo + code.length)) (base : UInt64)
    (error : Reference → RelocFault → Error) :
    (stageAll code lo base error refs).outcome x = some ((Assembler.gather (refs.map fun r =>
      (Patch.ofReference code lo base r).mapError (error r))).mapError .many, x) := by
  have hloop := Course.outcome_mapM refs (ε := Failure) (s := x)
    (f := fun r => do
      let attempt ← Course.need (Patch.stage? code lo base r)
      return attempt.mapError (error r))
    (g := fun r => .ok ((Patch.ofReference code lo base r).mapError (error r))) fun r hr => by
      simp only [Course.outcome_bind, Patch.stage?_eq_some (h r hr), Course.outcome_need]
      rfl
  have hpure : refs.mapM (m := Except Failure)
      (fun r => .ok ((Patch.ofReference code lo base r).mapError (error r))) =
      .ok (refs.map fun r => (Patch.ofReference code lo base r).mapError (error r)) :=
    List.mapM_pure
  rw [stageAll, Course.outcome_bind, hloop, hpure]
  exact Course.outcome_ofExcept _ _

theorem outcome_stores {ps : List Patch}
    (h : ∀ p ∈ ps, x.assembler.committed ≤ p.offset ∧
      p.offset + p.data.length ≤ x.assembler.offset) :
    (ps.forM store).outcome x = some (.ok (), { x with assembler := { x.assembler with
      scratch := Patch.applyAll ps x.assembler.scratch x.assembler.committed } }) := by
  induction ps generalizing x with
  | nil => rfl
  | cons p ps ih =>
    obtain ⟨hlo, hhi⟩ := h p (List.mem_cons_self ..)
    have hwrite := Bytes.write?_eq_some x.assembler.scratch p.data hlo hhi
    show (store p >>= fun _ => ps.forM store).outcome x = _
    simp only [store, Course.outcome_bind, outcome_view, hwrite, Course.outcome_need,
      Option.map_some, outcome_update]
    refine ih ?_
    intro q hq
    have hlen := Bytes.length_overwrite x.assembler.scratch (p.offset - x.assembler.committed)
      p.data (by unfold Assembler.offset at hhi; omega)
    show _ ∧ _ ≤ x.assembler.committed + (x.assembler.scratch.overwrite _ p.data).length
    rw [hlen]
    exact h q (List.mem_cons_of_mem _ hq)

theorem localLabel_agrees (ha : x.assembler.InBounds) (hx : x.Full) (name : String) :
    Agrees (localLabel name) x (x.assembler.localLabel name) := by
  refine .whenOpen hx fun _ => ?_
  have hin : ∀ r ∈ (x.assembler.drained name).filter (!·.baseDependent),
      r.Within x.assembler.committed (x.assembler.committed + x.assembler.scratch.length) := by
    intro r hr
    obtain ⟨q, hq, rfl⟩ := List.mem_map.mp (List.mem_filter.mp hr).1
    exact (ha.waiting q (List.mem_filter.mp hq).1).congr rfl rfl
  have hstage := outcome_stageAll (x := x) hin 0
    fun r f => .unwritableAt name r.target r.field f (r.value 0)
  simp only [Assembler.drained] at hin hstage ⊢
  split
  · rename_i es hes
    rw [hes] at hstage
    refine .refused hx ?_
    simp only [Course.outcome_bind, outcome_view, hstage]
    rfl
  · rename_i ps hps
    rw [hps] at hstage
    have hstores := outcome_stores (x := x) (Patch.within_of_gather hin hps)
    refine .updated hx ?_ rfl rfl
    simp only [Course.outcome_bind, outcome_view, hstage, mapError_ok, hstores, outcome_update]

theorem outcome_record (scratch : Bytes) (u : Use) : (record scratch u).outcome x =
    some ((x.assembler.record scratch u).mapError .one, x) := by
  obtain ⟨target, addend, rel?⟩ := u
  unfold record Assembler.record
  simp only [Course.outcome_bind, outcome_view]
  cases target.isValid with
  | false => rfl
  | true =>
    cases rel? with
    | none => rfl
    | some rel =>
      simp only
      split
      · rfl
      · rename_i hw
        rw [Bool.not_eq_true, Bool.not_eq_false', Reference.fieldWithin_iff] at hw
        cases target with
        | nowhere | global | forward | dynamic | external => rfl
        | backward name =>
          simp only [Course.outcome_bind, Course.outcome_ofExcept]
          cases hq : x.assembler.labels.resolve _ with
          | error e => rfl
          | ok q =>
            have hin : q.Within x.assembler.committed (x.assembler.committed + scratch.length) :=
              (Reference.Within.mk hw.1 hw.2 (Nat.le_refl _)).resolved hq
            simp only [mapError_ok, ok_bind]
            split
            · rfl
            · simp only [Course.outcome_bind, Patch.stage?_eq_some hin, Course.outcome_need,
                Option.map_some, Course.outcome_ofExcept]
              unfold Assembler.patch
              cases Patch.ofReference scratch x.assembler.committed 0 q <;> rfl

theorem outcome_queues (refs : List Reference) : (refs.forM queue).outcome x = some (.ok (),
    { x with assembler.labels.waiting := x.assembler.labels.waiting ++ refs }) := by
  induction refs generalizing x with
  | nil =>
    rw [List.append_nil]
    rfl
  | cons r rs ih =>
    show (queue r >>= fun _ => rs.forM queue).outcome x = _
    rw [Course.outcome_bind, queue, outcome_update]
    refine ih.trans ?_
    simp

theorem append_agrees (hx : x.Full) (c : Code) : Agrees (append c) x (x.assembler.append c) := by
  refine .whenOpen hx fun _ => ?_
  have hloop := Course.outcome_mapM c.refs fun u _ =>
    outcome_record (x := x) (x.assembler.scratch ++ c.code) u
  rw [mapM_mapError] at hloop
  simp only
  split
  · rename_i e he
    refine .refused hx ?_
    simp only [Course.outcome_bind, outcome_view, hloop, he]
    rfl
  · rename_i xs hxs
    have hstores := outcome_stores (x := { x with assembler := { x.assembler with
      scratch := x.assembler.scratch ++ c.code } }) (Assembler.recorded_within hxs)
    refine .updated hx ?_ rfl rfl
    simp only [Course.outcome_bind, outcome_view, hloop, hxs, mapError_ok, outcome_update,
      hstores, outcome_queues]
    rfl

theorem emit_agrees (hx : x.Full) (instruction : Except Error Code) :
    Agrees (emit instruction) x (x.assembler.emit instruction) := by
  refine .whenOpen hx fun _ => ?_
  cases instruction with
  | error e => exact .refused hx rfl
  | ok c => exact append_agrees hx c

end Live

end MachineCode
