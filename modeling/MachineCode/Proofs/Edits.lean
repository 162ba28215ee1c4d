import MachineCode.Proofs.Execution

/-!
Edits as they run. An edit stages all that can fail in a copy before it writes, so each one has an
outcome, does all that it should or nothing at all, and scripts come to what `runScript` says.
-/
namespace MachineCode

namespace Course

variable {σ ε α β : Type}

theorem outcome_mapM {f : α → Course σ ε β} {g : α → Except ε β} (xs : List α) {s : σ}
    (h : ∀ x ∈ xs, (f x).outcome s = some (g x, s)) :
    (xs.mapM f).outcome s = some (xs.mapM g, s) := by
  induction xs with
  | nil => rfl
  | cons x xs ih =>
    have hx := h x (List.mem_cons_self ..)
    have hxs := ih fun y hy => h y (List.mem_cons_of_mem _ hy)
    rw [List.mapM_cons, List.mapM_cons, outcome_bind, hx]
    cases g x with
    | error e => rfl
    | ok b =>
      simp only [outcome_bind, hxs]
      cases xs.mapM g <;> rfl

end Course

section staging

variable {code : Bytes} {lo : Nat} {r : Reference}

theorem Patch.stage?_eq_some (h : r.Within lo (lo + code.length)) (base : UInt64) :
    stage? code lo base r = some (ofReference code lo base r) := by
  have hstart := h.start
  have hstop := h.stop
  have hanchor := h.anchor
  rw [stage?, Bytes.read?_eq_some hstart (by omega), h.fieldStart_eq]
  rfl

/-- A patch of a reference in bounds is as long as its field. -/
theorem Patch.within_of_ofReference {base : UInt64} {p : Patch}
    (h : r.Within lo (lo + code.length)) (hp : ofReference code lo base r = .ok p) :
    p.offset = r.field ∧ p.data.length = r.rel.size := by
  obtain ⟨ho, hw⟩ := ofReference_eq_ok hp
  have hf := h.field
  refine ⟨ho, r.rel.rewritable_write.length (Bytes.length_slice _ _ _ ?_) hw⟩
  unfold Reference.fieldEnd at hf
  omega

theorem Patch.applyAll_append {ps : List Patch} {code : Bytes}
    (h : ∀ p ∈ ps, p.Within code.length) (rest : Bytes) :
    applyAll ps (code ++ rest) 0 = applyAll ps code 0 ++ rest := by
  induction ps generalizing code with
  | nil => rfl
  | cons p ps ih =>
    have hp := h p (List.mem_cons_self ..)
    have hfirst : (code ++ rest).overwrite (p.offset - 0) p.data =
        code.overwrite (p.offset - 0) p.data ++ rest := by
      unfold Within at hp
      unfold Bytes.overwrite
      rw [Nat.sub_zero, List.take_append_of_le_length (by omega), List.drop_append_of_le_length hp,
        List.append_assoc, List.append_assoc, List.append_assoc]
    refine (congrArg (applyAll ps · 0) hfirst).trans (ih fun q hq => ?_)
    exact length_apply hp ▸ h q (List.mem_cons_of_mem _ hq)

end staging

namespace Modifier

variable {m : Modifier}

theorem outcome_overwrite {data : Bytes} (h : m.cursor + data.length ≤ m.code.length) :
    (overwrite data).outcome m = some (.ok (), m.put data) := by
  simp [overwrite, Bytes.write?_eq_some _ _ (Nat.zero_le _)
    (Nat.le_trans h (Nat.le_add_left ..)), put]

theorem outcome_place {staged : Bytes} {r : Reference} (hw : r.fieldWithin m.cursor = true)
    (hr : r.anchor = m.cursor + staged.length) :
    (place staged r).outcome m = some (do
      let r ← m.labels.resolve r
      let p ← Assembler.patch staged m.cursor m.base r
      return (r, staged.overwrite (p.offset - m.cursor) p.data), m) := by
  simp only [place, Course.outcome_bind, Course.outcome_get, Course.outcome_ofExcept]
  cases hres : m.labels.resolve r with
  | error e => rfl
  | ok q =>
    have hin : q.Within m.cursor (m.cursor + staged.length) := by
      have hr : r.Within m.cursor (m.cursor + staged.length) :=
        ⟨(Reference.fieldWithin_iff.mp hw).1, (Reference.fieldWithin_iff.mp hw).2, Nat.le_of_eq hr⟩
      rcases MachineCode.resolve_eq_ok hres with ⟨-, rfl⟩ | ⟨-, offset, -, rfl⟩
      · exact hr
      · exact hr.congr rfl rfl
    simp only [Patch.stage?_eq_some hin, Course.outcome_need, Option.map_some]
    cases hp : Patch.ofReference staged m.cursor m.base q with
    | error f =>
      simp only [ok_bind, Assembler.patch, hp]
      rfl
    | ok p =>
      obtain ⟨ho, hl⟩ := Patch.within_of_ofReference hin hp
      have hf := hin.field
      unfold Reference.fieldEnd at hf
      have hwrite : staged.write? m.cursor p.offset p.data =
          some (staged.overwrite (p.offset - m.cursor) p.data) :=
        Bytes.write?_eq_some staged p.data (by omega) (by omega)
      simp only [ok_bind, Assembler.patch, hp, mapError_ok, hwrite]
      rfl

theorem outcome_stageUse (staged : Bytes) (u : Use) :
    (stageUse staged u).outcome m = some (m.resolve staged u, m) := by
  obtain ⟨target, addend, rel?⟩ := u
  unfold stageUse resolve
  cases target.isValid with
  | false => simp
  | true =>
    cases rel? with
    | none => simp
    | some rel =>
      simp only [Course.outcome_bind, Course.outcome_get]
      split
      · rfl
      · rename_i hw
        rw [Bool.not_eq_true, Bool.not_eq_false'] at hw
        cases target with
        | forward name => rfl
        | nowhere | global | backward | dynamic | external => exact outcome_place hw rfl

theorem outcome_stageUses (staged : Bytes) (us : List Use) :
    (stageUses staged us).outcome m = some (m.resolveAll staged us, m) := by
  induction us generalizing staged with
  | nil => rfl
  | cons u us ih =>
    simp only [stageUses, resolveAll, Course.outcome_bind, outcome_stageUse]
    cases m.resolve staged u with
    | error e => rfl
    | ok x =>
      simp only [ih, ok_bind]
      cases m.resolveAll x.2 us <;> rfl

theorem outcome_overwriteCode (c : Code) : (overwriteCode c).outcome m =
    some ((m.append c).map fun _ => (), (m.append c).toOption.getD m) := by
  simp only [overwriteCode, append, Course.outcome_bind, Course.outcome_get,
    Course.outcome_ofExcept, outcome_stageUses]
  cases hroom : m.checkRoom c.code.length with
  | error e => rfl
  | ok x =>
    simp only
    cases hr : m.resolveAll c.code c.refs with
    | error e => rfl
    | ok x =>
      have hfits : m.cursor + x.2.length ≤ m.code.length :=
        (resolveAll_eq_ok hr).1 ▸ checkRoom_eq_ok hroom
      simp only [outcome_overwrite hfits]
      rfl

/-- An edit of committed code either does all that it should or leaves the modifier alone. -/
theorem outcome_execute (e : Edit) : (execute e).outcome m =
    some ((m.apply e).map fun _ => (), (m.apply e).toOption.getD m) := by
  cases e with
  | goto offset =>
    simp only [execute, apply, goto, Course.outcome_bind, Course.outcome_get]
    split
    · rfl
    split <;> rfl
  | check offset =>
    simp only [execute, apply, Edit.checkCursor, Course.outcome_bind, Course.outcome_get,
      Course.outcome_ofExcept]
    split <;> rfl
  | checkExact offset =>
    simp only [execute, apply, Edit.checkCursor, Course.outcome_bind, Course.outcome_get,
      Course.outcome_ofExcept]
    split <;> rfl
  | write data =>
    simp only [execute, apply, write, Course.outcome_bind, Course.outcome_get,
      Course.outcome_ofExcept]
    cases hroom : m.checkRoom data.length with
    | error e => rfl
    | ok x =>
      simp only [outcome_overwrite (checkRoom_eq_ok hroom)]
      rfl
  | append c => exact outcome_overwriteCode c
  | emit instruction =>
    simp only [execute, apply, Course.outcome_bind, Course.outcome_get]
    split
    · rfl
    · cases instruction with
      | error e => rfl
      | ok c => exact outcome_overwriteCode c

end Modifier

namespace ScratchModifier

variable {m : ScratchModifier}

theorem outcome_overwrite (data : Bytes) : (overwrite data).outcome m =
    some ((m.write data).map fun _ => (), (m.write data).toOption.getD m) := by
  simp only [overwrite, write, Course.outcome_bind, Course.outcome_get]
  split
  · rfl
  split
  · rfl
  · rename_i hroom
    have hwrite : m.scratch.write? 0 m.pos data = some (m.scratch.overwrite (m.pos - 0) data) :=
      Bytes.write?_eq_some m.scratch data (Nat.zero_le _) (by omega)
    simp only [Course.outcome_bind, Course.outcome_need, hwrite]
    rfl

theorem outcome_overwriteCode (c : Code) : (overwriteCode c).outcome m =
    some ((m.append c).map fun _ => (), (m.append c).toOption.getD m) := by
  unfold overwriteCode append
  split
  · exact outcome_overwrite _
  · rfl

theorem outcome_execute (e : Edit) : (execute e).outcome m =
    some ((m.apply e).map fun _ => (), (m.apply e).toOption.getD m) := by
  cases e with
  | goto offset =>
    simp only [execute, apply, goto, Course.outcome_bind, Course.outcome_get]
    split
    · rfl
    split <;> rfl
  | check offset =>
    simp only [execute, apply, Edit.checkCursor, Course.outcome_bind, Course.outcome_get,
      Course.outcome_ofExcept]
    split <;> rfl
  | checkExact offset =>
    simp only [execute, apply, Edit.checkCursor, Course.outcome_bind, Course.outcome_get,
      Course.outcome_ofExcept]
    split <;> rfl
  | write data => exact outcome_overwrite data
  | append c => exact outcome_overwriteCode c
  | emit instruction =>
    simp only [execute, apply, Course.outcome_bind, Course.outcome_get]
    split
    · rfl
    · cases instruction with
      | error e => rfl
      | ok c => exact outcome_overwriteCode c

end ScratchModifier

theorem executeScript_eq_some {σ : Type} {execute : Edit → Course σ Error Unit}
    {apply : σ → Edit → Except Error σ} (cursor : σ → Nat)
    (h : ∀ e s, (execute e).outcome s =
      some ((apply s e).map fun _ => (), (apply s e).toOption.getD s))
    (script : List ScriptStep) (s : σ) :
    executeScript execute script s = some (runScript apply cursor s script).state := by
  induction script generalizing s with
  | nil => rfl
  | cons step rest ih =>
    unfold executeScript runScript
    rw [h]
    cases apply s step.edit with
    | ok s' => exact ih s'
    | error e =>
      by_cases hr : step.required = true
      · simp [Except.map, Except.toOption, hr]
      · simp only [Except.map, Except.toOption, Option.getD_none, if_neg hr]
        exact ih s

end MachineCode
