import MachineCode.Proofs.Effects

/-!
What scripts leave behind. Whatever the edits of a script are, the code afterwards is the code
before with the writes applied in order, and a modifier remembers the lowest and the highest
offset that any of them reached and all new references that depend on the base address.
-/
namespace MachineCode

/-- One induction over scripts for all that is said of them: `R` relates the state before, the
writes and the state after. -/
theorem runScript_writes {σ : Type} {apply : σ → Edit → Except Error σ} {cursor : σ → Nat}
    {wrote : σ → Edit → Option Overwrite} {R : σ → List Overwrite → σ → Prop}
    (hrefl : ∀ s, R s [] s)
    (hstep : ∀ {s e s' writes t}, apply s e = .ok s' → R s' writes t →
      R s ((wrote s e).toList ++ writes) t) (script : List ScriptStep) (s : σ) :
    R s (scriptWrites apply wrote s script) (runScript apply cursor s script).state := by
  induction script generalizing s with
  | nil => exact hrefl s
  | cons step rest ih =>
    unfold scriptWrites runScript
    cases he : apply s step.edit with
    | ok s' => exact hstep he (ih s')
    | error e =>
      by_cases hr : step.required = true
      · simp only [if_pos hr]
        exact hrefl s
      · simp only [if_neg hr]
        exact ih s

namespace Overwrite

def patch (w : Overwrite) : Patch := ⟨w.start, w.data⟩

structure Fits (w : Overwrite) (size : Nat) : Prop where
  within : w.stop ≤ size
  refs : ∀ q ∈ w.refs, w.start ≤ q.field ∧ q.fieldEnd ≤ w.stop ∧ 0 < q.rel.size

end Overwrite

namespace Modifier

variable {m m' : Modifier}

theorem place_eq_ok {code code' : Bytes} {r q : Reference} (hw : r.fieldWithin m.cursor = true)
    (hr : r.anchor = m.cursor + code.length)
    (h : (do
      let r ← m.labels.resolve r
      let p ← Assembler.patch code m.cursor m.base r
      return (r, code.overwrite (p.offset - m.cursor) p.data)) = .ok (q, code')) :
    code'.length = code.length ∧ m.cursor ≤ q.field ∧ q.fieldEnd ≤ m.cursor + code.length ∧
      0 < q.rel.size := by
  obtain ⟨s, hs, h⟩ := bind_eq_ok h
  obtain ⟨p, hp, h⟩ := bind_eq_ok h
  obtain ⟨rfl, rfl⟩ := Prod.mk.inj (Except.ok.inj h)
  have same : s.field = r.field ∧ s.rel = r.rel := by
    rcases MachineCode.resolve_eq_ok hs with ⟨-, rfl⟩ | ⟨-, offset, -, rfl⟩ <;> exact ⟨rfl, rfl⟩
  obtain ⟨hlow, hhigh⟩ := Assembler.field_bounds hw
  obtain ⟨ho, hdata⟩ := Patch.ofReference_eq_ok (mapError_eq_ok hp)
  have hend : s.field + s.rel.size ≤ m.cursor + code.length := by
    rw [same.1, same.2, ← hr]
    exact hhigh
  have hin : s.field - m.cursor + s.rel.size ≤ code.length := by
    have := same.1
    omega
  have hslice := Bytes.length_slice code _ _ hin
  have hlen := s.rel.rewritable_write.length hslice hdata
  refine ⟨Bytes.length_overwrite _ _ _ ?_, same.1 ▸ hlow, hend,
    s.rel.rewritable_write.nonempty hslice hdata⟩
  rw [ho, hlen]
  exact hin

theorem resolve_eq_ok {code code' : Bytes} {u : Use} {q : Reference}
    (h : m.resolve code u = .ok (q, code')) :
    code'.length = code.length ∧ m.cursor ≤ q.field ∧ q.fieldEnd ≤ m.cursor + code.length ∧
      0 < q.rel.size := by
  unfold resolve at h
  split at h
  · simp only at h
    split at h
    · cases h
    · rename_i hw
      split at h
      · cases h
      · exact place_eq_ok (by simpa using hw) rfl h
  · cases h

theorem resolveAll_eq_ok {code code' : Bytes} {us : List Use} {refs : List Reference}
    (h : m.resolveAll code us = .ok (refs, code')) :
    code'.length = code.length ∧ ∀ q ∈ refs, m.cursor ≤ q.field ∧
      q.fieldEnd ≤ m.cursor + code.length ∧ 0 < q.rel.size := by
  induction us generalizing code code' refs with
  | nil =>
    obtain ⟨rfl, rfl⟩ := Prod.mk.inj (Except.ok.inj h)
    simp
  | cons u us ih =>
    obtain ⟨⟨q, code₁⟩, hq, h⟩ := bind_eq_ok h
    obtain ⟨⟨qs, code₂⟩, hqs, h⟩ := bind_eq_ok h
    obtain ⟨rfl, rfl⟩ := Prod.mk.inj (Except.ok.inj h)
    obtain ⟨hlen, hfield⟩ := resolve_eq_ok hq
    obtain ⟨hlens, hfields⟩ := ih hqs
    rw [hlen] at hlens hfields
    refine ⟨hlens, ?_⟩
    intro s hs
    rcases List.mem_cons.mp hs with rfl | hs
    · exact hfield
    · exact hfields s hs

structure Writes (m : Modifier) (w : Overwrite) (m' : Modifier) : Prop where
  fits : w.Fits m.code.length
  labels : m'.labels = m.labels
  base : m'.base = m.base
  code : m'.code = m.code.overwrite w.start w.data
  lo : m'.lo = min m.lo w.start
  hi : m'.hi = max m.hi w.stop
  added : m'.added = m.added ++ w.refs.filter (·.baseDependent)

theorem checkRoom_eq_ok {n : Nat} {x : Unit} (h : m.checkRoom n = .ok x) :
    m.cursor + n ≤ m.code.length := by
  unfold checkRoom at h
  split at h
  · cases h
  split at h
  · cases h
  · omega

theorem append_eq_ok {c : Code} (h : m.append c = .ok m') :
    ∃ w, m.overwritten c = some w ∧ Writes m w m' := by
  obtain ⟨x, hx, h⟩ := bind_eq_ok h
  obtain ⟨⟨refs, data⟩, hr, h⟩ := bind_eq_ok h
  obtain rfl := Except.ok.inj h
  have hroom := checkRoom_eq_ok hx
  obtain ⟨hlen, hfields⟩ := resolveAll_eq_ok hr
  have hw : m.overwritten c = some ⟨m.cursor, data, refs⟩ := by
    rw [overwritten, hr]
    rfl
  refine ⟨_, hw, ⟨?_, ?_⟩, rfl, rfl, rfl, rfl, rfl, rfl⟩
  · simp only [Overwrite.stop]
    omega
  · intro q hq
    simp only [Overwrite.stop, hlen]
    exact hfields q hq

theorem apply_eq_ok {e : Edit} (h : m.apply e = .ok m') :
    (m.wrote e = none ∧ ∃ cursor, m' = { m with cursor }) ∨
      ∃ w, m.wrote e = some w ∧ Writes m w m' := by
  cases e with
  | goto offset =>
    refine Or.inl ⟨rfl, ?_⟩
    simp only [apply, goto] at h
    split at h
    · cases h
    split at h
    · cases h
    · exact ⟨_, (Except.ok.inj h).symm⟩
  | check offset =>
    refine Or.inl ⟨rfl, m.cursor, ?_⟩
    simp only [apply, Edit.checkCursor] at h
    split at h
    · cases h
    · exact (Except.ok.inj h).symm
  | checkExact offset =>
    refine Or.inl ⟨rfl, m.cursor, ?_⟩
    simp only [apply, Edit.checkCursor] at h
    split at h
    · exact (Except.ok.inj h).symm
    · cases h
  | write data =>
    obtain ⟨x, hx, h⟩ := bind_eq_ok h
    obtain rfl := Except.ok.inj h
    have hroom := checkRoom_eq_ok hx
    refine Or.inr ⟨_, rfl, ⟨hroom, by simp⟩, rfl, rfl, rfl, rfl, rfl, ?_⟩
    simp [put]
  | append c => exact Or.inr (append_eq_ok h)
  | emit instruction =>
    simp only [apply] at h
    split at h
    · cases h
    · obtain ⟨c, rfl, h⟩ := bind_eq_ok h
      exact Or.inr (append_eq_ok h)

structure Leaves (m : Modifier) (writes : List Overwrite) (m' : Modifier) : Prop where
  fits : ∀ w ∈ writes, w.Fits m.code.length
  code : m'.code = Patch.applyAll (writes.map Overwrite.patch) m.code 0
  lo : ∀ n, m'.lo < n ↔ m.lo < n ∨ ∃ w ∈ writes, w.start < n
  hi : ∀ n, n < m'.hi ↔ n < m.hi ∨ ∃ w ∈ writes, n < w.stop
  added : m'.added = m.added ++ writes.flatMap fun w => w.refs.filter (·.baseDependent)

theorem Leaves.refl (m : Modifier) : Leaves m [] m :=
  ⟨by simp, rfl, by simp, by simp, by simp⟩

theorem Leaves.step {e : Edit} {writes : List Overwrite} {t : Modifier} (h : m.apply e = .ok m')
    (ht : Leaves m' writes t) : Leaves m ((m.wrote e).toList ++ writes) t := by
  rcases apply_eq_ok h with ⟨hw, cursor, rfl⟩ | ⟨w, hw, hm⟩
  · rw [hw]
    exact ⟨ht.fits, ht.code, ht.lo, ht.hi, ht.added⟩
  · have hlen : m'.code.length = m.code.length := by
      rw [hm.code]
      exact Bytes.length_overwrite _ _ _ hm.fits.within
    rw [hw, Option.toList_some, List.singleton_append]
    refine ⟨?_, ?_, ?_, ?_, ?_⟩
    · intro v hv
      rcases List.mem_cons.mp hv with rfl | hv
      · exact hm.fits
      · exact hlen ▸ ht.fits v hv
    · rw [ht.code, hm.code]
      rfl
    · intro n
      have hmin : min m.lo w.start < n ↔ m.lo < n ∨ w.start < n := by omega
      simp only [ht.lo, hm.lo, hmin, List.mem_cons, exists_eq_or_imp, or_assoc]
    · intro n
      have hmax : n < max m.hi w.stop ↔ n < m.hi ∨ n < w.stop := by omega
      simp only [ht.hi, hm.hi, hmax, List.mem_cons, exists_eq_or_imp, or_assoc]
    · rw [ht.added, hm.added, List.flatMap_cons, List.append_assoc]

theorem run_leaves (m : Modifier) (script : List ScriptStep) :
    Leaves m (scriptWrites apply wrote m script) (m.run script).state :=
  runScript_writes Leaves.refl Leaves.step script m

theorem Leaves.length {writes : List Overwrite} (h : Leaves m writes m') :
    m'.code.length = m.code.length := by
  rw [h.code]
  apply Patch.length_applyAll
  intro p hp
  obtain ⟨w, hw, rfl⟩ := List.mem_map.mp hp
  exact (h.fits w hw).within

end Modifier

namespace ScratchModifier

variable {m m' : ScratchModifier}

structure Writes (m : ScratchModifier) (w : Overwrite) (m' : ScratchModifier) : Prop where
  refs : w.refs = []
  low : m.start ≤ w.start
  high : w.stop ≤ m.start + m.scratch.length
  start : m'.start = m.start
  scratch : m'.scratch = m.scratch.overwrite (w.start - m.start) w.data

theorem write_eq_ok {data : Bytes} (h : m.write data = .ok m') :
    Writes m ⟨m.cursor, data, []⟩ m' := by
  unfold write at h
  split at h
  · cases h
  split at h
  · cases h
  · obtain rfl := Except.ok.inj h
    refine ⟨rfl, ?_, ?_, rfl, ?_⟩
    · exact Nat.le_add_right _ _
    · simp only [Overwrite.stop, cursor]
      omega
    · simp [cursor]

theorem append_eq_ok {c : Code} (h : m.append c = .ok m') :
    Writes m ⟨m.cursor, c.code, []⟩ m' := by
  unfold append at h
  split at h
  · exact write_eq_ok h
  · cases h

theorem apply_eq_ok {e : Edit} (h : m.apply e = .ok m') :
    (m.wrote e = none ∧ ∃ pos, m' = { m with pos }) ∨
      ∃ w, m.wrote e = some w ∧ Writes m w m' := by
  cases e with
  | goto offset =>
    refine Or.inl ⟨rfl, ?_⟩
    simp only [apply, goto] at h
    split at h
    · cases h
    split at h
    · cases h
    · exact ⟨_, (Except.ok.inj h).symm⟩
  | check offset =>
    refine Or.inl ⟨rfl, m.pos, ?_⟩
    simp only [apply, Edit.checkCursor] at h
    split at h
    · cases h
    · exact (Except.ok.inj h).symm
  | checkExact offset =>
    refine Or.inl ⟨rfl, m.pos, ?_⟩
    simp only [apply, Edit.checkCursor] at h
    split at h
    · exact (Except.ok.inj h).symm
    · cases h
  | write data => exact Or.inr ⟨_, rfl, write_eq_ok h⟩
  | append c => exact Or.inr ⟨_, rfl, append_eq_ok h⟩
  | emit instruction =>
    simp only [apply] at h
    split at h
    · cases h
    · obtain ⟨c, rfl, h⟩ := bind_eq_ok h
      exact Or.inr ⟨_, rfl, append_eq_ok h⟩

structure Leaves (m : ScratchModifier) (writes : List Overwrite) (m' : ScratchModifier) : Prop where
  refs : ∀ w ∈ writes, w.refs = []
  low : ∀ w ∈ writes, m.start ≤ w.start
  high : ∀ w ∈ writes, w.stop ≤ m.start + m.scratch.length
  length : m'.scratch.length = m.scratch.length
  scratch : ∀ code : Bytes, code.length = m.start →
    code ++ m'.scratch = Patch.applyAll (writes.map Overwrite.patch) (code ++ m.scratch) 0

theorem Leaves.refl (m : ScratchModifier) : Leaves m [] m :=
  ⟨by simp, by simp, by simp, rfl, fun _ _ => rfl⟩

theorem Leaves.step {e : Edit} {writes : List Overwrite} {t : ScratchModifier}
    (h : m.apply e = .ok m') (ht : Leaves m' writes t) :
    Leaves m ((m.wrote e).toList ++ writes) t := by
  rcases apply_eq_ok h with ⟨hw, pos, rfl⟩ | ⟨w, hw, hm⟩
  · rw [hw]
    exact ⟨ht.refs, ht.low, ht.high, ht.length, ht.scratch⟩
  · have hlen : m'.scratch.length = m.scratch.length := by
      rw [hm.scratch]
      apply Bytes.length_overwrite
      have hl := hm.low
      have hh := hm.high
      unfold Overwrite.stop at hh
      omega
    rw [hw, Option.toList_some, List.singleton_append]
    have hcons : ∀ {P : Overwrite → Prop}, P w → (∀ v ∈ writes, P v) → ∀ v ∈ w :: writes, P v :=
      fun hp hps v hv => (List.mem_cons.mp hv).elim (fun he => he ▸ hp) (hps v)
    refine ⟨hcons hm.refs ht.refs, hcons hm.low ?_, hcons hm.high ?_, ht.length.trans hlen, ?_⟩
    · exact hm.start ▸ ht.low
    · rw [← hlen, ← hm.start]
      exact ht.high
    · intro code hcode
      rw [ht.scratch code (hcode.trans hm.start.symm), hm.scratch, ← hcode,
        Bytes.append_overwrite (hcode ▸ hm.low)]
      rfl

theorem run_leaves (m : ScratchModifier) (script : List ScriptStep) :
    Leaves m (scriptWrites apply wrote m script) (m.run script).state :=
  runScript_writes Leaves.refl Leaves.step script m

end ScratchModifier

namespace Assembler

/-- Which references an alteration leaves to be kept up: the old ones that it has not spanned,
and the new ones that depend on the base address. -/
theorem mem_managed_of_leaves {a : Assembler} {writes : List Overwrite} {m : Modifier}
    (h : Modifier.Leaves a.modifier writes m)
    (hin : ∀ q ∈ a.managed, q.fieldEnd ≤ a.committed) (q : Reference) :
    q ∈ m.managed a.managed ↔ (q ∈ a.managed ∧ ¬ Spans writes q) ∨
      q.baseDependent = true ∧ ∃ w ∈ writes, q ∈ w.refs := by
  have hadded : q ∈ m.added ↔ q.baseDependent = true ∧ ∃ w ∈ writes, q ∈ w.refs := by
    have he : m.added = writes.flatMap fun w => w.refs.filter (·.baseDependent) := h.added
    simp only [he, List.mem_flatMap, List.mem_filter]
    constructor
    · rintro ⟨w, hw, hq, hb⟩
      exact ⟨hb, w, hw, hq⟩
    · rintro ⟨hb, w, hw, hq⟩
      exact ⟨w, hw, hq, hb⟩
  have hlo : ∀ n, n ≤ a.committed → (m.lo < n ↔ ∃ w ∈ writes, w.start < n) := by
    intro n hn
    rw [h.lo]
    exact or_iff_right (Nat.not_lt.mpr hn)
  have hhi : ∀ n, n < m.hi ↔ ∃ w ∈ writes, n < w.stop := by
    intro n
    rw [h.hi]
    exact or_iff_right (Nat.not_lt_zero n)
  have hmax : m.hi ≤ a.committed := by
    apply Nat.le_of_not_lt
    intro hlt
    obtain ⟨w, hw, hs⟩ := (hhi _).mp hlt
    exact absurd (h.fits w hw).within (Nat.not_le.mpr hs)
  have hspan : m.lo < m.hi ↔ ∃ w ∈ writes, ∃ v ∈ writes, w.start < v.stop := by
    rw [hlo _ hmax]
    simp only [hhi]
  unfold Modifier.managed
  rw [List.mem_append, hadded]
  refine or_congr_left ?_
  by_cases hlt : m.lo < m.hi
  · rw [if_pos hlt, List.mem_filter]
    refine and_congr_right fun hq => ?_
    simp only [Modifier.mayTouch, Bool.not_eq_true', Bool.and_eq_false_imp, decide_eq_true_eq,
      decide_eq_false_iff_not, Spans, hlo _ (hin q hq), hhi, hspan.mp hlt, true_and, not_and]
  · rw [if_neg hlt]
    refine (and_iff_left ?_).symm
    intro hs
    exact hlt (hspan.mpr hs.1)

theorem alter_eq_ok {a b : Assembler} {next : UInt64} {script : List ScriptStep}
    (h : a.perform (.alter next script) = .ok b) :
    ∃ c m writes, a.commit next = .ok c ∧ Modifier.Leaves c.modifier writes m ∧
      Operation.happenings a (.alter next script) = [.committed, .altered writes] ∧
      b = { c with memory := c.memory.setCode m.code, managed := m.managed c.managed } := by
  obtain ⟨x, hx, rfl⟩ := map_eq_ok h
  obtain ⟨c, hc, hx⟩ := bind_eq_ok hx
  obtain rfl := Except.ok.inj hx
  refine ⟨c, _, _, hc, c.modifier.run_leaves script, ?_, rfl⟩
  simp only [Operation.happenings, hc]

theorem alterUncommitted_eq_ok {a b : Assembler} {script : List ScriptStep}
    (h : a.perform (.alterUncommitted script) = .ok b) :
    ∃ m writes, ScratchModifier.Leaves a.scratchModifier writes m ∧
      Operation.happenings a (.alterUncommitted script) = [.reworked writes] ∧
      b = { a with scratch := m.scratch } := by
  obtain ⟨x, hx, rfl⟩ := map_eq_ok h
  obtain rfl := Except.ok.inj (whenOpen_eq_ok hx)
  exact ⟨_, _, a.scratchModifier.run_leaves script, rfl, rfl⟩

end Assembler

end MachineCode
