import MachineCode.Proofs.Regions

/-!
Where everything lies. Code fits into its region, the field of every reference that an assembler
keeps lies in the bytes that the reference is kept for, and labels are bound inside the code.
Every operation keeps this up.
-/
namespace MachineCode

/-- The field of a reference starts no earlier than `lo` and ends before its anchor, which is no
later than `hi`. -/
structure Reference.Within (r : Reference) (lo hi : Nat) : Prop where
  start : (lo : Int) ≤ r.fieldStart
  stop : r.fieldStart + r.rel.size ≤ r.anchor
  anchor : r.anchor ≤ hi

namespace Reference

variable {r : Reference} {lo hi : Nat}

theorem fieldWithin_iff : r.fieldWithin lo = true ↔
    (lo : Int) ≤ r.fieldStart ∧ r.fieldStart + r.rel.size ≤ r.anchor := by
  simp only [fieldWithin, fieldStart, Bool.and_eq_true, decide_eq_true_eq]
  omega

theorem Within.fieldStart_eq (h : r.Within lo hi) : r.fieldStart = r.field := by
  have hs := h.start
  unfold fieldStart at hs
  unfold fieldStart field
  omega

theorem Within.field (h : r.Within lo hi) : lo ≤ r.field ∧ r.fieldEnd ≤ hi := by
  have he := h.fieldStart_eq
  have hs := h.start
  have hp := h.stop
  have ha := h.anchor
  unfold fieldEnd
  omega

theorem Within.mono {lo' hi' : Nat} (h : r.Within lo hi) (hlo : lo' ≤ lo) (hhi : hi ≤ hi') :
    r.Within lo' hi' :=
  ⟨Int.le_trans (Int.ofNat_le.mpr hlo) h.start, h.stop, Nat.le_trans h.anchor hhi⟩

/-- Only the anchor and the relocation count. -/
theorem Within.congr {q : Reference} (h : r.Within lo hi) (ha : q.anchor = r.anchor)
    (hr : q.rel = r.rel) : q.Within lo hi := by
  obtain ⟨hs, hp, hanchor⟩ := h
  unfold fieldStart at hs hp
  refine ⟨?_, ?_, ha ▸ hanchor⟩
  · unfold fieldStart
    rw [ha, hr]
    exact hs
  · unfold fieldStart
    rw [ha, hr]
    exact hp

end Reference

structure Assembler.InBounds (a : Assembler) : Prop where
  size : a.committed ≤ a.capacity
  pages : pageSize ∣ a.capacity
  waiting : ∀ r ∈ a.labels.waiting, r.Within a.committed a.offset
  pending : ∀ r ∈ a.pending, r.Within a.committed a.offset
  managed : ∀ r ∈ a.managed, r.Within 0 a.committed
  bound : ∀ t offset, a.labels.lookup t = some offset → offset ≤ a.offset

/-- What an operation does to the labels: no binding of a global or dynamic label changes, and
whatever is bound anew is bound to the present offset. -/
structure Relabels (l l' : Labels) (offset : Nat) : Prop where
  kept : ∀ t o, (∀ name, t ≠ .backward name) → l.lookup t = some o → l'.lookup t = some o
  fresh : ∀ t o, l'.lookup t = some o → l.lookup t = some o ∨ o = offset

namespace Relabels

variable {l : Labels} {offset : Nat}

theorem of_lookup {l' : Labels} (h : ∀ t, l'.lookup t = l.lookup t) : Relabels l l' offset :=
  ⟨fun t _ _ ho => (h t).trans ho, fun t _ ho => Or.inl ((h t).symm.trans ho)⟩

theorem newDynamic : Relabels l l.newDynamic.2 offset := by
  apply of_lookup
  intro t
  cases t with
  | dynamic id =>
    simp only [Labels.lookup, Labels.newDynamic, List.getElem?_append]
    split
    · rfl
    · rw [List.getElem?_eq_none (by omega : l.dynamics.length ≤ id.toNat)]
      cases id.toNat - l.dynamics.length <;> rfl
  | nowhere | global | forward | backward | external => rfl

theorem bindGlobal {name : String} (hn : l.globals.lookup name = none) :
    Relabels l { l with globals := (name, offset) :: l.globals } offset := by
  constructor
  · intro t o _ ho
    cases t with
    | global n =>
      have hne : n ≠ name := by
        rintro rfl
        rw [Labels.lookup, hn] at ho
        cases ho
      simpa [Labels.lookup, List.lookup_cons, beq_false_of_ne hne] using ho
    | nowhere | forward | backward | dynamic | external => exact ho
  · intro t o ho
    cases t with
    | global n =>
      by_cases he : n = name
      · subst he
        simp only [Labels.lookup, List.lookup_cons, beq_self_eq_true, Option.some.injEq] at ho
        exact Or.inr ho.symm
      · simp only [Labels.lookup, List.lookup_cons, beq_false_of_ne he] at ho
        exact Or.inl ho
    | nowhere | forward | backward | dynamic | external => exact Or.inl ho

theorem bindDynamic {id : UInt32} (hn : l.dynamics[id.toNat]? = some none) :
    Relabels l { l with dynamics := l.dynamics.set id.toNat (some offset) } offset := by
  obtain ⟨hlt, -⟩ := List.getElem?_eq_some_iff.mp hn
  constructor
  · intro t o _ ho
    cases t with
    | dynamic j =>
      have hne : id.toNat ≠ j.toNat := by
        intro he
        rw [Labels.lookup, ← he, hn] at ho
        cases ho
      simpa [Labels.lookup, List.getElem?_set_ne hne] using ho
    | nowhere | global | forward | backward | external => exact ho
  · intro t o ho
    cases t with
    | dynamic j =>
      by_cases he : id.toNat = j.toNat
      · simp only [Labels.lookup, ← he, List.getElem?_set_self hlt, Option.join_some,
          Option.some.injEq] at ho
        exact Or.inr ho.symm
      · simp only [Labels.lookup, List.getElem?_set_ne he] at ho
        exact Or.inl ho
    | nowhere | global | forward | backward | external => exact Or.inl ho

theorem bindLocal (name : String) : Relabels l (l.bindLocal name offset) offset := by
  constructor
  · intro t o ht ho
    cases t with
    | backward n => exact absurd rfl (ht n)
    | nowhere | global | forward | dynamic | external => exact ho
  · intro t o ho
    cases t with
    | backward n =>
      by_cases he : n = name
      · subst he
        simp only [Labels.lookup, Labels.bindLocal, List.lookup_cons, beq_self_eq_true,
          Option.some.injEq] at ho
        exact Or.inr ho.symm
      · simp only [Labels.lookup, Labels.bindLocal, List.lookup_cons, beq_false_of_ne he] at ho
        exact Or.inl ho
    | nowhere | global | forward | dynamic | external => exact Or.inl ho

theorem withWaiting {l' : Labels} (h : Relabels l l' offset) (waiting : List Reference) :
    Relabels l { l' with waiting } offset := by
  have hlookup (t : Target) : Labels.lookup { l' with waiting } t = l'.lookup t := by
    cases t <;> rfl
  refine ⟨?_, ?_⟩
  · intro t o ht ho
    rw [hlookup]
    exact h.kept t o ht ho
  · intro t o ho
    rw [hlookup] at ho
    exact h.fresh t o ho

end Relabels

def Operation.relabel (op : Operation) (l : Labels) (offset : Nat) : Labels :=
  match op with
  | newDynamic => l.newDynamic.2
  | globalLabel name => { l with globals := (name, offset) :: l.globals }
  | dynamicLabel id => { l with dynamics := l.dynamics.set id.toNat (some offset) }
  | localLabel name => l.bindLocal name offset
  | _ => l

theorem ok_of_mapM {ε α β : Type} {f : α → Except ε β} {xs : List α} {ys : List β}
    (h : xs.mapM f = .ok ys) {x : α} (hx : x ∈ xs) : ∃ y, f x = .ok y := by
  induction xs generalizing ys with
  | nil => cases hx
  | cons z zs ih =>
    rw [List.mapM_cons] at h
    obtain ⟨y, hy, h⟩ := bind_eq_ok h
    obtain ⟨rest, hrest, -⟩ := bind_eq_ok h
    rcases List.mem_cons.mp hx with rfl | hx
    · exact ⟨y, hy⟩
    · exact ih hrest hx

/-- What holds of the state of a script and is kept by every edit holds at its end. -/
theorem runScript_invariant {σ : Type} {apply : σ → Edit → Except Error σ} {cursor : σ → Nat}
    {P : σ → Prop} (hstep : ∀ {s e s'}, P s → apply s e = .ok s' → P s')
    (script : List ScriptStep) {s : σ} (hs : P s) : P (runScript apply cursor s script).state := by
  induction script generalizing s with
  | nil => exact hs
  | cons step rest ih =>
    unfold runScript
    cases he : apply s step.edit with
    | ok s' => exact ih (hstep hs he)
    | error e =>
      by_cases hr : step.required = true
      · simp only [if_pos hr]
        exact hs
      · simp only [if_neg hr]
        exact ih hs

namespace Modifier

variable {m m' : Modifier}

structure InBounds (m : Modifier) (size : Nat) : Prop where
  length : m.code.length = size
  cursor : m.cursor ≤ size
  touched : m.hi ≤ size
  added : ∀ r ∈ m.added, r.Within 0 size

theorem resolve_within {code code' : Bytes} {u : Use} {q : Reference}
    (h : m.resolve code u = .ok (q, code')) : q.Within m.cursor (m.cursor + code.length) := by
  unfold resolve at h
  split at h
  · simp only at h
    split at h
    · cases h
    rename_i hw
    split at h
    · cases h
    obtain ⟨s, hs, h⟩ := bind_eq_ok h
    obtain ⟨p, hp, h⟩ := bind_eq_ok h
    obtain ⟨rfl, -⟩ := Prod.mk.inj (Except.ok.inj h)
    rw [Bool.not_eq_true, Bool.not_eq_false', Reference.fieldWithin_iff] at hw
    have hin := Reference.Within.mk hw.1 hw.2 (Nat.le_refl _)
    rcases MachineCode.resolve_eq_ok hs with ⟨-, rfl⟩ | ⟨-, offset, -, rfl⟩
    · exact hin
    · exact hin.congr rfl rfl
  · cases h

theorem resolveAll_within {code code' : Bytes} {us : List Use} {refs : List Reference}
    (h : m.resolveAll code us = .ok (refs, code')) :
    ∀ q ∈ refs, q.Within m.cursor (m.cursor + code.length) := by
  induction us generalizing code code' refs with
  | nil =>
    obtain ⟨rfl, rfl⟩ := Prod.mk.inj (Except.ok.inj h)
    simp
  | cons u us ih =>
    obtain ⟨⟨q, code₁⟩, hq, h⟩ := bind_eq_ok h
    obtain ⟨⟨qs, code₂⟩, hqs, h⟩ := bind_eq_ok h
    obtain ⟨rfl, rfl⟩ := Prod.mk.inj (Except.ok.inj h)
    intro s hs
    rcases List.mem_cons.mp hs with rfl | hs
    · exact resolve_within hq
    · have := ih hqs s hs
      rwa [(resolve_eq_ok hq).1] at this

theorem InBounds.put {size : Nat} (hm : m.InBounds size) {data : Bytes}
    (hroom : m.cursor + data.length ≤ m.code.length) : (m.put data).InBounds size where
  length := (Bytes.length_overwrite _ _ _ hroom).trans hm.length
  cursor := hm.length ▸ hroom
  touched := Nat.max_le.mpr ⟨hm.touched, hm.length ▸ hroom⟩
  added := hm.added

theorem InBounds.append {size : Nat} (hm : m.InBounds size) {c : Code} (h : m.append c = .ok m') :
    m'.InBounds size := by
  obtain ⟨x, hx, h⟩ := bind_eq_ok h
  obtain ⟨⟨refs, data⟩, hr, h⟩ := bind_eq_ok h
  obtain rfl := Except.ok.inj h
  have hroom := checkRoom_eq_ok hx
  have hput : (m.put data).InBounds size := hm.put ((resolveAll_eq_ok hr).1 ▸ hroom)
  refine ⟨hput.length, hput.cursor, hput.touched, ?_⟩
  intro r hr'
  rcases List.mem_append.mp hr' with hold | hnew
  · exact hm.added r hold
  · have hin := resolveAll_within hr r (List.mem_filter.mp hnew).1
    exact hin.mono (Nat.zero_le _) (hm.length ▸ hroom)

theorem InBounds.apply {size : Nat} {e : Edit} (hm : m.InBounds size) (h : m.apply e = .ok m') :
    m'.InBounds size := by
  cases e with
  | goto offset =>
    simp only [Modifier.apply, goto] at h
    split at h
    · cases h
    split at h
    · cases h
    · rename_i hin
      obtain rfl := Except.ok.inj h
      simp only [Bool.or_eq_true, decide_eq_true_eq, not_or] at hin
      refine ⟨hm.length, ?_, hm.touched, hm.added⟩
      have := hm.length
      simp only
      omega
  | check offset =>
    simp only [Modifier.apply, Edit.checkCursor] at h
    split at h
    · cases h
    · exact Except.ok.inj h ▸ hm
  | checkExact offset =>
    simp only [Modifier.apply, Edit.checkCursor] at h
    split at h
    · exact Except.ok.inj h ▸ hm
    · cases h
  | write data =>
    obtain ⟨x, hx, h⟩ := bind_eq_ok h
    obtain rfl := Except.ok.inj h
    exact hm.put (checkRoom_eq_ok hx)
  | append c => exact hm.append h
  | emit instruction =>
    simp only [Modifier.apply] at h
    split at h
    · cases h
    · obtain ⟨c, rfl, h⟩ := bind_eq_ok h
      exact hm.append h

theorem InBounds.run {size : Nat} (hm : m.InBounds size) (script : List ScriptStep) :
    (m.run script).state.InBounds size :=
  runScript_invariant (P := (InBounds · size)) (fun hs he => hs.apply he) script hm

end Modifier

namespace Assembler

variable {a b : Assembler} {h : History}

theorem modifier_inBounds (a : Assembler) : a.modifier.InBounds a.committed :=
  ⟨rfl, Nat.zero_le _, Nat.zero_le _, by simp [modifier]⟩

theorem record_within {scratch : Bytes} {u : Use} {x : Recorded} {r : Reference}
    (hx : a.record scratch u = .ok x)
    (hr : Operation.reference? (a.committed + scratch.length) u = some r) :
    r.Within a.committed (a.committed + scratch.length) := by
  obtain ⟨target, addend, rel?⟩ := u
  unfold record at hx
  split at hx
  · rename_i rel hvalid hrel
    obtain rfl : rel? = some rel := hrel
    obtain rfl := Option.some.inj hr
    simp only [Bool.not_eq_true'] at hx
    split at hx
    · cases hx
    · rename_i hw
      rw [Bool.not_eq_false, Reference.fieldWithin_iff] at hw
      exact ⟨hw.1, hw.2, Nat.le_refl _⟩
  · cases hx

theorem append_within {c : Code} (hb : a.append c = .ok b) {r : Reference}
    (hr : r ∈ c.refs.filterMap (Operation.reference? (a.offset + c.code.length))) :
    r.Within a.committed (a.offset + c.code.length) := by
  have hlen : a.offset + c.code.length = a.committed + (a.scratch ++ c.code).length := by
    rw [offset, List.length_append, Nat.add_assoc]
  rw [hlen] at hr ⊢
  have ha := whenOpen_eq_ok hb
  simp only at ha
  split at ha
  · cases ha
  · rename_i xs hxs
    obtain ⟨u, hu, hr⟩ := List.mem_filterMap.mp hr
    obtain ⟨x, hx⟩ := ok_of_mapM hxs hu
    exact record_within hx hr

/-- What an operation does to the labels, apart from the references that wait for them. -/
theorem perform_labels {op : Operation} (hb : a.perform op = .ok b) :
    ∃ waiting, b.labels = { op.relabel a.labels a.offset with waiting } := by
  have append {c : Code} (hc : a.append c = .ok b) :
      ∃ waiting, b.labels = { a.labels with waiting } := by
    obtain ⟨-, ps, -, rfl⟩ := append_eq_ok hc rfl
    exact ⟨_, rfl⟩
  cases op with
  | extend data =>
    obtain rfl := extend_eq_ok hb
    exact ⟨_, rfl⟩
  | align n fill =>
    obtain rfl := align_eq_ok hb
    exact ⟨_, rfl⟩
  | newDynamic =>
    obtain rfl := Except.ok.inj hb
    exact ⟨_, rfl⟩
  | globalLabel name =>
    obtain ⟨-, rfl⟩ := globalLabel_eq_ok hb
    exact ⟨_, rfl⟩
  | dynamicLabel id =>
    obtain ⟨-, rfl⟩ := dynamicLabel_eq_ok hb
    exact ⟨_, rfl⟩
  | localLabel name =>
    obtain ⟨ps, -, rfl⟩ := localLabel_eq_ok hb
    exact ⟨_, rfl⟩
  | append c => exact append hb
  | relocate u => exact append hb
  | emit instruction =>
    have hi := whenOpen_eq_ok hb
    cases instruction with
    | error e => cases hi
    | ok c => exact append hi
  | commit next =>
    obtain ⟨refs, moved, hc⟩ := commit_eq_ok hb
    exact ⟨_, hc.labels⟩
  | finalize next =>
    obtain ⟨c, hc, halike⟩ := finalize_eq_ok hb
    obtain ⟨refs, moved, hc⟩ := commit_eq_ok hc
    exact ⟨_, halike.labels.trans hc.labels⟩
  | alter next script =>
    obtain ⟨c, m, writes, hc, -, -, rfl⟩ := alter_eq_ok hb
    obtain ⟨refs, moved, hc⟩ := commit_eq_ok hc
    exact ⟨_, hc.labels⟩
  | alterUncommitted script =>
    obtain ⟨m, writes, -, -, rfl⟩ := alterUncommitted_eq_ok hb
    exact ⟨_, rfl⟩
  | close =>
    obtain rfl := Except.ok.inj hb
    exact ⟨_, a.close_alike.labels⟩
  | closeBuffer =>
    obtain rfl := Except.ok.inj hb
    exact ⟨_, a.closeBuffer_alike.labels⟩
  | lock =>
    obtain ⟨⟨guard, c⟩, hc, rfl⟩ := map_eq_ok hb
    exact ⟨_, (lock_alike hc).labels⟩
  | unlock guard =>
    obtain rfl := Except.ok.inj hb
    exact ⟨_, (a.unlock_alike guard).labels⟩

theorem perform_relabels {op : Operation} (hb : a.perform op = .ok b) :
    Relabels a.labels b.labels a.offset := by
  obtain ⟨waiting, hl⟩ := perform_labels hb
  rw [hl]
  refine Relabels.withWaiting ?_ waiting
  cases op with
  | newDynamic => exact .newDynamic
  | globalLabel name => exact .bindGlobal (globalLabel_eq_ok hb).1
  | dynamicLabel id => exact .bindDynamic (dynamicLabel_eq_ok hb).1
  | localLabel name => exact .bindLocal name
  | extend | align | append | relocate | emit | commit | finalize | alter | alterUncommitted
  | close | closeBuffer | lock | unlock => exact .of_lookup fun _ => rfl

namespace InBounds

theorem start (capacity : Nat) : InBounds { minCapacity := capacity } where
  size := Nat.zero_le _
  pages := Nat.dvd_zero _
  waiting := by simp
  pending := by simp
  managed := by simp
  bound t offset ho := by cases t <;> cases ho

/-- An operation that commits nothing and stays in its region: references that are not new lie
where they lay. -/
theorem still (ha : InBounds a) (hcom : b.committed = a.committed) (hcap : b.capacity = a.capacity)
    (hoff : a.offset ≤ b.offset) (hl : Relabels a.labels b.labels a.offset)
    (hw : ∀ r ∈ b.labels.waiting, r ∈ a.labels.waiting ∨ r.Within a.committed b.offset)
    (hp : ∀ r ∈ b.pending, r ∈ a.pending ∨ r.Within a.committed b.offset)
    (hm : b.managed = a.managed) : InBounds b where
  size := by rw [hcom, hcap]; exact ha.size
  pages := hcap ▸ ha.pages
  waiting r hr := by
    rw [hcom]
    exact (hw r hr).elim (fun hold => (ha.waiting r hold).mono (Nat.le_refl _) hoff) id
  pending r hr := by
    rw [hcom]
    exact (hp r hr).elim (fun hold => (ha.pending r hold).mono (Nat.le_refl _) hoff) id
  managed r hr := by
    rw [hcom]
    exact ha.managed r (hm ▸ hr)
  bound t o ho := (hl.fresh t o ho).elim (fun hold => Nat.le_trans (ha.bound t o hold) hoff)
    fun he => he ▸ hoff

theorem alike (ha : InBounds a) (hab : Alike a b) (hcap : b.capacity = a.capacity) :
    InBounds b := by
  have hcom : b.committed = a.committed := congrArg List.length hab.code
  have hoff : b.offset = a.offset := by rw [offset, offset, hcom, hab.scratch]
  refine ha.still hcom hcap (Nat.le_of_eq hoff.symm) (.of_lookup fun _ => by rw [hab.labels])
    ?_ ?_ hab.managed
  · intro r hr
    exact Or.inl (hab.labels ▸ hr)
  · intro r hr
    exact Or.inl (hab.pending ▸ hr)

theorem localLabel (ht : Tracks h a) (ha : InBounds a) {name : String}
    (hb : a.localLabel name = .ok b) : InBounds b := by
  have hoff : b.offset = a.offset := by
    rw [← b.length_image, ← a.length_image]
    exact (ht.localLabel_resolves hb).length
  have hperform : a.perform (.localLabel name) = .ok b := hb
  have hl := perform_relabels hperform
  obtain ⟨ps, hps, rfl⟩ := localLabel_eq_ok hb
  refine ha.still rfl rfl (Nat.le_of_eq hoff.symm) hl ?_ ?_ rfl
  · intro r hr
    exact Or.inl (List.mem_filter.mp hr).1
  · intro r hr
    refine (List.mem_append.mp hr).imp id ?_
    intro hnew
    obtain ⟨q, hq, rfl⟩ := List.mem_map.mp (List.mem_filter.mp hnew).1
    rw [hoff]
    exact (ha.waiting q (List.mem_filter.mp hq).1).congr rfl rfl

theorem append (ha : InBounds a) {c : Code} (hb : a.append c = .ok b) :
    InBounds b := by
  have hoff : b.offset = a.offset + c.code.length := by
    rw [← b.length_image, (Tracks.append_resolves hb rfl).length, List.length_append,
      a.length_image]
  have hperform : a.perform (.append c) = .ok b := hb
  have hl := perform_relabels hperform
  have hin {r : Reference} := append_within (r := r) hb
  obtain ⟨-, ps, hps, rfl⟩ := append_eq_ok hb rfl
  refine ha.still rfl rfl (by omega) hl ?_ ?_ rfl
  · intro q hq
    refine (List.mem_append.mp hq).imp id ?_
    intro hnew
    obtain ⟨r, hr, he⟩ := List.mem_filterMap.mp hnew
    rw [hoff]
    unfold waiting? at he
    split at he
    · exact Option.some.inj he ▸ hin hr
    · cases he
  · intro q hq
    refine (List.mem_append.mp hq).imp id ?_
    intro hnew
    obtain ⟨r, hr, he⟩ := List.mem_filterMap.mp hnew
    rw [hoff]
    unfold postponed? at he
    split at he
    · cases he
    · split at he
      · exact Option.some.inj he ▸ (hin hr).congr rfl rfl
      · cases he
    · exact Option.some.inj he ▸ hin hr

theorem commit (ht : Tracks h a) (ha : InBounds a) {next : UInt64} (hb : a.commit next = .ok b) :
    InBounds b := by
  have hperform : a.perform (.commit next) = .ok b := hb
  have hl := perform_relabels hperform
  have hoff : b.offset = a.offset := by
    have hlen := (ht.commit hb).length
    rw [History.code_append, List.length_append, ht.length] at hlen
    exact hlen.symm
  obtain ⟨refs, moved, hc⟩ := commit_eq_ok hb
  have hcom : b.committed = a.offset := by
    rw [← hoff, offset, hc.scratch]
    rfl
  have hold : a.committed ≤ b.committed := hcom ▸ Nat.le_add_right ..
  refine ⟨?_, ?_, ?_, ?_, ?_, ?_⟩
  · obtain ⟨-, ⟨-, hcap, hnone | hroom⟩ | ⟨-, hcap⟩⟩ := commit_region hb
    · have hempty : a.offset = a.committed := by rw [offset, hnone]; rfl
      rw [hcom, hcap, hempty]
      exact ha.size
    · rw [hcom, hcap]
      exact hroom
    · rw [hcap]
      exact (Memory.nextCapacity_bounds ..).2.2.1
  · obtain ⟨-, ⟨-, hcap, -⟩ | ⟨-, hcap⟩⟩ := commit_region hb
    · exact hcap ▸ ha.pages
    · rw [hcap]
      exact (Memory.nextCapacity_bounds ..).2.2.2
  · simp [hc.labels, hc.waiting]
  · simp [hc.pending]
  · intro q hq
    rw [hc.managed] at hq
    rcases List.mem_append.mp hq with hq | hq
    · exact (ha.managed q hq).mono (Nat.le_refl _) hold
    · obtain ⟨r, hr, hres⟩ := hc.made q (List.mem_filter.mp hq).1
      have hin := (ha.pending r hr).mono (Nat.zero_le _) (Nat.le_of_eq hcom.symm)
      rcases resolve_eq_ok hres with ⟨-, rfl⟩ | ⟨-, offset, -, rfl⟩
      · exact hin
      · exact hin.congr rfl rfl
  · intro t o ho
    rw [hoff]
    exact (hl.fresh t o ho).elim (ha.bound t o) Nat.le_of_eq

/-- An alteration keeps the length of the code, and its own references lie in the code. -/
theorem altered (ha : InBounds a) {writes : List Overwrite} {m : Modifier}
    (hm : Modifier.Leaves a.modifier writes m) (hin : m.InBounds a.committed) :
    InBounds { a with memory := a.memory.setCode m.code, managed := m.managed a.managed } := by
  have hcom : committed { a with
      memory := a.memory.setCode m.code, managed := m.managed a.managed } = a.committed := hm.length
  have hoff : offset { a with
      memory := a.memory.setCode m.code, managed := m.managed a.managed } = a.offset :=
    congrArg (· + a.scratch.length) hm.length
  refine ⟨hcom ▸ ha.size, ha.pages, ?_, ?_, ?_, ?_⟩
  · rw [hcom, hoff]
    exact ha.waiting
  · rw [hcom, hoff]
    exact ha.pending
  · rw [hcom]
    intro r hr
    rcases List.mem_append.mp hr with hr | hr
    · split at hr
      · exact ha.managed r (List.mem_filter.mp hr).1
      · exact ha.managed r hr
    · exact hin.added r hr
  · rw [hoff]
    exact ha.bound

theorem perform (ht : Tracks h a) (ha : InBounds a) {op : Operation} (hb : a.perform op = .ok b) :
    InBounds b := by
  have hl := perform_relabels hb
  cases op with
  | extend data =>
    obtain rfl := extend_eq_ok hb
    refine ha.still rfl rfl ?_ hl (fun _ => Or.inl) (fun _ => Or.inl) rfl
    simp only [offset, List.length_append]
    exact Nat.add_le_add_left (Nat.le_add_right ..) _
  | align n fill =>
    obtain rfl := align_eq_ok hb
    refine ha.still rfl rfl ?_ hl (fun _ => Or.inl) (fun _ => Or.inl) rfl
    simp only [offset, List.length_append]
    exact Nat.add_le_add_left (Nat.le_add_right ..) _
  | newDynamic =>
    obtain rfl := Except.ok.inj hb
    exact ha.still rfl rfl (Nat.le_refl _) hl (fun _ => Or.inl) (fun _ => Or.inl) rfl
  | globalLabel name =>
    obtain ⟨-, rfl⟩ := globalLabel_eq_ok hb
    exact ha.still rfl rfl (Nat.le_refl _) hl (fun _ => Or.inl) (fun _ => Or.inl) rfl
  | dynamicLabel id =>
    obtain ⟨-, rfl⟩ := dynamicLabel_eq_ok hb
    exact ha.still rfl rfl (Nat.le_refl _) hl (fun _ => Or.inl) (fun _ => Or.inl) rfl
  | localLabel name => exact localLabel ht ha hb
  | append c => exact append ha hb
  | relocate u => exact append ha hb
  | emit instruction =>
    have hi := whenOpen_eq_ok hb
    cases instruction with
    | error e => cases hi
    | ok c => exact append ha hi
  | commit next => exact commit ht ha hb
  | finalize next =>
    obtain ⟨c, hc, hb⟩ := bind_eq_ok hb
    obtain rfl := Except.ok.inj hb
    exact (commit ht ha hc).alike ⟨rfl, rfl, rfl, rfl, rfl, rfl, rfl⟩ rfl
  | alter next script =>
    obtain ⟨x, hx, rfl⟩ := map_eq_ok hb
    obtain ⟨c, hc, hx⟩ := bind_eq_ok hx
    obtain rfl := Except.ok.inj hx
    exact (commit ht ha hc).altered (c.modifier.run_leaves script)
      (c.modifier_inBounds.run script)
  | alterUncommitted script =>
    obtain ⟨m, writes, hm, -, rfl⟩ := alterUncommitted_eq_ok hb
    refine ha.still rfl rfl ?_ hl (fun _ => Or.inl) (fun _ => Or.inl) rfl
    exact Nat.le_of_eq (congrArg (a.committed + ·) hm.length).symm
  | close =>
    obtain rfl := Except.ok.inj hb
    obtain ⟨-, hgrows⟩ := perform_grows hb
    exact ha.alike a.close_alike (hgrows.capacity a.close_alike.region)
  | closeBuffer =>
    obtain rfl := Except.ok.inj hb
    obtain ⟨-, hgrows⟩ := perform_grows hb
    exact ha.alike a.closeBuffer_alike (hgrows.capacity a.closeBuffer_alike.region)
  | lock =>
    obtain ⟨-, hgrows⟩ := perform_grows hb
    obtain ⟨⟨guard, c⟩, hc, rfl⟩ := map_eq_ok hb
    exact ha.alike (lock_alike hc) (hgrows.capacity (lock_alike hc).region)
  | unlock guard =>
    obtain rfl := Except.ok.inj hb
    obtain ⟨-, hgrows⟩ := perform_grows hb
    exact ha.alike (a.unlock_alike guard) (hgrows.capacity (a.unlock_alike guard).region)

end InBounds

end Assembler

end MachineCode
