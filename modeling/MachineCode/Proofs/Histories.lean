import MachineCode.Proofs.Session

/-!
Histories grow at their end. A reference that was recorded stays where it is in the history, its
meaning is settled once its label is found, and once its field is written it is never open again.
-/
namespace MachineCode

namespace History

variable {h new before after : History} {r : Reference} {l : Label}

@[simp] theorem code_append (h new : History) : (h ++ new).code = h.code ++ new.code :=
  List.flatMap_append ..

@[simp] theorem references_append (h new : History) :
    (h ++ new).references = h.references ++ new.references :=
  List.filterMap_append ..

@[simp] theorem bindings_append (h new : History) (l : Label) :
    (h ++ new).bindings l = h.bindings l ++ new.bindings l :=
  List.filterMap_append ..

@[simp] theorem bindings_recorded (r : Reference) (h : History) (l : Label) :
    bindings (.recorded r :: h) l = h.bindings l := rfl

theorem bindings_bound (k l : Label) (offset : Nat) :
    bindings [.bound k offset] l = if k = l then [offset] else [] := by
  by_cases hk : k = l <;> simp [bindings, hk]

theorem bindings_appended (data : Bytes) (refs : List Reference) (l : Label) :
    bindings (.appended data :: refs.map .recorded) l = [] := by
  have hmap : bindings (refs.map .recorded) l = [] := by
    induction refs with
    | nil => rfl
    | cons r refs ih => exact ih
  exact hmap

theorem references_appended (data : Bytes) (refs : List Reference) :
    references (.appended data :: refs.map .recorded) = refs := by
  have hmap : references (refs.map .recorded) = refs := by
    induction refs with
    | nil => rfl
    | cons r refs ih => exact congrArg (r :: ·) ih
  exact hmap

theorem code_appended (data : Bytes) (refs : List Reference) :
    code (.appended data :: refs.map .recorded) = data := by
  have hmap : code (refs.map .recorded) = [] := by
    induction refs with
    | nil => rfl
    | cons r refs ih => exact ih
  exact (congrArg (data ++ ·) hmap).trans (List.append_nil data)

theorem writes_appended (data : Bytes) (refs : List Reference) :
    writes (.appended data :: refs.map .recorded) = [] := by
  have hmap : writes (refs.map .recorded) = [] := by
    induction refs with
    | nil => rfl
    | cons r refs ih => exact ih
  exact hmap

theorem mem_references : r ∈ h.references ↔ .recorded r ∈ h := by
  unfold references
  rw [List.mem_filterMap]
  constructor
  · rintro ⟨e, he, hr⟩
    cases e with
    | recorded s => exact Option.some.inj hr ▸ he
    | appended | bound | committed | altered | reworked => cases hr
  · exact fun he => ⟨_, he, rfl⟩

theorem Records.mem (hr : h.Records before r after) : r ∈ h.references := by
  rw [mem_references, hr]
  simp

theorem exists_records (hr : r ∈ h.references) : ∃ before after, h.Records before r after :=
  List.append_of_mem (mem_references.mp hr)

theorem Records.append (hr : h.Records before r after) (new : History) :
    (h ++ new).Records before r (after ++ new) := by
  unfold Records at *
  rw [hr, List.append_assoc, List.cons_append]

theorem append_eq_append_cons {α : Type} {xs ys before after : List α} {x : α} :
    xs ++ ys = before ++ x :: after ↔
      (∃ tail, xs = before ++ x :: tail ∧ after = tail ++ ys) ∨
        ∃ mid, before = xs ++ mid ∧ ys = mid ++ x :: after := by
  rw [List.append_eq_append_iff]
  constructor
  · rintro (hnew | ⟨tail, hxs, htail⟩)
    · exact Or.inr hnew
    · cases tail with
      | nil => exact Or.inr ⟨[], by simpa using hxs.symm, htail.symm⟩
      | cons y tail =>
        obtain ⟨rfl, rfl⟩ := List.cons.inj htail
        exact Or.inl ⟨tail, hxs, rfl⟩
  · rintro (⟨tail, hxs, rfl⟩ | hnew)
    · exact Or.inr ⟨x :: tail, hxs, rfl⟩
    · exact Or.inl hnew

theorem records_append : (h ++ new).Records before r after ↔
    (∃ tail, h.Records before r tail ∧ after = tail ++ new) ∨
      ∃ mid, before = h ++ mid ∧ new.Records mid r after :=
  append_eq_append_cons

/-- What records nothing leaves all references where they are. -/
theorem Records.of_append (hr : (h ++ new).Records before r after) (hnew : new.references = []) :
    ∃ tail, h.Records before r tail ∧ after = tail ++ new := by
  rcases records_append.mp hr with hold | ⟨mid, -, hfresh⟩
  · exact hold
  · exact absurd hfresh.mem (hnew ▸ List.not_mem_nil)

/-- Where appended code records a reference, nothing else is bound, committed or altered. -/
theorem records_appended {data : Bytes} {refs : List Reference}
    (hr : Records (.appended data :: refs.map .recorded) before r after) :
    r ∈ refs ∧ (∀ k, before.bindings k = []) ∧ (∀ k, after.bindings k = []) ∧
      .committed ∉ after ∧ ∀ writes, .altered writes ∉ after := by
  have hbind := bindings_appended data refs
  have hmem : ∀ e ∈ after, e ∈ Happening.appended data :: refs.map .recorded := by
    intro e he
    rw [hr]
    simp [he]
  refine ⟨references_appended data refs ▸ hr.mem, ?_⟩
  rw [hr] at hbind
  simp only [bindings_append, bindings_recorded, List.append_eq_nil_iff] at hbind
  refine ⟨fun k => (hbind k).1, fun k => (hbind k).2, ?_, ?_⟩
  · intro hc
    simpa using hmem _ hc
  · intro writes hw
    simpa using hmem _ hw

theorem exists_records_appended {refs : List Reference} (hr : r ∈ refs) (data : Bytes) :
    ∃ before after, Records (.appended data :: refs.map .recorded) before r after :=
  exists_records ((references_appended data refs).symm ▸ hr)

/-- Two positions at which references were recorded are the same, or the fields are apart. -/
theorem Records.same_or_apart {before' after' : History} {s : Reference}
    (hp : h.references.Pairwise Reference.Apart) (hr : h.Records before r after)
    (hs : h.Records before' s after') :
    (before = before' ∧ r = s ∧ after = after') ∨ r.Apart s := by
  -- If the one reference comes first, the other stands in what has happened since.
  have first : ∀ {b₁ b₂ a₁ a₂ : History} {x y : Reference}, h.Records b₁ x a₁ →
      h.Records b₂ y a₂ → (∃ mid, b₂ = b₁ ++ Happening.recorded x :: mid) → x.Apart y := by
    rintro b₁ b₂ a₁ a₂ x y - hy ⟨mid, rfl⟩
    rw [hy, List.append_assoc, references_append] at hp
    have hrest := (List.pairwise_append.mp hp).2.1
    exact (List.pairwise_cons.mp hrest).1 y (mem_references.mpr (by simp))
  have hsplit := hr.symm.trans hs
  rcases List.append_eq_append_iff.mp hsplit with ⟨mid, hb, ha⟩ | ⟨mid, hb, ha⟩
  · cases mid with
    | nil =>
      obtain ⟨he, ha⟩ := List.cons.inj ha
      exact Or.inl ⟨by simpa using hb.symm, Happening.recorded.inj he, ha⟩
    | cons e mid =>
      obtain ⟨rfl, -⟩ := List.cons.inj ha
      exact Or.inr (first hr hs ⟨mid, hb⟩)
  · cases mid with
    | nil =>
      obtain ⟨he, ha⟩ := List.cons.inj ha
      exact Or.inl ⟨by simpa using hb, (Happening.recorded.inj he).symm, ha.symm⟩
    | cons e mid =>
      obtain ⟨rfl, -⟩ := List.cons.inj ha
      exact Or.inr (first hs hr ⟨mid, hb⟩).symm

end History

section meanings

variable {before after new : History} {r : Reference}

@[simp] theorem field_meaning : (meaning before r after).field = r.field := rfl

@[simp] theorem rel_meaning : (meaning before r after).rel = r.rel := rfl

@[simp] theorem baseDependent_meaning :
    (meaning before r after).baseDependent = r.baseDependent := rfl

theorem head?_append_of_isSome {α : Type} {xs : List α} (h : xs.head?.isSome) (ys : List α) :
    (xs ++ ys).head? = xs.head? := by
  cases xs with
  | nil => cases h
  | cons x xs => rfl

/-- The target of a reference is known: its label is bound, or it is outside the code. -/
def Found (before : History) (r : Reference) (after : History) : Prop :=
  (denoted before after r.target).isSome ∨ r.target.isExternal = true

/-- What a reference means does not change once its target is known. -/
theorem denoted_append (h : Found before r after) (new : History) :
    denoted before (after ++ new) r.target = denoted before after r.target := by
  unfold Found at h
  cases ht : r.target with
  | global | dynamic =>
    simp only [ht, denoted, Target.isExternal, Bool.false_eq_true, or_false] at h
    simp only [denoted, ← List.append_assoc, History.bindings_append _ new]
    exact head?_append_of_isSome h _
  | forward =>
    simp only [ht, denoted, Target.isExternal, Bool.false_eq_true, or_false] at h
    simp only [denoted, History.bindings_append]
    exact head?_append_of_isSome h _
  | nowhere | external | backward => rfl

theorem meaning_append (h : Found before r after) (new : History) :
    meaning before r (after ++ new) = meaning before r after := by
  rw [meaning, meaning, denoted_append h]

theorem Found.append (h : Found before r after) (new : History) :
    Found before r (after ++ new) := by
  unfold Found
  rw [denoted_append h]
  exact h

/-- Where nothing is bound, no reference changes its meaning. -/
theorem meaning_append_of_bindings (h : ∀ l, new.bindings l = []) (before : History)
    (r : Reference) (after : History) :
    meaning before r (after ++ new) = meaning before r after := by
  have hd : denoted before (after ++ new) r.target = denoted before after r.target := by
    cases r.target <;> simp [denoted, h]
  rw [meaning, meaning, hd]

/-- The first binding of its label is what a forward reference means. -/
theorem meaning_bound {name : String} {offset : Nat} (ht : r.target = .forward name)
    (hn : after.bindings (.local name) = []) :
    meaning before r (after ++ [Happening.bound (.local name) offset]) =
      { r with bound := some offset } := by
  simp [meaning, ht, denoted, History.bindings_bound, hn]

/-- A reference that depends on the base address and waits no longer is put off until the next
commit. -/
theorem postponed_of_baseDependent (hb : r.baseDependent = true) (hw : ¬ Waits r after)
    (hc : .committed ∉ after) : Postponed r after := by
  refine ⟨hc, ?_⟩
  cases ht : r.target with
  | forward name => exact ⟨fun hn => hw ⟨hc, name, ht, hn⟩, hb⟩
  | backward => exact hb
  | nowhere | global | dynamic | external => trivial

theorem Open.not_committed (h : Open r after) : .committed ∉ after := h.elim (·.1) (·.1)

theorem Open.of_append (h : Open r (after ++ new)) : Open r after := by
  have hc : .committed ∉ after := fun he => h.not_committed (List.mem_append_left _ he)
  rcases h with ⟨-, name, ht, hn⟩ | ⟨-, hp⟩
  · rw [History.bindings_append, List.append_eq_nil_iff] at hn
    exact Or.inl ⟨hc, name, ht, hn.1⟩
  · cases ht : r.target with
    | forward name =>
      rw [ht] at hp
      by_cases hn : after.bindings (.local name) = []
      · exact Or.inl ⟨hc, name, ht, hn⟩
      · refine Or.inr ⟨hc, ?_⟩
        rw [ht]
        exact ⟨hn, hp.2⟩
    | nowhere | global | backward | dynamic | external =>
      refine Or.inr ⟨hc, ?_⟩
      rw [ht] at hp ⊢
      exact hp

/-- Only a binding of a local label or a commit changes what is open. -/
theorem waits_append (hc : .committed ∉ new) (hl : ∀ name, new.bindings (.local name) = []) :
    Waits r (after ++ new) ↔ Waits r after := by
  simp [Waits, hc, hl]

theorem postponed_append (hc : .committed ∉ new) (hl : ∀ name, new.bindings (.local name) = []) :
    Postponed r (after ++ new) ↔ Postponed r after := by
  simp [Postponed, hc, hl]

end meanings

section references

variable {h new : History} {q : Reference}

/-- References in committed code have found their targets, and only committed code is altered
by an alteration of committed code. -/
structure Orderly (h : History) : Prop where
  found : ∀ {before r after}, h.Records before r after → .committed ∈ after → Found before r after
  unaltered : ∀ {before r after}, h.Records before r after → .committed ∉ after →
    ∀ writes, .altered writes ∉ after

theorem Stands.append (ho : Orderly h) {rest : List Overwrite} {later : History}
    (hs : Stands h q rest later) (new : History) : Stands (h ++ new) q rest (later ++ new) := by
  cases hs with
  | recorded hr hc hq =>
    exact .recorded (hr.append new) (List.mem_append_left _ hc)
      (hq.trans (meaning_append (ho.found hr hc) new).symm)
  | altered he hq => exact .altered (by rw [he, List.append_assoc, List.cons_append]) hq

theorem Kept.append (ho : Orderly h) (hq : Kept h q)
    (hspan : ∀ writes, .altered writes ∈ new → ¬ Spans writes q) : Kept (h ++ new) q := by
  obtain ⟨hb, rest, later, hs, hold⟩ := hq
  refine ⟨hb, rest, later ++ new, hs.append ho new, ?_⟩
  intro writes hw
  exact (List.mem_append.mp hw).elim (hold writes) (hspan writes)

/-- A reference that is kept was kept before, or its code has just been committed, or an
alteration has just written it. -/
theorem Kept.of_append (ho : Orderly h) (hnew : new.references = [] ∨ .committed ∉ new)
    (hq : Kept (h ++ new) q) :
    ((Kept h q ∨ .committed ∈ new ∧ ∃ before r after, h.Records before r after ∧
      .committed ∉ after ∧ q = meaning before r (after ++ new)) ∧
      ∀ writes, .altered writes ∈ new → ¬ Spans writes q) ∨
    ∃ writes w, .altered writes ∈ new ∧ w ∈ writes ∧ q ∈ w.refs := by
  obtain ⟨hb, rest, later, hs, hspan⟩ := hq
  cases hs with
  | recorded hr hc hq =>
    rcases History.records_append.mp hr with ⟨tail, hold, rfl⟩ | ⟨mid, -, hmid⟩
    · refine Or.inl ⟨?_, fun writes hw => hspan writes (List.mem_append_right _ hw)⟩
      by_cases ht : .committed ∈ tail
      · exact Or.inl ⟨hb, [], tail,
          .recorded hold ht (hq.trans (meaning_append (ho.found hold ht) new)),
          fun writes hw => hspan writes (List.mem_append_left _ hw)⟩
      · exact Or.inr ⟨(List.mem_append.mp hc).resolve_left ht, _, _, _, hold, ht, hq⟩
    · rcases hnew with hnew | hnew
      · exact absurd hmid.mem (hnew ▸ List.not_mem_nil)
      · exact absurd (by rw [hmid]; simp [hc]) hnew
  | altered he hq =>
    rcases History.append_eq_append_cons.mp he with ⟨tail, hold, rfl⟩ | ⟨mid, -, hmid⟩
    · exact Or.inl ⟨Or.inl ⟨hb, rest, tail, .altered hold hq,
        fun writes hw => hspan writes (List.mem_append_left _ hw)⟩,
        fun writes hw => hspan writes (List.mem_append_right _ hw)⟩
    · have hnew := hmid ▸ List.mem_append_right mid (List.mem_cons_self ..)
      exact Or.inr ⟨_, _, hnew, List.mem_append_right _ (List.mem_cons_self ..), hq⟩

theorem kept_append (ho : Orderly h) (hc : .committed ∉ new)
    (ha : ∀ writes, .altered writes ∉ new) : Kept (h ++ new) q ↔ Kept h q := by
  constructor
  · intro hq
    rcases hq.of_append ho (Or.inr hc) with ⟨hold | ⟨hnew, -⟩, -⟩ | ⟨writes, w, hw, -⟩
    · exact hold
    · exact absurd hnew hc
    · exact absurd hw (ha writes)
  · exact fun hq => hq.append ho fun writes hw => absurd hw (ha writes)

theorem kept_committed (ho : Orderly h) : Kept (h ++ [Happening.committed]) q ↔ Kept h q ∨
    q.baseDependent = true ∧ ∃ before r after, h.Records before r after ∧ .committed ∉ after ∧
      q = meaning before r after := by
  have same : ∀ before r after,
      meaning before r (after ++ [Happening.committed]) = meaning before r after :=
    meaning_append_of_bindings fun _ => rfl
  constructor
  · intro hq
    rcases hq.of_append ho (Or.inl rfl) with
      ⟨hold | ⟨-, before, r, after, hr, hc, he⟩, -⟩ | ⟨writes, w, hw, -⟩
    · exact Or.inl hold
    · exact Or.inr ⟨hq.1, before, r, after, hr, hc, he.trans (same ..)⟩
    · simp at hw
  · rintro (hq | ⟨hb, before, r, after, hr, hc, he⟩)
    · exact hq.append ho (by simp)
    · refine ⟨hb, [], after ++ [Happening.committed], .recorded (hr.append _) (by simp)
        (he.trans (same ..).symm), ?_⟩
      intro writes hw
      rcases List.mem_append.mp hw with hw | hw
      · exact absurd hw (ho.unaltered hr hc writes)
      · simp at hw

theorem kept_altered (ho : Orderly h) {writes : List Overwrite} :
    Kept (h ++ [Happening.altered writes]) q ↔ (Kept h q ∧ ¬ Spans writes q) ∨
      q.baseDependent = true ∧ ∃ w ∈ writes, q ∈ w.refs := by
  constructor
  · intro hq
    rcases hq.of_append ho (Or.inl rfl) with ⟨hold | ⟨hc, -⟩, hspan⟩ | ⟨vs, w, hvs, hw, hr⟩
    · exact Or.inl ⟨hold, hspan writes (List.mem_singleton_self _)⟩
    · simp at hc
    · obtain rfl := Happening.altered.inj (List.mem_singleton.mp hvs)
      exact Or.inr ⟨hq.1, w, hw, hr⟩
  · rintro (⟨hq, hspan⟩ | ⟨hb, w, hw, hr⟩)
    · refine hq.append ho ?_
      intro vs hvs
      obtain rfl := Happening.altered.inj (List.mem_singleton.mp hvs)
      exact hspan
    · obtain ⟨first, rest, rfl⟩ := List.append_of_mem hw
      exact ⟨hb, rest, [], .altered rfl hr, by simp⟩

end references

end MachineCode
