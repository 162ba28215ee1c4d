import MachineCode.Proofs.Images

/-!
Correct relocation. As long as fields do not overlap and nothing is altered, an open field holds
the bytes that were appended, and every other field holds the value that its reference has at the
present base address. A commit closes all fields, so committed code is exactly what was appended
with every reference resolved.
-/
namespace MachineCode

/-- The fields of all references have been written, or are as they were appended. -/
structure UpToDate (h : History) (a : Assembler) : Prop where
  unaltered : ∀ writes, .altered writes ∉ h
  outside : ∀ i, (∀ r ∈ h.references, ¬ r.Covers i) → a.image[i]? = h.code[i]?
  opened : ∀ {before r after}, h.Records before r after → Open r after →
    a.image.slice r.field r.rel.size = h.code.slice r.field r.rel.size
  closed : ∀ {before r after}, h.Records before r after → ¬ Open r after →
    r.rel.write (h.code.slice r.field r.rel.size) ((meaning before r after).value a.base) =
      .ok (a.image.slice r.field r.rel.size)

/-- Code at a base address is what was appended, with each field replaced by what its relocation
writes there for the value that its reference has at that address. -/
structure Relocated (h : History) (base : UInt64) (code : Bytes) : Prop where
  length : code.length = h.code.length
  outside : ∀ i, (∀ r ∈ h.references, ¬ r.Covers i) → code[i]? = h.code[i]?
  found : ∀ {before r after}, h.Records before r after → Found before r after
  once : ∀ l, (∀ name, l ≠ .local name) → (h.bindings l).length ≤ 1
  field : ∀ {before r after}, h.Records before r after →
    r.rel.write (h.code.slice r.field r.rel.size) ((meaning before r after).value base) =
      .ok (code.slice r.field r.rel.size)

section step

variable {h new : History} {a b : Assembler} {refs : List Reference} {code : Bytes}

/-- The target of a reference is known as soon as its field is written. -/
theorem Tracks.found_of_not_open (ht : Tracks h a) {before after : History} {r : Reference}
    (hr : h.Records before r after) (hnot : ¬ Open r after) : Found before r after := by
  by_cases hc : .committed ∈ after
  · exact ((ht.held hr).committed hc).1
  · cases htar : r.target with
    | forward name =>
      have hn : after.bindings (.local name) ≠ [] :=
        fun hn => hnot (Or.inl ⟨hc, name, htar, hn⟩)
      exact Or.inl (by simp [htar, denoted, List.isSome_head?, hn])
    | backward name =>
      exact Or.inl (by simp [htar, denoted, List.getLast?_isSome, (ht.held hr).backward name htar])
    | nowhere | global | dynamic | external =>
      exact absurd (Or.inr ⟨hc, by rw [htar]; trivial⟩) hnot

/-- Without alterations, whatever a step resolves was recorded, and it is closed afterwards. -/
theorem Advances.position (ht : Tracks h a) (hadv : Advances h a new b refs code)
    (hun : ∀ writes, .altered writes ∉ h) {q : Reference} (hq : q ∈ refs) :
    ∃ before r after, (h ++ new).Records before r after ∧ ¬ Open r after ∧
      q = meaning before r after := by
  rcases (hadv.refs q).mp hq with
    (⟨before, r, tail, hr, -, hnot, he⟩ | ⟨mid, r, after, hr, hnot, he⟩) |
      ⟨-, hdep, rest, later, hs, -⟩
  · exact ⟨before, r, tail ++ new, hr.append new, hnot, he⟩
  · exact ⟨h ++ mid, r, after, History.records_append.mpr (Or.inr ⟨mid, rfl, hr⟩), hnot, he⟩
  · cases hs with
    | recorded hr hc he =>
      have hsame := meaning_append (ht.orderly.found hr hc) new
      refine ⟨_, _, _, hr.append new, ?_, he.trans hsame.symm⟩
      exact fun ho => ho.not_committed (List.mem_append_left _ hc)
    | altered he => exact absurd (he ▸ List.mem_append_right _ (List.mem_cons_self ..)) (hun _)

/-- A step writes a field from what stood in it, or leaves it alone. -/
theorem Advances.field (ht : Tracks h a) (hadv : Advances h a new b refs b.image)
    (hun : ∀ writes, .altered writes ∉ h)
    (hp : (h ++ new).references.Pairwise Reference.Apart) {before after : History} {r : Reference}
    (hr : (h ++ new).Records before r after) (hin : r.fieldEnd ≤ (a.image ++ new.code).length) :
    (meaning before r after ∈ refs → ¬ Open r after ∧
      r.rel.write ((a.image ++ new.code).slice r.field r.rel.size)
        ((meaning before r after).value b.base) = .ok (b.image.slice r.field r.rel.size)) ∧
    (meaning before r after ∉ refs →
      b.image.slice r.field r.rel.size = (a.image ++ new.code).slice r.field r.rel.size) := by
  have other : ∀ s ∈ refs, s = meaning before r after ∨ s.Apart (meaning before r after) := by
    intro s hs
    obtain ⟨before', r', after', hr', -, rfl⟩ := hadv.position ht hun hs
    rcases hr'.same_or_apart hp hr with ⟨rfl, rfl, rfl⟩ | ha
    · exact Or.inl rfl
    · exact Or.inr ha
  constructor
  · intro hq
    have hw := hadv.resolves.slice hq hin other
    refine ⟨?_, hw⟩
    -- A field that was written is not empty, so no other reference has the same.
    have hsize := r.rel.rewritable_write.nonempty (Bytes.length_slice _ _ _ hin) hw
    obtain ⟨before', r', after', hr', hnot, he⟩ := hadv.position ht hun hq
    rcases hr'.same_or_apart hp hr with ⟨rfl, rfl, rfl⟩ | ha
    · exact hnot
    · have hfield : r.field = r'.field := by simpa using congrArg Reference.field he
      have hrel : r.rel = r'.rel := by simpa using congrArg Reference.rel he
      unfold Reference.Apart Reference.fieldEnd at ha
      rw [← hfield, ← hrel] at ha
      omega
  · intro hq
    apply Bytes.slice_congr
    intro i hlo hhi
    apply hadv.resolves.outside
    intro s hs hc
    rcases other s hs with rfl | ha
    · exact hq hs
    · exact ha.not_covers hc ⟨hlo, hhi⟩

/-- A field that a step leaves alone has the right value for the base address after the step: the
code has not moved, or the value does not depend on it. -/
theorem Advances.value (ht : Tracks h a) (hadv : Advances h a new b refs code)
    (hun : ∀ writes, .altered writes ∉ h) {before tail : History} {r : Reference}
    (hr : h.Records before r tail) (hnot : ¬ Open r tail)
    (hq : meaning before r (tail ++ new) ∉ refs) :
    (meaning before r (tail ++ new)).value b.base = (meaning before r tail).value a.base := by
  rw [meaning_append (ht.found_of_not_open hr hnot)] at hq ⊢
  by_cases hregion : b.region = a.region
  · rw [hadv.base hregion]
  by_cases hdep : r.baseDependent = true
  · have hc : .committed ∈ tail := by
      apply Decidable.byContradiction
      intro hc
      exact hnot (Or.inr (postponed_of_baseDependent hdep (fun hw => hnot (Or.inl hw)) hc))
    have hkept : Kept h (meaning before r tail) := by
      refine ⟨hdep, [], tail, .recorded hr hc rfl, ?_⟩
      intro writes hw
      refine absurd ?_ (hun writes)
      rw [hr]
      exact List.mem_append_right _ (List.mem_cons_of_mem _ hw)
    exact absurd ((hadv.refs _).mpr (Or.inr ⟨hregion, hkept⟩)) hq
  · have hindep : (meaning before r tail).baseDependent = false := by
      rw [baseDependent_meaning]
      exact Bool.eq_false_iff.mpr hdep
    exact Reference.value_of_not_baseDependent hindep _ _

/-- A step that alters nothing keeps all fields up to date. -/
theorem UpToDate.step (ht : Tracks h a) (hu : UpToDate h a)
    (hadv : Advances h a new b refs b.image) (hnew : ∀ writes, .altered writes ∉ new)
    (hin : ∀ {before r after}, (h ++ new).Records before r after →
      r.fieldEnd ≤ (a.image ++ new.code).length)
    (hp : (h ++ new).references.Pairwise Reference.Apart) : UpToDate (h ++ new) b := by
  have hlen : a.image.length = h.code.length := by rw [a.length_image, ht.length]
  -- Appending does not change what stands before.
  have outside : ∀ i, (∀ r ∈ h.references, ¬ r.Covers i) →
      (a.image ++ new.code)[i]? = (h ++ new).code[i]? := by
    intro i hi
    rw [History.code_append, List.getElem?_append, List.getElem?_append, hlen, hu.outside i hi]
  have old : ∀ {before r tail}, h.Records before r tail →
      (a.image ++ new.code).slice r.field r.rel.size = a.image.slice r.field r.rel.size ∧
      (h ++ new).code.slice r.field r.rel.size = h.code.slice r.field r.rel.size := by
    intro before r tail hr
    have hend : r.fieldEnd ≤ a.image.length := a.length_image ▸ (ht.held hr).inside
    rw [History.code_append]
    exact ⟨Bytes.slice_append_left hend _, Bytes.slice_append_left (hlen ▸ hend) _⟩
  have fresh : ∀ {mid r after}, new.Records mid r after →
      (a.image ++ new.code).slice r.field r.rel.size =
        (h ++ new).code.slice r.field r.rel.size := by
    intro mid r after hr
    apply Bytes.slice_congr
    intro i hlo hhi
    apply outside
    intro s hs hc
    rw [History.references_append] at hp
    exact ((List.pairwise_append.mp hp).2.2 s hs r hr.mem).not_covers hc ⟨hlo, hhi⟩
  refine ⟨?_, ?_, ?_, ?_⟩
  · intro writes hw
    exact (List.mem_append.mp hw).elim (hu.unaltered writes) (hnew writes)
  · intro i hi
    rw [hadv.resolves.outside i, outside i]
    · intro r hr
      exact hi r (by rw [History.references_append]; exact List.mem_append_left _ hr)
    · intro q hq hc
      obtain ⟨before, r, after, hr, -, rfl⟩ := hadv.position ht hu.unaltered hq
      exact hi r hr.mem hc
  · intro before r after hr ho
    obtain ⟨hwritten, hleft⟩ := hadv.field ht hu.unaltered hp hr (hin hr)
    rw [hleft fun hq => (hwritten hq).1 ho]
    rcases History.records_append.mp hr with ⟨tail, hold, rfl⟩ | ⟨mid, rfl, hfresh⟩
    · rw [(old hold).1, (old hold).2, hu.opened hold ho.of_append]
    · exact fresh hfresh
  · intro before r after hr hnot
    obtain ⟨hwritten, hleft⟩ := hadv.field ht hu.unaltered hp hr (hin hr)
    rcases History.records_append.mp hr with ⟨tail, hold, rfl⟩ | ⟨mid, rfl, hfresh⟩
    · rw [(old hold).2]
      by_cases ho : Open r tail
      · have hq : meaning before r (tail ++ new) ∈ refs :=
          (hadv.refs _).mpr (Or.inl (Or.inl ⟨before, r, tail, hold, ho, hnot, rfl⟩))
        rw [← hu.opened hold ho, ← (old hold).1]
        exact (hwritten hq).2
      have hclosed := hu.closed hold ho
      by_cases hq : meaning before r (tail ++ new) ∈ refs
      · have hw := (hwritten hq).2
        have hslice := Bytes.length_slice h.code _ _ (hlen ▸ a.length_image ▸ (ht.held hold).inside)
        rwa [(old hold).1, r.rel.rewritable_write.again hslice hclosed] at hw
      · rw [hleft hq, (old hold).1, ← hclosed, hadv.value ht hu.unaltered hold ho hq]
    · have hq : meaning (h ++ mid) r after ∈ refs :=
        (hadv.refs _).mpr (Or.inl (Or.inr ⟨mid, r, after, hfresh, hnot, rfl⟩))
      rw [← fresh hfresh]
      exact (hwritten hq).2

end step

theorem UpToDate.perform {h : History} {a b : Assembler} (ht : Tracks h a) (hu : UpToDate h a)
    {op : Operation} (hop : op.alters = false) (hb : a.perform op = .ok b)
    (hp : (h ++ op.happenings a).references.Pairwise Reference.Apart) :
    UpToDate (h ++ op.happenings a) b := by
  obtain ⟨refs, hadv⟩ := Advances.perform_of_not_alters ht hop hb
  have hnew := (Operation.happenings_of_not_alters hop a).2
  refine hu.step ht hadv (fun writes => (hnew writes).1) ?_ hp
  intro before r after hr
  rw [← hadv.resolves.length, b.length_image]
  exact ((ht.perform hb).held hr).inside

theorem Session.upToDate_run (capacity : Nat) {ops : List Operation}
    (halters : ∀ op ∈ ops, op.alters = false)
    (hapart : ((start capacity).run ops).history.references.Pairwise Reference.Apart) :
    UpToDate ((start capacity).run ops).history ((start capacity).run ops).assembler := by
  -- All fields are apart at the end only if they were so all along.
  suffices hrun : Tracks ((start capacity).run ops).history ((start capacity).run ops).assembler ∧
      (((start capacity).run ops).history.references.Pairwise Reference.Apart →
        UpToDate ((start capacity).run ops).history ((start capacity).run ops).assembler) from
    hrun.2 hapart
  refine run_induction (P := fun s => Tracks s.history s.assembler ∧
    (s.history.references.Pairwise Reference.Apart → UpToDate s.history s.assembler)) ?_ ?_
  · refine ⟨Tracks.start capacity, fun _ => ⟨nofun, fun _ _ => rfl, ?_, ?_⟩⟩
    · intro before r after hr
      simp [History.Records, start] at hr
    · intro before r after hr
      simp [History.Records, start] at hr
  · rintro s op b hop ⟨ht, hu⟩ hb
    refine ⟨ht.perform hb, fun hp => ?_⟩
    have hold : s.history.references.Pairwise Reference.Apart := by
      rw [History.references_append] at hp
      exact (List.pairwise_append.mp hp).1
    exact (hu hold).perform ht (halters op hop) hb hp

/-- After every commit in a run without alterations, whatever failed on the way and wherever the
code has moved, the committed code is what was appended with all references resolved. -/
theorem committed_code_relocated (capacity : Nat) {ops : List Operation}
    (halters : ∀ op ∈ ops, op.alters = false)
    (hapart : ((Session.start capacity).run ops).history.references.Pairwise Reference.Apart)
    {next : UInt64} {b : Assembler}
    (hb : ((Session.start capacity).run ops).assembler.commit next = .ok b) :
    Relocated ((Session.start capacity).run ops).history b.base b.memory.current.code := by
  have ht := Session.tracks_run capacity ops
  have hu := Session.upToDate_run capacity halters hapart
  generalize (Session.start capacity).run ops = s at *
  have same : ∀ before r after,
      meaning before r (after ++ [Happening.committed]) = meaning before r after :=
    meaning_append_of_bindings fun _ => rfl
  have hcode : History.code (s.history ++ [Happening.committed]) = s.history.code := by
    rw [History.code_append]
    exact List.append_nil _
  have hrefs : History.references (s.history ++ [Happening.committed]) = s.history.references := by
    rw [History.references_append]
    exact List.append_nil _
  have hperform : s.assembler.perform (.commit next) = .ok b := hb
  have hdone : UpToDate (s.history ++ [Happening.committed]) b :=
    hu.perform ht rfl hperform (hrefs.symm ▸ hapart)
  have htdone := ht.commit hb
  have himage := Assembler.commit_image hb
  rw [← himage]
  refine ⟨?_, ?_, ?_, ht.binds.once, ?_⟩
  · rw [b.length_image, ← htdone.length, hcode]
  · intro i hi
    rw [hdone.outside i (hrefs.symm ▸ hi), hcode]
  · intro before r after hr
    obtain ⟨refs, moved, hc⟩ := Assembler.commit_eq_ok hb
    by_cases hin : .committed ∈ after
    · exact ht.orderly.found hr hin
    · exact ht.found_of_commits hc hr hin
  · intro before r after hr
    have hnot : ¬ Open r (after ++ [Happening.committed]) := fun ho => ho.not_committed (by simp)
    have hfield := hdone.closed (hr.append _) hnot
    rwa [same, hcode] at hfield

def relocatedOps : List Operation :=
  let near (t : Target) : Code := ⟨[0xe9, 0, 0, 0, 0], [⟨t, 0, some (.x86 ⟨0, 4, .relative⟩)⟩]⟩
  let address (t : Target) : Code :=
    ⟨[0, 0, 0, 0, 0, 0, 0, 0], [⟨t, 4, some (.x86 ⟨0, 8, .absToRel⟩)⟩]⟩
  [.localLabel "loop", .append (near (.backward "loop")), .append (near (.forward "loop")),
    .append (address (.global "data")), .localLabel "loop", .globalLabel "data", .newDynamic,
    .commit 0x1000, .append (near (.dynamic 0)), .dynamicLabel 0, .globalLabel "data",
    .append (near (.external 0x1234))]

theorem committed_code_relocated_ops : ∃ b,
    ((Session.start 0).run relocatedOps).assembler.commit 0x2000 = .ok b ∧
      Relocated ((Session.start 0).run relocatedOps).history b.base b.memory.current.code := by
  have hok : (((Session.start 0).run relocatedOps).assembler.commit 0x2000).toOption.any
      (fun _ => true) = true := by decide +kernel
  obtain ⟨b, hb, -⟩ := exists_eq_ok hok
  exact ⟨b, hb, committed_code_relocated 0 (by decide) (by decide +kernel) hb⟩

end MachineCode
