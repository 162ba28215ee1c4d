import MachineCode.Proofs.Persistence

/-!
What alterations and references do to each other. An alteration of committed code ends the upkeep
of every reference in the stretch that it spans, also where it has written nothing, and of no
reference that it has written itself. An alteration of uncommitted code ends nothing: references
that are still open are written over it.
-/
namespace MachineCode

/-- Every byte between the first and the last one that was reached was written. -/
def Gapless (writes : List Overwrite) : Prop :=
  ∀ i, (∃ w ∈ writes, w.start ≤ i) → (∃ w ∈ writes, i < w.stop) → ∃ w ∈ writes, w.Covers i

theorem Spans.of_meets {writes : List Overwrite} {w : Overwrite} {q : Reference} (hw : w ∈ writes)
    (hm : w.Meets q) : Spans writes q := by
  obtain ⟨i, ⟨hlo, hhi⟩, hfield, hend⟩ := hm
  exact ⟨⟨w, hw, w, hw, by omega⟩, ⟨w, hw, by omega⟩, w, hw, by omega⟩

/-- Without gaps, an alteration spans only the fields that it writes into. -/
theorem Spans.meets {writes : List Overwrite} {q : Reference} (hs : Spans writes q)
    (hg : Gapless writes) (hsize : 0 < q.rel.size) : ∃ w ∈ writes, w.Meets q := by
  obtain ⟨⟨w, hw, v, hv, hwv⟩, ⟨x, hx, hlow⟩, y, hy, hhigh⟩ := hs
  have hend : q.field < q.fieldEnd := Nat.lt_add_of_pos_right hsize
  -- The first byte of the field that is not below all writes.
  have hstart : ∃ u ∈ writes, u.start ≤ max q.field (min w.start x.start) := by
    by_cases h : w.start ≤ x.start
    · exact ⟨w, hw, by omega⟩
    · exact ⟨x, hx, by omega⟩
  have hstop : ∃ u ∈ writes, max q.field (min w.start x.start) < u.stop := by
    by_cases h : q.field ≤ min w.start x.start
    · exact ⟨v, hv, by omega⟩
    · exact ⟨y, hy, by omega⟩
  obtain ⟨u, hu, hc⟩ := hg _ hstart hstop
  exact ⟨u, hu, _, hc, by omega, by omega⟩

/-- What a commit does when it moves the code. -/
structure ResolvedAnew (s : Session) (b : Assembler) : Prop where
  /-- References that are kept are resolved at the new base address. -/
  kept : ∀ q, Kept s.history q → ∃ data,
    q.rel.write (s.assembler.image.slice q.field q.rel.size) (q.value b.base) = .ok data ∧
    ∀ i, q.Covers i → (∀ p, Kept s.history p → p.Covers i → p = q) →
      b.memory.current.code[i]? = data[i - q.field]?
  /-- No other committed byte changes, so a reference that is not kept goes stale. -/
  other : ∀ i < s.assembler.committed, (∀ q, Kept s.history q → ¬ q.Covers i) →
    b.memory.current.code[i]? = s.assembler.image[i]?
  /-- If no alteration leaves a gap, all references are kept that none has written over. -/
  gapless : ∀ q rest later, Stands s.history q rest later → q.baseDependent = true →
    (∀ writes, .altered writes ∈ later → Gapless writes ∧ ∀ w ∈ writes, ¬ w.Meets q) →
    Kept s.history q

/-- Whatever is due lies behind the committed code. -/
theorem Tracks.due_not_covers {h : History} {a : Assembler} (ht : Tracks h a) {q : Reference}
    (hq : Due h q) {i : Nat} (hi : i < a.committed) : ¬ q.Covers i := by
  obtain ⟨before, r, after, hr, hp, rfl⟩ := hq
  intro hc
  exact absurd (Nat.le_trans ((ht.held hr).uncommitted hp.1).1 hc.1) (Nat.not_le.mpr hi)

/-- A reference that is kept is resolved anew when the code moves. -/
theorem Tracks.kept_resolved {h : History} {a b : Assembler} {next : UInt64} (ht : Tracks h a)
    (hb : a.commit next = .ok b) (hmoved : b.region ≠ a.region) {q : Reference} (hq : Kept h q) :
    ∃ data, q.rel.write (a.image.slice q.field q.rel.size) (q.value b.base) = .ok data ∧
      ∀ i, q.Covers i → (∀ p, Kept h p → p.Covers i → p = q) →
        b.memory.current.code[i]? = data[i - q.field]? := by
  obtain ⟨refs, hres, hmem⟩ := ht.commit_resolves hb
  obtain ⟨data, hdata, hbyte⟩ := hres.byte ((hmem q).mpr (Or.inr ⟨hmoved, hq⟩))
  refine ⟨data, hdata, ?_⟩
  intro i hi hone
  refine hbyte i hi ?_
  intro p hp hc
  rcases (hmem p).mp hp with hdue | ⟨-, hkept⟩
  · exact absurd hc (ht.due_not_covers hdue (Nat.lt_of_lt_of_le hi.2 (ht.field_kept hq).1))
  · exact hone p hkept hc

/-- A commit that moves the code resolves anew what is kept, and nothing else. -/
theorem moved_code_resolved_anew (capacity : Nat) (ops : List Operation) {next : UInt64}
    {b : Assembler} (hb : ((Session.start capacity).run ops).assembler.commit next = .ok b)
    (hmoved : b.region ≠ ((Session.start capacity).run ops).assembler.region) :
    ResolvedAnew ((Session.start capacity).run ops) b := by
  have ht := Session.tracks_run capacity ops
  generalize (Session.start capacity).run ops = s at *
  refine ⟨fun q hq => ht.kept_resolved hb hmoved hq, ?_, ?_⟩
  · intro i hi hnone
    obtain ⟨refs, hres, hmem⟩ := ht.commit_resolves hb
    apply hres.outside
    intro q hq
    rcases (hmem q).mp hq with hdue | ⟨-, hkept⟩
    · exact ht.due_not_covers hdue hi
    · exact hnone q hkept
  · intro q rest later hs hdep hclean
    refine ⟨hdep, rest, later, hs, ?_⟩
    intro writes hw hspan
    obtain ⟨hgapless, hnot⟩ := hclean writes hw
    obtain ⟨w, hmem, hmeets⟩ := hspan.meets hgapless (ht.field_stands hs hdep).2
    exact hnot w hmem hmeets

def addressOps (script : List ScriptStep) : List Operation :=
  [.globalLabel "start", .extend (List.replicate 8 0),
    .append ⟨List.replicate 8 0, [⟨.global "start", 0, some (.x86 ⟨0, 8, .absToRel⟩)⟩]⟩,
    .extend (List.replicate 8 0), .alter 0x1000 script]

def addressReference : Reference := ⟨16, .global "start", 0, .x86 ⟨0, 8, .absToRel⟩, some 0⟩

/-- After these bytes code that is not empty does not fit into one page any more. -/
def outgrow : Operation := .extend (List.replicate 4096 0)

theorem moved_code_resolved_anew_address : ∃ b,
    ((Session.start 0).run (addressOps [] ++ [outgrow])).assembler.commit 0x2000 = .ok b ∧
      b.region ≠ ((Session.start 0).run (addressOps [] ++ [outgrow])).assembler.region ∧
      ResolvedAnew ((Session.start 0).run (addressOps [] ++ [outgrow])) b := by
  have hok : (((Session.start 0).run (addressOps [] ++ [outgrow])).assembler.commit
      0x2000).toOption.any (fun b => b.region ≠
        ((Session.start 0).run (addressOps [] ++ [outgrow])).assembler.region) = true := by
    decide +kernel
  obtain ⟨b, hb, hmoved⟩ := exists_eq_ok hok
  replace hmoved := of_decide_eq_true hmoved
  exact ⟨b, hb, hmoved, moved_code_resolved_anew 0 _ hb hmoved⟩

theorem Session.history_outgrow {s : Session} {ops : List Operation}
    (h : (s.run ops).assembler.isOpen = true) :
    (s.run (ops ++ [outgrow])).history =
      (s.run ops).history ++ [Happening.appended (List.replicate 4096 0)] := by
  have hrun : s.run (ops ++ [outgrow]) = (s.run ops).step outgrow := List.foldl_append ..
  rw [hrun, step]
  simp only [Assembler.perform, outgrow, Assembler.extend, Assembler.whenOpen, h, if_true]
  rfl

def aroundAddress : List ScriptStep :=
  [⟨.write [1], true⟩, ⟨.goto 20, true⟩, ⟨.write [2], true⟩]

/-- Two writes on either side of a reference end its upkeep, although neither reaches its field:
when the code moves, the field keeps the address that was right before. -/
theorem counterexample_gap : ∃ rest later b,
    Stands ((Session.start 0).run (addressOps aroundAddress ++ [outgrow])).history
      addressReference rest later ∧
    addressReference.baseDependent = true ∧ rest = [] ∧
    (∀ writes, .altered writes ∈ later → ∀ w ∈ writes, ¬ w.Meets addressReference) ∧
    ((Session.start 0).run (addressOps aroundAddress ++ [outgrow])).assembler.commit 0x2000 =
      .ok b ∧
    b.base = 0x2000 ∧ b.memory.current.code.slice 8 8 = [0, 0x10, 0, 0, 0, 0, 0, 0] ∧
    addressReference.rel.write [0, 0x10, 0, 0, 0, 0, 0, 0] (addressReference.value 0x2000) =
      .ok [0, 0x20, 0, 0, 0, 0, 0, 0] := by
  have hok : (((Session.start 0).run (addressOps aroundAddress ++ [outgrow])).assembler.commit
      0x2000).toOption.any (fun b => b.base = 0x2000 ∧
        b.memory.current.code.slice 8 8 = [0, 0x10, 0, 0, 0, 0, 0, 0]) = true := by
    decide +kernel
  obtain ⟨b, hb, hcode⟩ := exists_eq_ok hok
  obtain ⟨hbase, hcode⟩ := of_decide_eq_true hcode
  have hstands : Stands ((Session.start 0).run (addressOps aroundAddress)).history
      addressReference [] [.appended (List.replicate 8 0), .committed,
        .altered [⟨0, [1], []⟩, ⟨20, [2], []⟩]] :=
    @Stands.recorded _ _ [.bound (.global "start") 0, .appended (List.replicate 8 0),
      .appended (List.replicate 8 0)] { addressReference with bound := none } _
      (show _ = _ by decide +kernel) (by decide) (by decide)
  have hlater := hstands.append (Session.tracks_run 0 (addressOps aroundAddress)).orderly
    [.appended (List.replicate 4096 0)]
  rw [← Session.history_outgrow (by decide +kernel)] at hlater
  refine ⟨[], _, b, hlater, by decide, rfl, ?_, hb, hbase, hcode, rfl⟩
  intro writes hw
  simp only [List.cons_append, List.nil_append, List.mem_cons, reduceCtorEq, false_or,
    Happening.altered.injEq, List.not_mem_nil, or_false] at hw
  subst hw
  decide

/-- No alteration writes over a reference that it has written itself. -/
def Undisturbed (h : History) : Prop :=
  ∀ first w rest, .altered (first ++ w :: rest) ∈ h → ∀ q ∈ w.refs, q.baseDependent = true →
    ∀ v ∈ rest, ¬ v.Meets q

/-- What becomes of bytes that alterations have written into committed code. -/
structure AlterationsLast (s : Session) : Prop where
  /-- A commit changes committed code only if it moves it, and only in fields that no later
  alteration has written into. The alteration that wrote the reference may have done so. -/
  confined : ∀ next b, s.assembler.commit next = .ok b → ∀ i < s.assembler.committed,
    b.memory.current.code[i]? ≠ s.assembler.image[i]? → b.region ≠ s.assembler.region ∧
    ∃ q rest later, Stands s.history q rest later ∧ q.baseDependent = true ∧ q.Covers i ∧
      (∀ writes, .altered writes ∈ later → ∀ w ∈ writes, ¬ w.Meets q) ∧
      (Undisturbed s.history → ∀ w ∈ rest, ¬ w.Meets q)
  /-- A byte stays as it was written last, outside the fields of the references that were written
  with it or before it in the same alteration. -/
  stays : ∀ before first w rest later i,
    s.history = before ++ .altered (first ++ w :: rest) :: later → w.Covers i →
    (∀ v ∈ rest, ¬ v.Covers i) →
    (∀ writes, .altered writes ∈ later → ∀ v ∈ writes, ¬ v.Covers i) →
    (∀ v ∈ first ++ [w], ∀ q ∈ v.refs, q.baseDependent = true → ¬ q.Covers i) →
    s.assembler.image[i]? = w.data[i - w.start]?
  /-- Those fields are written again when the code moves, whatever stands in them by now. -/
  stale : ∀ next b, s.assembler.commit next = .ok b → b.region ≠ s.assembler.region →
    ∀ before first w rest later, s.history = before ++ .altered (first ++ w :: rest) :: later →
    ∀ q ∈ w.refs, q.baseDependent = true →
    (∀ writes, .altered writes ∈ later → ¬ Spans writes q) → ∃ data,
      q.rel.write (s.assembler.image.slice q.field q.rel.size) (q.value b.base) = .ok data ∧
      ∀ i, q.Covers i → (∀ p, Kept s.history p → p.Covers i → p = q) →
        b.memory.current.code[i]? = data[i - q.field]?

/-- After an alteration, only references that it has written itself can be written over what it
has written last. -/
theorem clear_of_altered {before : History} {first rest : List Overwrite} {w : Overwrite} {i : Nat}
    (hfrom : AlteredFrom before (.altered (first ++ w :: rest))) (hw : w.Covers i)
    (hrest : ∀ v ∈ rest, ¬ v.Covers i)
    (hrefs : ∀ v ∈ first ++ [w], ∀ q ∈ v.refs, q.baseDependent = true → ¬ q.Covers i) :
    Clear (before ++ [Happening.altered (first ++ w :: rest)]) i := by
  cases hfrom with
  | committed ht hm =>
    constructor
    · intro b r after hr ho
      obtain ⟨tail, hold, rfl⟩ := hr.of_append rfl
      exact absurd (Tracks.committed_of_records hold) ho.of_append.not_committed
    · intro q hq hc
      rcases (kept_altered ht.orderly).mp hq with ⟨-, hspan⟩ | ⟨hdep, v, hv, hqv⟩
      · exact hspan (Spans.of_meets (by simp) ⟨i, hw, hc⟩)
      · obtain ⟨hlow, hhigh, -⟩ := (hm.fits v hv).refs q hqv
        have hcv : v.Covers i := ⟨Nat.le_trans hlow hc.1, Nat.lt_of_lt_of_le hc.2 hhigh⟩
        rcases List.mem_append.mp hv with hv | hv
        · exact hrefs v (List.mem_append_left _ hv) q hqv hdep hc
        · rcases List.mem_cons.mp hv with rfl | hv
          · exact hrefs v (by simp) q hqv hdep hc
          · exact hrest v hv hcv

theorem altered_code_kept (capacity : Nat) (ops : List Operation) :
    AlterationsLast ((Session.start capacity).run ops) := by
  have ht := Session.tracks_run capacity ops
  refine ⟨?_, ?_, ?_⟩
  · intro next b hb i hi hne
    obtain ⟨refs, hres, hmem⟩ := ht.commit_resolves hb
    have hcovered : ∃ q ∈ refs, q.Covers i := by
      apply Classical.byContradiction
      intro hnone
      exact hne (hres.outside i fun q hq hc => hnone ⟨q, hq, hc⟩)
    obtain ⟨q, hq, hc⟩ := hcovered
    rcases (hmem q).mp hq with hdue | ⟨hmoved, hdep, rest, later, hs, hspan⟩
    · exact absurd hc (ht.due_not_covers hdue hi)
    · refine ⟨hmoved, q, rest, later, hs, hdep, hc, ?_, ?_⟩
      · intro writes hw w hwm hm
        exact hspan writes hw (Spans.of_meets hwm hm)
      · intro hun w hw
        cases hs with
        | recorded => cases hw
        | altered he hq =>
          exact hun _ _ _ (he ▸ List.mem_append_right _ (List.mem_cons_self ..)) q hq hdep w hw
  · intro before first w rest later i hh hw hrest hlater hrefs
    have hfrom := Session.alteredFrom capacity ops hh rfl
    refine Session.image_of_last_write capacity ops hh rfl hw hrest
      (clear_of_altered hfrom hw hrest hrefs) ?_
    intro htouch
    obtain ⟨vs, hvs, v, hv, hc⟩ := Session.altered_of_touches capacity ops hh (by simp) hw htouch
    exact hlater vs hvs v hv hc
  · intro next b hb hmoved before first w rest later hh q hq hdep hspan
    exact ht.kept_resolved hb hmoved ⟨hdep, rest, later, .altered hh hq, hspan⟩

theorem altered_code_kept_written :
    ((Session.start 0).run [.extend [0, 0, 0, 0], .alter 0x1000 [⟨.write [1, 2, 3], true⟩],
      .extend [4], .commit 0x2000]).assembler.image[1]? = some 2 :=
  (altered_code_kept 0 _).stays [.appended [0, 0, 0, 0], .committed] [] ⟨0, [1, 2, 3], []⟩ []
    [.appended [4], .committed] 1 (by decide +kernel) (by decide) (by simp) (by simp) (by simp)

def overwrittenOps : List Operation :=
  [.globalLabel "start", .extend (List.replicate 8 0),
    .alter 0x1000 [⟨.append ⟨List.replicate 8 0,
      [⟨.global "start", 0, some (.x86 ⟨0, 8, .absToRel⟩)⟩]⟩, true⟩, ⟨.goto 0, true⟩,
      ⟨.write (List.replicate 8 0x11), true⟩]]

def addressWrite : Overwrite :=
  ⟨0, [0, 0x10, 0, 0, 0, 0, 0, 0], [⟨8, .global "start", 0, .x86 ⟨0, 8, .absToRel⟩, some 0⟩]⟩

/-- An alteration that writes over its own reference does not end its upkeep: when the code
moves, the address is written over the bytes that were written last. -/
theorem counterexample_overwritten : ∃ b,
    ((Session.start 0).run (overwrittenOps ++ [outgrow])).history =
      [.bound (.global "start") 0, .appended (List.replicate 8 0), .committed,
        .altered [addressWrite, ⟨0, List.replicate 8 0x11, []⟩],
        .appended (List.replicate 4096 0)] ∧
    ((Session.start 0).run (overwrittenOps ++ [outgrow])).assembler.image.slice 0 8 =
      List.replicate 8 0x11 ∧
    ((Session.start 0).run (overwrittenOps ++ [outgrow])).assembler.commit 0x2000 = .ok b ∧
    b.memory.current.code.slice 0 8 = [0, 0x20, 0, 0, 0, 0, 0, 0] := by
  have hok : (((Session.start 0).run (overwrittenOps ++ [outgrow])).assembler.commit
      0x2000).toOption.any (fun b => b.memory.current.code.slice 0 8 =
        [0, 0x20, 0, 0, 0, 0, 0, 0]) = true := by
    decide +kernel
  obtain ⟨b, hb, hcode⟩ := exists_eq_ok hok
  have hhistory : ((Session.start 0).run overwrittenOps).history =
      [.bound (.global "start") 0, .appended (List.replicate 8 0), .committed,
        .altered [addressWrite, ⟨0, List.replicate 8 0x11, []⟩]] := by
    decide +kernel
  refine ⟨b, ?_, by decide +kernel, hb, of_decide_eq_true hcode⟩
  rw [Session.history_outgrow (by decide +kernel), hhistory]
  rfl

/-- What becomes of bytes that alterations have written into uncommitted code. -/
structure ReworkedLast (s : Session) : Prop where
  /-- A byte stays as it was written last, outside the fields of references that were open then,
  as long as nobody touches it. -/
  stays : ∀ (before : History) first w rest (later : History) i,
    s.history = before ++ .reworked (first ++ w :: rest) :: later → w.Covers i →
    (∀ v ∈ rest, ¬ v.Covers i) → ¬ later.Touches i →
    (∀ earlier r after, before.Records earlier r after → Open r after → ¬ r.Covers i) →
    s.assembler.image[i]? = w.data[i - w.start]?
  /-- A reference that is open is written by whatever closes it, over anything that stands in its
  field by then. -/
  closed : ∀ op b, op.alters = false → s.assembler.perform op = .ok b →
    ∀ before r tail, s.history.Records before r tail → Open r tail →
    ¬ Open r (tail ++ op.happenings s.assembler) → ∃ data,
      r.rel.write (s.assembler.image.slice r.field r.rel.size)
        ((meaning before r (tail ++ op.happenings s.assembler)).value b.base) = .ok data ∧
      ∀ i, r.Covers i → (∀ p, Closes s.history (op.happenings s.assembler) p → p.Covers i →
          p = meaning before r (tail ++ op.happenings s.assembler)) →
        b.image[i]? = data[i - r.field]?

/-- After an alteration of uncommitted code, only references that were open before can be written
over it. -/
theorem clear_of_reworked {before : History} {writes : List Overwrite} {w : Overwrite} {i : Nat}
    (hfrom : AlteredFrom before (.reworked writes)) (hmem : w ∈ writes) (hw : w.Covers i)
    (hopen : ∀ earlier r after, before.Records earlier r after → Open r after → ¬ r.Covers i) :
    Clear (before ++ [Happening.reworked writes]) i := by
  cases hfrom with
  | uncommitted ht hm =>
    constructor
    · intro b r after hr ho
      obtain ⟨tail, hold, rfl⟩ := hr.of_append rfl
      exact hopen b r tail hold ho.of_append
    · intro q hq hc
      have hkept := (kept_append ht.orderly (by simp) (by simp)).mp hq
      have hlow : q.fieldEnd ≤ w.start := Nat.le_trans (ht.field_kept hkept).1 (hm.low w hmem)
      exact absurd (Nat.lt_of_lt_of_le hc.2 hlow) (Nat.not_lt.mpr hw.1)

theorem reworked_code_kept (capacity : Nat) (ops : List Operation) :
    ReworkedLast ((Session.start capacity).run ops) := by
  have ht := Session.tracks_run capacity ops
  refine ⟨?_, ?_⟩
  · intro before first w rest later i hh hw hrest hlater hopen
    have hfrom := Session.alteredFrom capacity ops hh rfl
    exact Session.image_of_last_write capacity ops hh rfl hw hrest
      (clear_of_reworked hfrom (by simp) hw hopen) hlater
  · intro op b hop hb before r tail hr ho hnot
    generalize (Session.start capacity).run ops = s at *
    obtain ⟨refs, hadv⟩ := Advances.perform_of_not_alters ht hop hb
    have hclose : Closes s.history (op.happenings s.assembler)
        (meaning before r (tail ++ op.happenings s.assembler)) :=
      Or.inl ⟨before, r, tail, hr, ho, hnot, rfl⟩
    obtain ⟨data, hdata, hbyte⟩ := hadv.resolves.byte ((hadv.refs _).mpr (Or.inl hclose))
    have hend : r.fieldEnd ≤ s.assembler.image.length :=
      s.assembler.length_image ▸ (ht.held hr).inside
    rw [rel_meaning, field_meaning, Bytes.slice_append_left hend] at hdata
    refine ⟨data, hdata, ?_⟩
    intro i hi hone
    refine hbyte i hi ?_
    intro p hp hc
    rcases (hadv.refs p).mp hp with hcloses | ⟨-, hkept⟩
    · exact hone p hcloses hc
    · have hlow := ((ht.held hr).uncommitted ho.not_committed).1
      have hhigh := (ht.field_kept hkept).1
      have := hi.1
      have := hc.2
      omega

theorem reworked_code_kept_written :
    ((Session.start 0).run [.extend [0, 0, 0, 0], .alterUncommitted [⟨.write [1, 2, 3], true⟩],
      .commit 0x1000]).assembler.image[1]? = some 2 :=
  (reworked_code_kept 0 _).stays [.appended [0, 0, 0, 0]] [] ⟨0, [1, 2, 3], []⟩ [] [.committed] 1
    (by decide +kernel) (by decide) (by simp) (by decide)
    (fun _ _ _ hr _ => by simpa [History.references] using hr.mem)

def replacedOps : List Operation :=
  [.append ⟨[0xe8, 0, 0, 0, 0], [⟨.global "callee", 0, some (.x86 ⟨0, 4, .relative⟩)⟩]⟩,
    .alterUncommitted [⟨.write (List.replicate 5 0x90), true⟩], .globalLabel "callee",
    .commit 0x1000]

/-- A reference outlives the instruction that it belonged to: the commit writes its displacement
into the instructions that have replaced it. -/
theorem counterexample_replaced :
    ((Session.start 0).run replacedOps).history =
      [.appended [0xe8, 0, 0, 0, 0],
        .recorded ⟨5, .global "callee", 0, .x86 ⟨0, 4, .relative⟩, none⟩,
        .reworked [⟨0, List.replicate 5 0x90, []⟩], .bound (.global "callee") 5, .committed] ∧
    ((Session.start 0).run replacedOps).assembler.memory.current.code = [0x90, 0, 0, 0, 0] := by
  decide +kernel

end MachineCode
