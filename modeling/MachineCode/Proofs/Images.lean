import MachineCode.Proofs.Upkeep

/-!
What an operation does to the bytes. It may append some, it writes the fields of the references
that it closes, it writes those that are kept if the code moves, and then it alters what it is
told to alter. No other byte changes.
-/
namespace MachineCode

/-- A reference whose field is written in this step: it was open or is new, and it is not open
any more. -/
def Closes (h new : History) (q : Reference) : Prop :=
  (∃ before r tail, h.Records before r tail ∧ Open r tail ∧ ¬ Open r (tail ++ new) ∧
    q = meaning before r (tail ++ new)) ∨
  ∃ mid r after, new.Records mid r after ∧ ¬ Open r after ∧ q = meaning (h ++ mid) r after

/-- How the bytes of `b` come from those of `a`: `refs` are resolved first, which gives `code`,
and then the alterations are made. -/
structure Advances (h : History) (a : Assembler) (new : History) (b : Assembler)
    (refs : List Reference) (code : Bytes) : Prop where
  resolves : Resolves b.base refs (a.image ++ new.code) code
  image : b.image = Patch.applyAll (new.writes.map Overwrite.patch) code 0
  fits : ∀ w ∈ new.writes, w.stop ≤ code.length
  refs : ∀ q, q ∈ refs ↔ Closes h new q ∨ b.region ≠ a.region ∧ Kept h q
  base : b.region = a.region → b.base = a.base
  committed : a.committed ≤ b.committed
  recorded : ∀ r ∈ new.references, a.committed ≤ r.field
  reworked : ∀ writes, .reworked writes ∈ new → ∀ w ∈ writes, a.committed ≤ w.start
  apart : new.references = [] ∨ .committed ∉ new

section closes

variable {h new : History} {a b : Assembler} {q : Reference}

theorem Open.append {r : Reference} {after : History} (ho : Open r after) (hn : Calm new) :
    Open r (after ++ new) :=
  ho.imp (waits_append hn.committed hn.locals).mpr (postponed_append hn.committed hn.locals).mpr

/-- Where nothing is recorded either, no field is written. -/
theorem not_closes (hn : Calm new) (hrefs : new.references = []) : ¬ Closes h new q := by
  rintro (⟨before, r, tail, -, ho, hnot, -⟩ | ⟨mid, r, after, hr, -⟩)
  · exact hnot (ho.append hn)
  · exact absurd hr.mem (hrefs ▸ List.not_mem_nil)

/-- A commit closes what is due. -/
theorem closes_iff_due (hc : .committed ∈ new) (hb : ∀ l, new.bindings l = [])
    (hrefs : new.references = [])
    (hw : ∀ {before r after}, h.Records before r after → ¬ Waits r after) :
    Closes h new q ↔ Due h q := by
  constructor
  · rintro (⟨before, r, tail, hr, ho, -, hq⟩ | ⟨mid, r, after, hr, -⟩)
    · exact ⟨before, r, tail, hr, ho.resolve_left (hw hr),
        hq.trans (meaning_append_of_bindings hb ..)⟩
    · exact absurd hr.mem (hrefs ▸ List.not_mem_nil)
  · rintro ⟨before, r, after, hr, hp, hq⟩
    refine Or.inl ⟨before, r, after, hr, Or.inr hp, ?_,
      hq.trans (meaning_append_of_bindings hb ..).symm⟩
    exact fun ho => ho.not_committed (List.mem_append_right _ hc)

/-- A local label closes the references that waited for it, unless they depend on the base
address. -/
theorem closes_bound (ht : Tracks h a) {name : String} :
    Closes h [.bound (.local name) a.offset] q ↔
      q ∈ (a.drained name).filter (!·.baseDependent) := by
  rw [List.mem_filter, ht.mem_drained]
  constructor
  · rintro (⟨before, r, tail, hr, ⟨hc, n, htar, hn⟩ | hp, hnot, rfl⟩ | ⟨mid, r, after, hr, -⟩)
    · by_cases hne : n = name
      · subst hne
        have hdep : r.baseDependent = false := by
          apply Bool.eq_false_iff.mpr
          intro hdep
          refine hnot (Or.inr ⟨by simpa using hc, ?_⟩)
          simp only [htar]
          exact ⟨by simp [History.bindings_bound], hdep⟩
        refine ⟨⟨r, ⟨⟨before, tail, hr, hc, n, htar, hn⟩, by rw [htar]; rfl⟩,
          meaning_bound htar hn⟩, ?_⟩
        simp [hdep]
      · refine absurd (Or.inl ⟨by simpa using hc, n, htar, ?_⟩) hnot
        simp [hn, History.bindings_bound, Ne.symm hne]
    · exact absurd (Or.inr (hp.append (by simp))) hnot
    · simpa [History.references] using hr.mem
  · rintro ⟨⟨r, ⟨⟨before, tail, hr, hc, n, htar, hn⟩, he⟩, rfl⟩, hdep⟩
    replace hdep : (!r.baseDependent) = true := hdep
    obtain rfl : n = name := by rwa [htar] at he
    refine Or.inl ⟨before, r, tail, hr, Or.inl ⟨hc, n, htar, hn⟩, ?_, (meaning_bound htar hn).symm⟩
    rintro (⟨-, m, hm, hnone⟩ | ⟨-, hp⟩)
    · obtain rfl : n = m := Target.forward.inj (htar.symm.trans hm)
      simp [History.bindings_bound] at hnone
    · rw [htar] at hp
      exact absurd hp.2 (by simpa using hdep)

/-- What is resolved at once when it is recorded. -/
theorem eager?_eq_some {l : Labels} {r : Reference} {mid after : History} (hb : Binds h l)
    (hmid : ∀ k, mid.bindings k = []) (hafter : ∀ k, after.bindings k = [])
    (hc : .committed ∉ after) :
    Assembler.eager? l r = some q ↔ ¬ Open r after ∧ q = meaning (h ++ mid) r after := by
  unfold Assembler.eager? Open Waits Postponed meaning
  cases ht : r.target with
  | backward name =>
    by_cases hd : r.baseDependent = true
    · simp [hc, hd]
    · simp [hd, denoted, hmid, hb.locals, @eq_comm _ q]
  | forward name => simp [hc, hafter]
  | nowhere | global | dynamic | external => simp [hc]

/-- Appending closes what can be resolved at once. -/
theorem closes_appends (ht : Tracks h a) {data : Bytes} {refs : List Reference} :
    Closes h (.appended data :: refs.map .recorded) q ↔
      q ∈ refs.filterMap (Assembler.eager? a.labels) := by
  rw [List.mem_filterMap]
  constructor
  · rintro (⟨before, r, tail, hr, ho, hnot, rfl⟩ | ⟨mid, r, after, hr, hnot, hq⟩)
    · exact absurd (ho.append (calm_appended data refs)) hnot
    · obtain ⟨hmem, hmid, hafter, hc, -⟩ := History.records_appended hr
      exact ⟨r, hmem, (eager?_eq_some ht.binds hmid hafter hc).mpr ⟨hnot, hq⟩⟩
  · rintro ⟨r, hmem, he⟩
    obtain ⟨mid, after, hr⟩ := History.exists_records_appended hmem data
    obtain ⟨-, hmid, hafter, hc, -⟩ := History.records_appended hr
    exact Or.inr ⟨mid, r, after, hr, (eager?_eq_some ht.binds hmid hafter hc).mp he⟩

end closes

theorem Assembler.commit_image {a b : Assembler} {next : UInt64} (hb : a.commit next = .ok b) :
    b.image = b.memory.current.code := by
  obtain ⟨refs, moved, hc⟩ := commit_eq_ok hb
  rw [image, hc.scratch, List.append_nil]

theorem Operation.happenings_of_not_alters {op : Operation} (h : op.alters = false)
    (a : Assembler) : (op.happenings a).writes = [] ∧
      ∀ writes, .altered writes ∉ op.happenings a ∧ .reworked writes ∉ op.happenings a := by
  have appends : ∀ c, (Operation.appends a c).writes = [] ∧
      ∀ writes, .altered writes ∉ Operation.appends a c ∧
        .reworked writes ∉ Operation.appends a c := by
    intro c
    exact ⟨History.writes_appended .., by simp [Operation.appends]⟩
  cases op with
  | alter | alterUncommitted => cases h
  | append c => exact appends c
  | relocate u => exact appends _
  | emit instruction =>
    cases instruction with
    | error e => exact ⟨rfl, by simp [happenings]⟩
    | ok c => exact appends c
  | _ => exact ⟨rfl, by simp [happenings]⟩

namespace Advances

variable {h new : History} {a b : Assembler}

/-- An operation that resolves nothing and leaves the committed code where it is. -/
theorem still (hn : Calm new) (hrefs : new.references = [])
    (himage : b.image = Patch.applyAll (new.writes.map Overwrite.patch) (a.image ++ new.code) 0)
    (hfits : ∀ w ∈ new.writes, a.committed ≤ w.start ∧ w.stop ≤ (a.image ++ new.code).length)
    (hbase : b.base = a.base) (hregion : b.region = a.region)
    (hcom : b.committed = a.committed) : Advances h a new b [] (a.image ++ new.code) where
  resolves := Resolves.refl _ _
  image := himage
  fits w hw := (hfits w hw).2
  refs q := by simp [not_closes hn hrefs, hregion]
  base _ := hbase
  committed := Nat.le_of_eq hcom.symm
  recorded r hr := absurd hr (hrefs ▸ List.not_mem_nil)
  reworked writes hw w hmem := (hfits w (List.mem_flatMap.mpr ⟨_, hw, hmem⟩)).1
  apart := Or.inl hrefs

theorem extend (data : Bytes) : Advances h a [.appended data]
    { a with scratch := a.scratch ++ data } [] (a.image ++ History.code [.appended data]) := by
  refine still ⟨by simp, by simp, fun _ => rfl⟩ rfl ?_ nofun rfl rfl rfl
  simp [Assembler.image, History.code, History.writes, Patch.applyAll]

theorem bind {l : Label} {offset : Nat} {labels : Labels} (hl : ∀ name, l ≠ .local name) :
    Advances h a [.bound l offset] { a with labels } []
      (a.image ++ History.code [.bound l offset]) := by
  refine still ⟨by simp, by simp, ?_⟩ rfl ?_ nofun rfl rfl rfl
  · intro name
    rw [History.bindings_bound, if_neg (hl name)]
  · exact (List.append_nil _).symm

theorem alterUncommitted {writes : List Overwrite} {m : ScratchModifier}
    (hm : ScratchModifier.Leaves a.scratchModifier writes m) :
    Advances h a [.reworked writes] { a with scratch := m.scratch } []
      (a.image ++ History.code [.reworked writes]) := by
  have hwrites : History.writes [.reworked writes] = writes := by
    simp [History.writes]
  have hcode : a.image ++ History.code [.reworked writes] = a.image := List.append_nil _
  refine still ⟨by simp, by simp, fun _ => rfl⟩ rfl ?_ ?_ rfl rfl rfl
  · rw [hwrites, hcode]
    exact hm.scratch a.memory.current.code rfl
  · rw [hwrites, hcode, a.length_image]
    exact fun w hw => ⟨hm.low w hw, hm.high w hw⟩

theorem andAlike {c : Assembler} {refs : List Reference} {code : Bytes}
    (hadv : Advances h a new b refs code) (hbc : Assembler.Alike b c) :
    Advances h a new c refs code where
  resolves := hbc.base ▸ hadv.resolves
  image := by rw [Assembler.image, hbc.code, hbc.scratch, ← hadv.image, Assembler.image]
  fits := hadv.fits
  refs q := by rw [hadv.refs, hbc.region]
  base hregion := hbc.base.trans (hadv.base (hbc.region.symm.trans hregion))
  committed := Nat.le_trans hadv.committed (Nat.le_of_eq (congrArg List.length hbc.code).symm)
  recorded := hadv.recorded
  reworked := hadv.reworked
  apart := hadv.apart

theorem alike (hab : Assembler.Alike a b) : Advances h a [] b [] (a.image ++ History.code []) := by
  have hsame : Advances h a [] a [] (a.image ++ History.code []) :=
    still ⟨nofun, nofun, fun _ => rfl⟩ rfl (List.append_nil _).symm nofun rfl rfl rfl
  exact hsame.andAlike hab

theorem localLabel (ht : Tracks h a) {name : String} (hb : a.localLabel name = .ok b) :
    Advances h a [.bound (.local name) a.offset] b
      ((a.drained name).filter (!·.baseDependent)) b.image := by
  have hres := (ht.localLabel_resolves hb).rebase (fun r hr => by
    simpa using (List.mem_filter.mp hr).2) b.base
  obtain ⟨ps, hps, rfl⟩ := Assembler.localLabel_eq_ok hb
  refine ⟨?_, rfl, nofun, ?_, fun _ => rfl, Nat.le_refl _, fun _ hr => absurd hr List.not_mem_nil,
    by simp, Or.inl rfl⟩
  · rw [show History.code [.bound (.local name) a.offset] = [] from rfl, List.append_nil]
    exact hres
  · intro q
    rw [closes_bound ht]
    simp [Assembler.region]

theorem append (ht : Tracks h a) {c : Code} (hb : a.append c = .ok b) :
    ∃ refs, Advances h a (Operation.appends a c) b refs b.image := by
  unfold Operation.appends
  generalize hrefs : c.refs.filterMap (Operation.reference? (a.offset + c.code.length)) = refs
  have hdep : ∀ q ∈ refs.filterMap (Assembler.eager? a.labels), q.baseDependent = false := by
    intro q hq
    obtain ⟨r, -, he⟩ := List.mem_filterMap.mp hq
    unfold Assembler.eager? at he
    split at he
    · split at he
      · cases he
      · rename_i hr
        obtain rfl := Option.some.inj he
        exact Bool.eq_false_iff.mpr hr
    · cases he
  have hres := (Tracks.append_resolves hb hrefs).rebase hdep b.base
  obtain ⟨hall, ps, hps, rfl⟩ := Assembler.append_eq_ok hb hrefs
  refine ⟨refs.filterMap (Assembler.eager? a.labels), ?_, ?_, ?_, ?_, fun _ => rfl,
    Nat.le_refl _, ?_, by simp, Or.inr (by simp)⟩
  · rw [History.code_appended]
    exact hres
  · rw [History.writes_appended]
    rfl
  · rw [History.writes_appended]
    exact nofun
  · intro q
    rw [closes_appends ht]
    simp [Assembler.region]
  · intro r hr
    rw [History.references_appended] at hr
    exact (hall r hr).1.low

theorem commit (ht : Tracks h a) {next : UInt64} (hb : a.commit next = .ok b) :
    ∃ refs, Advances h a [.committed] b refs b.image := by
  obtain ⟨refs, hres, hmem⟩ := ht.commit_resolves hb
  have himage := Assembler.commit_image hb
  obtain ⟨due, moved, hc⟩ := Assembler.commit_eq_ok hb
  have hlen : b.committed = a.offset := by
    rw [← a.length_image]
    exact hres.length
  refine ⟨refs, ?_, rfl, nofun, ?_, ?_, ?_, fun _ hr => absurd hr List.not_mem_nil, by simp,
    Or.inl rfl⟩
  · rw [show History.code [.committed] = [] from rfl, List.append_nil, himage]
    exact hres
  · intro q
    rw [hmem, closes_iff_due (by simp) (fun _ => rfl) rfl (ht.not_waits_of_commits hc)]
  · intro hregion
    rcases hc.place with ⟨-, hbase, -⟩ | ⟨hmoved, -⟩
    · exact hbase
    · omega
  · rw [hlen]
    exact Nat.le_add_right _ _

theorem alter (ht : Tracks h a) {next : UInt64} {c : Assembler} (hc : a.commit next = .ok c)
    {writes : List Overwrite} {m : Modifier} (hm : Modifier.Leaves c.modifier writes m) :
    ∃ refs code, Advances h a [.committed, .altered writes]
      { c with memory := c.memory.setCode m.code, managed := m.managed c.managed } refs code := by
  obtain ⟨refs, hadv⟩ := commit ht hc
  have himage := Assembler.commit_image hc
  obtain ⟨due, moved, hcom⟩ := Assembler.commit_eq_ok hc
  have hwrites : History.writes [.committed, .altered writes] = writes := by
    simp [History.writes]
  have hresolves := hadv.resolves
  have hrefs := hadv.refs
  refine ⟨refs, c.image, ?_, ?_, ?_, ?_, hadv.base, ?_, fun _ hr => absurd hr List.not_mem_nil,
    by simp, Or.inl rfl⟩
  · exact hresolves
  · rw [hwrites, himage, Assembler.image]
    have hs : c.scratch = [] := hcom.scratch
    rw [hs, List.append_nil]
    exact hm.code
  · rw [hwrites, himage]
    exact fun w hw => (hm.fits w hw).within
  · intro q
    rw [hrefs, closes_iff_due (by simp) (fun _ => rfl) rfl (ht.not_waits_of_commits hcom),
      closes_iff_due (by simp) (fun _ => rfl) rfl (ht.not_waits_of_commits hcom)]
    rfl
  · exact Nat.le_trans hadv.committed (Nat.le_of_eq hm.length.symm)

/-- Every operation that succeeds changes no other bytes. -/
theorem perform (ht : Tracks h a) {op : Operation} (hb : a.perform op = .ok b) :
    ∃ refs code, Advances h a (op.happenings a) b refs code := by
  cases op with
  | extend data =>
    obtain rfl := Assembler.extend_eq_ok hb
    exact ⟨_, _, extend data⟩
  | align n fill =>
    obtain rfl := Assembler.align_eq_ok hb
    exact ⟨_, _, extend _⟩
  | newDynamic =>
    obtain rfl := Except.ok.inj hb
    exact ⟨_, _, still ⟨nofun, nofun, fun _ => rfl⟩ rfl (List.append_nil _).symm nofun rfl rfl rfl⟩
  | globalLabel name =>
    obtain ⟨-, rfl⟩ := Assembler.globalLabel_eq_ok hb
    exact ⟨_, _, bind (by simp)⟩
  | dynamicLabel id =>
    obtain ⟨-, rfl⟩ := Assembler.dynamicLabel_eq_ok hb
    exact ⟨_, _, bind (by simp)⟩
  | localLabel name => exact ⟨_, _, localLabel ht hb⟩
  | append c =>
    obtain ⟨refs, hadv⟩ := append ht hb
    exact ⟨refs, _, hadv⟩
  | relocate u =>
    obtain ⟨refs, hadv⟩ := append ht hb
    exact ⟨refs, _, hadv⟩
  | emit instruction =>
    have hi := Assembler.whenOpen_eq_ok hb
    cases instruction with
    | error e => cases hi
    | ok c =>
      obtain ⟨refs, hadv⟩ := append ht hi
      exact ⟨refs, _, hadv⟩
  | commit next =>
    obtain ⟨refs, hadv⟩ := commit ht hb
    exact ⟨refs, _, hadv⟩
  | finalize next =>
    obtain ⟨c, hc, hcb⟩ := Assembler.finalize_eq_ok hb
    obtain ⟨refs, hadv⟩ := commit ht hc
    exact ⟨refs, _, hadv.andAlike hcb⟩
  | alter next script =>
    obtain ⟨c, m, writes, hc, hm, he, rfl⟩ := Assembler.alter_eq_ok hb
    rw [he]
    exact alter ht hc hm
  | alterUncommitted script =>
    obtain ⟨m, writes, hm, he, rfl⟩ := Assembler.alterUncommitted_eq_ok hb
    rw [he]
    exact ⟨_, _, alterUncommitted hm⟩
  | close =>
    obtain rfl := Except.ok.inj hb
    exact ⟨_, _, alike a.close_alike⟩
  | closeBuffer =>
    obtain rfl := Except.ok.inj hb
    exact ⟨_, _, alike a.closeBuffer_alike⟩
  | lock =>
    obtain ⟨⟨guard, c⟩, hc, rfl⟩ := map_eq_ok hb
    exact ⟨_, _, alike (Assembler.lock_alike hc)⟩
  | unlock guard =>
    obtain rfl := Except.ok.inj hb
    exact ⟨_, _, alike (a.unlock_alike guard)⟩

/-- If nothing is altered, the code that has been resolved is all of it. -/
theorem perform_of_not_alters (ht : Tracks h a) {op : Operation} (hop : op.alters = false)
    (hb : a.perform op = .ok b) : ∃ refs, Advances h a (op.happenings a) b refs b.image := by
  obtain ⟨refs, code, hadv⟩ := perform ht hb
  obtain rfl : b.image = code := by
    rw [hadv.image, (Operation.happenings_of_not_alters hop a).1]
    rfl
  exact ⟨refs, hadv⟩

end Advances

end MachineCode
