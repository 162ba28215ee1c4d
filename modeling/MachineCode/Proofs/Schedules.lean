import MachineCode.Proofs.Relocation

/-!
The schedule of commits does not matter. What has been appended, recorded and bound does not
depend on when code was committed, how large its regions were or where they lay; and once all is
committed, the code is determined by that and by its base address.
-/
namespace MachineCode

/-- Two images are the same if the same was appended and references with the same fields have
the same values, all of them written. -/
theorem UpToDate.image_eq {h h' : History} {a a' : Assembler} (hu : UpToDate h a)
    (hu' : UpToDate h' a') (hcode : h.code = h'.code)
    (houtside : ∀ i, (∀ r ∈ h.references, ¬ r.Covers i) → ∀ r ∈ h'.references, ¬ r.Covers i)
    (hrefs : ∀ {before r after}, h.Records before r after → ¬ Open r after ∧
      ∃ before' r' after', h'.Records before' r' after' ∧ ¬ Open r' after' ∧
        r'.field = r.field ∧ r'.rel = r.rel ∧
        (meaning before' r' after').value a'.base = (meaning before r after).value a.base) :
    a.image = a'.image := by
  apply List.ext_getElem?
  intro i
  by_cases hi : ∃ r ∈ h.references, r.Covers i
  · obtain ⟨r, hr, hc⟩ := hi
    obtain ⟨before, after, hr⟩ := History.exists_records hr
    obtain ⟨hclosed, before', r', after', hr', hclosed', hfield, hrel, hvalue⟩ := hrefs hr
    have hw := hu.closed hr hclosed
    have hw' := hu'.closed hr' hclosed'
    rw [hvalue, hfield, hrel, ← hcode, hw] at hw'
    have hbyte := congrArg (·[i - r.field]?) (Except.ok.inj hw')
    have hlt : i - r.field < r.rel.size := by
      have hlow := hc.1
      have hhigh := hc.2
      unfold Reference.fieldEnd at hhigh
      omega
    have hat : r.field + (i - r.field) = i := Nat.add_sub_of_le hc.1
    simpa only [Bytes.getElem?_slice, if_pos hlt, hat] using hbyte
  · have hnone : ∀ r ∈ h.references, ¬ r.Covers i := fun r hr hc => hi ⟨r, hr, hc⟩
    rw [hu.outside i hnone, hu'.outside i (houtside i hnone), hcode]

namespace History

def plain (h : History) : History := h.filter (· ≠ .committed)

variable {h h' : History}

@[simp] theorem plain_append (h new : History) : plain (h ++ new) = plain h ++ plain new :=
  List.filter_append ..

theorem code_plain (h : History) : h.plain.code = h.code := by
  induction h with
  | nil => rfl
  | cons e h ih =>
    cases e with
    | committed => exact ih
    | appended data => exact congrArg (data ++ ·) ih
    | recorded | bound | altered | reworked => exact ih

theorem references_plain (h : History) : h.plain.references = h.references := by
  induction h with
  | nil => rfl
  | cons e h ih =>
    cases e with
    | recorded r => exact congrArg (r :: ·) ih
    | appended | bound | committed | altered | reworked => exact ih

theorem bindings_plain (h : History) (l : Label) : h.plain.bindings l = h.bindings l := by
  induction h with
  | nil => rfl
  | cons e h ih =>
    have hcons (k : History) : bindings (e :: k) l = bindings [e] l ++ bindings k l :=
      bindings_append [e] k l
    rw [hcons h, ← ih]
    cases e with
    | committed => rfl
    | appended | recorded | bound | altered | reworked => exact hcons _

/-- What a reference means does not depend on commits. -/
theorem meaning_plain {before after before' after' : History} (hb : before.plain = before'.plain)
    (ha : after.plain = after'.plain) (r : Reference) :
    meaning before r after = meaning before' r after' := by
  have hbind (l : Label) : before.bindings l = before'.bindings l := by
    rw [← bindings_plain, hb, bindings_plain]
  have haft (l : Label) : after.bindings l = after'.bindings l := by
    rw [← bindings_plain, ha, bindings_plain]
  have hd : denoted before after r.target = denoted before' after' r.target := by
    cases r.target <;> simp [denoted, hbind, haft]
  rw [meaning, meaning, hd]

/-- A reference stands at the same place in histories that differ in their commits only. -/
theorem Records.of_plain {before after : History} {r : Reference} (hr : h.Records before r after)
    (hp : h.plain = h'.plain) : ∃ before' after', h'.Records before' r after' ∧
      before.plain = before'.plain ∧ after.plain = after'.plain := by
  have hsplit : h'.plain = before.plain ++ .recorded r :: after.plain := by
    rw [← hp, hr]
    simp [plain]
  obtain ⟨before', rest, rfl, hbefore, hrest⟩ := List.filter_eq_append_iff.mp hsplit
  obtain ⟨commits, after', rfl, hnone, -, hafter⟩ := List.filter_eq_cons_iff.mp hrest
  have hcommits : plain commits = [] := List.filter_eq_nil_iff.mpr hnone
  refine ⟨before' ++ commits, after', by simp [Records], ?_, hafter.symm⟩
  rw [plain_append, hcommits, List.append_nil]
  exact hbefore.symm

end History

namespace Operation

def isCommit : Operation → Bool
  | commit _ => true
  | _ => false

theorem alters_of_isCommit {op : Operation} (h : op.isCommit = true) : op.alters = false := by
  cases op with
  | alter | alterUncommitted => cases h
  | extend | align | newDynamic | globalLabel | dynamicLabel | localLabel | append | relocate
  | emit | commit | finalize | close | closeBuffer | lock | unlock => rfl

/-- What happens depends on nothing but the offset, unless code is altered. -/
theorem happenings_congr {op : Operation} (h : op.alters = false) {a a' : Assembler}
    (ho : a.offset = a'.offset) : op.happenings a = op.happenings a' := by
  cases op with
  | alter | alterUncommitted => cases h
  | emit instruction => cases instruction <;> simp only [happenings, appends, ho]
  | extend | align | newDynamic | globalLabel | dynamicLabel | localLabel | append | relocate
  | commit | finalize | close | closeBuffer | lock | unlock =>
    simp only [happenings, appends, ho]

end Operation

def Assembler.performAll (a : Assembler) (ops : List Operation) : Except Failure Assembler :=
  ops.foldlM perform a

theorem Assembler.performAll_singleton (a : Assembler) (op : Operation) :
    a.performAll [op] = a.perform op := by
  rw [performAll, List.foldlM_cons]
  cases a.perform op <;> rfl

theorem Assembler.performAll_of_error {a : Assembler} {op : Operation} {f : Failure}
    (hf : a.perform op = .error f) (ops : List Operation) :
    a.performAll (op :: ops) = .error f := by
  rw [performAll, List.foldlM_cons, hf]
  rfl

namespace Session

variable {s s' : Session} {ops ops' : List Operation} {b b' : Assembler}

theorem step_of_ok {op : Operation} (h : s.assembler.perform op = .ok b) :
    s.step op = ⟨b, s.history ++ op.happenings s.assembler⟩ := by
  unfold step
  rw [h]

theorem performAll_cons {op : Operation} (h : s.assembler.performAll (op :: ops) = .ok b) :
    (∃ c, s.assembler.perform op = .ok c) ∧ (s.step op).assembler.performAll ops = .ok b := by
  rw [Assembler.performAll, List.foldlM_cons] at h
  obtain ⟨c, hc, hrest⟩ := bind_eq_ok h
  rw [step_of_ok hc]
  exact ⟨⟨c, hc⟩, hrest⟩

theorem run_of_performAll (h : s.assembler.performAll ops = .ok b) : (s.run ops).assembler = b := by
  induction ops generalizing s with
  | nil => exact Except.ok.inj h
  | cons op ops ih => exact ih (performAll_cons h).2

theorem performAll_append (h : s.assembler.performAll (ops ++ ops') = .ok b) :
    ∃ c, s.assembler.performAll ops = .ok c ∧ c.performAll ops' = .ok b := by
  rw [Assembler.performAll, List.foldlM_append] at h
  exact bind_eq_ok h

theorem plain_step_commit {op : Operation} (hop : op.isCommit = true) :
    (s.step op).history.plain = s.history.plain := by
  unfold step
  cases op with
  | commit next =>
    split
    · exact (History.plain_append ..).trans (List.append_nil _)
    · rfl
  | extend | align | newDynamic | globalLabel | dynamicLabel | localLabel | append | relocate
  | emit | finalize | alter | alterUncommitted | close | closeBuffer | lock | unlock => cases hop

theorem plain_run_commits (hops : ∀ op ∈ ops, op.isCommit = true) :
    (s.run ops).history.plain = s.history.plain := by
  induction ops generalizing s with
  | nil => rfl
  | cons op ops ih =>
    have hrest := ih (s := s.step op) fun op' h => hops op' (List.mem_cons_of_mem _ h)
    exact hrest.trans (plain_step_commit (hops op (List.mem_cons_self ..)))

theorem tracks_step (ht : Tracks s.history s.assembler) (op : Operation) :
    Tracks (s.step op).history (s.step op).assembler := by
  unfold step
  split
  · rename_i b hb
    exact ht.perform hb
  · exact ht

theorem tracks_run_of (ht : Tracks s.history s.assembler) (ops : List Operation) :
    Tracks (s.run ops).history (s.run ops).assembler :=
  run_induction (P := fun s => Tracks s.history s.assembler) ht fun _ ht hb => ht.perform hb

/-- Runs that differ in their commits only have histories that differ in their commits only. -/
theorem plain_run_eq (ht : Tracks s.history s.assembler) (ht' : Tracks s'.history s'.assembler)
    (hs : s.history.plain = s'.history.plain) (halters : ∀ op ∈ ops, op.alters = false)
    (hops : ops.filter (!·.isCommit) = ops'.filter (!·.isCommit))
    (h : s.assembler.performAll ops = .ok b) (h' : s'.assembler.performAll ops' = .ok b') :
    (s.run ops).history.plain = (s'.run ops').history.plain := by
  induction ops generalizing s s' ops' with
  | nil =>
    have hall : ∀ op ∈ ops', op.isCommit = true := by
      intro op hop
      simpa using List.filter_eq_nil_iff.mp hops.symm op hop
    exact hs.trans (plain_run_commits hall).symm
  | cons op ops ih =>
    obtain ⟨⟨c, hc⟩, hrest⟩ := performAll_cons h
    have halt := fun op' h' => halters op' (List.mem_cons_of_mem op h')
    cases hop : op.isCommit with
    | true =>
      rw [List.filter_cons_of_neg (by simp [hop])] at hops
      exact ih (tracks_step ht op) ht' ((plain_step_commit hop).trans hs) halt hops hrest h'
    | false =>
      -- The other run comes to the same operation after some commits.
      rw [List.filter_cons_of_pos (by simp [hop])] at hops
      obtain ⟨commits, rest, rfl, hcommits, -, hsame⟩ := List.filter_eq_cons_iff.mp hops.symm
      obtain ⟨d, hd, hrest'⟩ := performAll_append h'
      have hmid := run_of_performAll hd
      have hplain : s.history.plain = (s'.run commits).history.plain :=
        hs.trans (plain_run_commits fun op hop => by simpa using hcommits op hop).symm
      have htmid := tracks_run_of ht' commits
      rw [← hmid] at hrest'
      obtain ⟨⟨e, he⟩, hlast⟩ := performAll_cons hrest'
      have hoff : s.assembler.offset = (s'.run commits).assembler.offset := by
        rw [← ht.length, ← htmid.length, ← History.code_plain, hplain, History.code_plain]
      have hnext : (s.step op).history.plain = ((s'.run commits).step op).history.plain := by
        rw [step_of_ok hc, step_of_ok he, History.plain_append, History.plain_append, hplain,
          Operation.happenings_congr (halters op (List.mem_cons_self ..)) hoff]
      have hrun : s'.run (commits ++ op :: rest) = ((s'.run commits).step op).run rest := by
        rw [run, List.foldl_append]
        rfl
      rw [hrun]
      exact ih (tracks_step ht op) (tracks_step htmid op) hnext halt hsame.symm hrest hlast

end Session

/-- Labels that were bound at the same offsets are found at the same offsets. -/
theorem Binds.lookup_eq {h h' : History} {l l' : Labels} (hb : Binds h l) (hb' : Binds h' l')
    (hsame : ∀ k, h.bindings k = h'.bindings k) (t : Target) : l.lookup t = l'.lookup t := by
  cases t with
  | global name => exact (hb.globals name).trans (hsame _ ▸ (hb'.globals name).symm)
  | backward name => exact (hb.locals name).trans (hsame _ ▸ (hb'.locals name).symm)
  | dynamic id => exact (hb.dynamics id).trans (hsame _ ▸ (hb'.dynamics id).symm)
  | nowhere | forward | external => rfl

section commit

variable {capacity : Nat} {ops : List Operation} {next : UInt64} {b : Assembler}

theorem Session.history_committed
    (h : Assembler.performAll { minCapacity := capacity }
      (ops ++ [Operation.commit next]) = .ok b) :
    ((start capacity).run (ops ++ [Operation.commit next])).history =
      ((start capacity).run ops).history ++ [Happening.committed] := by
  obtain ⟨c, hc, hlast⟩ := performAll_append (s := start capacity) h
  rw [← run_of_performAll (s := start capacity) hc] at hlast
  obtain ⟨⟨d, hd⟩, -⟩ := performAll_cons hlast
  rw [run, List.foldl_append]
  exact congrArg Session.history (step_of_ok hd)

theorem Session.image_committed
    (h : Assembler.performAll { minCapacity := capacity }
      (ops ++ [Operation.commit next]) = .ok b) :
    b.image = b.memory.current.code := by
  obtain ⟨c, -, hlast⟩ := performAll_append (s := start capacity) h
  obtain ⟨d, hd, hb⟩ := bind_eq_ok hlast
  obtain rfl := Except.ok.inj hb
  exact Assembler.commit_image hd

theorem not_open_of_committed {h before after : History} {r : Reference}
    (hr : History.Records (h ++ [Happening.committed]) before r after) : ¬ Open r after := by
  obtain ⟨tail, -, rfl⟩ := hr.of_append rfl
  exact fun ho => ho.not_committed (by simp)

end commit

/-- Once no reference is open, the history without its commits and the base address determine
the code and the labels. -/
theorem Session.agree_of_plain {s s' : Session} (ht : Tracks s.history s.assembler)
    (ht' : Tracks s'.history s'.assembler) (hu : UpToDate s.history s.assembler)
    (hu' : UpToDate s'.history s'.assembler) (hplain : s.history.plain = s'.history.plain)
    (hclosed : ∀ {before r after}, s.history.Records before r after → ¬ Open r after)
    (hclosed' : ∀ {before r after}, s'.history.Records before r after → ¬ Open r after)
    (hbase : s.assembler.base = s'.assembler.base) :
    s.assembler.image = s'.assembler.image ∧
      (∀ t, s.assembler.labelOffset t = s'.assembler.labelOffset t) ∧
      s.assembler.offset = s'.assembler.offset := by
  have hcode : s.history.code = s'.history.code := by
    rw [← History.code_plain, hplain, History.code_plain]
  have hrefs : s.history.references = s'.history.references := by
    rw [← History.references_plain, hplain, History.references_plain]
  have hbind (k : Label) : s.history.bindings k = s'.history.bindings k := by
    rw [← History.bindings_plain, hplain, History.bindings_plain]
  refine ⟨?_, ht.binds.lookup_eq ht'.binds hbind, ?_⟩
  · refine hu.image_eq hu' hcode (fun i => hrefs ▸ id) ?_
    intro before r after hr
    obtain ⟨before', after', hr', hb, ha⟩ := hr.of_plain hplain
    refine ⟨hclosed hr, before', r, after', hr', hclosed' hr', rfl, rfl, ?_⟩
    rw [← History.meaning_plain hb ha, hbase]
  · rw [← ht.length, ← ht'.length, hcode]

/-- Two runs of the same operations that differ in the least capacity, in the base addresses of
the regions and in when code is committed, in both of which every operation succeeds: if both end
with a commit that leaves the code at the same base address, they come to the same code and the
same labels. -/
theorem schedules_agree {capacity capacity' : Nat} {ops ops' : List Operation}
    {next next' : UInt64} {b b' : Assembler} (halters : ∀ op ∈ ops, op.alters = false)
    (hops : ops.filter (!·.isCommit) = ops'.filter (!·.isCommit))
    (hapart : ((Session.start capacity).run ops).history.references.Pairwise Reference.Apart)
    (h : Assembler.performAll { minCapacity := capacity } (ops ++ [.commit next]) = .ok b)
    (h' : Assembler.performAll { minCapacity := capacity' } (ops' ++ [.commit next']) = .ok b')
    (hbase : b.base = b'.base) :
    b.memory.current.code = b'.memory.current.code ∧
      (∀ t, b.labelOffset t = b'.labelOffset t) ∧ b.offset = b'.offset := by
  have hfull : (ops ++ [Operation.commit next]).filter (!·.isCommit) =
      (ops' ++ [Operation.commit next']).filter (!·.isCommit) := by
    rw [List.filter_append, List.filter_append, hops]
    rfl
  have haltersFull : ∀ op ∈ ops ++ [Operation.commit next], op.alters = false := by
    intro op hop
    rcases List.mem_append.mp hop with hop | hop
    · exact halters op hop
    · rw [List.mem_singleton.mp hop]
      rfl
  have halters' : ∀ op ∈ ops' ++ [Operation.commit next'], op.alters = false := by
    intro op hop
    by_cases hc : op.isCommit = true
    · exact Operation.alters_of_isCommit hc
    · have hmem : op ∈ (ops' ++ [Operation.commit next']).filter (!·.isCommit) :=
        List.mem_filter.mpr ⟨hop, by simpa using hc⟩
      rw [← hfull] at hmem
      exact haltersFull op (List.mem_filter.mp hmem).1
  have hplain : ((Session.start capacity).run (ops ++ [Operation.commit next])).history.plain =
      ((Session.start capacity').run (ops' ++ [Operation.commit next'])).history.plain :=
    Session.plain_run_eq (Tracks.start capacity) (Tracks.start capacity') rfl haltersFull hfull h h'
  have hrefs : ((Session.start capacity).run (ops ++ [Operation.commit next])).history.references =
      ((Session.start capacity').run (ops' ++ [Operation.commit next'])).history.references := by
    rw [← History.references_plain, hplain, History.references_plain]
  have hap : ((Session.start capacity).run
      (ops ++ [Operation.commit next])).history.references.Pairwise Reference.Apart := by
    rw [Session.history_committed h, History.references_append]
    simpa [History.references] using hapart
  have hu := Session.upToDate_run capacity haltersFull hap
  have hu' := Session.upToDate_run capacity' halters' (hrefs ▸ hap)
  have ht := Session.tracks_run capacity (ops ++ [Operation.commit next])
  have ht' := Session.tracks_run capacity' (ops' ++ [Operation.commit next'])
  have hb := Session.run_of_performAll (s := Session.start capacity) h
  have hb' := Session.run_of_performAll (s := Session.start capacity') h'
  obtain ⟨himage, hlabels, hoffset⟩ := Session.agree_of_plain ht ht' hu hu' hplain
    (fun hr => not_open_of_committed (Session.history_committed h ▸ hr))
    (fun hr => not_open_of_committed (Session.history_committed h' ▸ hr))
    (by rw [hb, hb', hbase])
  rw [hb, hb'] at himage hlabels hoffset
  refine ⟨?_, hlabels, hoffset⟩
  rw [← Session.image_committed h, ← Session.image_committed h', himage]

def pagedOps (commits : List Operation) : List Operation :=
  [.globalLabel "data",
    .append ⟨List.replicate 8 0, [⟨.global "data", 4, some (.x86 ⟨0, 8, .absToRel⟩)⟩]⟩] ++
  commits ++
  [.extend (List.replicate 4096 0x90),
    .append ⟨[0xe8, 0, 0, 0, 0], [⟨.external 0x1234, 0, some (.x86 ⟨0, 4, .relative⟩)⟩]⟩]

/-- The first run outgrows its region at `0x1000`, where the other one commits all at once. -/
theorem schedules_agree_paged : ∃ b b',
    Assembler.performAll { minCapacity := 0 } (pagedOps [.commit 0x1000] ++ [.commit 0x9000]) =
      .ok b ∧
    Assembler.performAll { minCapacity := 8192 } (pagedOps [] ++ [.commit 0x9000]) = .ok b' ∧
    b.region ≠ b'.region ∧ b.memory.current.code = b'.memory.current.code := by
  obtain ⟨hok, hok', hapart⟩ :
      (Assembler.performAll { minCapacity := 0 }
        (pagedOps [.commit 0x1000] ++ [.commit 0x9000])).toOption.any
        (fun b => b.base = 0x9000 ∧ b.region = 2) = true ∧
      (Assembler.performAll { minCapacity := 8192 }
        (pagedOps [] ++ [.commit 0x9000])).toOption.any
        (fun b => b.base = 0x9000 ∧ b.region = 1) = true ∧
      ((Session.start 0).run (pagedOps [.commit 0x1000])).history.references.Pairwise
        Reference.Apart := by
    decide +kernel
  obtain ⟨b, hb, hbase⟩ := exists_eq_ok hok
  obtain ⟨b', hb', hbase'⟩ := exists_eq_ok hok'
  rw [decide_eq_true_eq] at hbase hbase'
  refine ⟨b, b', hb, hb', by omega, ?_⟩
  have halters : ∀ op ∈ pagedOps [.commit 0x1000], op.alters = false := by decide
  have hops : (pagedOps [.commit 0x1000]).filter (!·.isCommit) =
      (pagedOps []).filter (!·.isCommit) := rfl
  exact (schedules_agree halters hops hapart hb hb' (hbase.1.trans hbase'.1.symm)).1

end MachineCode
