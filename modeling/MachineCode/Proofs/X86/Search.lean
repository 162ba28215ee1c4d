import MachineCode.Proofs.Results
import MachineCode.X86.Encoder

/-!
The search for a row. Every row is tried on the operands as they were given: what a row that could
not size them has changed is put back, and each match is sized for its own row alone.
-/
namespace MachineCode.X86

def OneMem (ops : List Operand) : Prop := (ops.filterMap (·.mem?)).length ≤ 1

def Held.of : Operand → Held
  | .mem _ => .memory
  | a => .plain a

structure Holds (s : Scratch) (inst : Inst) (ops : List Operand) : Prop where
  inst : s.inst = inst
  args : s.args = ops.map Held.of
  memory : ops.filterMap (·.mem?) = if s.memOffset.isSome then [s.mem] else []

section Holding

variable {inst : Inst} {s s' : Scratch} {ops : List Operand} {a : Operand}

theorem Holds.oneMem (h : Holds s inst ops) : OneMem ops := by
  unfold OneMem
  rw [h.memory]
  split <;> simp

theorem map_operand_of (s : Scratch) (h : ∀ a ∈ ops, a.mem? = none) :
    (ops.map Held.of).map s.operand = ops := by
  rw [List.map_map]
  refine (List.map_congr_left fun a ha => ?_).trans (List.map_id ops)
  cases a with
  | mem m => cases h _ ha
  | _ => rfl

theorem Holds.operands (h : Holds s inst ops) : s.operands = ops := by
  have hback : ∀ a ∈ ops, s.operand (Held.of a) = a := by
    intro a ha
    cases a with
    | mem m =>
      have hm : m ∈ ops.filterMap (·.mem?) := List.mem_filterMap.mpr ⟨_, ha, rfl⟩
      rw [h.memory] at hm
      split at hm
      · rw [List.mem_singleton.mp hm]
        rfl
      · cases hm
    | _ => rfl
  unfold Scratch.operands
  rw [h.args, List.map_map]
  exact (List.map_congr_left hback).trans (List.map_id ops)

theorem Holds.push (h : Holds s inst ops) (hone : (a.mem?.isSome && s.memOffset.isSome) = false) :
    Holds (s.push a) inst (ops ++ [a]) := by
  have hmemory : (ops ++ [a]).filterMap (·.mem?) =
      (if s.memOffset.isSome then [s.mem] else []) ++ a.mem?.toList := by
    rw [List.filterMap_append, h.memory]
    cases a <;> rfl
  cases a with
  | mem m =>
    have hnone : s.memOffset.isSome = false := hone
    rw [hnone] at hmemory
    exact {
      inst := h.inst
      args := by simp [Scratch.push, h.args, Held.of]
      memory := hmemory }
  | _ =>
    exact {
      inst := h.inst
      args := by simp [Scratch.push, h.args, Held.of]
      memory := hmemory.trans (List.append_nil _) }

theorem Holds.fill {args : List (Option Operand)} (h : Holds s inst ops)
    (hfill : s.fill args = .ok s') :
    ∃ rest, args = rest.map some ∧ Holds s' inst (ops ++ rest) := by
  induction args generalizing s ops with
  | nil =>
    cases hfill
    exact ⟨[], rfl, by rwa [List.append_nil]⟩
  | cons a args ih =>
    cases a with
    | none => cases hfill
    | some a =>
      rw [Scratch.fill] at hfill
      obtain ⟨hone, hfill⟩ := eq_ok_of_guard hfill
      obtain ⟨rest, rfl, hrest⟩ := ih (h.push (Bool.eq_false_iff.mpr hone)) hfill
      exact ⟨a :: rest, rfl, by rwa [List.append_assoc] at hrest⟩

theorem holds_of_hold {args : List (Option Operand)} (h : Scratch.hold inst args = .ok s) :
    ∃ ops, args = ops.map some ∧ Holds s inst ops := by
  obtain ⟨-, h⟩ := eq_ok_of_guard h
  obtain ⟨-, h⟩ := eq_ok_of_guard h
  have hempty : Holds { inst } inst [] := ⟨rfl, rfl, rfl⟩
  exact hempty.fill h

theorem holds_ofShape (inst : Inst) (s : Shape) : Holds (.ofShape inst s) inst s.operands := by
  obtain ⟨_, _, _ | _ | _⟩ | ⟨_, _, _ | _ | _⟩ | ⟨_, _, _ | _ | _⟩ | ⟨_, _ | _ | _⟩ |
    ⟨_, _ | _ | _⟩ := s <;> exact ⟨rfl, rfl, rfl⟩

end Holding

section Rows

variable {c : Matcher} {s : Scratch} {addrSize : Nat} {m : Match}

theorem resizeArgs_fst (mode : Mode) (f : Form) (s : Scratch) :
    ∃ args, (s.resizeArgs mode f).1 = { s with args } := by
  unfold Scratch.resizeArgs
  split
  · exact ⟨s.args, rfl⟩
  · split <;> exact ⟨_, rfl⟩

def yields (c : Matcher) (s : Scratch) (addrSize : Nat) (x : Row × Nat) : Option Match :=
  if x.1.form.takes c.mode c.features s.operands then
    let (after, size) := s.resizeArgs c.mode x.1.form
    size.toOption.map (after.found c.mode x.1.form x.2 addrSize)
  else none

/-- A row that fails leaves nothing behind: the search goes on as from the start. -/
theorem toOption_search (c : Matcher) (s : Scratch) (addrSize : Nat) (failure? : Option Refusal)
    (rows : List (Row × Nat)) :
    (c.search s addrSize failure? s rows).toOption = rows.findSome? (yields c s addrSize) := by
  induction rows generalizing failure? with
  | nil => rfl
  | cons x rows ih =>
    obtain ⟨row, i⟩ := x
    rw [Matcher.search, List.findSome?_cons]
    unfold yields
    dsimp only
    split
    · obtain ⟨args, hafter⟩ := resizeArgs_fst c.mode row.form s
      generalize s.resizeArgs c.mode row.form = outcome at hafter
      obtain ⟨after, size⟩ := outcome
      obtain rfl : after = { s with args } := hafter
      cases size with
      | ok size => rfl
      | error e => exact ih (failure?.or (some e))
    · exact ih failure?

structure Candidate (c : Matcher) (s : Scratch) (addrSize : Nat) (m : Match) : Prop where
  row : ∃ name, ((⟨name, m.form⟩ : Row), m.row) ∈ s.inst.rows
  features : c.features.includes m.form.featureSet = true
  mode : m.form.has .x86Only = true → c.mode = .x86
  length : m.form.slots.length = s.operands.length
  slots : ∀ x ∈ m.form.slots.zip s.operands, x.1.takes x.2 (m.form.has .exactSize) = true
  sized : ∃ after, s.resizeArgs c.mode m.form = (after, .ok m.operandSize) ∧
    m = after.found c.mode m.form m.row addrSize m.operandSize

theorem Form.takes_iff {f : Form} {mode : Mode} {features : Features} {ops : List Operand} :
    f.takes mode features ops = true ↔ features.includes f.featureSet = true ∧
      (f.has .x86Only = true → mode = .x86) ∧ f.slots.length = ops.length ∧
        ∀ x ∈ f.slots.zip ops, x.1.takes x.2 (f.has .exactSize) = true := by
  unfold Form.takes
  simp only [Bool.and_eq_true, Bool.or_eq_true, Bool.not_eq_true', beq_iff_eq, List.all_eq_true,
    and_assoc]
  rw [or_iff_not_imp_left, Bool.not_eq_false]

theorem yields_eq_some {x : Row × Nat} :
    yields c s addrSize x = some m ↔ x.1.form.takes c.mode c.features s.operands = true ∧
      ∃ after size, s.resizeArgs c.mode x.1.form = (after, .ok size) ∧
        m = after.found c.mode x.1.form x.2 addrSize size := by
  unfold yields
  split
  next htakes =>
    generalize s.resizeArgs c.mode x.1.form = outcome
    obtain ⟨after, size⟩ := outcome
    cases size with
    | error e => simp [Except.toOption]
    | ok size => simp [Except.toOption, htakes, eq_comm]
  next htakes => simp [htakes]

theorem row_of_yields {x : Row × Nat} (h : yields c s addrSize x = some m) :
    m.form = x.1.form ∧ m.row = x.2 := by
  obtain ⟨-, after, size, -, rfl⟩ := yields_eq_some.mp h
  exact ⟨rfl, rfl⟩

theorem candidate_iff : Candidate c s addrSize m ↔
    ∃ x ∈ s.inst.rows, yields c s addrSize x = some m := by
  constructor
  · rintro ⟨⟨name, hrow⟩, hfeatures, hmode, hlength, hslots, after, hsize, hm⟩
    exact ⟨_, hrow, yields_eq_some.mpr ⟨Form.takes_iff.mpr ⟨hfeatures, hmode, hlength, hslots⟩,
      after, m.operandSize, hsize, hm⟩⟩
  · rintro ⟨⟨⟨name, form⟩, i⟩, hrow, h⟩
    obtain ⟨htakes, after, size, hsize, rfl⟩ := yields_eq_some.mp h
    obtain ⟨hfeatures, hmode, hlength, hslots⟩ := Form.takes_iff.mp htakes
    exact ⟨⟨name, hrow⟩, hfeatures, hmode, hlength, hslots, after, hsize, rfl⟩

end Rows

section All

variable {c : Matcher} {inst : Inst} {args : List (Option Operand)} {s settled : Scratch}
  {addrSize : Nat} {m : Match}

theorem inst_of_settle {mode : Mode} (h : s.settle mode = .ok (settled, addrSize)) :
    settled.inst = s.inst := by
  unfold Scratch.settle at h
  split at h
  · cases h
    rfl
  · obtain ⟨⟨mem, size⟩, -, h⟩ := bind_eq_ok h
    cases h
    rfl

structure Prepared (c : Matcher) (s settled : Scratch) (addrSize : Nat) : Prop where
  checked : s.checkMode c.mode = .ok ()
  settled : s.settle c.mode = .ok (settled, addrSize)

theorem Prepared.matchFrom (h : Prepared c s settled addrSize) (offset : Nat) :
    c.matchFrom s offset = if c.mode.hasAddrSize addrSize then
      c.search settled addrSize none settled (s.inst.rows.drop offset)
    else .error (.addrSize addrSize c.mode) := by
  unfold Matcher.matchFrom
  rw [h.checked, ok_bind, h.settled, ok_bind, ← inst_of_settle h.settled]
  dsimp only
  cases c.mode.hasAddrSize addrSize <;> rfl

theorem row_of_getElem? {k : Nat} {x : Row × Nat} (h : inst.rows[k]? = some x) :
    x.2 = inst.first + k := by
  unfold Inst.rows at h
  rw [List.getElem?_zipIdx] at h
  obtain ⟨row, -, rfl⟩ := Option.map_eq_some_iff.mp h
  rfl

theorem length_rows_le (inst : Inst) : inst.rows.length ≤ inst.count := by
  unfold Inst.rows
  rw [List.length_zipIdx]
  exact List.length_take_le _ _

/-- All matches from a row on. -/
def yieldsFrom (c : Matcher) (s : Scratch) (addrSize offset : Nat) : List Match :=
  (s.inst.rows.drop offset).filterMap (yields c s addrSize)

theorem yieldsFrom_of_findSome? {offset : Nat}
    (h : (s.inst.rows.drop offset).findSome? (yields c s addrSize) = some m) :
    ∃ k, offset ≤ k ∧ m.row = s.inst.first + k ∧
      yieldsFrom c s addrSize offset = m :: yieldsFrom c s addrSize (k + 1) := by
  obtain ⟨front, x, back, hrows, hx, hfront⟩ := List.findSome?_eq_some_iff.mp h
  have hget : s.inst.rows[offset + front.length]? = some x := by
    rw [← List.getElem?_drop, hrows]
    simp
  have hback : back = s.inst.rows.drop (offset + front.length + 1) := by
    rw [Nat.add_assoc, ← List.drop_drop, hrows]
    simp
  refine ⟨_, Nat.le_add_right .., (row_of_yields hx).2.trans (row_of_getElem? hget), ?_⟩
  unfold yieldsFrom
  rw [← hback, hrows, List.filterMap_append, List.filterMap_cons, hx,
    List.filterMap_eq_nil_iff.mpr hfront]
  rfl

theorem yieldsFrom_of_le {offset : Nat} (h : s.inst.count ≤ offset) :
    yieldsFrom c s addrSize offset = [] := by
  unfold yieldsFrom
  rw [List.drop_of_length_le (Nat.le_trans (length_rows_le _) h)]
  rfl

/-- Rounds that go on behind the last match each time find all that there is from an offset on. -/
theorem collect_spec (hhold : Scratch.hold inst args = .ok s) (h : Prepared c s settled addrSize)
    (hsize : c.mode.hasAddrSize addrSize = true) {rounds offset : Nat}
    (hrounds : inst.count ≤ rounds + offset) : ∃ failure?,
      c.collect inst args rounds offset = .ok (yieldsFrom c settled addrSize offset, failure?) := by
  obtain ⟨ops, -, hholds⟩ := holds_of_hold hhold
  have hinst : settled.inst = inst := (inst_of_settle h.settled).trans hholds.inst
  induction rounds generalizing offset with
  | zero => exact ⟨none, by rw [yieldsFrom_of_le (by rw [hinst]; omega)]; rfl⟩
  | succ rounds ih =>
    rw [Matcher.collect]
    split
    next hle => exact ⟨none, by rw [yieldsFrom_of_le (by rwa [hinst])]⟩
    next hlt =>
      rw [hhold, ok_bind, h.matchFrom, if_pos hsize, hholds.inst]
      have hsearch := toOption_search c settled addrSize none (inst.rows.drop offset)
      cases hfound : c.search settled addrSize none settled (inst.rows.drop offset) with
      | error e =>
        rw [hfound] at hsearch
        refine ⟨some e, ?_⟩
        rw [yieldsFrom, hinst, List.filterMap_eq_nil_iff.mpr]
        · rfl
        · exact List.findSome?_eq_none_iff.mp hsearch.symm
      | ok m =>
        rw [hfound, ← hinst] at hsearch
        obtain ⟨k, hk, hrow, hyields⟩ := yieldsFrom_of_findSome? hsearch.symm
        have hnext : m.row + 1 - inst.first = k + 1 := by
          rw [hinst] at hrow
          omega
        have hmore : rounds + 1 + offset ≤ rounds + (k + 1) := by omega
        obtain ⟨failure?, hrest⟩ := ih (Nat.le_trans hrounds hmore)
        refine ⟨failure?, ?_⟩
        dsimp only
        rw [hnext, hrest, hyields]
        rfl

theorem findAll_spec (hhold : Scratch.hold inst args = .ok s) (h : Prepared c s settled addrSize)
    (hsize : c.mode.hasAddrSize addrSize = true) :
    (c.findAll inst args).toOption =
      match yieldsFrom c settled addrSize 0 with
      | [] => none
      | found => some found := by
  obtain ⟨failure?, hcollect⟩ :=
    collect_spec hhold h hsize (Nat.le_add_right inst.count 0)
  unfold Matcher.findAll
  rw [hcollect, ok_bind]
  cases yieldsFrom c settled addrSize 0 <;> rfl

theorem find_spec (hhold : Scratch.hold inst args = .ok s) (h : Prepared c s settled addrSize)
    (hsize : c.mode.hasAddrSize addrSize = true) :
    (c.find inst args).toOption = (yieldsFrom c settled addrSize 0).head? := by
  unfold Matcher.find yieldsFrom
  rw [hhold, ok_bind, h.matchFrom, if_pos hsize, toOption_search, inst_of_settle h.settled,
    List.head?_filterMap]

/-- A match that is found for some operands: a row makes it of them in normal form. -/
def Matcher.Finds (c : Matcher) (inst : Inst) (ops : List Operand) (m : Match) : Prop :=
  ∃ s settled addrSize, Holds s inst ops ∧ Prepared c s settled addrSize ∧
    c.mode.hasAddrSize addrSize = true ∧ Candidate c settled addrSize m

theorem mem_yieldsFrom : m ∈ yieldsFrom c s addrSize 0 ↔ Candidate c s addrSize m := by
  rw [candidate_iff]
  exact List.mem_filterMap

theorem sorted_yieldsFrom (c : Matcher) (s : Scratch) (addrSize : Nat) :
    ((yieldsFrom c s addrSize 0).map (·.row)).Pairwise (· < ·) := by
  have hrows : s.inst.rows.Pairwise fun x y => x.2 < y.2 := by
    rw [List.pairwise_iff_getElem]
    intro i j hi hj hlt
    rw [row_of_getElem? (List.getElem?_eq_getElem hi),
      row_of_getElem? (List.getElem?_eq_getElem hj)]
    omega
  rw [List.pairwise_map]
  refine List.Pairwise.filterMap _ ?_ hrows
  intro x y hlt m hm m' hm'
  rwa [(row_of_yields hm).2, (row_of_yields hm').2]

theorem encodeMatch_of_find (hfind : c.find inst args = .ok m)
    (hcandidate : Candidate c s addrSize m) (b : UInt8) :
    Encoder.encodeMatch c c.mode (some m) b = Encoder.encodeInst c b inst args := by
  have hfeatures : (!c.features.includes m.form.featureSet) = false := by
    rw [hcandidate.features]
    rfl
  unfold Encoder.encodeMatch Encoder.encodeInst
  rw [hfind, mapError_ok, ok_bind]
  dsimp only [Option.getD_some]
  rw [if_neg (not_not.mpr rfl), hfeatures]
  rfl

theorem refused_of_addrSize (hhold : Scratch.hold inst args = .ok s)
    (h : Prepared c s settled addrSize) (hsize : c.mode.hasAddrSize addrSize = false) :
    c.find inst args = .error (.addrSize addrSize c.mode) ∧
      ∃ e, c.findAll inst args = .error e := by
  have hfrom : ∀ offset, c.matchFrom s offset = .error (.addrSize addrSize c.mode) := by
    intro offset
    rw [h.matchFrom, hsize]
    rfl
  constructor
  · unfold Matcher.find
    rw [hhold, ok_bind, hfrom]
  · unfold Matcher.findAll
    cases inst.count with
    | zero => exact ⟨_, rfl⟩
    | succ n =>
      rw [Matcher.collect]
      split
      · exact ⟨_, rfl⟩
      · rw [hhold, ok_bind, hfrom]
        exact ⟨_, rfl⟩

theorem prepared_of_matchFrom {offset : Nat} (h : c.matchFrom s offset = .ok m) :
    ∃ settled addrSize, Prepared c s settled addrSize ∧ c.mode.hasAddrSize addrSize = true := by
  unfold Matcher.matchFrom at h
  obtain ⟨⟨⟩, hchecked, h⟩ := bind_eq_ok h
  obtain ⟨⟨settled, addrSize⟩, hsettle, h⟩ := bind_eq_ok h
  obtain ⟨hsize, -⟩ := eq_ok_of_guard h
  exact ⟨settled, addrSize, ⟨hchecked, hsettle⟩, by simpa using hsize⟩

theorem finds_of_matchFrom {ops : List Operand} (hholds : Holds s inst ops) {offset : Nat}
    (h : c.matchFrom s offset = .ok m) : c.Finds inst ops m := by
  obtain ⟨settled, addrSize, hprepared, hsize⟩ := prepared_of_matchFrom h
  have hsearch := toOption_search c settled addrSize none (settled.inst.rows.drop offset)
  rw [inst_of_settle hprepared.settled, ← (hprepared.matchFrom offset).trans (if_pos hsize), h,
    ← inst_of_settle hprepared.settled] at hsearch
  obtain ⟨x, hx, hyields⟩ := List.exists_of_findSome?_eq_some hsearch.symm
  exact ⟨s, settled, addrSize, hholds, hprepared, hsize,
    candidate_iff.mpr ⟨x, List.mem_of_mem_drop hx, hyields⟩⟩

theorem finds_of_hold {ops : List Operand} (hhold : Scratch.hold inst (ops.map some) = .ok s)
    {offset : Nat} (h : c.matchFrom s offset = .ok m) : c.Finds inst ops m := by
  obtain ⟨ops', hops, hholds⟩ := holds_of_hold hhold
  obtain rfl := (List.map_inj_right fun _ _ => Option.some.inj).mp hops
  exact finds_of_matchFrom hholds h

/-- A search for one match finds the first row that makes one. -/
theorem least_of_find {ops : List Operand} (h : c.find inst (ops.map some) = .ok m) :
    ∃ s settled addrSize, Holds s inst ops ∧ Prepared c s settled addrSize ∧
      Candidate c settled addrSize m ∧ ∀ m', Candidate c settled addrSize m' → m.row ≤ m'.row := by
  obtain ⟨s, hhold, hfrom⟩ := bind_eq_ok h
  obtain ⟨ops', hops, hholds⟩ := holds_of_hold hhold
  obtain rfl := (List.map_inj_right fun _ _ => Option.some.inj).mp hops
  obtain ⟨settled, addrSize, hprepared, hsize⟩ := prepared_of_matchFrom hfrom
  have hfirst := find_spec hhold hprepared hsize
  rw [h] at hfirst
  obtain ⟨rest, hrest⟩ := List.head?_eq_some_iff.mp hfirst.symm
  have hsorted := sorted_yieldsFrom c settled addrSize
  rw [hrest, List.map_cons, List.pairwise_cons] at hsorted
  refine ⟨s, settled, addrSize, hholds, hprepared, mem_yieldsFrom.mp ?_, fun m' hm' => ?_⟩
  · rw [hrest]
    exact List.mem_cons_self
  · have hmem := mem_yieldsFrom.mpr hm'
    rw [hrest] at hmem
    rcases List.mem_cons.mp hmem with rfl | hmem
    · exact Nat.le_refl _
    · exact Nat.le_of_lt (hsorted.1 _ (List.mem_map_of_mem hmem))

theorem finds_of_find {ops : List Operand} (h : c.find inst (ops.map some) = .ok m) :
    c.Finds inst ops m := by
  obtain ⟨s, hhold, h⟩ := bind_eq_ok h
  exact finds_of_hold hhold h

theorem finds_of_collect {ops : List Operand} {rounds offset : Nat} {found : List Match}
    {failure? : Option Refusal}
    (h : c.collect inst (ops.map some) rounds offset = .ok (found, failure?)) (hm : m ∈ found) :
    c.Finds inst ops m := by
  induction rounds generalizing offset found with
  | zero =>
    cases h
    cases hm
  | succ rounds ih =>
    rw [Matcher.collect] at h
    split at h
    · cases h
      cases hm
    · obtain ⟨s, hhold, h⟩ := bind_eq_ok h
      split at h
      · cases h
        cases hm
      next m' hfrom =>
        obtain ⟨⟨rest, failure?⟩, hrest, h⟩ := bind_eq_ok h
        cases h
        rcases List.mem_cons.mp hm with rfl | hm
        · exact finds_of_hold hhold hfrom
        · exact ih hrest hm

theorem finds_of_findAll {ops : List Operand} {ms : List Match}
    (h : c.findAll inst (ops.map some) = .ok ms) (hm : m ∈ ms) : c.Finds inst ops m := by
  unfold Matcher.findAll at h
  obtain ⟨⟨found, failure?⟩, hcollect, h⟩ := bind_eq_ok h
  cases found with
  | nil => cases h
  | cons m' rest =>
    cases h
    exact finds_of_collect hcollect hm

/-- Rows are tried independently of one another. Of operands that are fit for a mode, and with an
address that has a width of the mode, all matches are those that the rows make of the operands one
by one, in order; a search for one match finds the first of them, and to encode it later is to
encode the instruction. No other address has a match. -/
theorem rows_tried_independently (hhold : Scratch.hold inst args = .ok s)
    (hchecked : s.checkMode c.mode = .ok ()) (hsettle : s.settle c.mode = .ok (settled, addrSize)) :
    if c.mode.hasAddrSize addrSize then
      ∃ found : List Match, (found.map (·.row)).Pairwise (· < ·) ∧
        (∀ m, m ∈ found ↔ Candidate c settled addrSize m) ∧
        match found with
        | [] => (∃ e, c.findAll inst args = .error e) ∧ ∃ e, c.find inst args = .error e
        | m :: _ => c.findAll inst args = .ok found ∧ c.find inst args = .ok m ∧
          ∀ b, Encoder.encodeMatch c c.mode (some m) b = Encoder.encodeInst c b inst args
    else
      c.find inst args = .error (.addrSize addrSize c.mode) ∧
        ∃ e, c.findAll inst args = .error e := by
  have hprepared : Prepared c s settled addrSize := ⟨hchecked, hsettle⟩
  split
  next hsize =>
    refine ⟨yieldsFrom c settled addrSize 0, sorted_yieldsFrom .., fun _ => mem_yieldsFrom, ?_⟩
    have hall := findAll_spec hhold hprepared hsize
    have hfirst := find_spec hhold hprepared hsize
    have hcandidates : ∀ m ∈ yieldsFrom c settled addrSize 0, Candidate c settled addrSize m :=
      fun _ => mem_yieldsFrom.mp
    generalize yieldsFrom c settled addrSize 0 = found at hall hfirst hcandidates
    cases found with
    | nil => exact ⟨eq_error_of_toOption hall, eq_error_of_toOption hfirst⟩
    | cons m rest =>
      have hfind := eq_ok_of_toOption hfirst
      exact ⟨eq_ok_of_toOption hall, hfind, encodeMatch_of_find hfind
        (hcandidates m List.mem_cons_self)⟩
  next hsize => exact refused_of_addrSize hhold hprepared (Bool.eq_false_iff.mpr hsize)

end All

def moveWide : List (Option Operand) :=
  [some (.reg (.make .legacy 8 0)), some (.imm (.unsized 0x10000000000))]

def wideHeld : Scratch :=
  { inst := ⟨0x32da02d1⟩
    args := [.plain (.reg (.make .legacy 8 0)), .plain (.imm (.unsized 0x10000000000))] }

/-- The row with an immediate of four bytes takes the operands, but only that with eight sizes
them. -/
theorem rows_tried_independently_wide :
    ∃ found : List Match, (found.map (·.row)).Pairwise (· < ·) ∧
      (∀ m, m ∈ found ↔ Candidate ⟨.x64, .everything⟩ wideHeld 8 m) ∧
      match found with
      | [] => (∃ e, Matcher.findAll ⟨.x64, .everything⟩ ⟨0x32da02d1⟩ moveWide = .error e) ∧
        ∃ e, Matcher.find ⟨.x64, .everything⟩ ⟨0x32da02d1⟩ moveWide = .error e
      | m :: _ => Matcher.findAll ⟨.x64, .everything⟩ ⟨0x32da02d1⟩ moveWide = .ok found ∧
        Matcher.find ⟨.x64, .everything⟩ ⟨0x32da02d1⟩ moveWide = .ok m ∧
        ∀ b, Encoder.encodeMatch ⟨.x64, .everything⟩ .x64 (some m) b =
          Encoder.encodeInst ⟨.x64, .everything⟩ b ⟨0x32da02d1⟩ moveWide := by
  have hhold : Scratch.hold ⟨0x32da02d1⟩ moveWide = .ok wideHeld := by decide +kernel
  have hsettle : wideHeld.settle .x64 = .ok (wideHeld, 8) := by decide
  exact rows_tried_independently (c := ⟨.x64, .everything⟩) hhold (by decide) hsettle

def moveNear : List (Option Operand) :=
  [some (.reg (.make .legacy 2 0)), some (.mem { base := some (.make .legacy 2 3) })]

def nearHeld (code : Nat) (scale : Nat) : Scratch :=
  { inst := ⟨0x32da02d1⟩
    args := [.plain (.reg (.make .legacy 2 0)), .memory]
    memOffset := some 1
    mem := { base := some (.make .legacy 2 code), scale } }

/-- In 64-bit mode no address has two bytes: although there is a row that takes the operands and
can size them, there is no match. -/
theorem counterexample_near :
    Scratch.hold ⟨0x32da02d1⟩ moveNear = .ok (nearHeld 3 0) ∧
    (nearHeld 3 0).checkMode .x64 = .ok () ∧
    (nearHeld 3 0).settle .x64 = .ok (nearHeld 7 1, 2) ∧
    (∃ m, Candidate ⟨.x64, .everything⟩ (nearHeld 7 1) 2 m) ∧
    ∀ found, Matcher.findAll ⟨.x64, .everything⟩ ⟨0x32da02d1⟩ moveNear ≠ .ok found := by
  have hrow : ∃ x ∈ (⟨0x32da02d1⟩ : Inst).rows,
      (yields ⟨.x64, .everything⟩ (nearHeld 7 1) 2 x).isSome = true := by decide +kernel
  have hrefused : (Matcher.findAll ⟨.x64, .everything⟩ ⟨0x32da02d1⟩ moveNear).toOption = none := by
    decide +kernel
  refine ⟨by decide +kernel, by decide, by decide, ?_, fun found hfound => ?_⟩
  · obtain ⟨x, hx, hsome⟩ := hrow
    obtain ⟨m, hm⟩ := Option.isSome_iff_exists.mp hsome
    exact ⟨m, candidate_iff.mpr ⟨x, hx, hm⟩⟩
  · rw [hfound] at hrefused
    cases hrefused

end MachineCode.X86
