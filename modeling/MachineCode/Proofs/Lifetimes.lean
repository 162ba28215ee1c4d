import Mathlib.Data.List.Basic
import MachineCode.Proofs.Regions

/-!
How long regions live. A region is held by its owner, as long as it is the current one and has not
been let go of, and by the locked guards on it. It is given back in the step in which the last of
them lets go, and never again; what a guard sees stays as it is until the guard is unlocked.
-/
namespace MachineCode

def Event.freed? : Event → Option UInt64
  | .released base => some base
  | _ => none

namespace Memory

/-- The number of locked guards on a region. -/
def outstanding (m : Memory) (i : Nat) : Nat :=
  m.guards.countP fun g => g.locked && g.region == i

/-- Between two states, a region with memory has lost its last holder. -/
def emptied (m m' : Memory) (i : Nat) : Bool :=
  match m.region? i, m'.region? i with
  | some r, some r' => r.hasMemory && r.holders != 0 && r'.holders == 0
  | _, _ => false

def frees (m m' : Memory) : List Nat := (List.range (m'.past.length + 1)).filter (m.emptied m')

def bases (m : Memory) (regions : List Nat) : List UInt64 :=
  regions.filterMap fun i => (m.region? i).map (·.base)

section regions

variable {m m' : Memory} {i j : Nat} {r : Region}

@[simp] theorem region?_current (m : Memory) : m.region? m.past.length = some m.current :=
  if_pos rfl

theorem region?_isSome_iff : (m.region? i).isSome ↔ i ≤ m.past.length := by
  unfold region?
  split
  · simp only [Option.isSome_some, true_iff]
    omega
  · rw [isSome_getElem?]
    omega

theorem le_of_region? (h : m.region? i = some r) : i ≤ m.past.length :=
  region?_isSome_iff.mp (h ▸ rfl)

theorem region?_eq_none (hlen : m'.past.length = m.past.length) (h : m.region? i = none) :
    m'.region? i = none := by
  rw [← Option.not_isSome_iff_eq_none, region?_isSome_iff] at h ⊢
  omega

theorem region?_setRegion (h : i ≤ m.past.length) :
    (m.setRegion i r).region? j = if j = i then some r else m.region? j := by
  unfold setRegion
  split
  · rename_i hi
    subst hi
    by_cases hj : j = m.past.length
    · simp [hj]
    · simp [region?, hj]
  · rename_i hi
    by_cases hj : j = i
    · subst hj
      have hlt : j < m.past.length := by omega
      simp [region?, hi, hlt]
    · by_cases hc : j = m.past.length
      · simp [region?, hc, Ne.symm hi]
      · simp [region?, hc, hj, List.getElem?_set_ne (Ne.symm hj)]

theorem length_past_release (m : Memory) (i : Nat) :
    (m.release i).1.past.length = m.past.length := (m.release_current i).2.2

theorem region?_release (m : Memory) (i j : Nat) :
    (m.release i).1.region? j =
      if j = i then (m.region? i).map fun r => { r with holders := r.holders - 1 }
      else m.region? j := by
  unfold release
  cases hr : m.region? i with
  | none =>
    by_cases hj : j = i
    · simp [hj, hr]
    · simp [hj]
  | some r => simpa using region?_setRegion (le_of_region? hr)

theorem guards_release (m : Memory) (i : Nat) : (m.release i).1.guards = m.guards := by
  unfold release setRegion
  cases m.region? i with
  | none => rfl
  | some r =>
    dsimp only
    split <;> rfl

theorem region?_setCode (m : Memory) (code : Bytes) (j : Nat) :
    (m.setCode code).region? j =
      if j = m.past.length then some { m.current with code } else m.region? j := by
  unfold region? setCode
  split <;> simp_all

/-- Memory with a new current region, while the one before is still held. -/
def opened (m : Memory) (base : UInt64) (capacity : Nat) (code : Bytes) : Memory :=
  { m with past := m.past ++ [m.current], current := ⟨base, capacity, code, 1⟩ }

theorem region?_opened (m : Memory) (base : UInt64) (capacity : Nat) (code : Bytes) (j : Nat) :
    (m.opened base capacity code).region? j =
      if j = m.past.length + 1 then some ⟨base, capacity, code, 1⟩ else m.region? j := by
  by_cases hnew : j = m.past.length + 1
  · simp [region?, opened, hnew]
  · simp only [region?, opened, hnew, if_false, List.length_append, List.length_singleton]
    rcases Nat.lt_trichotomy j m.past.length with hlt | rfl | hgt
    · rw [List.getElem?_append_left hlt, if_neg (Nat.ne_of_lt hlt)]
    · simp
    · rw [List.getElem?_eq_none (by simp; omega), if_neg (by omega),
        List.getElem?_eq_none (by omega)]

/-- The region that code has moved to, before the owner lets go of the one that it has left. -/
theorem move_eq (m : Memory) (base : UInt64) (minimum : Nat) (code : Bytes) :
    ∃ capacity, m.move base minimum code =
      (((m.opened base capacity code).release m.past.length).1,
        .grew capacity code.length m.current.base base ::
          ((m.opened base capacity code).release m.past.length).2) :=
  ⟨nextCapacity m.current.capacity minimum code.length, rfl⟩

/-- The new region can get other code of the same length at once. -/
theorem move_setCode (m : Memory) (base : UInt64) (minimum : Nat) {code code' : Bytes}
    (h : code.length = code'.length) :
    (m.move base minimum code').1.setCode code = (m.move base minimum code).1 ∧
      (m.move base minimum code').2.filterMap Event.freed? =
        (m.move base minimum code).2.filterMap Event.freed? := by
  simp [move, release, region?, setRegion, setCode, h]

/-- At most one region is given back if only one can have lost its last holder. -/
theorem frees_eq {c : Bool} (hi : i ≤ m'.past.length)
    (h : ∀ j, m.emptied m' j = (j == i && c)) : m.frees m' = if c then [i] else [] := by
  unfold frees
  rw [List.filter_congr fun j _ => h j]
  cases c with
  | false => simp
  | true =>
    have hmem : i ∈ List.range (m'.past.length + 1) := List.mem_range.mpr (by omega)
    simp only [Bool.and_true, if_true, List.filter_beq]
    rw [List.nodup_range.count, if_pos hmem]
    rfl

theorem emptied_iff : m.emptied m' i = true ↔ ∃ r r', m.region? i = some r ∧
    m'.region? i = some r' ∧ r.hasMemory = true ∧ r.holders ≠ 0 ∧ r'.holders = 0 := by
  unfold emptied
  cases m.region? i <;> cases m'.region? i <;> simp [and_assoc]

theorem mem_frees_iff : i ∈ m.frees m' ↔ ∃ r r', m.region? i = some r ∧
    m'.region? i = some r' ∧ r.hasMemory = true ∧ r.holders ≠ 0 ∧ r'.holders = 0 := by
  unfold frees
  rw [List.mem_filter, emptied_iff, List.mem_range]
  constructor
  · exact And.right
  · rintro ⟨r, r', hr, hr', h⟩
    exact ⟨Nat.lt_succ_of_le (le_of_region? hr'), r, r', hr, hr', h⟩

theorem emptied_of_holders (h : ∀ r r', m.region? j = some r → m'.region? j = some r' →
    r.holders ≠ 0 → r'.holders ≠ 0) : m.emptied m' j = false := by
  rw [Bool.eq_false_iff]
  intro he
  obtain ⟨r, r', hr, hr', -, hne, hzero⟩ := emptied_iff.mp he
  exact h r r' hr hr' hne hzero

theorem frees_eq_nil (h : ∀ j r r', m.region? j = some r → m'.region? j = some r' →
    r.holders ≠ 0 → r'.holders ≠ 0) : m.frees m' = [] :=
  List.filter_eq_nil_iff.mpr fun j _ => by simp [emptied_of_holders (h j)]

theorem bases_congr {regions : List Nat}
    (h : ∀ i ∈ regions, ∃ r r', m.region? i = some r ∧ m'.region? i = some r' ∧ r'.base = r.base) :
    m'.bases regions = m.bases regions := by
  refine List.filterMap_congr ?_
  intro i hi
  obtain ⟨r, r', hr, hr', hbase⟩ := h i hi
  simp [hr, hr', hbase]

end regions

/-- Every region is held by the locked guards on it and, if it is the current one, by its owner
until that lets go. -/
structure Held (m : Memory) (owned : Bool) : Prop where
  placed : ∀ g ∈ m.guards, g.region ≤ m.past.length
  counted : ∀ i r, m.region? i = some r →
    r.holders = m.outstanding i + if i = m.past.length ∧ owned = true then 1 else 0

theorem Held.outstanding_eq_zero {m : Memory} {owned : Bool} {i : Nat} (h : Held m owned)
    (hi : m.past.length < i) : m.outstanding i = 0 := by
  refine List.countP_eq_zero.mpr ?_
  intro g hg
  have hle := h.placed g hg
  have hne : g.region ≠ i := by omega
  simp [hne]

theorem outstanding_ne_zero {m : Memory} {g i : Nat} (hg : m.guards[g]? = some ⟨i, true⟩) :
    m.outstanding i ≠ 0 :=
  Nat.pos_iff_ne_zero.mp (List.countP_pos_iff.mpr ⟨_, List.mem_of_getElem? hg, by simp⟩)

structure Turns (m : Memory) (owned : Bool) (m' : Memory) (owned' : Bool) (events : List Event) :
    Prop where
  held : Held m' owned'
  kept : ∀ i r, m.region? i = some r → ∃ r', m'.region? i = some r' ∧ r'.base = r.base ∧
    r'.hasMemory = r.hasMemory ∧ (r.holders = 0 → r'.holders = 0) ∧
      (m.outstanding i ≠ 0 → r'.code = r.code)
  fresh : ∀ i r', m.region? i = none → m'.region? i = some r' → r'.holders ≠ 0
  guards : ∀ (g i : Nat) (locked : Bool), m.guards[g]? = some ⟨i, locked⟩ →
    ∃ locked', m'.guards[g]? = some ⟨i, locked'⟩ ∧ (locked' = true → locked = true)
  freed : events.filterMap Event.freed? = m'.bases (m.frees m')

section turns

variable {m : Memory} {owned : Bool}

theorem Held.stays (h : Held m owned) : Turns m owned m owned [] where
  held := h
  kept _ r hr := ⟨r, hr, rfl, rfl, id, fun _ => rfl⟩
  fresh i r' hnone hr := by simp [hnone] at hr
  guards g i locked hg := ⟨locked, hg, id⟩
  freed := by
    have hnone : m.frees m = [] := by
      refine frees_eq_nil ?_
      intro j r r' hr hr' hne
      rw [hr] at hr'
      exact Option.some.inj hr' ▸ hne
    rw [hnone]
    rfl

/-- Code changes in place only where no guard looks. -/
theorem Held.setCode (h : Held m owned) (hread : m.outstanding m.past.length = 0)
    (code : Bytes) : Turns m owned (m.setCode code) owned [] := by
  have hregion : ∀ i r, m.region? i = some r → ∃ r', (m.setCode code).region? i = some r' ∧
      r'.base = r.base ∧ r'.capacity = r.capacity ∧ r'.holders = r.holders ∧
        (m.outstanding i ≠ 0 → r'.code = r.code) := by
    intro i r hr
    rw [region?_setCode]
    by_cases hi : i = m.past.length
    · subst hi
      obtain rfl := Option.some.inj ((region?_current m).symm.trans hr)
      exact ⟨_, if_pos rfl, rfl, rfl, rfl, fun hne => absurd hread hne⟩
    · exact ⟨r, (if_neg hi).trans hr, rfl, rfl, rfl, fun _ => rfl⟩
  have hback : ∀ i r', (m.setCode code).region? i = some r' → ∃ r, m.region? i = some r := by
    intro i r' hr'
    have hle : i ≤ m.past.length := le_of_region? (m := m.setCode code) hr'
    exact Option.isSome_iff_exists.mp (region?_isSome_iff.mpr hle)
  refine ⟨⟨h.placed, ?_⟩, ?_, ?_, fun g i locked hg => ⟨locked, hg, id⟩, ?_⟩
  · intro i r' hr'
    obtain ⟨r, hr⟩ := hback i r' hr'
    obtain ⟨r'', hr'', -, -, hholders, -⟩ := hregion i r hr
    obtain rfl := Option.some.inj (hr''.symm.trans hr')
    exact hholders.trans (h.counted i r hr)
  · intro i r hr
    obtain ⟨r', hr', hbase, hcap, hholders, hcode⟩ := hregion i r hr
    exact ⟨r', hr', hbase, by simp [Region.hasMemory, hcap], by simp [hholders], hcode⟩
  · intro i r' hnone hr'
    have hnone' : (m.setCode code).region? i = none := region?_eq_none (m := m) rfl hnone
    rw [hnone'] at hr'
    cases hr'
  · rw [frees_eq_nil fun j r r' hr hr' hne => ?_]
    · rfl
    · obtain ⟨r'', hr'', -, -, hholders, -⟩ := hregion j r hr
      obtain rfl := Option.some.inj (hr''.symm.trans hr')
      exact hholders ▸ hne

/-- A region is given back by the last holder that lets go of it. -/
theorem release_frees {i : Nat} {r : Region} (hr : m.region? i = some r) (hheld : r.holders ≠ 0) :
    (m.release i).2.filterMap Event.freed? =
      (m.release i).1.bases (m.frees (m.release i).1) := by
  have hlast : m.frees (m.release i).1 = if r.holders = 1 && r.hasMemory then [i] else [] := by
    refine frees_eq ((length_past_release m i).symm ▸ le_of_region? hr) ?_
    intro j
    by_cases hj : j = i
    · subst hj
      rw [Bool.eq_iff_iff]
      simp only [emptied, region?_release, if_true, hr, Option.map_some, beq_self_eq_true,
        Bool.true_and, Bool.and_eq_true, bne_iff_ne, beq_iff_eq, decide_eq_true_eq]
      constructor
      · rintro ⟨⟨hmem, -⟩, hzero⟩
        exact ⟨by omega, hmem⟩
      · rintro ⟨hone, hmem⟩
        exact ⟨⟨hmem, hheld⟩, by omega⟩
    · rw [beq_false_of_ne hj, Bool.false_and]
      refine emptied_of_holders ?_
      intro q q' hq hq'
      rw [region?_release, if_neg hj, hq] at hq'
      exact Option.some.inj hq' ▸ id
  rw [hlast]
  have hevents : (m.release i).2 =
      if r.holders = 1 && r.hasMemory then [.released r.base] else [] := by
    simp only [release, hr]
  rw [hevents]
  split
  · simp [bases, region?_release, hr, Event.freed?]
  · rfl

/-- One holder lets go of a region; `guards` are the guards after that. -/
theorem Held.release {i : Nat} {r : Region} {guards : List Guard} {owned' : Bool}
    (h : Held m owned) (hr : m.region? i = some r) (hheld : r.holders ≠ 0)
    (hplaced : ∀ g ∈ guards, g.region ≤ m.past.length)
    (hguards : ∀ (g i : Nat) (locked : Bool), m.guards[g]? = some ⟨i, locked⟩ →
      ∃ locked', guards[g]? = some ⟨i, locked'⟩ ∧ (locked' = true → locked = true))
    (hcount : ∀ j, (guards.countP fun g => g.locked && g.region == j) +
        (if j = m.past.length ∧ owned' = true then 1 else 0) + (if j = i then 1 else 0) =
      m.outstanding j + if j = m.past.length ∧ owned = true then 1 else 0) :
    Turns m owned ({ m with guards }.release i).1 owned' ({ m with guards }.release i).2 := by
  have hsame : ∀ j, { m with guards }.region? j = m.region? j := fun _ => rfl
  have hlen := length_past_release { m with guards } i
  have hkeep := guards_release { m with guards } i
  refine ⟨⟨?_, ?_⟩, ?_, ?_, ?_, ?_⟩
  · rw [hkeep, hlen]
    exact hplaced
  · intro j q' hq'
    rw [region?_release] at hq'
    have hj := hcount j
    have hout : ({ m with guards }.release i).1.outstanding j =
        guards.countP fun g => g.locked && g.region == j := by
      rw [outstanding, hkeep]
    rw [hout, hlen]
    change q'.holders = _ + if j = m.past.length ∧ owned' = true then 1 else 0
    by_cases hi : j = i
    · subst hi
      rw [if_pos rfl, hsame, hr] at hq'
      obtain rfl := Option.some.inj hq'
      have hc := h.counted j r hr
      simp only [if_true] at hj
      change r.holders - 1 = _
      omega
    · rw [if_neg hi, hsame] at hq'
      have hc := h.counted j q' hq'
      simp only [if_neg hi] at hj
      omega
  · intro j q hq
    rw [region?_release]
    by_cases hi : j = i
    · subst hi
      obtain rfl := Option.some.inj (hr.symm.trans hq)
      exact ⟨{ r with holders := r.holders - 1 }, by simp [hsame, hr], rfl, rfl,
        fun hzero => absurd hzero hheld, fun _ => rfl⟩
    · exact ⟨q, (if_neg hi).trans hq, rfl, rfl, id, fun _ => rfl⟩
  · intro j q' hnone hq'
    exact absurd hq' (by simp [region?_eq_none hlen hnone])
  · rw [hkeep]
    exact hguards
  · have hfrees : m.frees ({ m with guards }.release i).1 =
        { m with guards }.frees ({ m with guards }.release i).1 := rfl
    rw [hfrees]
    exact release_frees (m := { m with guards }) hr hheld

theorem Held.releaseCurrent (h : Held m true) :
    Turns m true m.releaseCurrent.1 false m.releaseCurrent.2 := by
  have hcount := h.counted _ _ (region?_current m)
  simp only [and_true, if_true] at hcount
  refine @Held.release _ _ _ _ m.guards _ h (region?_current m) (by omega) h.placed ?_ ?_
  · intro g i locked hg
    exact ⟨locked, hg, id⟩
  · intro j
    simp [outstanding]

/-- A guard lets go of its region the first time that it is unlocked. -/
theorem Held.unlock (h : Held m owned) (guard : Nat) :
    Turns m owned (m.unlock guard).1 owned (m.unlock guard).2 := by
  unfold Memory.unlock
  split
  · rename_i i hg
    obtain ⟨hlt, hat⟩ := List.getElem?_eq_some_iff.mp hg
    have hmem : ⟨i, true⟩ ∈ m.guards := List.mem_of_getElem? hg
    have hone := outstanding_ne_zero hg
    obtain ⟨r, hr⟩ := Option.isSome_iff_exists.mp (region?_isSome_iff.mpr (h.placed _ hmem))
    have hcount := h.counted i r hr
    refine h.release hr (by omega) ?_ ?_ ?_
    · intro g hg'
      rcases List.mem_or_eq_of_mem_set hg' with hg' | rfl
      · exact h.placed g hg'
      · exact h.placed ⟨i, true⟩ hmem
    · intro g j locked hj
      by_cases hne : guard = g
      · subst hne
        obtain ⟨rfl, rfl⟩ := Guard.mk.inj (Option.some.inj (hg.symm.trans hj))
        exact ⟨false, List.getElem?_set_self hlt, by simp⟩
      · exact ⟨locked, (List.getElem?_set_ne hne).trans hj, id⟩
    · intro j
      rw [List.countP_set hlt, hat]
      unfold outstanding at hone ⊢
      by_cases hj : j = i
      · subst hj
        simp
        omega
      · simp [hj, Ne.symm hj]
  · exact h.stays

theorem Held.lock {guard : Nat} {m' : Memory} (h : Held m owned)
    (hlock : m.lock = .ok (guard, m')) : Turns m owned m' owned [] := by
  unfold Memory.lock at hlock
  split at hlock
  · cases hlock
  rename_i hheld
  obtain ⟨-, rfl⟩ := Prod.mk.inj (Except.ok.inj hlock)
  generalize hm' : Memory.mk m.past { m.current with holders := m.current.holders + 1 }
    (m.guards ++ [⟨m.past.length, true⟩]) = m'
  have hregion : ∀ i, m'.region? i =
      if i = m.past.length then some { m.current with holders := m.current.holders + 1 }
      else m.region? i := by
    intro i
    subst hm'
    unfold region?
    split <;> simp_all
  have hguards : m'.guards = m.guards ++ [⟨m.past.length, true⟩] := hm' ▸ rfl
  have hpast : m'.past.length = m.past.length := hm' ▸ rfl
  refine ⟨⟨?_, ?_⟩, ?_, ?_, ?_, ?_⟩
  · intro g hg
    rw [hpast]
    rw [hguards] at hg
    rcases List.mem_append.mp hg with hg | hg
    · exact h.placed g hg
    · exact Nat.le_of_eq (congrArg Guard.region (List.mem_singleton.mp hg))
  · intro i r' hr'
    rw [hregion] at hr'
    unfold outstanding
    rw [hguards, hpast, List.countP_append, List.countP_singleton]
    by_cases hi : i = m.past.length
    · subst hi
      rw [if_pos rfl] at hr'
      obtain rfl := Option.some.inj hr'
      have hcount := h.counted _ _ (region?_current m)
      unfold outstanding at hcount
      simp only [true_and, Bool.true_and, beq_self_eq_true, if_true] at hcount ⊢
      omega
    · rw [if_neg hi] at hr'
      have hcount := h.counted i r' hr'
      unfold outstanding at hcount
      simp only [hi, Ne.symm hi, false_and, if_false, Bool.true_and, beq_iff_eq]
        at hcount ⊢
      omega
  · intro i r hr
    by_cases hi : i = m.past.length
    · subst hi
      obtain rfl := Option.some.inj ((region?_current m).symm.trans hr)
      exact ⟨_, (hregion _).trans (if_pos rfl), rfl, rfl, fun hzero => absurd hzero hheld,
        fun _ => rfl⟩
    · exact ⟨r, ((hregion i).trans (if_neg hi)).trans hr, rfl, rfl, id, fun _ => rfl⟩
  · intro i r' hnone hr'
    exact absurd hr' (by simp [region?_eq_none hpast hnone])
  · intro g i locked hg
    obtain ⟨hlt, -⟩ := List.getElem?_eq_some_iff.mp hg
    rw [hguards, List.getElem?_append_left hlt]
    exact ⟨locked, hg, id⟩
  · rw [frees_eq_nil fun j r r' hr hr' hne => ?_]
    · rfl
    · rw [hregion] at hr'
      by_cases hj : j = m.past.length
      · rw [if_pos hj] at hr'
        obtain rfl := Option.some.inj hr'
        exact Nat.succ_ne_zero _
      · rw [if_neg hj, hr] at hr'
        exact Option.some.inj hr' ▸ hne

/-- Code moves, and the owner with it. -/
theorem Held.move (h : Held m true) (base : UInt64) (minimum : Nat) (code : Bytes) :
    Turns m true (m.move base minimum code).1 true (m.move base minimum code).2 := by
  have hcurrent := h.counted _ _ (region?_current m)
  simp only [and_true, if_true] at hcurrent
  have hpast := (m.move_current base minimum code).2.2
  obtain ⟨capacity, hmove⟩ := m.move_eq base minimum code
  have hopened := region?_opened m base capacity code
  have hleft : (m.opened base capacity code).region? m.past.length = some m.current := by
    rw [hopened, if_neg (by omega), region?_current]
  rw [hmove] at hpast ⊢
  generalize hm' : ((m.opened base capacity code).release m.past.length).1 = m' at hpast ⊢
  have hregion : ∀ j, m'.region? j =
      if j = m.past.length + 1 then some ⟨base, capacity, code, 1⟩
      else if j = m.past.length then some { m.current with holders := m.current.holders - 1 }
      else m.region? j := by
    intro j
    rw [← hm', region?_release, hleft, hopened]
    by_cases hj : j = m.past.length
    · simp [hj]
    · simp [hj]
  have hguards : m'.guards = m.guards := by
    rw [← hm', guards_release]
    rfl
  have hbelow : ∀ i r, m.region? i = some r → i ≠ m.past.length + 1 := by
    intro i r hr
    have hle := le_of_region? hr
    omega
  refine ⟨⟨?_, ?_⟩, ?_, ?_, ?_, ?_⟩
  · intro g hg
    rw [hpast]
    exact Nat.le_succ_of_le (h.placed g (hguards ▸ hg))
  · intro i r' hr'
    rw [hregion] at hr'
    unfold outstanding
    rw [hguards, hpast]
    by_cases hnew : i = m.past.length + 1
    · rw [if_pos hnew] at hr'
      obtain rfl := Option.some.inj hr'
      have hnone := h.outstanding_eq_zero (i := i) (by omega)
      unfold outstanding at hnone
      simp [hnew, hnew ▸ hnone]
    · rw [if_neg hnew] at hr'
      by_cases hi : i = m.past.length
      · rw [if_pos hi] at hr'
        obtain rfl := Option.some.inj hr'
        unfold outstanding at hcurrent
        subst hi
        simp
        omega
      · rw [if_neg hi] at hr'
        have hcount := h.counted i r' hr'
        unfold outstanding at hcount
        simpa [hi, hnew] using hcount
  · intro i r hr
    have hnew := hbelow i r hr
    by_cases hi : i = m.past.length
    · subst hi
      obtain rfl := Option.some.inj ((region?_current m).symm.trans hr)
      refine ⟨{ m.current with holders := m.current.holders - 1 }, ?_, rfl, rfl, ?_, fun _ => rfl⟩
      · rw [hregion, if_neg hnew, if_pos rfl]
      · intro hzero
        change m.current.holders - 1 = 0
        omega
    · refine ⟨r, ?_, rfl, rfl, id, fun _ => rfl⟩
      rw [hregion, if_neg hnew, if_neg hi, hr]
  · intro i r' hnone hr'
    have hle : ¬ i ≤ m.past.length := by
      rw [← region?_isSome_iff, hnone]
      simp
    rw [hregion] at hr'
    split at hr'
    · obtain rfl := Option.some.inj hr'
      exact Nat.one_ne_zero
    · rw [if_neg (by omega), hnone] at hr'
      cases hr'
  · intro g i locked hg
    exact ⟨locked, hguards ▸ hg, id⟩
  · -- Apart from the new region, which has a holder, only the region left behind changes.
    have hsame : ∀ j, m.emptied m' j = (m.opened base capacity code).emptied m' j := by
      intro j
      by_cases hnew : j = m.past.length + 1
      · have hnone : m.emptied m' j = false :=
          emptied_of_holders fun r r' hr _ _ => absurd hnew (hbelow j r hr)
        rw [hnone, eq_comm]
        refine emptied_of_holders ?_
        intro r r' _ hr' _
        rw [hregion, if_pos hnew] at hr'
        exact Option.some.inj hr' ▸ Nat.one_ne_zero
      · rw [emptied, emptied, hopened, if_neg hnew]
    have hfrees : m.frees m' = (m.opened base capacity code).frees m' :=
      List.filter_congr fun j _ => hsame j
    rw [hfrees, ← hm']
    exact release_frees hleft (by omega)

end turns

def Sees (m m' : Memory) : Prop :=
  ∀ (g i : Nat) (locked : Bool), m.guards[g]? = some ⟨i, locked⟩ →
    ∃ locked', m'.guards[g]? = some ⟨i, locked'⟩ ∧ (locked' = true → locked = true ∧
      ∃ r r', m.guarded? g = some r ∧ m'.guarded? g = some r' ∧
        r'.code = r.code ∧ r'.base = r.base)

theorem Sees.trans {m₁ m₂ m₃ : Memory} (h : Sees m₁ m₂) (h' : Sees m₂ m₃) : Sees m₁ m₃ := by
  intro g i locked₁ hg₁
  obtain ⟨locked₂, hg₂, hsame⟩ := h g i locked₁ hg₁
  obtain ⟨locked₃, hg₃, hsame'⟩ := h' g i locked₂ hg₂
  refine ⟨locked₃, hg₃, ?_⟩
  intro hlocked
  obtain ⟨hlocked₂, r₂, r₃, hr₂, hr₃, hcode', hbase'⟩ := hsame' hlocked
  obtain ⟨hlocked₁, r₁, q₂, hr₁, hq₂, hcode, hbase⟩ := hsame hlocked₂
  obtain rfl := Option.some.inj (hq₂.symm.trans hr₂)
  exact ⟨hlocked₁, r₁, r₃, hr₁, hr₃, hcode'.trans hcode, hbase'.trans hbase⟩

theorem guarded?_eq {m : Memory} {g i : Nat} {locked : Bool}
    (hg : m.guards[g]? = some ⟨i, locked⟩) : m.guarded? g = m.region? i := by
  rw [guarded?, hg]
  rfl

theorem Held.guarded {m : Memory} {owned : Bool} {g i : Nat} {locked : Bool} (h : Held m owned)
    (hg : m.guards[g]? = some ⟨i, locked⟩) : ∃ r, m.region? i = some r :=
  Option.isSome_iff_exists.mp (region?_isSome_iff.mpr (h.placed _ (List.mem_of_getElem? hg)))

theorem Held.sees {m : Memory} {owned : Bool} (h : Held m owned) : Sees m m := by
  intro g i locked hg
  obtain ⟨r, hr⟩ := h.guarded hg
  rw [← guarded?_eq hg] at hr
  exact ⟨locked, hg, fun hl => ⟨hl, r, r, hr, hr, rfl, rfl⟩⟩

theorem Turns.sees {m m' : Memory} {owned owned' : Bool} {events : List Event}
    (h : Held m owned) (ht : Turns m owned m' owned' events) : Sees m m' := by
  intro g i locked hg
  obtain ⟨locked', hg', hback⟩ := ht.guards g i locked hg
  refine ⟨locked', hg', ?_⟩
  intro hl
  obtain rfl := hback hl
  obtain ⟨r, hr⟩ := h.guarded hg
  obtain ⟨r', hr', hbase, -, -, hcode⟩ := ht.kept i r hr
  exact ⟨rfl, r, r', (guarded?_eq hg).trans hr, (guarded?_eq hg').trans hr',
    hcode (outstanding_ne_zero hg), hbase⟩

def Free (m : Memory) (owned : Bool) (i : Nat) : Prop :=
  m.outstanding i = 0 ∧ ¬ (i = m.past.length ∧ owned = true)

theorem Held.free_iff {m : Memory} {owned : Bool} {i : Nat} {r : Region} (h : Held m owned)
    (hr : m.region? i = some r) : m.Free owned i ↔ r.holders = 0 := by
  have hcount := h.counted i r hr
  unfold Free
  constructor
  · rintro ⟨hnone, howner⟩
    rw [hcount, hnone, if_neg howner]
  · intro hzero
    split at hcount
    · omega
    · rename_i howner
      exact ⟨by omega, howner⟩

end Memory

namespace Assembler

variable {a b c : Assembler}

/-- Whether the current region has an owner: the assembler as long as it is open, and the
executable buffer from then on. -/
def owned (a : Assembler) : Bool := a.isOpen || a.hasBuffer

def Unread (a : Assembler) : Prop := a.memory.outstanding a.region = 0

/-- Whether a commit writes to the current region. -/
def commitsInPlace (a : Assembler) : Bool :=
  !(a.scratch.isEmpty && a.pending.isEmpty && a.labels.waiting.isEmpty) &&
    a.memory.hasRoom a.scratch.length

def unmapped (a : Assembler) : List UInt64 := a.log.filterMap Event.freed?

end Assembler

namespace Operation

/-- The states in which an operation writes to the region that is current then. -/
def writesIn (a : Assembler) : Operation → List Assembler
  | commit _ | finalize _ => if a.commitsInPlace then [a] else []
  | alter next _ =>
    (if a.commitsInPlace then [a] else []) ++ (a.commit next).toOption.toList
  | _ => []

end Operation

namespace Assembler

variable {a b c : Assembler}

/-- Where an operation puts code: nowhere, into a region that no guard sees, or into a new one. -/
inductive Places (a b : Assembler) : Prop where
  | nowhere : b.memory = a.memory → b.unmapped = a.unmapped → Places a b
  | inPlace (code : Bytes) : a.Unread → b.memory = a.memory.setCode code →
      b.unmapped = a.unmapped → Places a b
  | moved (base : UInt64) (minimum : Nat) (code : Bytes) :
      b.memory = (a.memory.move base minimum code).1 →
      b.unmapped = a.unmapped ++ (a.memory.move base minimum code).2.filterMap Event.freed? →
      Places a b

theorem isOpen_of_commit {next : UInt64} (h : a.commit next = .ok b) : a.isOpen = true := by
  unfold commit whenOpen at h
  split at h
  · assumption
  · cases h

theorem commit_places {next : UInt64} (h : a.commit next = .ok b)
    (hen : a.commitsInPlace = true → a.Unread) : b.stage = a.stage ∧ Places a b := by
  have hc := whenOpen_eq_ok h
  split at hc
  · obtain rfl := Except.ok.inj hc
    exact ⟨rfl, .nowhere rfl rfl⟩
  · rename_i hsome
    obtain ⟨refs, -, hc⟩ := bind_eq_ok (mapError_eq_ok hc)
    simp only at hc
    split at hc
    · rename_i hroom
      obtain ⟨code, -, hb⟩ := bind_eq_ok hc
      obtain rfl := Except.ok.inj hb
      have hin : a.commitsInPlace = true := by
        rw [commitsInPlace, hroom, Bool.and_true, Bool.not_eq_true', Bool.eq_false_iff]
        exact hsome
      exact ⟨rfl, .inPlace code (hen hin) rfl (by simp [unmapped, Event.freed?])⟩
    · obtain ⟨code, -, hb⟩ := bind_eq_ok hc
      obtain rfl := Except.ok.inj hb
      exact ⟨rfl, .moved next a.minCapacity code rfl (by simp [unmapped, Event.freed?])⟩

/-- Bytes written over those that were put somewhere are put there in their place. -/
theorem Places.overwritten (hp : Places a c) (hunread : c.Unread) {code : Bytes}
    (hlen : code.length = c.committed) (hmem : b.memory = c.memory.setCode code)
    (hlog : b.log = c.log) : Places a b := by
  have hsame : b.unmapped = c.unmapped := by rw [unmapped, hlog, unmapped]
  cases hp with
  | nowhere hc hfreed =>
    refine .inPlace code ?_ (hmem.trans (by rw [hc])) (hsame.trans hfreed)
    rw [Unread, region, ← hc]
    exact hunread
  | inPlace code' hold hc hfreed =>
    refine .inPlace code hold ?_ (hsame.trans hfreed)
    rw [hmem, hc]
    rfl
  | moved base minimum code' hc hfreed =>
    have hlen' : code.length = code'.length := by
      rw [hlen, committed, Memory.size, hc, (a.memory.move_current base minimum code').1]
    obtain ⟨hmoved, hevents⟩ := a.memory.move_setCode base minimum hlen'
    refine .moved base minimum code ?_ ?_
    · rw [hmem, hc, hmoved]
    · rw [hsame, hfreed, hevents]

def Turns (a b : Assembler) : Prop :=
  ∃ events, Memory.Turns a.memory a.owned b.memory b.owned events ∧
    b.unmapped = a.unmapped ++ events.filterMap Event.freed?

theorem owned_of_stage (hstage : b.stage = a.stage) : b.owned = a.owned := by
  simp [owned, isOpen, hasBuffer, hstage]

theorem owned_of_isOpen (h : a.isOpen = true) : a.owned = true := by
  simp [owned, h]

theorem turns_of_memory (h : a.memory.Held a.owned) (hmem : b.memory = a.memory)
    (hstage : b.stage = a.stage) (hlog : b.log = a.log) : Turns a b := by
  refine ⟨[], ?_, by simp [unmapped, hlog]⟩
  rw [owned_of_stage hstage, hmem]
  exact h.stays

theorem turns_of_release (h : a.memory.Held a.owned) (howned : a.owned = true) {stage : Stage}
    (hstage : ({ a with stage } : Assembler).owned = false) :
    Turns a { a with
      memory := a.memory.releaseCurrent.1
      stage
      log := a.log ++ a.memory.releaseCurrent.2 } := by
  refine ⟨a.memory.releaseCurrent.2, ?_, List.filterMap_append⟩
  rw [howned] at h ⊢
  have hend : owned { a with
      memory := a.memory.releaseCurrent.1
      stage
      log := a.log ++ a.memory.releaseCurrent.2 } = false := hstage
  rw [hend]
  exact h.releaseCurrent

theorem Places.turns (h : a.memory.Held a.owned) (howned : a.owned = true)
    (hp : Places a b) (hb : b.owned = true) : Turns a b := by
  rw [howned] at h
  unfold Turns
  rw [howned, hb]
  cases hp with
  | nowhere hmem hfreed => exact ⟨[], hmem ▸ h.stays, by simp [hfreed]⟩
  | inPlace code hunread hmem hfreed =>
    exact ⟨[], hmem ▸ h.setCode hunread code, by simp [hfreed]⟩
  | moved base minimum code hmem hfreed => exact ⟨_, hmem ▸ h.move base minimum code, hfreed⟩

/-- Each operation, when it succeeds, takes memory one step further. -/
theorem perform_turns {op : Operation} (h : a.memory.Held a.owned)
    (hen : ∀ c ∈ op.writesIn a, c.Unread) (hb : a.perform op = .ok b) : Turns a b := by
  cases op with
  | extend data =>
    obtain rfl := extend_eq_ok hb
    exact turns_of_memory h rfl rfl rfl
  | align n fill =>
    obtain rfl := align_eq_ok hb
    exact turns_of_memory h rfl rfl rfl
  | newDynamic =>
    obtain rfl := Except.ok.inj hb
    exact turns_of_memory h rfl rfl rfl
  | globalLabel name =>
    obtain ⟨-, rfl⟩ := globalLabel_eq_ok hb
    exact turns_of_memory h rfl rfl rfl
  | dynamicLabel id =>
    obtain ⟨-, rfl⟩ := dynamicLabel_eq_ok hb
    exact turns_of_memory h rfl rfl rfl
  | localLabel name =>
    obtain ⟨ps, -, rfl⟩ := localLabel_eq_ok hb
    exact turns_of_memory h rfl rfl rfl
  | append c =>
    obtain ⟨-, ps, -, rfl⟩ := append_eq_ok hb rfl
    exact turns_of_memory h rfl rfl rfl
  | relocate u =>
    obtain ⟨-, ps, -, rfl⟩ := append_eq_ok hb rfl
    exact turns_of_memory h rfl rfl rfl
  | emit instruction =>
    have hi := whenOpen_eq_ok hb
    cases instruction with
    | error e => cases hi
    | ok c =>
      obtain ⟨-, ps, -, rfl⟩ := append_eq_ok hi rfl
      exact turns_of_memory h rfl rfl rfl
  | alterUncommitted script =>
    obtain ⟨m, writes, -, -, rfl⟩ := alterUncommitted_eq_ok hb
    exact turns_of_memory h rfl rfl rfl
  | commit next =>
    have howned := owned_of_isOpen (isOpen_of_commit hb)
    obtain ⟨hstage, hp⟩ := commit_places hb fun hin => hen a (by simp [Operation.writesIn, hin])
    exact hp.turns h howned ((owned_of_stage hstage).trans howned)
  | finalize next =>
    obtain ⟨c, hc, hb⟩ := bind_eq_ok hb
    obtain rfl := Except.ok.inj hb
    have howned := owned_of_isOpen (isOpen_of_commit hc)
    obtain ⟨hstage, hp⟩ := commit_places hc fun hin => hen a (by simp [Operation.writesIn, hin])
    obtain ⟨events, ht, hfreed⟩ := hp.turns h howned ((owned_of_stage hstage).trans howned)
    rw [(owned_of_stage hstage).trans howned] at ht
    refine ⟨events, ht, Eq.trans ?_ hfreed⟩
    exact List.filterMap_append.trans (List.append_nil _)
  | alter next script =>
    obtain ⟨c, m, writes, hc, hm, -, rfl⟩ := alter_eq_ok hb
    have howned := owned_of_isOpen (isOpen_of_commit hc)
    obtain ⟨hstage, hp⟩ := commit_places hc fun hin => hen a (by simp [Operation.writesIn, hin])
    have hunread : c.Unread := hen c (by simp [Operation.writesIn, hc, Except.toOption])
    have hp : Places a { c with memory := c.memory.setCode m.code, managed := m.managed c.managed } :=
      hp.overwritten hunread hm.length rfl rfl
    exact hp.turns h howned ((owned_of_stage hstage).trans howned)
  | close =>
    obtain rfl := Except.ok.inj hb
    unfold close
    split
    · rename_i hopen
      exact turns_of_release h (owned_of_isOpen hopen) rfl
    · exact turns_of_memory h rfl rfl rfl
  | closeBuffer =>
    obtain rfl := Except.ok.inj hb
    unfold closeBuffer
    split
    · rename_i hbuffer
      exact turns_of_release h (by simp [owned, hbuffer]) rfl
    · exact turns_of_memory h rfl rfl rfl
  | lock =>
    obtain ⟨⟨guard, c⟩, hc, rfl⟩ := map_eq_ok hb
    unfold lock at hc
    split at hc
    · rename_i hlock
      obtain ⟨-, rfl⟩ := Prod.mk.inj (Except.ok.inj hc)
      exact ⟨[], h.lock hlock, by simp [unmapped]⟩
    · cases hc
  | unlock guard =>
    obtain rfl := Except.ok.inj hb
    exact ⟨_, h.unlock guard, List.filterMap_append⟩

structure Custody (a : Assembler) (freed : List Nat) : Prop where
  held : a.memory.Held a.owned
  /-- Regions are given back one by one ... -/
  logged : a.unmapped = a.memory.bases freed
  /-- ... none of them twice, -/
  once : freed.Nodup
  /-- ... and exactly those that have memory and no holder. -/
  freed_iff : ∀ i, i ∈ freed ↔
    ∃ r, a.memory.region? i = some r ∧ r.hasMemory = true ∧ a.memory.Free a.owned i

theorem Custody.turns {freed : List Nat} (h : Custody a freed) (hab : Turns a b) :
    Custody b (freed ++ a.memory.frees b.memory) := by
  obtain ⟨events, ht, hlog⟩ := hab
  refine ⟨ht.held, ?_, ?_, ?_⟩
  · have hbases : b.memory.bases freed = a.memory.bases freed := by
      refine Memory.bases_congr ?_
      intro i hi
      obtain ⟨r, hr, -⟩ := (h.freed_iff i).mp hi
      obtain ⟨r', hr', hbase, -⟩ := ht.kept i r hr
      exact ⟨r, r', hr, hr', hbase⟩
    rw [hlog, h.logged, ht.freed, ← hbases]
    exact List.filterMap_append.symm
  · refine List.nodup_append.mpr ⟨h.once, List.nodup_range.filter _, ?_⟩
    rintro i hi j hj rfl
    obtain ⟨r, hr, -, hfree⟩ := (h.freed_iff i).mp hi
    obtain ⟨q, q', hq, -, -, hheld, -⟩ := Memory.mem_frees_iff.mp hj
    obtain rfl := Option.some.inj (hr.symm.trans hq)
    exact hheld ((h.held.free_iff hr).mp hfree)
  · intro i
    rw [List.mem_append]
    constructor
    · rintro (hi | hi)
      · obtain ⟨r, hr, hmem, hfree⟩ := (h.freed_iff i).mp hi
        obtain ⟨r', hr', -, hmem', hzero, -⟩ := ht.kept i r hr
        exact ⟨r', hr', hmem'.trans hmem,
          (ht.held.free_iff hr').mpr (hzero ((h.held.free_iff hr).mp hfree))⟩
      · obtain ⟨r, r', hr, hr', hmem, -, hzero⟩ := Memory.mem_frees_iff.mp hi
        obtain ⟨q, hq, -, hmem', -, -⟩ := ht.kept i r hr
        obtain rfl := Option.some.inj (hr'.symm.trans hq)
        exact ⟨r', hr', hmem'.trans hmem, (ht.held.free_iff hr').mpr hzero⟩
    · rintro ⟨r', hr', hmem', hfree'⟩
      have hzero' := (ht.held.free_iff hr').mp hfree'
      cases hr : a.memory.region? i with
      | none => exact absurd hzero' (ht.fresh i r' hr hr')
      | some r =>
        obtain ⟨q, hq, -, hmem, -, -⟩ := ht.kept i r hr
        obtain rfl := Option.some.inj (hr'.symm.trans hq)
        have hmem : r.hasMemory = true := hmem.symm.trans hmem'
        by_cases hzero : r.holders = 0
        · exact Or.inl ((h.freed_iff i).mpr ⟨r, hr, hmem, (h.held.free_iff hr).mpr hzero⟩)
        · exact Or.inr (Memory.mem_frees_iff.mpr ⟨r, r', hr, hr', hmem, hzero, hzero'⟩)

theorem custody_start (capacity : Nat) : Custody { minCapacity := capacity } [] := by
  have hregion : ∀ i r, ({} : Memory).region? i = some r → i = 0 ∧ r = .empty := by
    intro i r hr
    have hi : i ≤ 0 := Memory.le_of_region? hr
    obtain rfl := Nat.le_zero.mp hi
    exact ⟨rfl, (Option.some.inj hr).symm⟩
  refine ⟨⟨by simp, ?_⟩, rfl, List.nodup_nil, ?_⟩
  · intro i r hr
    obtain ⟨rfl, rfl⟩ := hregion i r hr
    rfl
  · intro i
    simp only [List.not_mem_nil, false_iff]
    rintro ⟨r, hr, hmem, -⟩
    obtain ⟨-, rfl⟩ := hregion i r hr
    cases hmem

end Assembler

end MachineCode
