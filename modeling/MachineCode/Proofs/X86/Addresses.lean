import MachineCode.Proofs.X86.Registers

/-!
Addresses in normal form. Putting the registers of an address into their fields changes how the
address is written, but neither its value nor its width nor its segment.
-/
namespace MachineCode.X86

namespace Mem

/-- The terms of an address as it was given. -/
def terms (m : Mem) : List (Source × Nat) :=
  m.base.toList.map (fun r => (r.source, 1)) ++
    m.index.toList.map fun r => (r.source, max m.scale 1)

/-- The width of an address: that of its registers, lanes of vectors apart. -/
def addrSize (m : Mem) (mode : Mode) : Nat :=
  (m.registers.find? (!·.isVector)).elim mode.addrSize (·.width)

/-- The terms of an address in normal form, as they are read. -/
def coded (m : Mem) (size : Option Nat) : List (Source × Nat) :=
  if size = some 2 then
    (wordRegisters.getD ((m.base.map (·.num)).getD 0) []).map fun n => (.general n, 1)
  else
    m.base.toList.map (fun r => (r.source, 1)) ++
      (m.index.toList.filter (·.source ≠ .general 4)).map fun r => (r.source, m.scale)

inductive Normal (m : Mem) : Option Nat → Prop
  | word {code : Nat} (hcode : code < 8) (hbase : m.base = some (.make .legacy 2 code))
    (hindex : m.index = none) : Normal m (some 2)
  | ip {r : Register} {size : Nat} (hsize : size ≠ 2) (hr : r.class? = some .ip)
    (hbase : m.base = some r) (hindex : m.index = none) : Normal m (some size)
  | scaled {size : Option Nat} (hsize : size ≠ some 2)
    (hbase : ∀ r ∈ m.base, r.class? = some .legacy)
    (hindex : ∀ r ∈ m.index, r.class? = some .legacy ∨ r.isVector = true)
    (hscale : ∀ r ∈ m.index, validScale m.scale = true)
    (hescape : m.index = none → ∀ r ∈ m.base, r.num % 8 ≠ 4) : Normal m size

structure Placed (m m' : Mem) (size : Option Nat) : Prop where
  normal : m'.Normal size
  disp : m'.disp = m.disp
  seg : m'.seg = m.seg
  total : ∀ v, X86.total (m'.coded size) v = X86.total m.terms v
  width : ∀ mode : Mode, size.getD mode.addrSize = m.addrSize mode
  low : (∀ r ∈ m.registers, r.num < 8) → ∀ r ∈ m'.registers, r.num < 8

theorem registers_cases {m : Mem} {r : Register} (h : m.registers = [r]) :
    (m.base = some r ∧ m.index = none) ∨ (m.base = none ∧ m.index = some r) := by
  unfold registers at h
  cases hb : m.base with
  | none =>
    rw [hb] at h
    cases hi : m.index with
    | none => rw [hi] at h; cases h
    | some i => rw [hi] at h; cases h; exact Or.inr ⟨rfl, rfl⟩
  | some b =>
    rw [hb] at h
    cases hi : m.index with
    | none => rw [hi] at h; cases h; exact Or.inl ⟨rfl, rfl⟩
    | some i => rw [hi] at h; cases h

theorem addrSize_of_registers {m : Mem} {r : Register} {rest : List Register}
    (hregs : m.registers = r :: rest) (hr : r.isVector = false) (mode : Mode) :
    m.addrSize mode = r.width := by
  rw [addrSize, hregs, List.find?_cons_of_pos (by rw [hr]; rfl)]
  rfl

section Place

variable {m m' : Mem} {size : Option Nat} {w : Nat}

/-- A base alone, or a register that counts once in the index field. -/
theorem total_of_single {r : Register} (hregs : m.registers = [r])
    (hscale : m.index.isSome → max m.scale 1 = 1) (v : Source → Int) :
    X86.total m.terms v = v r.source := by
  unfold terms
  rcases registers_cases hregs with ⟨hb, hi⟩ | ⟨hb, hi⟩
  · rw [hb, hi]
    simp
  · rw [hb, hi, hscale (by rw [hi]; rfl)]
    simp

theorem placeIp_spec {r : Register} (hr : r.class? = some .ip) (hwidth : r.width ≠ 2)
    (hregs : m.registers = [r]) (h : m.placeIp r.width = .ok (m', size)) : Placed m m' size := by
  have hvector : r.isVector = false := Register.isVector_of_class hr
  unfold placeIp at h
  split at h
  · cases h
  · split at h
    · cases h
    next hscale =>
      cases h
      have hbase : m.base.or m.index = some r := by
        rcases registers_cases hregs with ⟨hb, hi⟩ | ⟨hb, hi⟩ <;> rw [hb, hi] <;> rfl
      exact {
        normal := .ip hwidth hr hbase rfl
        disp := rfl
        seg := rfl
        total := by
          intro v
          rw [total_of_single hregs fun _ => by rw [not_not.mp hscale]; rfl, coded,
            if_neg fun h => hwidth (Option.some.inj h)]
          simp [hbase]
        width := fun mode => (addrSize_of_registers hregs hvector mode).symm
        low := by
          intro hlow
          rw [registers, hbase]
          rw [hregs] at hlow
          exact hlow }

theorem checkScale_eq_ok {n : Nat} {u : Unit} (h : checkScale n = .ok u) : validScale n = true :=
  (ok_of_when h).1

theorem placeVector_spec {r : Register} (hr : r.isVector = true) (hregs : m.registers = [r])
    (hscale : 1 ≤ m.scale) (h : m.placeVector = .ok (m', size)) : Placed m m' size := by
  unfold placeVector at h
  dsimp only at h
  obtain ⟨-, h⟩ := eq_ok_of_guard h
  obtain ⟨hone, h⟩ := eq_ok_of_guard h
  obtain ⟨⟨⟩, hvalid, h⟩ := bind_eq_ok h
  cases h
  have hindex : m.index.or m.base = some r := by
    rcases registers_cases hregs with ⟨hb, hi⟩ | ⟨hb, hi⟩ <;> rw [hb, hi] <;> rfl
  exact {
    normal := by
      refine .scaled nofun nofun ?_ (fun _ _ => checkScale_eq_ok hvalid) fun _ => nofun
      intro r' hr'
      rw [hindex] at hr'
      cases hr'
      exact Or.inr hr
    disp := rfl
    seg := rfl
    total := by
      intro v
      have hsource := Register.source_of_vector hr
      rw [coded, if_neg nofun, hindex]
      unfold terms
      rcases registers_cases hregs with ⟨hb, hi⟩ | ⟨hb, hi⟩
      · have hone : m.scale = 1 := by simpa [hb] using hone
        rw [hb, hi, hone]
        simp [hsource]
      · rw [hb, hi, Nat.max_eq_left hscale]
        simp [hsource]
    width := by
      intro mode
      rw [addrSize, hregs, List.find?_cons_of_neg (by rw [hr]; decide)]
      rfl
    low := by
      intro hlow
      rw [registers, hindex]
      rw [hregs] at hlow
      exact hlow }

structure Kept (m m' : Mem) : Prop where
  disp : m'.disp = m.disp
  seg : m'.seg = m.seg
  total : ∀ v, X86.total m'.terms v = X86.total m.terms v
  registers : ∀ r ∈ m'.registers, r ∈ m.registers

theorem Kept.refl (m : Mem) : Kept m m := ⟨rfl, rfl, fun _ => rfl, fun _ => id⟩

theorem Kept.trans {m₁ m₂ m₃ : Mem} (h : Kept m₁ m₂) (h' : Kept m₂ m₃) : Kept m₁ m₃ where
  disp := h'.disp.trans h.disp
  seg := h'.seg.trans h.seg
  total := fun v => (h'.total v).trans (h.total v)
  registers := fun r hr => h.registers r (h'.registers r hr)

/-- Base and index change places if the index counts once. -/
theorem kept_swap (hscale : m.scale = 1) (hbase : m.base.isSome) (hindex : m.index.isSome) :
    Kept m { m with base := m.index, index := m.base } where
  disp := rfl
  seg := rfl
  total := by
    intro v
    obtain ⟨b, hb⟩ := Option.isSome_iff_exists.mp hbase
    obtain ⟨i, hi⟩ := Option.isSome_iff_exists.mp hindex
    unfold terms
    rw [hb, hi, hscale]
    simp [add_comm]
  registers := by
    intro r hr
    unfold registers at *
    rw [List.mem_append] at *
    exact hr.symm

theorem placed_of_vsib {b i : Register} (hkept : Kept m m') (hb : m'.base = some b)
    (hi : m'.index = some i) (hlegacy : b.class? = some .legacy) (hvector : i.isVector = true)
    (hvalid : validScale m'.scale = true) (hw : w = 4 ∨ w = 8)
    (hwidth : ∀ mode, m.addrSize mode = w) : Placed m m' (some w) where
  normal := by
    have hne : (some w : Option Nat) ≠ some 2 := by
      rcases hw with rfl | rfl <;> decide
    refine .scaled hne ?_ ?_ (fun _ _ => hvalid) (by rw [hi]; exact nofun)
    · intro r hr
      rw [hb] at hr
      cases hr
      exact hlegacy
    · intro r hr
      rw [hi] at hr
      cases hr
      exact Or.inr hvector
  disp := hkept.disp
  seg := hkept.seg
  total := by
    intro v
    have hscale : max m'.scale 1 = m'.scale := by
      apply Nat.max_eq_left
      by_contra hnot
      rw [Nat.lt_one_iff.mp (Nat.not_le.mp hnot)] at hvalid
      exact absurd hvalid (by decide)
    have hne : ¬ (some w : Option Nat) = some 2 := by
      rcases hw with rfl | rfl <;> decide
    have hlane := Register.source_of_vector hvector
    rw [← hkept.total v, coded, if_neg hne, hb, hi, terms, hb, hi, hscale]
    simp [hlane]
  width := fun mode => (hwidth mode).symm
  low := fun hlow r hr => hlow r (hkept.registers r hr)

theorem placeVsib_spec {b i : Register} (hb : m.base = some b) (hi : m.index = some i)
    (hw : w = 4 ∨ w = 8)
    (hclass : (b.isVector = true ∧ i.class? = some .legacy ∧ i.width = w) ∨
      (i.isVector = true ∧ b.class? = some .legacy ∧ b.width = w))
    (h : m.placeVsib w = .ok (m', size)) : Placed m m' size := by
  unfold placeVsib at h
  dsimp only at h
  obtain ⟨hone, h⟩ := eq_ok_of_guard h
  obtain ⟨⟨⟩, hvalid, h⟩ := bind_eq_ok h
  have hvalid := checkScale_eq_ok hvalid
  have hregs : m.registers = [b, i] := by
    rw [registers, hb, hi]
    rfl
  rw [hb, Option.any_some] at h hone
  rcases hclass with ⟨hvector, hlegacy, hwidth⟩ | ⟨hvector, hlegacy, hwidth⟩
  · have hscale : m.scale = 1 := by simpa [hvector] using hone
    have hnot := Register.isVector_of_class hlegacy
    rw [if_pos hvector] at h
    cases h
    refine placed_of_vsib (hb ▸ kept_swap hscale (by rw [hb]; rfl) (by rw [hi]; rfl)) hi rfl hlegacy
      hvector hvalid hw fun mode => ?_
    rw [addrSize, hregs, List.find?_cons_of_neg (by rw [hvector]; decide),
      List.find?_cons_of_pos (by rw [hnot]; rfl)]
    exact hwidth
  · have hnot := Register.isVector_of_class hlegacy
    rw [if_neg (by rw [hnot]; decide)] at h
    cases h
    exact placed_of_vsib (Kept.refl m) hb hi hlegacy hvector hvalid hw fun mode =>
      (addrSize_of_registers hregs hnot mode).trans hwidth

theorem addrSize_of_class (hclass : ∀ r ∈ m.registers, r.class? = some .legacy ∧ r.width = w)
    (hsome : m.registers ≠ []) (mode : Mode) : m.addrSize mode = w := by
  obtain ⟨r, rest, hregs⟩ := List.exists_cons_of_ne_nil hsome
  obtain ⟨hlegacy, hwidth⟩ := hclass r (hregs ▸ List.mem_cons_self)
  rw [addrSize_of_registers hregs (Register.isVector_of_class hlegacy), hwidth]

def wordTerms (code : Nat) : List (Source × Nat) :=
  (wordRegisters.getD code []).map fun n => (.general n, 1)

theorem wordCode_spec {b i : Register} {code : Nat} (h : wordCode b i = some code) :
    code < 8 ∧ ∀ v, X86.total (wordTerms code) v = v (.general b.num) + v (.general i.num) := by
  have hpair : ∀ {x y : Nat}, ((b.num == x && i.num == y) || (b.num == y && i.num == x)) = true →
      ∀ v : Source → Int, v (.general x) + v (.general y) =
        v (.general b.num) + v (.general i.num) := by
    intro x y hpair v
    simp only [Bool.or_eq_true, Bool.and_eq_true, beq_iff_eq] at hpair
    rcases hpair with ⟨rfl, rfl⟩ | ⟨rfl, rfl⟩
    · rfl
    · exact add_comm _ _
  unfold wordCode at h
  dsimp only at h
  split at h
  next h36 =>
    cases h
    exact ⟨by decide, fun v => by simpa [wordTerms, wordRegisters] using hpair h36 v⟩
  · split at h
    next h37 =>
      cases h
      exact ⟨by decide, fun v => by simpa [wordTerms, wordRegisters] using hpair h37 v⟩
    · split at h
      next h56 =>
        cases h
        exact ⟨by decide, fun v => by simpa [wordTerms, wordRegisters] using hpair h56 v⟩
      · split at h
        next h57 =>
          cases h
          exact ⟨by decide, fun v => by simpa [wordTerms, wordRegisters] using hpair h57 v⟩
        · cases h

theorem wordBaseCode_spec {b : Register} {code : Nat} (h : wordBaseCode b = some code) :
    code < 8 ∧ ∀ v, X86.total (wordTerms code) v = v (.general b.num) := by
  unfold wordBaseCode at h
  split at h <;> cases h <;>
    exact ⟨by decide, fun v => by simp [wordTerms, wordRegisters, *]⟩

theorem placed_of_code {code : Nat}
    (hclass : ∀ r ∈ m.registers, r.class? = some .legacy ∧ r.width = 2) (hsome : m.registers ≠ [])
    (hscale : m.index.isSome → m.scale = 1) (hless : code < 8)
    (htotal : ∀ v, X86.total (wordTerms code) v =
      (m.registers.map fun r => v (.general r.num)).sum) :
    Placed m { m with base := some (.make .legacy 2 code), index := none, scale := 1 }
      (some 2) where
  normal := .word hless rfl rfl
  disp := rfl
  seg := rfl
  total := by
    intro v
    have hnum : (Register.make .legacy 2 code).num = code := Register.num_make _ _ (by omega)
    have hsources : (m.registers.map fun r => v (.general r.num)) =
        m.registers.map fun r => v r.source :=
      List.map_congr_left fun r hr => by rw [Register.source_of_legacy (hclass r hr).1]
    have hterms : X86.total m.terms v = (m.registers.map fun r => v r.source).sum := by
      unfold terms registers
      cases hb : m.base <;> cases hi : m.index <;> simp [hscale, hi]
    rw [hterms, ← hsources, ← htotal v, coded, if_pos rfl, Option.map_some, Option.getD_some, hnum]
    rfl
  width := fun mode => (addrSize_of_class hclass hsome mode).symm
  low := by
    rintro - r hr
    obtain rfl := List.mem_singleton.mp hr
    rw [Register.num_make _ _ (by omega)]
    exact hless

theorem eq_ok_of_elim {ε α β : Type} {o : Option α} {e : ε} {f : α → Except ε β} {y : β}
    (h : (o.elim (.error e) .ok >>= f) = .ok y) : ∃ a, o = some a ∧ f a = .ok y := by
  cases o with
  | none => cases h
  | some a => exact ⟨a, rfl, h⟩

theorem placeWord_spec (hclass : ∀ r ∈ m.registers, r.class? = some .legacy ∧ r.width = 2)
    (hsome : m.registers ≠ []) (h : m.placeWord = .ok (m', size)) : Placed m m' size := by
  unfold placeWord at h
  dsimp only at h
  obtain ⟨hone, h⟩ := eq_ok_of_guard h
  have hscale : m.index.isSome → m.scale = 1 := fun hindex => by simpa [hindex] using hone
  split at h
  next b i hb hi =>
    obtain ⟨code, hcode, h⟩ := eq_ok_of_elim h
    cases h
    obtain ⟨hless, htotal⟩ := wordCode_spec hcode
    exact placed_of_code hclass hsome hscale hless fun v => by simp [htotal, registers, hb, hi]
  next b hb hi =>
    obtain ⟨code, hcode, h⟩ := eq_ok_of_elim h
    cases h
    obtain ⟨hless, htotal⟩ := wordBaseCode_spec hcode
    exact placed_of_code hclass hsome hscale hless fun v => by simp [htotal, registers, hb, hi]
  next i hb hi =>
    obtain ⟨code, hcode, h⟩ := eq_ok_of_elim h
    cases h
    obtain ⟨hless, htotal⟩ := wordBaseCode_spec hcode
    exact placed_of_code hclass hsome hscale hless fun v => by simp [htotal, registers, hb, hi]
  next hb hi =>
    rw [registers, hb, hi] at hsome
    exact absurd rfl hsome

theorem kept_split (hscale : 1 ≤ m.scale) : Kept m m.split := by
  have hmax : max m.scale 1 = m.scale := Nat.max_eq_left hscale
  unfold split
  split
  next hsplit =>
    have hbase : m.base = none := by
      simp only [Bool.and_eq_true, Option.isNone_iff_eq_none] at hsplit
      exact hsplit.1
    -- An index that counts `n + 1` times is a base and an index that counts `n` times.
    have htwice : ∀ n, m.scale = n + 1 → 1 ≤ n →
        Kept m { m with base := m.index, scale := m.scale - 1 } := by
      intro n hn hle
      refine ⟨rfl, rfl, fun v => ?_, fun r hr => ?_⟩
      · unfold terms
        rw [hbase, hn, Nat.add_sub_cancel, Nat.max_eq_left hle, Nat.max_eq_left (by omega)]
        cases m.index with
        | none => rfl
        | some i => simp [add_mul, add_comm]
      · unfold registers at *
        rw [hbase]
        simpa using hr
    split
    next hone =>
      refine ⟨rfl, rfl, fun v => ?_, fun r hr => ?_⟩
      · unfold terms
        rw [hbase, hone]
        cases m.index <;> simp
      · unfold registers at *
        rw [hbase]
        simpa using hr
    next htwo => exact htwice 1 htwo (by decide)
    next hthree => exact htwice 2 hthree (by decide)
    next hfive => exact htwice 4 hfive (by decide)
    next hnine => exact htwice 8 hnine (by decide)
    · exact Kept.refl m
  · exact Kept.refl m

theorem swapStack_spec (hvalid : validScale m.scale = true) (h : m.swapStack = .ok m') :
    Kept m m' ∧ validScale m'.scale = true ∧ ∀ i ∈ m'.index, i.num ≠ 4 := by
  unfold swapStack at h
  split at h
  next i hi =>
    split at h
    next hnum =>
      cases h
      refine ⟨Kept.refl m, hvalid, fun i' hi' => ?_⟩
      rw [hi] at hi'
      cases hi'
      exact hnum
    · obtain ⟨hnot, h⟩ := eq_ok_of_guard h
      cases h
      rw [Bool.or_eq_true, decide_eq_true_eq, not_or, not_not] at hnot
      obtain ⟨hstack, hone⟩ := hnot
      cases hb : m.base with
      | none =>
        rw [hb] at hstack
        exact absurd rfl hstack
      | some b =>
        rw [hb, Option.all_some, beq_iff_eq] at hstack
        have hkept := kept_swap hone (by rw [hb]; rfl) (by rw [hi]; rfl)
        rw [hb, hi, hone] at hkept
        refine ⟨hkept, rfl, ?_⟩
        rintro i' ⟨⟩
        exact hstack
  next hi =>
    cases h
    refine ⟨Kept.refl m, hvalid, ?_⟩
    rw [hi]
    exact nofun

theorem placed_escape (hkept : Kept m m') (hw : w = 4 ∨ w = 8)
    (hclass : ∀ r ∈ m.registers, r.class? = some .legacy ∧ r.width = w)
    (hsome : m.registers ≠ []) (hvalid : validScale m'.scale = true)
    (hindex : ∀ i ∈ m'.index, i.num ≠ 4) : Placed m (m'.escape w) (some w) := by
  have hlegacy : ∀ r ∈ m'.registers, r.class? = some .legacy := fun r hr =>
    (hclass r (hkept.registers r hr)).1
  have hbase : ∀ r ∈ m'.base, r.class? = some .legacy := fun r hr =>
    hlegacy r (List.mem_append_left _ (Option.mem_toList.mpr hr))
  have hne : (some w : Option Nat) ≠ some 2 := by
    rcases hw with rfl | rfl <;> decide
  have hscale : max m'.scale 1 = m'.scale := by
    apply Nat.max_eq_left
    by_contra hnot
    rw [Nat.lt_one_iff.mp (Nat.not_le.mp hnot)] at hvalid
    exact absurd hvalid (by decide)
  have hlow : ∀ {width : Nat}, (Register.make .legacy width 4).num = 4 := fun {width} =>
    Register.num_make _ width (by decide)
  have hstack : ∀ width, (Register.make .legacy width 4).class? = some .legacy := fun width =>
    Register.class_make _ width 4
  unfold escape
  split
  next hesc =>
    -- The index that means none adds nothing.
    simp only [Bool.and_eq_true, Option.isNone_iff_eq_none] at hesc
    have hsource : (Register.make .legacy (if w = 4 then 4 else 8) 4).source = .general 4 := by
      rw [Register.source_of_legacy (hstack _), hlow]
    exact {
      normal := .scaled hne hbase (by
        intro r hr
        rw [← Option.some.inj hr]
        exact Or.inl (hstack _)) (fun _ _ => rfl) nofun
      disp := hkept.disp
      seg := hkept.seg
      total := by
        intro v
        rw [← hkept.total v, coded, if_neg hne, terms, hesc.1]
        simp [hsource]
      width := fun mode => (addrSize_of_class hclass hsome mode).symm
      low := by
        intro hless r hr
        rcases List.mem_append.mp hr with hr | hr
        · exact hless r (hkept.registers r (List.mem_append_left _ hr))
        · obtain rfl := List.mem_singleton.mp hr
          rw [hlow]
          decide }
  next hesc =>
    exact {
      normal := by
        refine .scaled hne hbase (fun r hr => Or.inl ?_) (fun _ _ => hvalid) fun hnone r hr => ?_
        · exact hlegacy r (List.mem_append_right _ (Option.mem_toList.mpr hr))
        · intro hnum
          have hr' : m'.base = some r := hr
          have hless := Register.num_lt r
          have hfour : r.num = 4 ∨ r.num = 12 := by omega
          apply hesc
          simp only [hnone, hr', Option.isNone_none, Option.any_some, Bool.true_and,
            Bool.or_eq_true, beq_iff_eq]
          exact hfour
      disp := hkept.disp
      seg := hkept.seg
      total := by
        intro v
        have hkeep : m'.index.toList.filter (·.source ≠ .general 4) = m'.index.toList := by
          refine List.filter_eq_self.mpr fun r hr => ?_
          have hr := Option.mem_toList.mp hr
          have hsource := Register.source_of_legacy
            (hlegacy r (List.mem_append_right _ (Option.mem_toList.mpr hr)))
          simpa [hsource] using hindex r hr
        rw [← hkept.total v, coded, if_neg hne, hkeep, terms, hscale]
      width := fun mode => (addrSize_of_class hclass hsome mode).symm
      low := fun hless r hr => hless r (hkept.registers r hr) }

theorem placeLegacy_spec (hw : w = 4 ∨ w = 8)
    (hclass : ∀ r ∈ m.registers, r.class? = some .legacy ∧ r.width = w)
    (hsome : m.registers ≠ []) (hscale : 1 ≤ m.scale) (h : m.placeLegacy w = .ok (m', size)) :
    Placed m m' size := by
  unfold placeLegacy at h
  dsimp only at h
  obtain ⟨⟨⟩, hvalid, h⟩ := bind_eq_ok h
  obtain ⟨swapped, hswap, h⟩ := bind_eq_ok h
  cases h
  obtain ⟨hkept, hvalid, hindex⟩ := swapStack_spec (checkScale_eq_ok hvalid) hswap
  exact placed_escape ((kept_split hscale).trans hkept) hw hclass hsome hvalid hindex

/-- What a base and an index together say about the address. -/
theorem combine_spec {b i : Register} {family : Nat} {vsib : Bool}
    (h : combine b i = .ok (w, family, vsib)) :
    (vsib = false ∧ (b.family = family ∧ b.width = w) ∧ i.family = family ∧ i.width = w) ∨
      (vsib = true ∧ ((b.isVector = true ∧ i.family = family ∧ i.width = w) ∨
        (i.isVector = true ∧ b.family = family ∧ b.width = w))) := by
  unfold combine at h
  split at h
  next hfamily =>
    split at h
    next hwidth =>
      cases h
      exact Or.inl ⟨rfl, ⟨rfl, rfl⟩, hfamily.symm, hwidth.symm⟩
    · cases h
  · split at h
    next hvector =>
      cases h
      exact Or.inr ⟨rfl, Or.inl ⟨hvector, rfl, rfl⟩⟩
    · split at h
      next hvector =>
        cases h
        exact Or.inr ⟨rfl, Or.inr ⟨hvector, rfl, rfl⟩⟩
      · cases h

/-- The registers of an address, all of one class and width or a vector and another one. -/
inductive Shaped (m : Mem) (w family : Nat) : Bool → Prop
  | single {r : Register} (hregs : m.registers = [r]) (hfamily : r.family = family)
    (hwidth : r.width = w) : Shaped m w family false
  | both {b i : Register} (hb : m.base = some b) (hi : m.index = some i)
    (hbase : b.family = family ∧ b.width = w) (hindex : i.family = family ∧ i.width = w) :
    Shaped m w family false
  | vsib {b i : Register} (hb : m.base = some b) (hi : m.index = some i)
    (hvector : (b.isVector = true ∧ i.family = family ∧ i.width = w) ∨
      (i.isVector = true ∧ b.family = family ∧ b.width = w)) : Shaped m w family true

theorem Shaped.uniform {family : Nat} (h : Shaped m w family false) :
    m.registers ≠ [] ∧ ∀ r ∈ m.registers, r.family = family ∧ r.width = w := by
  cases h with
  | single hregs hfamily hwidth =>
    rw [hregs]
    exact ⟨List.cons_ne_nil _ _, by simpa using ⟨hfamily, hwidth⟩⟩
  | both hb hi hbase hindex =>
    rw [registers, hb, hi]
    exact ⟨List.cons_ne_nil _ _, by simpa using ⟨hbase, hindex⟩⟩

theorem Shaped.single_of_not_both {family : Nat} {vsib : Bool} (h : Shaped m w family vsib)
    (hnot : (m.base.isSome && m.index.isSome) = false) :
    ∃ r, m.registers = [r] ∧ r.family = family ∧ r.width = w := by
  cases h with
  | single hregs hfamily hwidth => exact ⟨_, hregs, hfamily, hwidth⟩
  | both hb hi =>
    rw [hb, hi] at hnot
    cases hnot
  | vsib hb hi =>
    rw [hb, hi] at hnot
    cases hnot

theorem placed_of_shaped {family : Nat} {vsib : Bool} (hshaped : Shaped m w family vsib)
    (hscale : 1 ≤ m.scale) (hip : size = some 2 → ∀ r ∈ m.registers, r.class? ≠ some .ip)
    (h : (match RegClass.ofCode? family with
      | some .ip => m.placeIp w
      | some .xmm | some .ymm => m.placeVector
      | some .legacy =>
        if w = 2 then
          if vsib then .error .vsibWord else m.placeWord
        else if w = 4 || w = 8 then
          if vsib then m.placeVsib w else m.placeLegacy w
        else .error (.legacySize w)
      | _ => .error (.family family)) = .ok (m', size)) : Placed m m' size := by
  have hvector : ∀ c, c = .xmm ∨ c = .ymm → RegClass.ofCode? family = some c →
      m.placeVector = .ok (m', size) → Placed m m' size := by
    intro c hc hclass hplace
    have hnot : (m.base.isSome && m.index.isSome) = false := by
      unfold placeVector at hplace
      simpa using (eq_ok_of_guard hplace).1
    obtain ⟨r, hregs, rfl, -⟩ := hshaped.single_of_not_both hnot
    have hr : r.isVector = true := by
      rw [Register.isVector_of_class hclass]
      rcases hc with rfl | rfl <;> rfl
    exact placeVector_spec hr hregs hscale hplace
  split at h
  next hclass =>
    have hguard := h
    unfold placeIp at hguard
    obtain ⟨hnot, hguard⟩ := eq_ok_of_guard hguard
    obtain ⟨-, hguard⟩ := eq_ok_of_guard hguard
    have hsize : size = some w := by
      cases hguard
      rfl
    obtain ⟨r, hregs, rfl, rfl⟩ := hshaped.single_of_not_both (by simpa using hnot)
    refine placeIp_spec hclass (fun h2 => ?_) hregs h
    exact hip (hsize.trans (congrArg some h2)) r (by rw [hregs]; exact List.mem_cons_self) hclass
  next hclass => exact hvector _ (Or.inl rfl) hclass h
  next hclass => exact hvector _ (Or.inr rfl) hclass h
  next hclass =>
    have huniform : vsib = false → m.registers ≠ [] ∧
        ∀ r ∈ m.registers, r.class? = some .legacy ∧ r.width = w := by
      rintro rfl
      obtain ⟨hsome, hall⟩ := hshaped.uniform
      exact ⟨hsome, fun r hr => ⟨by rw [Register.class?, (hall r hr).1, hclass], (hall r hr).2⟩⟩
    split at h
    next hw =>
      subst hw
      cases vsib with
      | true => cases h
      | false =>
        obtain ⟨hsome, hall⟩ := huniform rfl
        exact placeWord_spec hall hsome h
    · split at h
      next hw =>
        have hw : w = 4 ∨ w = 8 := by simpa using hw
        cases vsib with
        | true =>
          cases hshaped with
          | vsib hb hi hvector =>
            refine placeVsib_spec hb hi hw ?_ h
            rcases hvector with ⟨hv, rfl, hwidth⟩ | ⟨hv, rfl, hwidth⟩
            · exact Or.inl ⟨hv, hclass, hwidth⟩
            · exact Or.inr ⟨hv, hclass, hwidth⟩
        | false =>
          obtain ⟨hsome, hall⟩ := huniform rfl
          exact placeLegacy_spec hw hall hsome hscale h
      · cases h
  · cases h

theorem place_spec_of_pos (hscale : 1 ≤ m.scale)
    (hip : size = some 2 → ∀ r ∈ m.registers, r.class? ≠ some .ip)
    (h : m.place = .ok (m', size)) : Placed m m' size := by
  have hm : ({ m with scale := max m.scale 1 } : Mem) = m := by
    rw [Nat.max_eq_left hscale]
  unfold place at h
  dsimp only at h
  rw [hm] at h
  split at h
  next hb hi =>
    cases h
    exact {
      normal := .scaled nofun (by rw [hb]; exact nofun) (by rw [hi]; exact nofun)
        (by rw [hi]; exact nofun) (by rw [hb]; exact fun _ => nofun)
      disp := rfl
      seg := rfl
      total := by
        intro v
        rw [coded, if_neg nofun, terms, hb, hi]
        rfl
      width := by
        intro mode
        rw [addrSize, registers, hb, hi]
        rfl
      low := fun hlow => hlow }
  next r hb hi =>
    exact placed_of_shaped (.single (by rw [registers, hb, hi]; rfl) rfl rfl) hscale hip h
  next r hb hi =>
    exact placed_of_shaped (.single (by rw [registers, hb, hi]; rfl) rfl rfl) hscale hip h
  next b i hb hi =>
    obtain ⟨shape, hshape, h⟩ := bind_eq_ok h
    obtain ⟨⟨w, family, vsib⟩, hcombine, rfl⟩ := map_eq_ok hshape
    have hshaped : Shaped m w family vsib := by
      rcases combine_spec hcombine with ⟨rfl, hbase, hindex⟩ | ⟨rfl, hvector⟩
      · exact .both hb hi hbase hindex
      · exact .vsib hb hi hvector
    exact placed_of_shaped hshaped hscale hip h

/-- Putting registers into their fields keeps the address. A scale of zero counts as one. -/
theorem place_spec (hip : size = some 2 → ∀ r ∈ m.registers, r.class? ≠ some .ip)
    (h : m.place = .ok (m', size)) : Placed m m' size := by
  have hmax : max (max m.scale 1) 1 = max m.scale 1 := Nat.max_eq_left (Nat.le_max_right _ _)
  have hterms : ({ m with scale := max m.scale 1 } : Mem).terms = m.terms := by
    unfold terms
    rw [hmax]
  have hplace : ({ m with scale := max m.scale 1 } : Mem).place = m.place := by
    unfold place
    dsimp only
    rw [hmax]
  have hplaced : Placed { m with scale := max m.scale 1 } m' size :=
    place_spec_of_pos (Nat.le_max_right _ _) hip (hplace.trans h)
  exact { hplaced with total := fun v => (hplaced.total v).trans (by rw [hterms]) }

end Place

end Mem

/-- Displacements that programs can have: numbers with a size fit it. -/
def Disp.IsGiven : Disp → Prop
  | .rel v w => w = 0 ∨ Disp.fits v w = true
  | .label _ => True

def Disp.number : Disp → Int
  | .rel v _ => v.toInt
  | .label _ => 0

theorem Disp.fits_dword (v : Int32) : Disp.fits v 4 = true := by
  have hlow := v.le_toInt
  have hhigh := v.toInt_lt
  unfold Disp.fits
  simp
  omega

namespace Mem

/-- The number that is added to the registers of an address. -/
def dispNumber (m : Mem) : Int := (m.disp.map (·.number)).getD 0

def dispWidth (size : Option Nat) : Nat := if size = some 2 then 2 else 4

structure Fitting (m : Mem) (size : Option Nat) (d : Disp) : Prop where
  width : d.width = 1 ∧ m.base.any (·.isClass .ip) = false ∨ d.width = dispWidth size
  fits : ∀ v w, d = .rel v w → Disp.fits v w = true

structure Arranged (m m' : Mem) (size : Option Nat) : Prop where
  normal : m'.Normal size
  seg : m'.seg = m.seg
  total : ∀ v, X86.total (m'.coded size) v = X86.total m.terms v
  width : ∀ mode : Mode, size.getD mode.addrSize = m.addrSize mode
  low : (∀ r ∈ m.registers, r.num < 8) → ∀ r ∈ m'.registers, r.num < 8
  number : m'.dispNumber = m.dispNumber
  fitting : ∀ d ∈ m'.disp, m'.Fitting size d
  ip : m'.disp = none → m'.base.any (·.isClass .ip) = false

section Settle

variable {m m' p : Mem} {size : Option Nat} {d d' : Disp}

theorem Normal.with_disp (h : p.Normal size) (d : Option Disp) :
    ({ p with disp := d } : Mem).Normal size := by
  cases h with
  | word hcode hbase hindex => exact .word hcode hbase hindex
  | ip hsize hr hbase hindex => exact .ip hsize hr hbase hindex
  | scaled hsize hbase hindex hscale hescape => exact .scaled hsize hbase hindex hscale hescape

theorem Placed.arranged (h : Placed m p size) {d : Option Disp}
    (hnumber : (d.map (·.number)).getD 0 = m.dispNumber) (hfitting : ∀ x ∈ d, p.Fitting size x)
    (hip : d = none → p.base.any (·.isClass .ip) = false) :
    Arranged m { p with disp := d } size where
  normal := h.normal.with_disp d
  seg := h.seg
  total := h.total
  width := h.width
  low := h.low
  number := hnumber
  fitting := fun x hx => ⟨(hfitting x hx).width, (hfitting x hx).fits⟩
  ip := hip

theorem sizeDisp_spec {short : Bool} (hgiven : d.IsGiven) (h : sizeDisp d short = .ok d') :
    d'.number = d.number ∧ ∀ v w, d' = .rel v w → Disp.fits v w = true := by
  unfold sizeDisp at h
  split at h
  next v =>
    split at h
    next hfits =>
      cases h
      exact ⟨rfl, by rintro _ _ ⟨⟩; exact hfits⟩
    · split at h
      · obtain ⟨hfits, rfl⟩ := ok_of_when h
        exact ⟨rfl, by rintro _ _ ⟨⟩; exact hfits⟩
      · cases h
        exact ⟨rfl, by rintro _ _ ⟨⟩; exact Disp.fits_dword v⟩
  next l =>
    cases h
    split <;> exact ⟨rfl, nofun⟩
  next hzero hlabel =>
    cases h
    refine ⟨rfl, ?_⟩
    rintro v w rfl
    refine hgiven.resolve_left fun hw => ?_
    subst hw
    exact hzero v rfl

theorem number_dispDword (d : Option Disp) :
    (dispDword d).number = (d.map (·.number)).getD 0 ∧ (dispDword d).width = 4 ∧
      ∀ v w, dispDword d = .rel v w → Disp.fits v w = true := by
  rcases d with _ | ⟨v, w⟩ | l
  · exact ⟨rfl, rfl, by rintro _ _ ⟨⟩; decide⟩
  · exact ⟨rfl, rfl, by rintro _ _ ⟨⟩; exact Disp.fits_dword v⟩
  · exact ⟨rfl, rfl, nofun⟩

theorem checkDisp_spec {short : Bool} {u : Unit} (h : checkDisp d short = .ok u) :
    d.width = 1 ∨ d.width = if short then 2 else 4 := by
  unfold checkDisp at h
  cases short <;> simpa using (ok_of_when h).1

theorem Normal.not_word_of_ip (h : p.Normal (some 2)) :
    p.base.any (·.isClass .ip) = false := by
  cases h with
  | word hcode hbase =>
    rw [hbase, Option.any_some, Register.isClass, Register.class_make]
    rfl
  | ip hsize => exact absurd rfl hsize
  | scaled hsize => exact absurd rfl hsize

theorem settleDisp_spec {d : Option Disp} (hnormal : p.Normal size)
    (hgiven : ∀ d ∈ p.disp, d.IsGiven) (h : p.settleDisp size = .ok d) :
    (d.map (·.number)).getD 0 = p.dispNumber ∧ (∀ x ∈ d, p.Fitting size x) ∧
      (d = none → p.base.any (·.isClass .ip) = false) := by
  unfold settleDisp at h
  split at h
  next hip =>
    cases h
    obtain ⟨hsame, hwidth, hfits⟩ := number_dispDword p.disp
    have hsize : size ≠ some 2 := by
      rintro rfl
      rw [hnormal.not_word_of_ip] at hip
      cases hip
    refine ⟨hsame, ?_, nofun⟩
    rintro d ⟨⟩
    exact ⟨Or.inr (by rw [hwidth, dispWidth, if_neg hsize]), hfits⟩
  next hip =>
    have hip : p.base.any (·.isClass .ip) = false := by simpa using hip
    split at h
    next hdisp =>
      cases h
      exact ⟨by rw [dispNumber, hdisp], nofun, fun _ => hip⟩
    next hdisp =>
      cases h
      exact ⟨by rw [dispNumber, hdisp]; rfl, nofun, fun _ => hip⟩
    next x _ hdisp =>
      obtain ⟨x', hx', h⟩ := bind_eq_ok h
      obtain ⟨⟨⟩, hcheck, h⟩ := bind_eq_ok h
      cases h
      obtain ⟨hsame, hfits⟩ := sizeDisp_spec (hgiven x hdisp) hx'
      refine ⟨by rw [dispNumber, hdisp]; exact hsame, ?_, nofun⟩
      rintro d ⟨⟩
      refine ⟨?_, hfits⟩
      rcases checkDisp_spec (mapError_eq_ok hcheck) with h1 | h2
      · exact Or.inl ⟨h1, hip⟩
      · exact Or.inr (by simpa [dispWidth] using h2)

/-- An address in normal form is the address that was given. -/
theorem settle_spec (hgiven : ∀ d ∈ m.disp, d.IsGiven)
    (hip : size = some 2 → ∀ r ∈ m.registers, r.class? ≠ some .ip)
    (h : m.settle = .ok (m', size)) : Arranged m m' size ∧ m.checkSegment = .ok () := by
  obtain ⟨⟨⟩, hseg, h⟩ := bind_eq_ok h
  obtain ⟨⟨p, size'⟩, hplace, h⟩ := bind_eq_ok h
  obtain ⟨d, hd, h⟩ := bind_eq_ok h
  cases h
  have hplaced := place_spec hip (mapError_eq_ok hplace)
  obtain ⟨hnumber, hfitting, hnone⟩ :=
    settleDisp_spec hplaced.normal (by rw [hplaced.disp]; exact hgiven) hd
  have hsame : p.dispNumber = m.dispNumber := by
    rw [dispNumber, dispNumber, hplaced.disp]
  exact ⟨hplaced.arranged (hnumber.trans hsame) hfitting hnone, mapError_eq_ok hseg⟩

end Settle

end Mem

end MachineCode.X86
