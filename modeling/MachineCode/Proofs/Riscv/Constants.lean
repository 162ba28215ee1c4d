import MachineCode.Riscv.Constant
import MachineCode.Proofs.Riscv.Readings

/-!
Constants that come back. A sequence that loads a constant builds it in one register: it starts
from an upper part or from nothing, adds twelve bits, and shifts. What its instructions build, one
after the other, is the constant.
-/
namespace MachineCode.Riscv.LoadConstant

/-- What an instruction makes of the number built so far. Sums of 32 bits wrap around. -/
def build (is64 : Bool) (n : Int) (w : Word) : Int :=
  let op := Stretch.read ⟨0, 7⟩ w
  if op = 0x37 then (Field.u.gather w).toInt
  else if op = 0x13 ∧ Stretch.read ⟨12, 3⟩ w = 1 then n * 2 ^ Stretch.read ⟨20, 6⟩ w
  else if op = 0x13 ∧ is64 = true then n + (Field.i.gather w).toInt
  else (n + (Field.i.gather w).toInt).bmod (2 ^ 32)

def built (is64 : Bool) (ws : List Word) : Int := ws.foldl (build is64) 0

variable {op : Word} {rd rs : Nat} {v : Int64} {n : Int} {is64 whole : Bool}

theorem toInt_low (v : Int64) : (low v).toInt = v.toInt.bmod 4096 := by
  rw [low, Int64.toInt_ofBitVec, BitVec.toInt_signExtend_of_le (by omega), BitVec.toInt_setWidth,
    BitField.bmod_toNat v (by decide)]
  rfl

theorem low_bounds (v : Int64) : -2048 ≤ (low v).toInt ∧ (low v).toInt < 2048 := by
  have hlow := Int.le_bmod (x := v.toInt) (m := 4096) (by decide)
  have hhigh := Int.bmod_lt (x := v.toInt) (m := 4096) (by decide)
  rw [toInt_low]
  omega

theorem toInt_and_rest (v : Int64) : (v &&& 0x7ff).toInt = v.toInt % 2048 := by
  have hnum := BitField.extract_emod v (q := v.toInt) (s := 0) (w := 11) (by simp) (by omega)
  have hrest : (v &&& 0x7ff).toBitVec.toNat = v.toBitVec.toNat % 2 ^ 11 := by
    rw [Int64.toBitVec_and, BitVec.toNat_and, ← Nat.and_two_pow_sub_one_eq_mod]
    rfl
  have hlt : v.toBitVec.toNat % 2 ^ 11 < 2 ^ 11 := Nat.mod_lt _ (by decide)
  rw [BitVec.extractLsb'_toNat, Nat.shiftRight_zero] at hnum
  rw [← Int64.toInt_toBitVec, BitVec.toInt_eq_toNat_of_lt (by omega), hrest, hnum]
  rfl

theorem admits_i (hlow : -2048 ≤ v.toInt) (hhigh : v.toInt < 2048) : Field.i.Admits v where
  multiple := Int.one_dvd _
  range := ⟨hlow, hhigh⟩
  nonzero := nofun

theorem read_immediate (op : Word) (v : Int64) (hrd : rd < 32) (hrs : rs < 32) :
    (Stretch.read ⟨7, 5⟩ op = 0 → Stretch.read ⟨7, 5⟩ (immediate op rd rs v) = rd) ∧
      (∀ s : Stretch, s.stop ≤ 7 ∨ s = ⟨12, 3⟩ →
        s.read (immediate op rd rs v) = s.read op) ∧
      ∀ s : Stretch, 20 ≤ s.pos → s.read op = 0 →
        s.read (immediate op rd rs v) = s.read (Field.i.place v) := by
  have hwithin := within_place Field.i v
  have hread : ∀ s : Stretch, s.read (immediate op rd rs v) = s.read op |||
      s.read (Stretch.place ⟨7, 5⟩ rd) ||| s.read (Stretch.place ⟨15, 5⟩ rs) |||
      s.read (Field.i.place v) := by
    intro s
    rw [immediate, Stretch.read_or, Stretch.read_or, Stretch.read_or]
    rfl
  have hplaced : ∀ s : Stretch, (s.Apart ⟨7, 5⟩ → s.read (Stretch.place ⟨7, 5⟩ rd) = 0) ∧
      (s.Apart ⟨15, 5⟩ → s.read (Stretch.place ⟨15, 5⟩ rs) = 0) ∧
      (s.Apart ⟨20, 12⟩ → s.read (Field.i.place v) = 0) := fun s =>
    ⟨fun h => (Within.place (s := ⟨7, 5⟩) hrd).read_eq_zero fun t ht =>
        List.mem_singleton.mp ht ▸ h,
      fun h => (Within.place (s := ⟨15, 5⟩) hrs).read_eq_zero fun t ht =>
        List.mem_singleton.mp ht ▸ h,
      fun h => hwithin.read_eq_zero fun t ht => List.mem_singleton.mp ht ▸ h⟩
  refine ⟨?_, ?_, ?_⟩
  · intro hop
    obtain ⟨-, h15, h20⟩ := hplaced ⟨7, 5⟩
    rw [hread, hop, h15 (by decide), h20 (by decide), Stretch.read_place hrd (by decide)]
    simp
  · intro s hs
    have hapart : s.Apart ⟨7, 5⟩ ∧ s.Apart ⟨15, 5⟩ ∧ s.Apart ⟨20, 12⟩ := by
      rcases hs with hs | rfl
      · exact ⟨Or.inl hs, Or.inl (Nat.le_trans hs (by decide)),
          Or.inl (Nat.le_trans hs (by decide))⟩
      · decide
    obtain ⟨h7, h15, h20⟩ := hplaced s
    rw [hread, h7 hapart.1, h15 hapart.2.1, h20 hapart.2.2]
    simp
  · intro s hs hop
    obtain ⟨h7, h15, -⟩ := hplaced s
    rw [hread, hop, h7 (Or.inr (Nat.le_trans (by decide) hs)),
      h15 (Or.inr (Nat.le_trans (by decide) hs))]
    simp

theorem gather_immediate (hrd : rd < 32) (hrs : rs < 32) (hop : Stretch.read ⟨20, 12⟩ op = 0)
    (hv : Field.i.Admits v) : Field.i.gather (immediate op rd rs v) = v := by
  have hproper : Field.i.Proper := by decide
  have hcongr : Field.i.gather (immediate op rd rs v) = Field.i.gather (Field.i.place v) := by
    apply BitField.gather_congr
    intro s hs
    obtain rfl : s = ⟨20, 12⟩ := List.mem_singleton.mp hs
    exact (read_immediate op v hrd hrs).2.2 _ (by decide) hop
  rw [hcongr, gather_place hproper hv]

theorem build_add (hrd : rd < 32) (hrs : rs < 32) (hv : Field.i.Admits v) :
    build is64 n (immediate 0x13 rd rs v) =
      if is64 then n + v.toInt else (n + v.toInt).bmod (2 ^ 32) := by
  have hread := (read_immediate 0x13 v hrd hrs).2.1
  have hop : Stretch.read ⟨0, 7⟩ (immediate 0x13 rd rs v) = 0x13 := hread _ (Or.inl (by decide))
  have hfunct : Stretch.read ⟨12, 3⟩ (immediate 0x13 rd rs v) = 0 := hread _ (Or.inr rfl)
  unfold build
  dsimp only
  rw [hop, hfunct, gather_immediate hrd hrs (by decide) hv]
  cases is64 <;> rfl

theorem build_addWord (hrd : rd < 32) (hrs : rs < 32) (hv : Field.i.Admits v) :
    build is64 n (immediate 0x1b rd rs v) = (n + v.toInt).bmod (2 ^ 32) := by
  have hread := (read_immediate 0x1b v hrd hrs).2.1
  have hop : Stretch.read ⟨0, 7⟩ (immediate 0x1b rd rs v) = 0x1b := hread _ (Or.inl (by decide))
  unfold build
  dsimp only
  rw [hop, gather_immediate hrd hrs (by decide) hv]
  rfl

theorem build_shift (hrd : rd < 32) (hrs : rs < 32) :
    build is64 n (immediate 0x1013 rd rs 11) = n * 2 ^ 11 := by
  obtain ⟨-, hread, himm⟩ := read_immediate 0x1013 11 hrd hrs
  have hop : Stretch.read ⟨0, 7⟩ (immediate 0x1013 rd rs 11) = 0x13 := hread _ (Or.inl (by decide))
  have hfunct : Stretch.read ⟨12, 3⟩ (immediate 0x1013 rd rs 11) = 1 := hread _ (Or.inr rfl)
  have hamount : Stretch.read ⟨20, 6⟩ (immediate 0x1013 rd rs 11) = 11 :=
    himm ⟨20, 6⟩ (by decide) (by decide)
  unfold build
  dsimp only
  rw [hop, hfunct, hamount]
  rfl

theorem toInt_gather_u (w : Word) :
    (Field.u.gather w).toInt = Int.bmod (Stretch.read ⟨12, 20⟩ w) (2 ^ 20) * 4096 := by
  have hlt := Stretch.read_lt ⟨12, 20⟩ w
  have hgather : Field.u.gather w =
      Int64.ofBitVec (((Field.u.gathered w).setWidth 32).signExtend 64) := rfl
  have hgathered : (Field.u.gathered w).toNat = Stretch.read ⟨12, 20⟩ w * 4096 := by
    have hpiece : Field.u.gathered w = (w.extractLsb' 12 20).setWidth 64 <<< 12 ||| 0#64 := rfl
    have hread : (w.extractLsb' 12 20).toNat = Stretch.read ⟨12, 20⟩ w := rfl
    dsimp only at hlt
    rw [hpiece, BitVec.or_zero, BitVec.toNat_shiftLeft, BitVec.toNat_setWidth, hread,
      Nat.shiftLeft_eq]
    omega
  rw [hgather, Int64.toInt_ofBitVec, BitVec.toInt_signExtend_of_le (by decide),
    BitVec.toInt_setWidth, hgathered, Int.bmod_def, Int.bmod_def]
  dsimp only at hlt
  split <;> split <;> omega

theorem read_loadUpper (hrd : rd < 32) (v : Int64) :
    (∀ s : Stretch, s.stop ≤ 7 → s.read (loadUpper rd v) = s.read 0x37#32) ∧
      Stretch.read ⟨7, 5⟩ (loadUpper rd v) = rd ∧
      (Stretch.read ⟨12, 20⟩ (loadUpper rd v) : Int) =
        ((v - low v) >>> 12).toInt % (2 ^ 20 : Nat) := by
  generalize hx : (v - low v) >>> 12 = x
  have hnum := BitField.extract_emod x (q := x.toInt) (s := 0) (w := 20) (by simp) (by omega)
  generalize hm : (x.toBitVec.extractLsb' 0 20).toNat = m at hnum
  have hlt : m < 2 ^ 20 := hm ▸ BitVec.isLt _
  have hbits : x.toBitVec.setWidth 32 &&& 0xfffff#32 = BitVec.ofNat 32 m := by
    apply BitVec.eq_of_toNat_eq
    rw [BitVec.toNat_and, BitVec.toNat_setWidth, show (0xfffff#32).toNat = 2 ^ 20 - 1 from rfl,
      Nat.and_two_pow_sub_one_eq_mod, BitVec.toNat_ofNat, ← hm, BitVec.extractLsb'_toNat,
      Nat.shiftRight_zero]
    omega
  have hread : ∀ s : Stretch, s.read (loadUpper rd v) = s.read 0x37#32 |||
      s.read (Stretch.place ⟨7, 5⟩ rd) ||| s.read (Stretch.place ⟨12, 20⟩ m) := by
    intro s
    rw [loadUpper, hx, hbits, Stretch.read_or, Stretch.read_or]
    rfl
  have hregister : ∀ s : Stretch, s.Apart ⟨7, 5⟩ → s.read (Stretch.place ⟨7, 5⟩ rd) = 0 :=
    fun s h => (Within.place (s := ⟨7, 5⟩) hrd).read_eq_zero fun t ht =>
      List.mem_singleton.mp ht ▸ h
  have hquotient : ∀ s : Stretch, s.Apart ⟨12, 20⟩ → s.read (Stretch.place ⟨12, 20⟩ m) = 0 :=
    fun s h => (Within.place (s := ⟨12, 20⟩) hlt).read_eq_zero fun t ht =>
      List.mem_singleton.mp ht ▸ h
  refine ⟨?_, ?_, ?_⟩
  · intro s hs
    rw [hread, hregister _ (Or.inl hs), hquotient _ (Or.inl (Nat.le_trans hs (by decide)))]
    simp
  · rw [hread, hquotient _ (by decide), Stretch.read_place hrd (by decide),
      show Stretch.read ⟨7, 5⟩ 0x37#32 = 0 by decide]
    simp
  · rw [hread, hregister _ (by decide), Stretch.read_place hlt (by decide),
      show Stretch.read ⟨12, 20⟩ 0x37#32 = 0 by decide, ← hnum]
    simp

/-- LUI builds what the low twelve bits leave of a constant. -/
theorem build_loadUpper (hrd : rd < 32) (hlow : -2147483648 ≤ v.toInt)
    (hhigh : v.toInt < 2147483648) :
    build is64 n (loadUpper rd v) = (v.toInt - (low v).toInt).bmod (2 ^ 32) := by
  obtain ⟨hl, hl'⟩ := low_bounds v
  obtain ⟨hread, -, hupper⟩ := read_loadUpper hrd v
  have hop : Stretch.read ⟨0, 7⟩ (loadUpper rd v) = 0x37 := hread _ (by decide)
  -- The upper part is a whole multiple, so its quotient gives it back.
  obtain ⟨q, hq⟩ : ∃ q, v.toInt - (low v).toInt = q * 4096 := by
    rw [toInt_low, Int.bmod_def]
    split
    · exact ⟨v.toInt / 4096, by omega⟩
    · exact ⟨v.toInt / 4096 + 1, by omega⟩
  have hsub : (v - low v).toInt = q * 4096 := by
    rw [Int64.toInt_sub, Int.bmod_eq_of_le (by omega) (by omega), hq]
  have hshift : ((v - low v) >>> 12).toInt = q := by
    rw [toInt_shiftRight (k := 12) (by decide) (by decide), hsub]
    exact Int.mul_ediv_cancel _ (by decide)
  unfold build
  dsimp only
  rw [hop, if_pos rfl, toInt_gather_u, hupper, hshift, hq, Int.bmod_def, Int.bmod_def]
  split <;> split <;> omega

/-- The constants for which a sequence with so many groups of eleven bits is made. -/
def Fits (groups : Nat) (v : Int64) : Prop :=
  -(2 ^ (31 + 11 * groups) : Int) ≤ v.toInt ∧ v.toInt < 2 ^ (31 + 11 * groups)

theorem toInt_eq_zero_of_not {v : Int64} (h : ¬ (v != 0) = true) : v.toInt = 0 := by
  rw [bne_iff_ne, not_not] at h
  rw [h]
  rfl

/-- A sequence builds its constant from any number, in the register that it names. -/
theorem foldl_build_sequence {groups : Nat} (hrd : rd < 32) (hwide : groups = 0 ∨ is64 = true)
    (hfits : Fits groups v) :
    (sequence rd is64 whole groups v).foldl (build is64) n = v.toInt := by
  induction groups generalizing v n with
  | zero =>
    obtain ⟨hlow, hhigh⟩ := hfits
    obtain ⟨hl, hl'⟩ := low_bounds v
    have hupper : build is64 n (loadUpper rd v) = (v.toInt - (low v).toInt).bmod (2 ^ 32) :=
      build_loadUpper hrd (by omega) (by omega)
    rw [sequence, List.foldl_cons, hupper]
    split
    · have hadmits := admits_i hl hl'
      have hsum : ∀ m : Int, m = (v.toInt - (low v).toInt).bmod (2 ^ 32) + (low v).toInt →
          m.bmod (2 ^ 32) = v.toInt := by
        rintro m rfl
        rw [Int.bmod_add_bmod, show v.toInt - (low v).toInt + (low v).toInt = v.toInt by omega]
        exact Int.bmod_eq_of_le (by omega) (by omega)
      rw [List.foldl_cons, List.foldl_nil]
      cases is64 with
      | true => rw [if_pos rfl, build_addWord hrd hrd hadmits, hsum _ rfl]
      | false =>
        rw [if_neg Bool.false_ne_true, build_add hrd hrd hadmits, if_neg Bool.false_ne_true,
          hsum _ rfl]
    next hskip =>
      simp only [Bool.or_eq_true, not_or] at hskip
      rw [List.foldl_nil, toInt_eq_zero_of_not hskip.1, Int.sub_zero]
      exact Int.bmod_eq_of_le (by omega) (by omega)
  | succ k ih =>
    obtain rfl : is64 = true := hwide.resolve_left (by omega)
    obtain ⟨hlow, hhigh⟩ := hfits
    have hshift : (v >>> 11).toInt = v.toInt / 2048 :=
      toInt_shiftRight (k := 11) (by decide) (by decide)
    have hpow : (2 : Int) ^ (31 + 11 * (k + 1)) = 2 ^ (31 + 11 * k) * 2048 := by
      rw [show 31 + 11 * (k + 1) = 31 + 11 * k + 11 by omega, Int.pow_add]
      rfl
    have hrest := toInt_and_rest v
    have hfits' : Fits k (v >>> 11) := by
      unfold Fits
      rw [hshift]
      rw [hpow] at hlow hhigh
      generalize (2 : Int) ^ (31 + 11 * k) = b at hlow hhigh ⊢
      omega
    have hadmits : Field.i.Admits (v &&& 0x7ff) := admits_i (by omega) (by omega)
    rw [sequence, List.foldl_append, List.foldl_append, ih (Or.inr rfl) hfits', List.foldl_cons,
      List.foldl_nil, build_shift hrd hrd, hshift]
    split
    · rw [List.foldl_cons, List.foldl_nil, build_add hrd hrd hadmits, if_pos rfl, hrest]
      omega
    next hskip =>
      simp only [Bool.or_eq_true, not_or] at hskip
      have hzero := toInt_eq_zero_of_not hskip.1
      rw [List.foldl_nil]
      omega

def Names (rd : Nat) (w : Word) : Prop := Stretch.read ⟨0, 2⟩ w = 3 ∧ Stretch.read ⟨7, 5⟩ w = rd

theorem names_immediate (hrd : rd < 32) (hrs : rs < 32) (hlow : Stretch.read ⟨0, 2⟩ op = 3)
    (hop : Stretch.read ⟨7, 5⟩ op = 0) : Names rd (immediate op rd rs v) := by
  obtain ⟨hregister, hread, -⟩ := read_immediate op v hrd hrs
  exact ⟨(hread _ (Or.inl (by decide))).trans hlow, hregister hop⟩

/-- All instructions of a sequence name its register. -/
theorem names_sequence {groups : Nat} (hrd : rd < 32) {w : Word}
    (hw : w ∈ sequence rd is64 whole groups v) : Names rd w := by
  induction groups generalizing v with
  | zero =>
    rw [sequence] at hw
    rcases List.mem_cons.mp hw with rfl | hw
    · obtain ⟨hread, hregister, -⟩ := read_loadUpper hrd v
      exact ⟨hread _ (by decide), hregister⟩
    · split at hw
      · rw [List.mem_singleton.mp hw]
        cases is64 <;> exact names_immediate hrd hrd (by decide) (by decide)
      · cases hw
  | succ k ih =>
    rw [sequence] at hw
    rcases List.mem_append.mp hw with hw | hw
    · rcases List.mem_append.mp hw with hw | hw
      · exact ih hw
      · rw [List.mem_singleton.mp hw]
        exact names_immediate hrd hrd (by decide) (by decide)
    · split at hw
      · rw [List.mem_singleton.mp hw]
        exact names_immediate hrd hrd (by decide) (by decide)
      · cases hw

theorem sequence_ne_nil (rd : Nat) (is64 whole : Bool) (groups : Nat) (v : Int64) :
    sequence rd is64 whole groups v ≠ [] := by
  cases groups with
  | zero => exact List.cons_ne_nil _ _
  | succ k =>
    rw [sequence]
    simp

theorem fits_of_fitsSigned {bits : Nat} {groups : Nat} (h : fitsSigned v bits = true)
    (hbits : 0 < bits) (hle : bits ≤ 32 + 11 * groups) : Fits groups v := by
  by_cases hwide : 64 ≤ bits
  · have hpow : (2 : Int) ^ 63 ≤ 2 ^ (31 + 11 * groups) := by
      exact_mod_cast Nat.pow_le_pow_right (n := 2) (by decide) (by omega)
    have hlow := v.le_toInt
    have hhigh := v.toInt_lt
    exact ⟨by omega, by omega⟩
  · obtain ⟨hlow, hhigh⟩ := (fitsSigned_iff hbits (by omega)).mp h
    have hpow : (2 ^ (bits - 1) : Nat) ≤ 2 ^ (31 + 11 * groups) :=
      Nat.pow_le_pow_right (by decide) (by omega)
    have hcast : ((2 ^ (bits - 1) : Nat) : Int) ≤ 2 ^ (31 + 11 * groups) := by
      exact_mod_cast hpow
    exact ⟨by omega, by omega⟩

theorem fits_groups (v : Int64) : Fits (groups v) v := by
  have hshift : ∀ {n : Int64} {k : Nat}, n.toBitVec.smod 64 = BitVec.ofNat 64 (11 * k) →
      11 * k < 64 → fitsSigned (v >>> n) 32 = true → Fits k v := by
    intro n k hn hk h
    obtain ⟨hlow, hhigh⟩ := (fitsSigned_iff (by decide) (by decide)).mp h
    rw [toInt_shiftRight hn hk] at hlow hhigh
    have hpow : (2 : Int) ^ (31 + 11 * k) = 2147483648 * (2 ^ (11 * k) : Nat) := by
      rw [Int.pow_add]
      push_cast
      rfl
    have hpos : (0 : Int) < (2 ^ (11 * k) : Nat) := by exact_mod_cast Nat.two_pow_pos _
    unfold Fits
    rw [hpow]
    generalize ((2 ^ (11 * k) : Nat) : Int) = b at *
    constructor
    · exact Int.mul_le_of_le_ediv hpos hlow |> fun h => by rwa [Int.neg_mul] at h
    · exact Int.lt_mul_of_ediv_lt hpos hhigh
  unfold groups
  split
  next h => exact fits_of_fitsSigned h (by decide) (by decide)
  · split
    next h => exact hshift (k := 1) (by decide) (by decide) h
    · split
      next h => exact hshift (k := 2) (by decide) (by decide) h
      · have hall : fitsSigned v 64 = true := rfl
        exact fits_of_fitsSigned hall (by decide) (by decide)

/-- What loads a constant is one addition, or a sequence that fits the constant. -/
theorem words_cases {c : LoadConstant} (rd : Nat) (hfits : fitsSigned v (c.width is64) = true)
    (hwide : is64 = true ∨ c.width true ≤ 32 ∨ c = .shortest) :
    (c.words rd is64 v = [immediate 0x13 rd 0 v] ∧ fitsSigned v 12 = true) ∨
      ∃ whole groups, c.words rd is64 v = sequence rd is64 whole groups v ∧
        (groups = 0 ∨ is64 = true) ∧ Fits groups v := by
  cases c with
  | shortest =>
    unfold words
    dsimp only
    split
    next h => exact Or.inl ⟨rfl, h⟩
    · refine Or.inr ⟨false, groups v, rfl, ?_, fits_groups v⟩
      cases is64 with
      | true => exact Or.inr rfl
      | false =>
        have h32 : fitsSigned v 32 = true := hfits
        left
        rw [groups, if_pos h32]
  | bits12 => exact Or.inl ⟨rfl, hfits⟩
  | bits32 =>
    have h32 : fitsSigned v 32 = true := hfits
    exact Or.inr ⟨true, 0, rfl, Or.inl rfl, fits_of_fitsSigned h32 (by decide) (by decide)⟩
  | bits43 =>
    have h43 : fitsSigned v 43 = true := hfits
    exact Or.inr ⟨true, 1, rfl, Or.inr (hwide.resolve_right (by decide)),
      fits_of_fitsSigned h43 (by decide) (by decide)⟩
  | bits54 =>
    have h54 : fitsSigned v 54 = true := hfits
    exact Or.inr ⟨true, 2, rfl, Or.inr (hwide.resolve_right (by decide)),
      fits_of_fitsSigned h54 (by decide) (by decide)⟩

/-- The instructions that load a constant build it, and they name the register. -/
theorem built_words {c : LoadConstant} (hrd : rd < 32) (hfits : fitsSigned v (c.width is64) = true)
    (hwide : is64 = true ∨ c.width true ≤ 32 ∨ c = .shortest) :
    c.words rd is64 v ≠ [] ∧ (∀ w ∈ c.words rd is64 v, Names rd w) ∧
      built is64 (c.words rd is64 v) = v.toInt := by
  rcases words_cases rd hfits hwide with ⟨hwords, h12⟩ | ⟨whole, groups, hwords, hg, hv⟩
  · obtain ⟨hlow, hhigh⟩ := (fitsSigned_iff (by decide) (by decide)).mp h12
    rw [hwords]
    refine ⟨List.cons_ne_nil _ _, ?_, ?_⟩
    · intro w hw
      rw [List.mem_singleton.mp hw]
      exact names_immediate hrd (by decide) (by decide) (by decide)
    · rw [built, List.foldl_cons, List.foldl_nil,
        build_add hrd (by decide) (admits_i hlow hhigh), Int.zero_add]
      cases is64 with
      | true => rfl
      | false =>
        rw [if_neg Bool.false_ne_true]
        exact Int.bmod_eq_of_le (by omega) (by omega)
  · rw [hwords]
    exact ⟨sequence_ne_nil _ _ _ _ _, fun w hw => names_sequence hrd hw,
      foldl_build_sequence hrd hg hv⟩

/-- When a constant can be loaded, and by what. -/
theorem encode_eq_ok_iff {c : LoadConstant} {name : String} {p : Profile} {args : List Operand}
    {e : Encoded Reloc} : c.encode name p args = .ok e ↔
    ∃ rd v, args = [.reg rd, .imm v] ∧ rd.file = Register.fileX ∧
      rd.fault? p.embedded = none ∧ (p.is64 = true ∨ c.width true ≤ 32 ∨ c = .shortest) ∧
      fitsSigned (wrapWord p.xlen v) (c.width p.is64) = true ∧
      e = ⟨(c.words rd.num p.is64 (wrapWord p.xlen v)).flatMap Bytes.ofWord, []⟩ := by
  have hwide : ¬ (!p.is64 && decide (32 < c.width true) && c != .shortest) = true ↔
      p.is64 = true ∨ c.width true ≤ 32 ∨ c = .shortest := by
    simp only [Bool.and_eq_true, Bool.not_eq_true', decide_eq_true_eq, bne_iff_ne, not_and_or,
      Bool.not_eq_false, not_lt, Decidable.not_not, or_assoc]
  constructor
  · intro h
    unfold encode at h
    split at h
    next rd v =>
      split at h
      · cases h
      next hfile =>
        split at h
        · cases h
        next hfault =>
          split at h
          · cases h
          next havailable =>
            dsimp only at h
            split at h
            next hfits =>
              cases h
              exact ⟨rd, v, rfl, by simpa using hfile, hfault, hwide.mp havailable, hfits, rfl⟩
            · cases h
    · cases h
  · rintro ⟨rd, v, rfl, hfile, hfault, havailable, hfits, rfl⟩
    unfold encode
    dsimp only
    rw [hfault, if_neg (by simpa using hfile)]
    dsimp only
    rw [if_neg (hwide.mpr havailable), if_pos hfits]

theorem width_le {c : LoadConstant} (h : c.width true ≤ 32 ∨ c = .shortest) :
    0 < c.width false ∧ c.width false ≤ 32 := by
  cases c with
  | shortest | bits12 | bits32 => decide
  | bits43 | bits54 => exact absurd h (by decide)

/-- The constant itself, or what remains of it on registers of 32 bits. -/
theorem toInt_wrapWord_of_fits {c : LoadConstant} {p : Profile}
    (hwide : p.is64 = true ∨ c.width true ≤ 32 ∨ c = .shortest)
    (hfits : fitsSigned (wrapWord p.xlen v) (c.width p.is64) = true) :
    (wrapWord p.xlen v).toInt = numeral (p.xlen == 32) v := by
  by_cases hx : p.xlen = 32
  · have h64 : p.is64 = false := by simp [Profile.is64, hx]
    rw [h64] at hwide hfits
    obtain ⟨hpos, hnarrow⟩ := width_le (hwide.resolve_left Bool.false_ne_true)
    have hzero : Fits 0 (wrapWord p.xlen v) := fits_of_fitsSigned hfits hpos hnarrow
    exact toInt_wrapWord hzero
  · rw [wrapWord, numeral, if_neg (by simp [hx]), if_neg (by simp [hx])]

/-- What loading a constant emits names its register and builds what remains of the constant. -/
theorem built_of_encode {c : LoadConstant} {name : String} {p : Profile} {args : List Operand}
    {e : Encoded Reloc} (h : c.encode name p args = .ok e) :
    ∃ rd v ws, args = [.reg rd, .imm v] ∧ e = ⟨ws.flatMap Bytes.ofWord, []⟩ ∧ ws ≠ [] ∧
      (∀ w ∈ ws, Names rd.num w) ∧
      built p.is64 ws = numeral (p.xlen == 32) v := by
  obtain ⟨rd, v, rfl, -, hfault, hwide, hfits, rfl⟩ := encode_eq_ok_iff.mp h
  obtain ⟨hne, hread, hbuilt⟩ := built_words (num_lt_of_fault? hfault) hfits hwide
  exact ⟨rd, v, _, rfl, rfl, hne, hread, hbuilt.trans (toInt_wrapWord_of_fits hwide hfits)⟩

end MachineCode.Riscv.LoadConstant
