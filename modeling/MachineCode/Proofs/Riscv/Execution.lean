import MachineCode.Proofs.Riscv.Constants
import MachineCode.Riscv.Encoder

/-!
Running what loads a constant. LUI, ADDI, SLLI and ADDIW are executed on the integer registers as
the architecture says, in two's complement at the width of the registers. Each instruction of a
sequence leaves the number in its register that it builds.
-/
namespace MachineCode.Riscv

def registerBits (is64 : Bool) : Nat := if is64 then 64 else 32

/-- The integer registers. Register zero is always zero. -/
structure Registers (is64 : Bool) where
  value : Fin 32 → BitVec (registerBits is64)

namespace Registers

variable {is64 : Bool}

def get (s : Registers is64) (n : Nat) : BitVec (registerBits is64) :=
  if n = 0 then 0 else s.value (Fin.ofNat 32 n)

def set (s : Registers is64) (n : Nat) (v : BitVec (registerBits is64)) : Registers is64 :=
  if n = 0 then s else ⟨fun i => if i = Fin.ofNat 32 n then v else s.value i⟩

theorem get_set {s : Registers is64} {n : Nat} {v : BitVec (registerBits is64)} (hn : n ≠ 0) :
    (s.set n v).get n = v := by
  simp [get, set, hn]

@[simp] theorem set_set (s : Registers is64) (n : Nat) (u v : BitVec (registerBits is64)) :
    (s.set n u).set n v = s.set n v := by
  unfold set
  split
  · rfl
  · congr 1
    funext i
    by_cases hi : i = Fin.ofNat 32 n
    · rw [if_pos hi, if_pos hi]
    · rw [if_neg hi, if_neg hi]
      exact if_neg hi

@[simp] theorem set_get (s : Registers is64) (n : Nat) : s.set n (s.get n) = s := by
  unfold set get
  split
  · rfl
  · obtain ⟨value⟩ := s
    congr 1
    funext i
    split
    next h => rw [h]
    · rfl

end Registers

/-- The registers after one instruction. A shift by the width of the registers or more is no
instruction, and sums of words are only there on registers of 64 bits. -/
def execute {is64 : Bool} (w : Word) (s : Registers is64) : Option (Registers is64) :=
  let rd := Stretch.read ⟨7, 5⟩ w
  let source := s.get (Stretch.read ⟨15, 5⟩ w)
  let imm := (w.extractLsb' 20 12).signExtend (registerBits is64)
  match Stretch.read ⟨0, 7⟩ w, Stretch.read ⟨12, 3⟩ w with
  | 0x37, _ => some (s.set rd ((w.extractLsb' 12 20 ++ 0#12).signExtend (registerBits is64)))
  | 0x13, 0 => some (s.set rd (source + imm))
  | 0x13, 1 =>
    let amount := Stretch.read ⟨20, 12⟩ w
    if amount < registerBits is64 then some (s.set rd (source <<< amount)) else none
  | 0x1b, 0 =>
    if is64 then some (s.set rd (((source + imm).setWidth 32).signExtend (registerBits is64)))
    else none
  | _, _ => none

def run {is64 : Bool} (ws : List Word) (s : Registers is64) : Option (Registers is64) :=
  ws.foldlM (fun s w => execute w s) s

namespace LoadConstant

structure Loads (is64 : Bool) (rd rs : Nat) (w : Word) : Prop where
  destination : Stretch.read ⟨7, 5⟩ w = rd
  form : Stretch.read ⟨0, 7⟩ w = 0x37 ∨
    Stretch.read ⟨15, 5⟩ w = rs ∧ (Stretch.read ⟨0, 7⟩ w = 0x13 ∧ Stretch.read ⟨12, 3⟩ w = 0 ∨
      is64 = true ∧ (Stretch.read ⟨0, 7⟩ w = 0x13 ∧ Stretch.read ⟨12, 3⟩ w = 1 ∧
          Stretch.read ⟨20, 12⟩ w < 64 ∨
        Stretch.read ⟨0, 7⟩ w = 0x1b ∧ Stretch.read ⟨12, 3⟩ w = 0))

variable {is64 whole : Bool} {rd rs groups : Nat} {n : Int} {v : Int64} {w op : Word}

theorem toInt_gather_i (w : Word) : (Field.i.gather w).toInt = (w.extractLsb' 20 12).toInt := by
  have hgather : Field.i.gather w =
      Int64.ofBitVec (((Field.i.gathered w).setWidth 12).signExtend 64) := rfl
  have hgathered : (Field.i.gathered w).setWidth 12 = w.extractLsb' 20 12 := by
    have hpiece : Field.i.gathered w = (w.extractLsb' 20 12).setWidth 64 <<< 0 ||| 0#64 := rfl
    rw [hpiece, BitVec.or_zero, BitVec.shiftLeft_zero, BitVec.setWidth_setWidth_of_le _ (by decide),
      BitVec.setWidth_eq]
  rw [hgather, Int64.toInt_ofBitVec, hgathered, BitVec.toInt_signExtend_of_le (by decide)]

theorem toInt_upper (w : Word) :
    (w.extractLsb' 12 20 ++ 0#12).toInt = (Field.u.gather w).toInt := by
  rw [toInt_gather_u, BitVec.toInt_append, if_neg (by decide), BitVec.toInt_eq_toNat_bmod]
  simp [Stretch.read, Int.mul_comm]

theorem ofInt_bmod {k : Nat} (n : Int) : BitVec.ofInt k (n.bmod (2 ^ k)) = BitVec.ofInt k n := by
  apply BitVec.eq_of_toInt_eq
  rw [BitVec.toInt_ofInt, BitVec.toInt_ofInt, Int.bmod_bmod]

theorem ofInt_shiftLeft {k : Nat} (n : Int) (i : Nat) :
    BitVec.ofInt k n <<< i = BitVec.ofInt k (n * 2 ^ i) := by
  have hpow : BitVec.ofInt k (2 ^ i) = BitVec.twoPow k i := by
    apply BitVec.eq_of_toNat_eq
    rw [BitVec.toNat_twoPow, show (2 : Int) ^ i = ((2 ^ i : Nat) : Int) by push_cast; rfl,
      BitVec.ofInt_natCast, BitVec.toNat_ofNat]
  rw [BitVec.shiftLeft_eq_mul_twoPow, BitVec.ofInt_mul, hpow]

/-- The low word of a number of 64 bits, with its sign. -/
theorem toInt_low_word (n : Int) :
    (BitVec.setWidth 32 (BitVec.ofInt 64 n)).toInt = n.bmod (2 ^ 32) := by
  have hlow : 0 ≤ n % (2 ^ 64 : Nat) := Int.emod_nonneg n (by decide)
  rw [BitVec.toInt_setWidth, BitVec.toNat_ofInt, Int.toNat_of_nonneg hlow, Int.bmod_def,
    Int.bmod_def, Int.emod_emod_of_dvd n (by decide)]

theorem read_amount (h : Stretch.read ⟨20, 12⟩ w < 64) :
    Stretch.read ⟨20, 6⟩ w = Stretch.read ⟨20, 12⟩ w := by
  simp only [Stretch.read, BitVec.extractLsb'_toNat] at h ⊢
  omega

theorem source_add {s : Registers is64} (hrs : Stretch.read ⟨15, 5⟩ w = rs)
    (hn : s.get rs = BitVec.ofInt (registerBits is64) n) :
    s.get (Stretch.read ⟨15, 5⟩ w) + (w.extractLsb' 20 12).signExtend (registerBits is64) =
      BitVec.ofInt (registerBits is64) (n + (Field.i.gather w).toInt) := by
  rw [hrs, hn, toInt_gather_i, BitVec.ofInt_add, BitVec.signExtend]

/-- An instruction leaves what it builds from the number that its operand holds. -/
theorem execute_eq {s : Registers is64} (h : Loads is64 rd rs w)
    (hn : s.get rs = BitVec.ofInt (registerBits is64) n) :
    execute w s = some (s.set rd (BitVec.ofInt (registerBits is64) (build is64 n w))) := by
  obtain ⟨hrd, hform⟩ := h
  unfold execute build
  dsimp only
  rw [hrd]
  rcases hform with hop | ⟨hrs, ⟨hop, hfunct⟩ | ⟨rfl, ⟨hop, hfunct, hamount⟩ | ⟨hop, hfunct⟩⟩⟩
  · rw [hop, if_pos rfl, BitVec.signExtend, toInt_upper]
    rfl
  · rw [hop, hfunct, source_add hrs hn]
    cases is64 with
    | true => rfl
    | false => exact congrArg (fun x => some (s.set rd x)) (ofInt_bmod (k := 32) _).symm
  · rw [hop, hfunct, hrs, hn, read_amount hamount]
    exact (if_pos hamount).trans (congrArg (fun x => some (s.set rd x)) (ofInt_shiftLeft n _))
  · rw [hop, hfunct, source_add hrs hn]
    refine congrArg (fun x => some (s.set rd x)) ?_
    exact congrArg (BitVec.ofInt 64) (toInt_low_word _)

theorem run_cons (w : Word) (ws : List Word) (s : Registers is64) :
    run (w :: ws) s = (execute w s).bind (run ws) := rfl

/-- Instructions on one register leave in it what they build, one after the other. -/
theorem run_eq {ws : List Word} (hrd : rd ≠ 0) (h : ∀ w ∈ ws, Loads is64 rd rd w)
    {s : Registers is64} (hn : s.get rd = BitVec.ofInt (registerBits is64) n) :
    run ws s =
      some (s.set rd (BitVec.ofInt (registerBits is64) (ws.foldl (build is64) n))) := by
  induction ws generalizing n s with
  | nil =>
    rw [List.foldl_nil, ← hn, Registers.set_get]
    rfl
  | cons w ws ih =>
    obtain ⟨hw, hws⟩ := List.forall_mem_cons.mp h
    rw [run_cons, execute_eq hw hn, Option.bind_some, ih hws (Registers.get_set hrd),
      Registers.set_set, List.foldl_cons]

theorem read_source (op : Word) (v : Int64) (hrd : rd < 32) (hrs : rs < 32)
    (hop : Stretch.read ⟨15, 5⟩ op = 0) : Stretch.read ⟨15, 5⟩ (immediate op rd rs v) = rs := by
  have hregister : Stretch.read ⟨15, 5⟩ (Stretch.place ⟨7, 5⟩ rd) = 0 :=
    (Within.place (s := ⟨7, 5⟩) hrd).read_eq_zero fun t ht => List.mem_singleton.mp ht ▸ by decide
  have himm : Stretch.read ⟨15, 5⟩ (Field.i.place v) = 0 :=
    (within_place Field.i v).read_eq_zero fun t ht => List.mem_singleton.mp ht ▸ by decide
  change Stretch.read ⟨15, 5⟩ (op ||| Stretch.place ⟨7, 5⟩ rd ||| Stretch.place ⟨15, 5⟩ rs |||
    Field.i.place v) = rs
  rw [Stretch.read_or, Stretch.read_or, Stretch.read_or, hop, hregister, himm,
    Stretch.read_place hrs (by decide)]
  simp

theorem loads_add (hrd : rd < 32) (hrs : rs < 32) : Loads is64 rd rs (immediate 0x13 rd rs v) where
  destination := (read_immediate 0x13 v hrd hrs).1 (by decide)
  form := by
    have hread := (read_immediate 0x13 v hrd hrs).2.1
    exact Or.inr ⟨read_source _ v hrd hrs (by decide),
      Or.inl ⟨hread _ (Or.inl (by decide)), hread _ (Or.inr rfl)⟩⟩

theorem loads_addWord (hrd : rd < 32) (hrs : rs < 32) :
    Loads true rd rs (immediate 0x1b rd rs v) where
  destination := (read_immediate 0x1b v hrd hrs).1 (by decide)
  form := by
    have hread := (read_immediate 0x1b v hrd hrs).2.1
    exact Or.inr ⟨read_source _ v hrd hrs (by decide),
      Or.inr ⟨rfl, Or.inr ⟨hread _ (Or.inl (by decide)), hread _ (Or.inr rfl)⟩⟩⟩

theorem loads_shift (hrd : rd < 32) (hrs : rs < 32) :
    Loads true rd rs (immediate 0x1013 rd rs 11) where
  destination := (read_immediate 0x1013 11 hrd hrs).1 (by decide)
  form := by
    obtain ⟨-, hread, himm⟩ := read_immediate 0x1013 11 hrd hrs
    have hamount : Stretch.read ⟨20, 12⟩ (immediate 0x1013 rd rs 11) = 11 :=
      himm ⟨20, 12⟩ (by decide) (by decide)
    exact Or.inr ⟨read_source _ 11 hrd hrs (by decide), Or.inr ⟨rfl, Or.inl
      ⟨hread _ (Or.inl (by decide)), hread _ (Or.inr rfl), by omega⟩⟩⟩

theorem loads_upper (hrd : rd < 32) : Loads is64 rd rs (loadUpper rd v) where
  destination := (read_loadUpper hrd v).2.1
  form := Or.inl ((read_loadUpper hrd v).1 _ (by decide))

theorem loads_sequence (hrd : rd < 32) (hwide : groups = 0 ∨ is64 = true) {w : Word}
    (hw : w ∈ sequence rd is64 whole groups v) : Loads is64 rd rd w := by
  induction groups generalizing v with
  | zero =>
    rw [sequence] at hw
    rcases List.mem_cons.mp hw with rfl | hw
    · exact loads_upper hrd
    · split at hw
      · rw [List.mem_singleton.mp hw]
        cases is64 with
        | true => exact loads_addWord hrd hrd
        | false => exact loads_add hrd hrd
      · cases hw
  | succ k ih =>
    obtain rfl : is64 = true := hwide.resolve_left (by omega)
    rw [sequence] at hw
    rcases List.mem_append.mp hw with hw | hw
    · rcases List.mem_append.mp hw with hw | hw
      · exact ih (Or.inr rfl) hw
      · rw [List.mem_singleton.mp hw]
        exact loads_shift hrd hrd
    · split at hw
      · rw [List.mem_singleton.mp hw]
        exact loads_add hrd hrd
      · cases hw

theorem length_sequence_le : (sequence rd is64 whole groups v).length ≤ 2 + 2 * groups := by
  induction groups generalizing v with
  | zero =>
    rw [sequence, List.length_cons]
    split <;> simp
  | succ k ih =>
    have hrest := ih (v := v >>> 11)
    rw [sequence, List.length_append, List.length_append, List.length_singleton]
    split
    · rw [List.length_singleton]
      omega
    · rw [List.length_nil]
      omega

theorem length_sequence_whole : (sequence rd is64 true groups v).length = 2 + 2 * groups := by
  induction groups generalizing v with
  | zero => simp [sequence]
  | succ k ih =>
    rw [sequence, List.length_append, List.length_append, ih]
    simp
    omega

/-- What loads a constant leaves it in the register and changes no other. -/
theorem run_words {c : LoadConstant} (hrd : rd < 32) (hne : rd ≠ 0)
    (hfits : fitsSigned v (c.width is64) = true)
    (hwide : is64 = true ∨ c.width true ≤ 32 ∨ c = .shortest) (s : Registers is64) :
    run (c.words rd is64 v) s =
      some (s.set rd (BitVec.ofInt (registerBits is64) v.toInt)) := by
  rcases words_cases rd hfits hwide with ⟨hwords, h12⟩ | ⟨whole, groups, hwords, hg, hv⟩
  · obtain ⟨hlow, hhigh⟩ := (fitsSigned_iff (by decide) (by decide)).mp h12
    have hzero : s.get 0 = BitVec.ofInt (registerBits is64) 0 := rfl
    have hbuild : BitVec.ofInt (registerBits is64) (build is64 0 (immediate 0x13 rd 0 v)) =
        BitVec.ofInt (registerBits is64) v.toInt := by
      rw [build_add hrd (by decide) (admits_i hlow hhigh), Int.zero_add]
      cases is64 with
      | true => rfl
      | false => exact ofInt_bmod (k := 32) _
    rw [hwords, run_cons, execute_eq (loads_add hrd (by decide)) hzero, Option.bind_some, hbuild]
    rfl
  · have hany : s.get rd = BitVec.ofInt (registerBits is64) (s.get rd).toInt :=
      BitVec.ofInt_toInt.symm
    rw [hwords, run_eq hne (fun w hw => loads_sequence hrd hg hw) hany,
      foldl_build_sequence hrd hg hv]

def count? : LoadConstant → Option Nat
  | shortest => none
  | bits12 => some 1
  | bits32 => some 2
  | bits43 => some 4
  | bits54 => some 6

theorem groups_le (v : Int64) : LoadConstant.groups v ≤ 3 := by
  unfold LoadConstant.groups
  repeat' split
  all_goals decide

theorem length_words (c : LoadConstant) (rd : Nat) (is64 : Bool) (v : Int64) :
    (c.words rd is64 v).length ≤ 8 ∧ ∀ k ∈ c.count?, (c.words rd is64 v).length = k := by
  cases c with
  | shortest =>
    refine ⟨?_, nofun⟩
    unfold words
    dsimp only
    split
    · simp
    · have hgroups := groups_le v
      exact Nat.le_trans length_sequence_le (by omega)
  | bits12 => exact ⟨by simp [words], fun k hk => Option.some.inj hk⟩
  | bits32 | bits43 | bits54 =>
    refine ⟨?_, fun k hk => ?_⟩
    · rw [words, length_sequence_whole]
      decide
    · cases hk
      exact length_sequence_whole

/-- The number that is loaded. On registers of 32 bits, one that has no place for its sign is taken
as the number with the same bits. -/
def constantOf (is64 : Bool) (v : Int64) : Int :=
  if is64 = false ∧ 2 ^ 31 - 1 < v.toInt ∧ v.toInt ≤ 2 ^ 32 - 1 then v.toInt - 2 ^ 32 else v.toInt

structure Loadable (c : LoadConstant) (is64 : Bool) (v : Int64) : Prop where
  available : c = bits43 ∨ c = bits54 → is64 = true
  low : -2 ^ (c.width is64 - 1) ≤ constantOf is64 v
  high : constantOf is64 v < 2 ^ (c.width is64 - 1)

theorem ofInt_constantOf (is64 : Bool) (v : Int64) :
    BitVec.ofInt (registerBits is64) (constantOf is64 v) =
      BitVec.ofInt (registerBits is64) v.toInt := by
  unfold constantOf
  split
  next h =>
    obtain ⟨rfl, -, -⟩ := h
    rw [← ofInt_bmod (k := registerBits false), ← ofInt_bmod (k := registerBits false) v.toInt]
    exact congrArg _ (Int.sub_bmod_right v.toInt (2 ^ 32))
  · rfl

theorem toInt_wrapWord_eq {p : Profile} (hp : p.xlen = 32 ↔ p.is64 = false) (v : Int64) :
    (wrapWord p.xlen v).toInt = constantOf p.is64 v := by
  have hrange : (p.xlen = 32 && 0x80000000 ≤ v.toInt && v.toInt < 0x100000000) = true ↔
      p.is64 = false ∧ 2 ^ 31 - 1 < v.toInt ∧ v.toInt ≤ 2 ^ 32 - 1 := by
    rw [Bool.and_eq_true, Bool.and_eq_true, decide_eq_true_eq, decide_eq_true_eq, decide_eq_true_eq,
      hp, and_assoc]
    refine and_congr_right fun _ => ?_
    omega
  have h32 : (0x100000000 : Int64).toInt = 2 ^ 32 := by decide
  unfold wrapWord constantOf
  by_cases h : p.is64 = false ∧ 2 ^ 31 - 1 < v.toInt ∧ v.toInt ≤ 2 ^ 32 - 1
  · rw [if_pos (hrange.mpr h), if_pos h, Int64.toInt_sub, h32]
    exact Int.bmod_eq_of_le (by omega) (by omega)
  · rw [if_neg (fun h' => h (hrange.mp h')), if_neg h]

theorem fitsSigned_iff_pow {k : Nat} (h0 : 0 < k) (hk : k ≤ 64) :
    fitsSigned v k = true ↔ -2 ^ (k - 1) ≤ v.toInt ∧ v.toInt < 2 ^ (k - 1) := by
  rcases Nat.lt_or_eq_of_le hk with hlt | rfl
  · rw [fitsSigned_iff h0 hlt]
    push_cast
    rfl
  · exact ⟨fun _ => ⟨v.le_toInt, v.toInt_lt⟩, fun _ => rfl⟩

theorem available_iff {c : LoadConstant} {is64 : Bool} :
    (is64 = true ∨ c.width true ≤ 32 ∨ c = .shortest) ↔
      (c = bits43 ∨ c = bits54 → is64 = true) := by
  cases c <;> cases is64 <;> decide

theorem loadable_iff {c : LoadConstant} {p : Profile} (hp : p.xlen = 32 ↔ p.is64 = false) :
    ((p.is64 = true ∨ c.width true ≤ 32 ∨ c = .shortest) ∧
      fitsSigned (wrapWord p.xlen v) (c.width p.is64) = true) ↔ Loadable c p.is64 v := by
  have hwidth : 0 < c.width p.is64 ∧ c.width p.is64 ≤ 64 := by
    cases c <;> cases p.is64 <;> decide
  rw [available_iff, fitsSigned_iff_pow hwidth.1 hwidth.2, toInt_wrapWord_eq hp]
  exact ⟨fun ⟨h, hlow, hhigh⟩ => ⟨h, hlow, hhigh⟩, fun ⟨h, hlow, hhigh⟩ => ⟨h, hlow, hhigh⟩⟩

end LoadConstant

theorem Profile.xlen_normalize (q : Profile) :
    q.normalize.xlen = 32 ↔ q.normalize.is64 = false := by
  unfold normalize is64
  split <;> simp_all

theorem Profile.embedded_normalize (q : Profile) : q.normalize.embedded = q.embedded := by
  unfold normalize
  split <;> rfl

theorem encode_eq_ok_iff_loadable {q : Profile} {mnemonic : String} {c : LoadConstant}
    {rd : Register} {v : Int64} {e : Encoded Reloc}
    (hc : LoadConstant.ofName? (Text.toLower (Text.trim mnemonic)) = some c)
    (hfile : rd.file = Register.fileX) (hfault : rd.fault? q.embedded = none) :
    encode q.normalize mnemonic [.operand (.reg rd), .operand (.imm v)] = .ok e ↔
      c.Loadable q.normalize.is64 v ∧
        e = ⟨(c.words rd.num q.normalize.is64 (wrapWord q.normalize.xlen v)).flatMap Bytes.ofWord,
          []⟩ := by
  have hencode : encode q.normalize mnemonic [.operand (.reg rd), .operand (.imm v)] =
      c.encode (Text.toLower (Text.trim mnemonic)) q.normalize [.reg rd, .imm v] := by
    change encodeIn q.normalize mnemonic [.reg rd, .imm v] = _
    unfold encodeIn
    dsimp only
    rw [hc]
  rw [hencode, LoadConstant.encode_eq_ok_iff, ← LoadConstant.loadable_iff q.xlen_normalize,
    q.embedded_normalize]
  constructor
  · rintro ⟨rd', v', hargs, -, -, hwide, hfits, he⟩
    cases hargs
    exact ⟨⟨hwide, hfits⟩, he⟩
  · rintro ⟨⟨hwide, hfits⟩, he⟩
    exact ⟨rd, v, rfl, hfile, hfault, hwide, hfits, he⟩

/-- Loading a constant into an integer register is possible exactly if the mnemonic exists at the
width of the registers and the number fits. The instructions then leave the number in that register
and nothing else. There are at most eight of them, and those of a mnemonic with a width are always
as many. -/
theorem constants_loaded {q : Profile} {mnemonic : String} {c : LoadConstant} {rd : Register}
    (v : Int64) (hc : LoadConstant.ofName? (Text.toLower (Text.trim mnemonic)) = some c)
    (hfile : rd.file = Register.fileX) (hfault : rd.fault? q.embedded = none) (hrd : rd.num ≠ 0) :
    ((∃ e, encode q.normalize mnemonic [.operand (.reg rd), .operand (.imm v)] = .ok e) ↔
      c.Loadable q.normalize.is64 v) ∧
    ∀ e, encode q.normalize mnemonic [.operand (.reg rd), .operand (.imm v)] = .ok e →
      ∃ ws, e = ⟨ws.flatMap Bytes.ofWord, []⟩ ∧ ws.length ≤ 8 ∧
        (∀ k ∈ c.count?, ws.length = k) ∧ ∀ s : Registers q.normalize.is64,
          run ws s = some (s.set rd.num (BitVec.ofInt _ v.toInt)) := by
  have hiff := fun e => encode_eq_ok_iff_loadable (v := v) (e := e) hc hfile hfault
  refine ⟨⟨fun ⟨e, he⟩ => ((hiff e).mp he).1, fun h => ⟨_, (hiff _).mpr ⟨h, rfl⟩⟩⟩, ?_⟩
  intro e he
  obtain ⟨hloadable, rfl⟩ := (hiff e).mp he
  obtain ⟨hwide, hfits⟩ := (LoadConstant.loadable_iff q.xlen_normalize).mpr hloadable
  obtain ⟨hle, hcount⟩ := LoadConstant.length_words c rd.num q.normalize.is64
    (wrapWord q.normalize.xlen v)
  refine ⟨_, rfl, hle, hcount, fun s => ?_⟩
  rw [LoadConstant.run_words (num_lt_of_fault? hfault) hrd hfits hwide,
    LoadConstant.toInt_wrapWord_eq q.xlen_normalize, LoadConstant.ofInt_constantOf]

/-- A constant whose upper part has no place below the sign of a word. -/
theorem constants_loaded_rounded :
    LoadConstant.ofName? (Text.toLower (Text.trim " LI")) = some .shortest ∧
      (Register.x 5).file = Register.fileX ∧
      (Register.x 5).fault? Profile.rv64gc.embedded = none ∧ (Register.x 5).num ≠ 0 ∧
      ∃ ws, encode Profile.rv64gc " LI" [.operand (.reg (.x 5)), .operand (.imm 0x7fffffff)] =
          .ok ⟨ws.flatMap Bytes.ofWord, []⟩ ∧
        ∀ s : Registers true, run ws s = some (s.set 5 0x7fffffff) := by
  have hname : LoadConstant.ofName? (Text.toLower (Text.trim " LI")) = some .shortest := by
    decide +kernel
  have hfile : (Register.x 5).file = Register.fileX := by decide
  obtain ⟨hloadable, hwords⟩ := constants_loaded (q := .rv64gc) 0x7fffffff hname hfile
    (by decide) (by decide)
  obtain ⟨e, he⟩ := hloadable.mpr ⟨fun _ => rfl, by decide, by decide⟩
  obtain ⟨ws, rfl, -, -, hrun⟩ := hwords e he
  exact ⟨hname, hfile, by decide, by decide, ws, he, hrun⟩

end MachineCode.Riscv
