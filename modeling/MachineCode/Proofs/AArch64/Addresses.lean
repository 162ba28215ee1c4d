import MachineCode.AArch64.Instructions.Memory
import MachineCode.Proofs.AArch64.Execution

/-!
Addresses in the words of loads and stores. The architecture tells by fixed bits how the distance
from the base stands in a word: as a number of twelve bits that counts accesses, as a signed number
of bytes, as a signed number of accesses for a pair of registers, or as another register. A word
that was filled in one of these forms is read in the same form.
-/
namespace MachineCode.AArch64

inductive Distance where
  | number (v : Int)
  /-- A register of a width, extended or shifted to the left by an amount. -/
  | register (num : Nat) (is64 : Bool) (kind : ModKind) (amount : Nat)
  deriving DecidableEq

/-- Where memory is accessed. Base number 31 is the stack pointer. -/
structure Address where
  base : Nat
  mode : AddrMode
  distance : Distance
  deriving DecidableEq

inductive Indexing where
  | plain
  | pre
  | post
  deriving DecidableEq

namespace Indexing

def mode : Indexing → AddrMode
  | plain => .offset
  | pre => .preIndex
  | post => .postIndex

def slot : Indexing → Slot
  | plain => .memImm
  | pre => .memPre
  | post => .memPost

end Indexing

inductive NumberForm where
  | scaled
  | unscaled (i : Indexing)
  | pair (i : Indexing)
  deriving DecidableEq

namespace NumberForm

def mode : NumberForm → AddrMode
  | scaled => .offset
  | unscaled i | pair i => i.mode

def slot (scale : Nat) : NumberForm → Slot
  | scaled => .memU12 scale
  | unscaled i | pair i => i.slot

def stretch : NumberForm → Stretch
  | scaled => ⟨10, 12⟩
  | unscaled _ => ⟨12, 9⟩
  | pair _ => ⟨15, 7⟩

def signed : NumberForm → Bool
  | scaled => false
  | unscaled _ | pair _ => true

/-- The logarithm of the bytes that the number counts, for accesses of `2 ^ scale` bytes. -/
def unit (scale : Nat) : NumberForm → Nat
  | unscaled _ => 0
  | scaled | pair _ => scale

def field (scale : Nat) (n : NumberForm) : BitField :=
  { pieces := [⟨n.unit scale, n.stretch.width, n.stretch.pos⟩]
    bits := n.stretch.width + n.unit scale
    signed := n.signed
    scale := n.unit scale }

def read (scale : Nat) (w : Word) (n : NumberForm) : Int :=
  let number := n.stretch.read w
  (if n.signed then Int.bmod number (2 ^ n.stretch.width) else number) * 2 ^ n.unit scale

theorem undo_field (n : NumberForm) (scale number : Nat) : (n.field scale).undo number =
    (if n.signed then Int.bmod number (2 ^ n.stretch.width) else number) * 2 ^ n.unit scale := by
  rw [BitField.undo, field, Nat.add_sub_cancel]

theorem field_regular (n : NumberForm) {scale : Nat} (h : scale < 5) :
    (n.field scale).isPlain = true ∧ (n.field scale).Proper := by
  have hall : ∀ s < 5, ((scaled.field s).isPlain = true ∧ (scaled.field s).Proper) ∧
      (((unscaled .plain).field s).isPlain = true ∧ ((unscaled .plain).field s).Proper) ∧
      ((pair .plain).field s).isPlain = true ∧ ((pair .plain).field s).Proper := by
    decide +kernel
  obtain ⟨hscaled, hunscaled, hpair⟩ := hall scale h
  cases n with
  | scaled => exact hscaled
  | unscaled i => exact hunscaled
  | pair i => exact hpair

end NumberForm

inductive AddressForm where
  | number (n : NumberForm)
  | register
  deriving DecidableEq

/-- The classes of loads and stores by their addresses: of one register with a scaled number, an
unscaled one or an index, and of pairs. -/
def addressForms : List (Pattern AddressForm) :=
  [⟨0x3b000000, 0x39000000, .number .scaled⟩,
    ⟨0x3b200c00, 0x38000000, .number (.unscaled .plain)⟩,
    ⟨0x3b200c00, 0x38000400, .number (.unscaled .post)⟩,
    ⟨0x3b200c00, 0x38000c00, .number (.unscaled .pre)⟩,
    ⟨0x3b200c00, 0x38200800, .register⟩,
    ⟨0x3b800000, 0x28800000, .number (.pair .post)⟩,
    ⟨0x3b800000, 0x29000000, .number (.pair .plain)⟩,
    ⟨0x3b800000, 0x29800000, .number (.pair .pre)⟩]

def indexing? : Nat → Option (Bool × ModKind)
  | 2 => some (false, .uxtw)
  | 3 => some (true, .lsl)
  | 6 => some (false, .sxtw)
  | 7 => some (true, .sxtx)
  | _ => none

namespace AddressForm

/-- The logarithm of the bytes of an access. Vector registers of 128 bits have the size bits of
bytes and another bit set; a pair is one of words at least. -/
def scale (w : Word) : AddressForm → Nat
  | number (.pair _) =>
    2 + if Stretch.read ⟨26, 1⟩ w = 1 then Stretch.read ⟨30, 2⟩ w else Stretch.read ⟨31, 1⟩ w
  | _ => Stretch.read ⟨30, 2⟩ w +
    if Stretch.read ⟨26, 1⟩ w = 1 ∧ Stretch.read ⟨23, 1⟩ w = 1 then 4 else 0

def slot (scale : Nat) : AddressForm → Slot
  | number n => n.slot scale
  | register => .memIdx

def action (scale : Nat) : AddressForm → Action
  | number n => .imm (n.field scale)
  | register => .memIndex scale

def distance? (w : Word) (k : AddressForm) : Option Distance :=
  match k with
  | number n => some (.number (n.read (k.scale w) w))
  | register => (indexing? (Stretch.read ⟨13, 3⟩ w)).map fun (is64, kind) =>
    .register (Stretch.read ⟨16, 5⟩ w) is64 kind (Stretch.read ⟨12, 1⟩ w * k.scale w)

def mode : AddressForm → AddrMode
  | number n => n.mode
  | register => .offset

end AddressForm

def address? (w : Word) : Option Address :=
  (classify addressForms w).bind fun k =>
    (k.distance? w).map fun d => ⟨Stretch.read ⟨5, 5⟩ w, k.mode, d⟩

def AddressForm.stretches (k : AddressForm) (positions : List Nat) (scale : Nat) : List Stretch :=
  (positions ++ [5]).map (Stretch.mk · 5) ++ (k.action scale).stretches

/-- Words with these fixed bits are of the form, and clear where they are filled. -/
structure AddressForm.Marks (k : AddressForm) (positions : List Nat) (scale : Nat) (base : Word) :
    Prop where
  vacant : Vacant base (k.stretches positions scale)
  marks : settled base (covered (k.stretches positions scale)) addressForms = some k
  size : k.scale base = scale
  low : ∀ s ∈ k.stretches positions scale, s.stop ≤ 22

instance (k : AddressForm) (positions : List Nat) (scale : Nat) (base : Word) :
    Decidable (k.Marks positions scale base) :=
  decidable_of_iff (Vacant base (k.stretches positions scale) ∧
    settled base (covered (k.stretches positions scale)) addressForms = some k ∧
    k.scale base = scale ∧ ∀ s ∈ k.stretches positions scale, s.stop ≤ 22)
    ⟨fun ⟨h1, h2, h3, h4⟩ => ⟨h1, h2, h3, h4⟩, fun ⟨h1, h2, h3, h4⟩ => ⟨h1, h2, h3, h4⟩⟩

def filledWord (base : Word) (positions : List Nat) (rs : List Register) (b : Register)
    (bits : Word) : Word :=
  base ||| (registerBits (positions ++ [5]) (rs ++ [b]) ||| bits)

section Filled

variable {k : AddressForm} {positions : List Nat} {scale : Nat} {base bits : Word}
  {rs : List Register} {b : Register} {ns : List Nat}

theorem read_filled (hmarks : k.Marks positions scale base)
    (hlength : positions.length = rs.length) (hrs : ∀ r ∈ rs, r.fault? = none)
    (hb : b.fault? = none) (hbits : Sets (k.action scale).stretches ns bits) :
    let w := filledWord base positions rs b bits
    positions.map (Stretch.read ⟨·, 5⟩ w) = rs.map (·.num) ∧ Stretch.read ⟨5, 5⟩ w = b.num ∧
      (k.action scale).stretches.map (·.read w) = ns ∧ classify addressForms w = some k ∧
      k.scale w = scale := by
  intro w
  have hregisters := sets_registers (positions ++ [5]) (rs ++ [b])
    (by simp [hlength]) (by simpa [or_imp, forall_and] using ⟨hrs, hb⟩)
  have hsets := hregisters.append hbits
  have hread := map_read_of_sets hsets hmarks.vacant
  -- What is read falls into the registers in front, the base and the numbers of the action.
  simp only [List.map_append] at hread
  obtain ⟨hfront, hlast⟩ := List.append_inj hread (by simp [hlength])
  obtain ⟨hnums, hbase⟩ := List.append_inj hfront (by simp [hlength])
  have hlow : ∀ t : Stretch, 22 ≤ t.pos → t.read w = t.read base := by
    intro t ht
    refine read_of_sets_apart hsets hmarks.vacant fun s hs => Or.inr ?_
    exact Nat.le_trans (hmarks.low s hs) ht
  have hform := classify_of_settled (agreeOutside_of_sets hsets hmarks.vacant) hmarks.marks
  refine ⟨?_, ?_, ?_, hform, ?_⟩
  · rw [List.map_map] at hnums
    exact hnums
  · exact (List.cons.inj hbase).1
  · exact hlast
  · rw [← hmarks.size]
    simp only [AddressForm.scale]
    rw [hlow ⟨26, 1⟩ (by decide), hlow ⟨30, 2⟩ (by decide), hlow ⟨31, 1⟩ (by decide),
      hlow ⟨23, 1⟩ (by decide)]

end Filled

/-! ### Memory operands -/

/-- A register that addresses start from. -/
def Register.IsBase (r : Register) : Prop :=
  r.fault? = none ∧ (r.family = Family.x ∧ r.num < 31 ∨ r.family = Family.sp)

namespace Mem

def indexMod? (m : Mem) : Option Mod := if m.mod.kind = .none then none else some m.mod

/-- The extension of the index, a shift where none is written. -/
def indexExtension (m : Mem) : ModKind := if m.mod.kind = .none then .lsl else m.mod.kind

def address (m : Mem) : Address where
  base := m.base.num
  mode := m.mode
  distance :=
    if m.index = .absent then .number m.offset.toInt
    else .register m.index.num (m.index.family == Family.x) m.indexExtension
      (indexAmount m.indexMod?)

structure Indexes (m : Mem) (scale : Nat) : Prop where
  valid : m.index.fault? = none
  extension : m.index.family = Family.w ∧ (m.indexExtension = .uxtw ∨ m.indexExtension = .sxtw) ∨
    m.index.family = Family.x ∧ (m.indexExtension = .lsl ∨ m.indexExtension = .sxtx)
  amount : indexAmount m.indexMod? = 0 ∨ indexAmount m.indexMod? = scale

end Mem

/-- The numbers of bytes that can be written in a form, for accesses of `2 ^ scale` bytes. -/
def NumberForm.Takes (scale : Nat) (v : Int) : NumberForm → Prop
  | scaled => (2 : Int) ^ scale ∣ v ∧ 0 ≤ v ∧ v < 4096 * 2 ^ scale
  | unscaled _ => -256 ≤ v ∧ v ≤ 255
  | pair _ => (2 : Int) ^ scale ∣ v ∧ -64 * 2 ^ scale ≤ v ∧ v < 64 * 2 ^ scale

def AddressForm.Takes (scale : Nat) (m : Mem) : AddressForm → Prop
  | number n => (m.index = .absent ∧ m.mod.kind = .none) ∧ m.mode = n.mode ∧
    n.Takes scale m.offset.toInt
  | register => m.Indexes scale ∧ m.mode = .offset ∧ m.offset = 0

theorem NumberForm.admits_iff_takes (n : NumberForm) (scale : Nat) (v : Int64) :
    (n.field scale).Admits v ↔ n.Takes scale v.toInt := by
  have hunit : ((2 ^ scale : Nat) : Int) = 2 ^ scale := by norm_cast
  have hpow : ∀ k : Nat, ((2 ^ (k + scale) : Nat) : Int) = 2 ^ k * 2 ^ scale := by
    intro k
    rw [Nat.pow_add]
    norm_cast
  cases n with
  | scaled =>
    have hbound : ((2 ^ (12 + scale) : Nat) : Int) = 4096 * 2 ^ scale := hpow 12
    constructor
    · rintro ⟨hdvd, hrange, -⟩
      exact ⟨hunit ▸ hdvd, hrange.1, hbound ▸ hrange.2⟩
    · rintro ⟨hdvd, hlow, hhigh⟩
      exact ⟨hunit ▸ hdvd, ⟨hlow, hbound ▸ hhigh⟩, fun h => by cases h⟩
  | unscaled i =>
    constructor
    · rintro ⟨-, ⟨hlow, hhigh⟩, -⟩
      exact ⟨hlow, Int.le_of_lt_add_one hhigh⟩
    · rintro ⟨hlow, hhigh⟩
      exact ⟨Int.one_dvd _, ⟨hlow, Int.lt_add_one_of_le hhigh⟩, fun h => by cases h⟩
  | pair i =>
    have hbits : 7 + scale - 1 = 6 + scale := by omega
    have hbound : ((2 ^ (7 + scale - 1) : Nat) : Int) = 64 * 2 ^ scale := by
      rw [hbits]
      exact hpow 6
    have hrange_iff : (-((2 ^ (7 + scale - 1) : Nat) : Int) ≤ v.toInt ∧
        v.toInt < (2 ^ (7 + scale - 1) : Nat)) ↔
        -64 * 2 ^ scale ≤ v.toInt ∧ v.toInt < 64 * 2 ^ scale := by
      rw [hbound, Int.neg_mul]
    constructor
    · rintro ⟨hdvd, hrange, -⟩
      exact ⟨hunit ▸ hdvd, hrange_iff.mp hrange⟩
    · rintro ⟨hdvd, hrange⟩
      exact ⟨hunit ▸ hdvd, hrange_iff.mpr hrange, fun h => by cases h⟩

section Indices

variable {name : String} {m : Mem} {scale option : Nat}

theorem exists_indexOption_iff (name : String)
    (hfamily : m.index.family = Family.w ∨ m.index.family = Family.x) :
    (∃ option, indexOption name m.index m.indexMod? = .ok option) ↔
      m.index.family = Family.w ∧ (m.indexExtension = .uxtw ∨ m.indexExtension = .sxtw) ∨
        m.index.family = Family.x ∧
          (m.indexExtension = .lsl ∨ m.indexExtension = .sxtx) := by
  have hne : Family.x ≠ Family.w := by decide
  unfold indexOption Mem.indexMod? Mem.indexExtension
  by_cases hnone : m.mod.kind = .none
  · rcases hfamily with hw | hx
    · simp [hnone, hw, hne.symm, show ModKind.lsl ≠ .uxtw by decide,
        show ModKind.lsl ≠ .sxtw by decide]
    · simp [hnone, hx, hne]
  · rcases hfamily with hw | hx
    · by_cases hkind : m.mod.kind = .uxtw ∨ m.mod.kind = .sxtw
      · simp [hnone, hw, hne.symm, hkind]
      · simp [hnone, hw, hne.symm, hkind]
    · by_cases hsxtx : m.mod.kind = .sxtx
      · simp [hx, hne, hsxtx, show ModKind.sxtx ≠ .none by decide]
      · by_cases hlsl : m.mod.kind = .lsl
        · simp [hx, hne, hlsl, show ModKind.lsl ≠ .none by decide,
            show ModKind.lsl ≠ .sxtx by decide]
        · simp [hnone, hx, hne, hsxtx, hlsl]

theorem exists_indexScaled_iff (name : String) :
    (∃ s, indexScaled name m.indexMod? scale = .ok s) ↔
      indexAmount m.indexMod? = 0 ∨ indexAmount m.indexMod? = scale := by
  unfold indexScaled indexAmount
  cases m.indexMod? with
  | none => simp
  | some mod =>
    by_cases hbare : mod.bare = true
    · simp [hbare]
    · by_cases hscale : mod.amount.toNat = scale
      · simp [hbare, hscale]
      · by_cases hzero : mod.amount = 0
        · have hpos : 0 ≠ scale := by
            rintro rfl
            exact hscale (congrArg UInt8.toNat hzero)
          simp [hbare, hzero, hpos]
        · have hnat : mod.amount.toNat ≠ 0 := by
            intro h
            exact hzero (UInt8.toNat_inj.mp h)
          simp [hbare, hscale, hzero, hnat]

/-- An index is encoded exactly if it is one that memory operands may have. -/
theorem exists_memIndexBits_iff (name : String) (scale : Nat) (hvalid : m.index.fault? = none)
    (hfamily : m.index.family = Family.w ∨ m.index.family = Family.x) :
    (∃ bits, Filling.memIndexBits name m.index m.indexMod? scale = .ok bits) ↔
      m.Indexes scale := by
  rw [memIndexBits_eq]
  constructor
  · rintro ⟨bits, h⟩
    cases hoption : indexOption name m.index m.indexMod? with
    | error e =>
      rw [hoption] at h
      cases h
    | ok option =>
      cases hs : indexScaled name m.indexMod? scale with
      | error e =>
        rw [hoption, hs] at h
        cases h
      | ok s =>
        exact ⟨hvalid, (exists_indexOption_iff name hfamily).mp ⟨option, hoption⟩,
          (exists_indexScaled_iff name).mp ⟨s, hs⟩⟩
  · rintro ⟨-, hextension, hamount⟩
    obtain ⟨option, hoption⟩ := (exists_indexOption_iff name hfamily).mpr hextension
    obtain ⟨s, hs⟩ := (exists_indexScaled_iff name).mpr hamount
    rw [hoption, hs]
    exact ⟨_, rfl⟩

theorem indexKind_indexMod? (m : Mem) : indexKind m.indexMod? =
    if m.indexExtension = .lsl then ModKind.uxtx.code.toNat
    else m.indexExtension.code.toNat := by
  unfold Mem.indexMod? Mem.indexExtension
  by_cases hnone : m.mod.kind = .none
  · rw [if_pos hnone, if_pos hnone]
    rfl
  · rw [if_neg hnone, if_neg hnone]
    rfl

theorem indexing?_of_indexes (h : m.Indexes scale)
    (hoption : option + 5 = indexKind m.indexMod?) :
    indexing? option = some (m.index.family == Family.x, m.indexExtension) := by
  rw [indexKind_indexMod?] at hoption
  have hextension := h.extension
  generalize m.indexExtension = kind at hoption hextension ⊢
  rcases hextension with ⟨hw, rfl | rfl⟩ | ⟨hx, rfl | rfl⟩
  · cases Nat.add_right_cancel (k := 2) hoption
    rw [hw]
    rfl
  · cases Nat.add_right_cancel (k := 6) hoption
    rw [hw]
    rfl
  · cases Nat.add_right_cancel (k := 3) hoption
    rw [hx]
    rfl
  · cases Nat.add_right_cancel (k := 7) hoption
    rw [hx]
    rfl

end Indices

end MachineCode.AArch64
