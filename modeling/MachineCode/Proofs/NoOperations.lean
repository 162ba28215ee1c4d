import MachineCode.Encoder
import MachineCode.Proofs.Riscv.Profiles
import MachineCode.Proofs.X86.Decoding

/-!
Instructions that do nothing. What fills a stretch of code falls apart into instructions that the
encoders of fixed-length instruction sets make of their mnemonics, and that x86 processors read one
after the other. A stretch can be filled if and only if its length is a multiple of the shortest of
these instructions.
-/
namespace MachineCode

theorem length_flatten_replicate (k : Nat) (i : Bytes) :
    (List.replicate k i).flatten.length = k * i.length := by
  rw [List.length_flatten, List.map_replicate, List.sum_replicate_nat]

namespace X86

/-- What stands behind the no-operation in front of some bytes, if there is one. It is the code
`90`, or `0f 1f` with `/0` and an operand, either perhaps behind a prefix `66`. -/
def behindNop? (mode : Mode) (code : Bytes) : Option Bytes :=
  let d := match code with
    | 0x66 :: rest => decodeOpcode mode { short := true } rest
    | _ => decodeOpcode mode {} code
  if d.opcode = [0x90] then some d.body
  else if d.opcode = [0x0f, 0x1f] then
    d.modRm?.bind fun m => if m.reg = 0 then some m.rest else none
  else none

/-- A processor reads the bytes as one instruction that does nothing, whatever follows them. -/
def IsNop (mode : Mode) (i : Bytes) : Prop := ∀ rest, behindNop? mode (i ++ rest) = some rest

theorem isNop_of_mem {i : Bytes} (h : i ∈ nopForms) (mode : Mode) : IsNop mode i := by
  intro rest
  simp only [nopForms, List.mem_cons, List.not_mem_nil, or_false] at h
  rcases h with rfl | rfl | rfl | rfl | rfl | rfl | rfl | rfl | rfl <;>
    cases mode <;> rcases rest with _ | ⟨a, _ | ⟨b, rest⟩⟩ <;> rfl

theorem length_nopForms : ∀ i ∈ nopForms, 1 ≤ i.length ∧ i.length ≤ 9 := by decide

theorem getD_nopForms : ∀ n < 9, nopForms.getD n [] ∈ nopForms ∧
    (nopForms.getD n []).length = n + 1 := by decide

theorem exists_nopForms (length : Nat) :
    ∃ is : List Bytes, (∀ i ∈ is, i ∈ nopForms) ∧ nops length = is.flatten ∧
      is.flatten.length = length := by
  fun_induction nops length with
  | case1 => exact ⟨[], List.forall_mem_nil _, rfl, rfl⟩
  | case2 n hn =>
    obtain ⟨hmem, hlength⟩ := getD_nopForms n (by omega)
    refine ⟨[nopForms.getD n []], List.forall_mem_singleton.mpr hmem, ?_, ?_⟩
    · rw [List.flatten_singleton]
    · rw [List.flatten_singleton, hlength]
  | case3 length hlength ih =>
    obtain ⟨is, hforms, hnops, hrest⟩ := ih
    obtain ⟨hmem, hnine⟩ := getD_nopForms 8 (by decide)
    refine ⟨_ :: is, List.forall_mem_cons.mpr ⟨hmem, hforms⟩, ?_, ?_⟩
    · rw [hnops, List.flatten_cons]
    · rw [List.flatten_cons, List.length_append, hrest, hnine]
      omega

end X86

theorem AArch64.encode_nop : encode "nop" [] = .ok ⟨Bytes.ofWord nopWord, []⟩ := by
  decide +kernel

namespace Riscv

variable {p : Profile}

theorem encodeIn_nop : encodeIn p "nop" [] = .ok ⟨Bytes.ofNat 4 0x13, []⟩ := by
  have hname : Text.toLower (Text.trim "nop") = "nop" := by decide +kernel
  have hall : templatesOf "nop" = [.one 0x13 [] []] := by decide +kernel
  have hchosen : Chosen p "nop" [] (.one 0x13 [] []) := by
    constructor
    · rw [hname]
      decide +kernel
    · rw [hname, hall]
      rfl
  rw [hchosen.encodeIn_eq]
  rfl

theorem encodeIn_compressedNop (h : p.has [.c] = true) :
    encodeIn p "c.nop" [] = .ok ⟨Bytes.ofNat 2 0x0001, []⟩ := by
  have hname : Text.toLower (Text.trim "c.nop") = "c.nop" := by decide +kernel
  have hall : templatesOf "c.nop" = [.half 0x0001 [] []] := by decide +kernel
  have havailable : (Template.half 0x0001 [] []).availableIn p = true := by
    rw [Template.availableIn, Bool.and_eq_true]
    exact ⟨h, rfl⟩
  have hchosen : Chosen p "c.nop" [] (.half 0x0001 [] []) := by
    constructor
    · rw [hname]
      decide +kernel
    · rw [hname, hall]
      dsimp only [List.filter]
      rw [havailable]
      rfl
  rw [hchosen.encodeIn_eq]
  rfl

def nopList (length : Nat) : List Bytes :=
  List.replicate (length / 4) (Bytes.ofNat 4 0x13) ++
    if length % 4 = 2 then [Bytes.ofNat 2 0x0001] else []

theorem length_nopList {length : Nat} (h : length % 2 = 0) :
    (nopList length).flatten.length = length := by
  rw [nopList, List.flatten_append, List.length_append, length_flatten_replicate,
    Bytes.length_ofNat]
  split
  · rw [List.flatten_singleton, Bytes.length_ofNat]
    omega
  · rw [List.flatten_nil, List.length_nil]
    omega

theorem nops_eq (p : Profile) (length : Int) : nops p length =
    if length < 0 || length % 2 != 0 || (length % 4 != 0 && !p.has [.c]) then none
    else some (nopList length.toNat).flatten := by
  unfold nops
  split
  · rfl
  · rename_i haccepted
    have hpos : 0 ≤ length := by
      by_contra hneg
      simp [Int.not_le.mp hneg] at haccepted
    have hcount : (length / 4).toNat = length.toNat / 4 := by omega
    have hhalf : length % 4 = 2 ↔ length.toNat % 4 = 2 := by omega
    rw [nopList, List.flatten_append, hcount]
    simp only [hhalf]
    split <;> simp

theorem nops_natCast (length : Nat) : nops p length =
    if length % 2 = 0 ∧ (length % 4 = 0 ∨ p.has [.c] = true) then some (nopList length).flatten
    else none := by
  have hrefused : (decide ((length : Int) < 0) || (length : Int) % 2 != 0 ||
      ((length : Int) % 4 != 0 && !p.has [.c])) = true ↔
      ¬ (length % 2 = 0 ∧ (length % 4 = 0 ∨ p.has [.c] = true)) := by
    cases p.has [.c] <;> simp <;> omega
  rw [nops_eq, Int.toNat_natCast]
  simp only [hrefused, ite_not]

end Riscv

namespace Encoder

variable {e : Encoder}

def nopUnit : Encoder → Nat
  | x86 _ => 1
  | aarch64 => 4
  | riscv p => if p.has [.c] then 2 else 4

/-- Instructions that do nothing, one behind the other. On RISC-V the last one may be compressed,
if the profile has such instructions. -/
def Idles (e : Encoder) (is : List Bytes) : Prop :=
  match e with
  | x86 x => ∀ i ∈ is, 1 ≤ i.length ∧ i.length ≤ 9 ∧ X86.IsNop x.mode i
  | aarch64 => ∀ i ∈ is, i.length = 4 ∧ e.encode "nop" [] = .ok ⟨i, []⟩
  | riscv p => ∃ words halves, is = words ++ halves ∧
      (∀ i ∈ words, i.length = 4 ∧ e.encode "nop" [] = .ok ⟨i, []⟩) ∧
      halves.length ≤ 1 ∧
      ∀ i ∈ halves, p.has [.c] = true ∧ i.length = 2 ∧ e.encode "c.nop" [] = .ok ⟨i, []⟩

theorem idles_nil (e : Encoder) : e.Idles [] := by
  cases e with
  | x86 x => exact List.forall_mem_nil _
  | aarch64 => exact List.forall_mem_nil _
  | riscv p =>
    exact ⟨[], [], rfl, List.forall_mem_nil _, Nat.zero_le _, List.forall_mem_nil _⟩

theorem idles_nopList {p : Riscv.Profile} {length : Nat}
    (h : length % 4 = 2 → p.has [.c] = true) : (riscv p).Idles (Riscv.nopList length) := by
  refine ⟨_, _, rfl, ?_, ?_, ?_⟩
  · intro i hi
    obtain rfl := List.eq_of_mem_replicate hi
    exact ⟨rfl, congrArg ofRiscv Riscv.encodeIn_nop⟩
  · split <;> decide
  · intro i hi
    split at hi
    · rename_i hhalf
      obtain rfl := List.mem_singleton.mp hi
      exact ⟨h hhalf, rfl, congrArg ofRiscv (Riscv.encodeIn_compressedNop (h hhalf))⟩
    · cases hi

theorem nopUnit_riscv_dvd_iff {p : Riscv.Profile} {length : Nat} :
    (riscv p).nopUnit ∣ length ↔ length % 2 = 0 ∧ (length % 4 = 0 ∨ p.has [.c] = true) := by
  cases hc : p.has [.c] <;> simp [nopUnit, hc] <;> omega

theorem nops_of_dvd {length : Nat} (h : e.nopUnit ∣ length) :
    ∃ is, e.Idles is ∧ e.nops length = .ok is.flatten ∧ is.flatten.length = length := by
  cases e with
  | x86 x =>
    obtain ⟨is, hforms, hnops, hlength⟩ := X86.exists_nopForms length
    refine ⟨is, fun i hi => ?_, congrArg Except.ok hnops, hlength⟩
    obtain ⟨hpos, hnine⟩ := X86.length_nopForms i (hforms i hi)
    exact ⟨hpos, hnine, X86.isNop_of_mem (hforms i hi) x.mode⟩
  | aarch64 =>
    have hrest : length % 4 = 0 := Nat.mod_eq_zero_of_dvd h
    refine ⟨List.replicate (length / 4) (Bytes.ofWord AArch64.nopWord), ?_, ?_, ?_⟩
    · intro i hi
      obtain rfl := List.eq_of_mem_replicate hi
      exact ⟨rfl, congrArg ofAArch64 AArch64.encode_nop⟩
    · rw [nops, if_neg (by omega)]
      rfl
    · rw [length_flatten_replicate]
      exact Nat.div_mul_cancel h
  | riscv p =>
    obtain ⟨heven, hhalf⟩ := nopUnit_riscv_dvd_iff.mp h
    refine ⟨Riscv.nopList length, ?_, ?_, Riscv.length_nopList heven⟩
    · exact idles_nopList fun hrest => hhalf.resolve_left (by omega)
    · rw [nops, Riscv.nops_natCast, if_pos ⟨heven, hhalf⟩]
      rfl

/-- No other stretch can be filled. -/
theorem nops_of_not_dvd {length : Nat} (h : ¬ e.nopUnit ∣ length) :
    ∃ error, e.nops length = .error error := by
  cases e with
  | x86 x => exact absurd (Nat.one_dvd length) h
  | aarch64 =>
    have hrest : length % 4 ≠ 0 := fun hrest => h (Nat.dvd_of_mod_eq_zero hrest)
    refine ⟨.nopWords length, ?_⟩
    rw [nops, if_pos (by omega)]
  | riscv p =>
    refine ⟨.nopLength length, ?_⟩
    rw [nops, Riscv.nops_natCast, if_neg (fun hlength => h (nopUnit_riscv_dvd_iff.mpr hlength))]
    rfl

/-- No-operations in the portions in which they are appended: on x86 all at once, else one after
the other. -/
def nopPortions (e : Encoder) (length : Int) : Except Error (List Bytes) :=
  match e with
  | x86 _ => .ok [X86.nops length.toNat]
  | aarch64 =>
    if length % 4 ≠ 0 then .error (.nopWords length)
    else .ok (List.replicate (length / 4).toNat (Bytes.ofWord AArch64.nopWord))
  | riscv p =>
    if length < 0 || length % 2 != 0 || (length % 4 != 0 && !p.has [.c]) then
      .error (.nopLength length)
    else .ok (Riscv.nopList length.toNat)

theorem nops_eq (e : Encoder) (length : Int) :
    e.nops length = (e.nopPortions length).map List.flatten := by
  cases e with
  | x86 x => exact congrArg Except.ok (List.flatten_singleton).symm
  | aarch64 =>
    rw [nops, nopPortions]
    split <;> rfl
  | riscv p =>
    rw [nops, nopPortions, Riscv.nops_eq]
    split <;> rfl

/-- Whether code can be aligned to the multiples of a number: on x86 to those of any number, else if
the multiples are places of instructions, and on RISC-V to those of powers of two alone. -/
def Alignable (e : Encoder) (n : Int) : Prop :=
  match e with
  | x86 _ => 0 < n
  | aarch64 => 0 < n ∧ 4 ∣ n
  | riscv _ => e.nopUnit ≤ n ∧ n.toNat.isPowerOfTwo

theorem nopUnit_riscv_le_iff {p : Riscv.Profile} {n : Int} :
    (riscv p).nopUnit ≤ n ↔ 2 ≤ n ∧ (4 ≤ n ∨ p.has [.c] = true) := by
  cases hc : p.has [.c] <;> simp [nopUnit, hc]; omega

theorem canAlign_iff {n : Int} : e.canAlign n = true ↔ e.Alignable n := by
  cases e with
  | x86 x => exact decide_eq_true_iff
  | aarch64 =>
    rw [canAlign, Bool.and_eq_true, decide_eq_true_iff, decide_eq_true_iff, Alignable,
      Int.dvd_iff_emod_eq_zero]
  | riscv p =>
    simp only [canAlign, Alignable, nopUnit_riscv_le_iff, Bool.and_eq_true, Bool.or_eq_true,
      beq_iff_eq, decide_eq_true_iff]
    rw [and_right_comm]
    refine and_congr_right fun hunit => ?_
    exact Nat.and_sub_one_eq_zero_iff_isPowerOfTwo (by omega)

namespace Alignable

variable {n : Int}

theorem pos (h : e.Alignable n) : 0 < n := by
  cases e with
  | x86 x => exact h
  | aarch64 => exact h.1
  | riscv p =>
    have htwo := (nopUnit_riscv_le_iff.mp h.1).1
    omega

theorem dvd (h : e.Alignable n) : e.nopUnit ∣ n.toNat := by
  cases e with
  | x86 x => exact Nat.one_dvd _
  | aarch64 =>
    obtain ⟨hpos, hfour⟩ := h
    simp only [nopUnit]
    omega
  | riscv p =>
    obtain ⟨hunit, k, hk⟩ := h
    obtain ⟨htwo, hfour⟩ := nopUnit_riscv_le_iff.mp hunit
    rw [nopUnit_riscv_dvd_iff]
    match k with
    | 0 => omega
    | 1 => exact ⟨by omega, hfour.imp_left (by omega)⟩
    | k + 2 =>
      rw [Nat.pow_succ, Nat.pow_succ] at hk
      omega

end Alignable

end Encoder

end MachineCode
