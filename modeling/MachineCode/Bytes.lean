/-!
Machine code as a list of bytes in memory order. Numbers are spelt little-endian: `ofNat` and
`toNat` are inverse on numbers that fit. `slice` and `overwrite` read and replace a stretch of
bytes and leave the rest alone.
-/
namespace MachineCode

abbrev Bytes := List UInt8

namespace Bytes

/-- The number that the bytes spell, least significant byte first. -/
def toNat : Bytes → Nat
  | [] => 0
  | b :: bs => b.toNat + 256 * toNat bs

/-- The low `n` bytes of a number, least significant byte first. -/
def ofNat : Nat → Nat → Bytes
  | 0, _ => []
  | n + 1, v => UInt8.ofNat v :: ofNat n (v / 256)

/-- The `len` bytes from `pos` on, or as many of them as there are. -/
def slice (bs : Bytes) (pos len : Nat) : Bytes := (bs.drop pos).take len

/-- The bytes with those from `pos` on replaced by `new`. -/
def overwrite (bs : Bytes) (pos : Nat) (new : Bytes) : Bytes :=
  bs.take pos ++ new ++ bs.drop (pos + new.length)

def ofWord {w : Nat} (x : BitVec w) : Bytes := ofNat (w / 8) x.toNat

def toWord (w : Nat) (bs : Bytes) : BitVec w := BitVec.ofNat w (toNat (bs.take (w / 8)))

@[simp] theorem length_ofNat (n v : Nat) : (ofNat n v).length = n := by
  induction n generalizing v with
  | zero => rfl
  | succ n ih => simp [ofNat, ih]

theorem one_shiftLeft_succ (n : Nat) : 1 <<< (8 * (n + 1)) = 256 * (1 <<< (8 * n)) := by
  rw [Nat.mul_succ, Nat.shiftLeft_add, Nat.shiftLeft_eq _ 8]
  omega

theorem toNat_ofNat (n v : Nat) : toNat (ofNat n v) = v % (1 <<< (8 * n)) := by
  induction n generalizing v with
  | zero => simp [ofNat, toNat, Nat.mod_one]
  | succ n ih =>
    rw [ofNat, toNat, ih, one_shiftLeft_succ, Nat.mod_mul]
    simp

theorem toNat_lt (bs : Bytes) : toNat bs < 1 <<< (8 * bs.length) := by
  induction bs with
  | nil => simp [toNat]
  | cons b bs ih =>
    have hb := b.toNat_lt
    rw [toNat, List.length_cons, one_shiftLeft_succ]
    omega

@[simp] theorem length_overwrite (bs : Bytes) (pos : Nat) (new : Bytes)
    (h : pos + new.length ≤ bs.length) : (overwrite bs pos new).length = bs.length := by
  simp only [overwrite, List.length_append, List.length_take, List.length_drop]
  omega

@[simp] theorem length_slice (bs : Bytes) (pos len : Nat) (h : pos + len ≤ bs.length) :
    (slice bs pos len).length = len := by
  simp only [slice, List.length_take, List.length_drop]
  omega

end Bytes

end MachineCode
