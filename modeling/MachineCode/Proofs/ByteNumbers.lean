import Mathlib.Algebra.Ring.Nat
import MachineCode.Proofs.Bytes

/-!
Bytes as a number. Equally many bytes are the same if they spell the same number, and its bits are
the bits of the bytes, one byte after the other.
-/
namespace MachineCode.Bytes

theorem toNat_append (bs cs : Bytes) :
    toNat (bs ++ cs) = 2 ^ (8 * bs.length) * toNat cs + toNat bs := by
  induction bs with
  | nil => simp [toNat]
  | cons b bs ih =>
    have hpow : 2 ^ (8 * (bs.length + 1)) = 256 * 2 ^ (8 * bs.length) := by
      rw [Nat.mul_succ, Nat.pow_add, Nat.mul_comm]
    rw [List.cons_append, toNat, toNat, ih, List.length_cons, hpow, Nat.mul_assoc]
    omega

theorem toNat_lt_two_pow (bs : Bytes) : toNat bs < 2 ^ (8 * bs.length) := by
  rw [← Nat.one_shiftLeft]
  exact toNat_lt bs

theorem eq_of_toNat_eq {bs cs : Bytes} (hlen : bs.length = cs.length)
    (h : toNat bs = toNat cs) : bs = cs := by
  induction bs generalizing cs with
  | nil => exact (List.eq_nil_of_length_eq_zero hlen.symm).symm
  | cons b bs ih =>
    cases cs with
    | nil => cases hlen
    | cons c cs =>
      have hb := b.toNat_lt
      have hc := c.toNat_lt
      rw [toNat, toNat] at h
      have hhead : b = c := UInt8.toNat_inj.mp (by omega)
      have htail : bs = cs := ih (Nat.succ.inj hlen) (by omega)
      rw [hhead, htail]

theorem ofWord_toWord {w : Nat} {bs : Bytes} (hw : w % 8 = 0) (hlen : bs.length = w / 8) :
    ofWord (toWord w bs) = bs := by
  have h8 : 8 * (w / 8) = w := by omega
  have hlt := toNat_lt_two_pow bs
  rw [hlen, h8] at hlt
  apply eq_of_toNat_eq
  · rw [length_ofWord, hlen]
  · rw [ofWord, toNat_ofNat, toWord, List.take_of_length_le (by omega), BitVec.toNat_ofNat, h8,
      Nat.one_shiftLeft, Nat.mod_mod, Nat.mod_eq_of_lt hlt]

def bit (bs : Bytes) (i : Nat) : Bool := (toNat bs).testBit i

theorem bit_of_le {bs : Bytes} {i : Nat} (h : 8 * bs.length ≤ i) : bs.bit i = false :=
  Nat.testBit_lt_two_pow
    (Nat.lt_of_lt_of_le (toNat_lt_two_pow bs) (Nat.pow_le_pow_right (by decide) h))

theorem bit_append (bs cs : Bytes) (i : Nat) :
    (bs ++ cs).bit i = if i < 8 * bs.length then bs.bit i else cs.bit (i - 8 * bs.length) := by
  rw [bit, toNat_append, Nat.testBit_two_pow_mul_add _ (toNat_lt_two_pow bs)]
  rfl

theorem eq_of_bit_eq {bs cs : Bytes} (hlen : bs.length = cs.length)
    (h : ∀ i, bs.bit i = cs.bit i) : bs = cs :=
  eq_of_toNat_eq hlen (Nat.eq_of_testBit_eq h)

theorem bit_ofWord {w : Nat} (hw : w % 8 = 0) (x : BitVec w) (i : Nat) :
    (ofWord x).bit i = x.getLsbD i := by
  have h8 : 8 * (w / 8) = w := by omega
  rw [bit, ofWord, toNat_ofNat, h8, Nat.one_shiftLeft, Nat.mod_eq_of_lt x.isLt]
  rfl

theorem getLsbD_toWord {w : Nat} {bs : Bytes} (hw : w % 8 = 0) (hlen : bs.length = w / 8)
    (i : Nat) : (toWord w bs).getLsbD i = bs.bit i := by
  have hlt := toNat_lt_two_pow bs
  rw [hlen, show 8 * (w / 8) = w by omega] at hlt
  rw [toWord, List.take_of_length_le (by omega), BitVec.getLsbD, BitVec.toNat_ofNat,
    Nat.mod_eq_of_lt hlt]
  rfl

end MachineCode.Bytes
