import MachineCode.Bytes

/-!
Reading back what was written. A stretch of bytes is settled by the bytes at its positions, so
overwriting is described position by position, and words are read back from the bytes that they
were spelt with.
-/
namespace MachineCode.Bytes

theorem getElem?_slice (bs : Bytes) (pos len i : Nat) :
    (slice bs pos len)[i]? = if i < len then bs[pos + i]? else none := by
  simp only [slice, List.getElem?_take, List.getElem?_drop]

theorem getElem?_overwrite {bs new : Bytes} {pos : Nat} (h : pos + new.length ≤ bs.length)
    (i : Nat) : (overwrite bs pos new)[i]? =
      if pos ≤ i ∧ i < pos + new.length then new[i - pos]? else bs[i]? := by
  have ht : (bs.take pos).length = pos := by
    rw [List.length_take]
    omega
  rw [overwrite, List.append_assoc]
  by_cases hlo : pos ≤ i
  · rw [List.getElem?_append_right (by omega), ht]
    by_cases hhi : i < pos + new.length
    · rw [if_pos ⟨hlo, hhi⟩, List.getElem?_append_left (by omega)]
    · rw [if_neg (by omega), List.getElem?_append_right (by omega), List.getElem?_drop]
      congr 1
      omega
  · rw [if_neg (by omega), List.getElem?_append_left (by omega),
      List.getElem?_take_of_lt (by omega)]

theorem slice_congr {bs cs : Bytes} {pos len : Nat}
    (h : ∀ i, pos ≤ i → i < pos + len → bs[i]? = cs[i]?) : slice bs pos len = slice cs pos len := by
  apply List.ext_getElem?
  intro i
  rw [getElem?_slice, getElem?_slice]
  by_cases hi : i < len
  · rw [if_pos hi, if_pos hi]
    exact h _ (by omega) (by omega)
  · rw [if_neg hi, if_neg hi]

theorem slice_append_left {bs : Bytes} {pos len : Nat} (h : pos + len ≤ bs.length) (cs : Bytes) :
    slice (bs ++ cs) pos len = slice bs pos len := by
  apply slice_congr
  intro i _ hi
  exact List.getElem?_append_left (by omega)

theorem slice_append_right {bs cs : Bytes} {pos len : Nat} (h : bs.length ≤ pos) :
    slice (bs ++ cs) pos len = slice cs (pos - bs.length) len := by
  rw [slice, slice, List.drop_append, List.drop_eq_nil_of_le h, List.nil_append]

theorem append_overwrite {bs cs new : Bytes} {pos : Nat} (h : bs.length ≤ pos) :
    bs ++ overwrite cs (pos - bs.length) new = overwrite (bs ++ cs) pos new := by
  have hd : pos + new.length - bs.length = pos - bs.length + new.length := by omega
  have hn : bs.drop (pos + new.length) = [] := List.drop_eq_nil_of_le (by omega)
  rw [overwrite, overwrite, List.take_append, List.take_of_length_le h, List.drop_append, hn, hd]
  simp only [List.append_assoc, List.nil_append]

@[simp] theorem length_ofWord {w : Nat} (x : BitVec w) : (ofWord x).length = w / 8 := by
  simp [ofWord]

/-- A word is read back from the bytes that it was spelt with, whatever follows them. -/
theorem toWord_ofWord_append {w : Nat} (hw : w % 8 = 0) (x : BitVec w) (rest : Bytes) :
    toWord w (ofWord x ++ rest) = x := by
  have h8 : 8 * (w / 8) = w := by omega
  rw [toWord, List.take_left' (length_ofWord x), ofWord, toNat_ofNat, h8, Nat.one_shiftLeft,
    Nat.mod_eq_of_lt x.isLt, BitVec.ofNat_toNat, BitVec.setWidth_eq]

theorem toWord_ofWord {w : Nat} (hw : w % 8 = 0) (x : BitVec w) : toWord w (ofWord x) = x := by
  simpa using toWord_ofWord_append hw x []

end MachineCode.Bytes
