import MachineCode.Proofs.Rewriting

/-!
Courses of effects. An effect changes a state for good: a failure stops a course where it is and
undoes nothing, and an access outside of a stretch of bytes has no outcome at all. The fields of
relocations are written by such courses, in place and one word after the other. Each of them checks
its value before it writes, so what it leaves is what the relocation makes of the bytes as a whole,
or the bytes as they were.
-/
namespace MachineCode

namespace Bytes

/-- The `len` bytes at offset `pos` of bytes that start at offset `lo`, if all of them exist. -/
def read? (bs : Bytes) (lo : Nat) (pos : Int) (len : Nat) : Option Bytes :=
  if lo ≤ pos ∧ pos + len ≤ lo + bs.length then some (bs.slice (pos.toNat - lo) len) else none

def write? (bs : Bytes) (lo : Nat) (pos : Int) (new : Bytes) : Option Bytes :=
  if lo ≤ pos ∧ pos + new.length ≤ lo + bs.length then some (bs.overwrite (pos.toNat - lo) new)
  else none

theorem read?_eq_some {bs : Bytes} {lo len : Nat} {pos : Int} (hlo : lo ≤ pos)
    (hhi : pos + len ≤ lo + bs.length) :
    bs.read? lo pos len = some (bs.slice (pos.toNat - lo) len) :=
  if_pos ⟨hlo, hhi⟩

theorem write?_eq_some (bs new : Bytes) {lo pos : Nat} (hlo : lo ≤ pos)
    (hhi : pos + new.length ≤ lo + bs.length) :
    bs.write? lo pos new = some (bs.overwrite (pos - lo) new) := by
  rw [write?, if_pos (by omega), Int.toNat_natCast]

end Bytes

/-- A course of effects on a state. It fails with an error in the state that it has come to, and
it has no outcome if it needs something that does not exist. -/
abbrev Course (σ ε α : Type) := ExceptT ε (StateT σ Option) α

namespace Course

variable {σ ε α β : Type}

/-- What a course comes to: a value or an error, and the state that it leaves. -/
def outcome (c : Course σ ε α) (s : σ) : Option (Except ε α × σ) := c.run.run s

def need (x : Option α) : Course σ ε α := liftM x

@[simp] theorem outcome_throw (e : ε) (s : σ) :
    outcome (throw e : Course σ ε α) s = some (.error e, s) := rfl

@[simp] theorem outcome_get (s : σ) : outcome (get : Course σ ε σ) s = some (.ok s, s) := rfl

@[simp] theorem outcome_set (t s : σ) :
    outcome (set t : Course σ ε PUnit) s = some (.ok ⟨⟩, t) := rfl

@[simp] theorem outcome_modify (f : σ → σ) (s : σ) :
    outcome (modify f : Course σ ε PUnit) s = some (.ok ⟨⟩, f s) := rfl

@[simp] theorem outcome_need (x : Option α) (s : σ) :
    outcome (need x : Course σ ε α) s = x.map fun a => (.ok a, s) := by
  cases x <;> rfl

@[simp] theorem outcome_ofExcept (x : Except ε α) (s : σ) :
    outcome (MonadExcept.ofExcept x : Course σ ε α) s = some (x, s) := by
  cases x <;> rfl

@[simp] theorem outcome_bind (c : Course σ ε α) (f : α → Course σ ε β) (s : σ) :
    outcome (c >>= f) s = match outcome c s with
      | none => none
      | some (.error e, t) => some (.error e, t)
      | some (.ok a, t) => outcome (f a) t := by
  have h : outcome (c >>= f) s = (outcome c s).bind fun p => match p.1 with
      | .ok a => outcome (f a) p.2
      | .error e => some (.error e, p.2) := by
    unfold outcome
    rw [ExceptT.run_bind, StateT.run_bind]
    congr 1
    funext p
    rcases p with ⟨_ | a, t⟩ <;> rfl
  rw [h]
  rcases outcome c s with _ | ⟨_ | a, t⟩ <;> rfl

end Course

/-! ### Fields in place -/

abbrev Store := Course Bytes RelocFault Unit

namespace Store

open Course (need)

def put (pos : Nat) (data : Bytes) : Store := do
  let buf ← get
  set (← need (buf.write? 0 pos data))

def word (pos : Nat) : Course Bytes RelocFault Word := do
  let buf ← get
  return Bytes.toWord 32 (← need (buf.read? 0 pos 4))

def patch (f : BitField) (pos : Nat) (v : Int64) : Store := do
  let w ← word pos
  put pos (Bytes.ofWord (f.patch w v))

def check (f : BitField) (v : Int64) : Store := do
  if !f.aligned v then throw .misaligned
  if !f.inRange v then throw .range

def relocate (f : BitField) (v : Int64) : Store := do
  check f v
  patch f 0 v

def relocateHalf (f : BitField) (v : Int64) : Store := do
  check f v
  let buf ← get
  let half := Riscv.Reloc.readHalf (← need (buf.read? 0 0 2))
  put 0 (Bytes.ofWord ((f.patch half v).setWidth 16))

def signed (v : Int64) : Store := do
  let buf ← get
  match buf.length with
  | 1 => if fitsSigned v 8 then put 0 (Bytes.ofNat 1 v.toBitVec.toNat) else throw .signedByte
  | 2 => if fitsSigned v 16 then put 0 (Bytes.ofNat 2 v.toBitVec.toNat) else throw .signedWord
  | 4 => if fitsSigned v 32 then put 0 (Bytes.ofNat 4 v.toBitVec.toNat) else throw .signedDword
  | 8 => put 0 (Bytes.ofNat 8 v.toBitVec.toNat)
  | _ => throw .fieldSize

def upper (v : Int64) : Store :=
  if fitsSigned (Riscv.Reloc.upper v) 20 then do
    let w ← word 0
    put 0 (Bytes.ofWord ((w &&& 0xfff#32) |||
      (((Riscv.Reloc.upper v).toBitVec.setWidth 32 &&& 0xfffff#32) <<< 12)))
  else throw .upperRange

end Store

def AArch64.Reloc.store (r : Reloc) (v : Int64) : Store :=
  match r.field? with
  | none => Store.signed v
  | some f => Store.relocate f v

def Riscv.Reloc.store (r : Reloc) (v : Int64) : Store :=
  match r with
  | plain _ => Store.signed v
  | b => Store.relocate Field.b v
  | j => Store.relocate Field.j v
  | bc => Store.relocateHalf Field.cb v
  | jc => Store.relocateHalf Field.cj v
  | lo12 => Store.patch Field.i 0 v
  | lo12s => Store.patch Field.s 0 v
  | hi20 => Store.upper v
  | split32 => do
    Store.upper v
    Store.patch Field.i 4 (lower v)
  | split32s => do
    Store.upper v
    Store.patch Field.s 4 (lower v)

def X86.Reloc.store (r : Reloc) (v : Int64) : Store := do
  let buf ← get
  if r.kind = .absToRel && buf.length = 4 then
    if -0x80000000 ≤ v.toInt && v.toInt < 0x100000000 then
      Store.put 0 (Bytes.ofNat 4 v.toBitVec.toNat)
    else throw .addressDword
  else Store.signed v

namespace Store

/-- The outcome of a course that does all that an attempt gives, or nothing. -/
def Does (c : Store) (buf : Bytes) (attempt : Except RelocFault Bytes) : Prop :=
  c.outcome buf = some (match attempt with
    | .ok d => (.ok ⟨⟩, d)
    | .error e => (.error e, buf))

variable {buf : Bytes} {v : Int64} {f : BitField}

theorem outcome_put {pos : Nat} {data : Bytes} (h : pos + data.length ≤ buf.length) :
    (put pos data).outcome buf = some (.ok ⟨⟩, buf.overwrite pos data) := by
  simp only [put, Course.outcome_bind, Course.outcome_get, Course.outcome_need,
    Bytes.write?_eq_some buf data (Nat.zero_le pos) (by omega), Option.map_some,
    Course.outcome_set, Nat.sub_zero]

theorem outcome_word {pos : Nat} (h : pos + 4 ≤ buf.length) :
    (word pos).outcome buf = some (.ok (Bytes.toWord 32 (buf.drop pos)), buf) := by
  have htake : Bytes.toWord 32 (buf.slice pos 4) = Bytes.toWord 32 (buf.drop pos) := by
    rw [Bytes.toWord, Bytes.toWord, Bytes.slice, List.take_take]
    rfl
  have hread : buf.read? 0 pos 4 = some (buf.slice pos 4) :=
    Bytes.read?_eq_some (by omega) (by omega)
  simp only [word, Course.outcome_bind, Course.outcome_get, Course.outcome_need, hread,
    Option.map_some, htake]
  rfl

theorem outcome_patch {pos : Nat} (h : pos + 4 ≤ buf.length) :
    (patch f pos v).outcome buf = some (.ok ⟨⟩,
      buf.overwrite pos (Bytes.ofWord (f.patch (Bytes.toWord 32 (buf.drop pos)) v))) := by
  rw [patch, Course.outcome_bind, outcome_word h]
  exact outcome_put (by simpa using h)

/-- A check before the rest of a course decides whether there is a rest. -/
theorem does_checked {rest : Store} {g : Word → Bytes} (w : Word)
    (h : rest.outcome buf = some (.ok ⟨⟩, g (f.patch w v))) :
    Does (do check f v; rest) buf ((f.relocate w v).map g) := by
  unfold check BitField.relocate Does
  cases f.aligned v with
  | false => rfl
  | true =>
    cases f.inRange v with
    | false => rfl
    | true => exact h

theorem overwrite_zero (buf data : Bytes) :
    buf.overwrite 0 data = data ++ buf.drop data.length := by
  simp [Bytes.overwrite]

theorem relocate_does (h : 4 ≤ buf.length) :
    (relocate f v).Does buf
      ((f.relocate (Bytes.toWord 32 buf) v).map (Bytes.ofWord · ++ buf.drop 4)) := by
  refine does_checked _ ?_
  rw [outcome_patch (by omega), overwrite_zero]
  rfl

theorem relocateHalf_does (h : buf.length = 2) :
    (relocateHalf f v).Does buf
      ((f.relocate (Riscv.Reloc.readHalf buf) v).map (Riscv.Reloc.writeHalf buf)) := by
  refine does_checked _ ?_
  have htake : buf.slice 0 2 = buf := List.take_of_length_le (Nat.le_of_eq h)
  have hread : buf.read? 0 0 2 = some (buf.slice 0 2) :=
    Bytes.read?_eq_some (by omega) (by omega)
  simp only [Course.outcome_bind, Course.outcome_get, Course.outcome_need, hread,
    Option.map_some, htake]
  rw [outcome_put (by simp [h]), overwrite_zero]
  rfl

theorem does_ite {p : Prop} [Decidable p] {c : Store} {d : Bytes} {e : RelocFault}
    (h : c.Does buf (.ok d)) :
    Does (if p then c else throw e) buf (if p then .ok d else .error e) := by
  by_cases hp : p
  · rwa [if_pos hp, if_pos hp]
  · rw [if_neg hp, if_neg hp]
    rfl

theorem put_does {n : Nat} (hn : buf.length = n) (w : Nat) :
    (put 0 (Bytes.ofNat n w)).Does buf (.ok (Bytes.ofNat n w)) := by
  rw [Does, outcome_put (by simp [hn]), overwrite_zero, Bytes.length_ofNat,
    List.drop_of_length_le (Nat.le_of_eq hn), List.append_nil]

theorem signed_does : (signed v).Does buf (writeSigned buf v) := by
  unfold Does signed writeSigned
  rw [Course.outcome_bind, Course.outcome_get]
  dsimp only
  generalize hlen : buf.length = n
  match n with
  | 1 | 2 | 4 => exact does_ite (put_does hlen _)
  | 8 => exact put_does hlen _
  | 0 | 3 | 5 | 6 | 7 | n + 9 => rfl

theorem upper_does (h : 4 ≤ buf.length) :
    (upper v).Does buf
      ((Riscv.Reloc.writeUpper (Bytes.toWord 32 buf) v).map (Bytes.ofWord · ++ buf.drop 4)) := by
  unfold upper Riscv.Reloc.writeUpper
  split
  · unfold Does
    rw [Course.outcome_bind, outcome_word (by omega)]
    dsimp only
    rw [outcome_put (by simpa using h), overwrite_zero]
    rfl
  · rfl

theorem split_does (h : buf.length = 8) :
    Does (do upper v; patch f 4 (Riscv.Reloc.lower v)) buf
      (Riscv.Reloc.writeSplit f buf v) := by
  have hupper : (upper v).Does buf _ := upper_does (by omega)
  unfold Does Riscv.Reloc.writeSplit
  rw [Course.outcome_bind, hupper]
  cases Riscv.Reloc.writeUpper (Bytes.toWord 32 buf) v with
  | error e => rfl
  | ok first =>
    have hfirst := Bytes.length_ofWord first
    have hdrop : (Bytes.ofWord first ++ buf.drop 4).drop 4 = buf.drop 4 := List.drop_left' hfirst
    have htake : (Bytes.ofWord first ++ buf.drop 4).take 4 = Bytes.ofWord first :=
      List.take_left' hfirst
    have hrest : (Bytes.ofWord first ++ buf.drop 4).drop 8 = buf.drop 8 := by
      rw [List.drop_append, hfirst, List.drop_of_length_le (by rw [hfirst]; decide),
        List.drop_drop, List.nil_append]
    refine (outcome_patch (by simp [h])).trans ?_
    rw [hdrop, Bytes.overwrite, htake, Bytes.length_ofWord, hrest]
    rfl

end Store

/-- The bytes of a field are written in place as the relocation writes them as a whole. -/
theorem AArch64.Reloc.store_does {r : Reloc} {buf : Bytes} (h : buf.length = r.size) (v : Int64) :
    (r.store v).Does buf (r.write buf v) := by
  unfold store write
  cases hfield : r.field? with
  | none => exact Store.signed_does
  | some f =>
    have hsize : r.size = 4 := by
      cases r with
      | plain n => cases hfield
      | _ => rfl
    exact Store.relocate_does (by omega)

theorem Riscv.Reloc.store_does {r : Reloc} {buf : Bytes} (h : buf.length = r.size) (v : Int64) :
    (r.store v).Does buf (r.write buf v) := by
  cases r with
  | plain n => exact Store.signed_does
  | b | j => exact Store.relocate_does (Nat.le_of_eq h.symm)
  | bc | jc => exact Store.relocateHalf_does h
  | hi20 => exact Store.upper_does (Nat.le_of_eq h.symm)
  | lo12 | lo12s =>
    refine (Store.outcome_patch (Nat.le_of_eq h.symm)).trans ?_
    rw [Store.overwrite_zero]
    rfl
  | split32 | split32s => exact Store.split_does h

theorem X86.Reloc.store_does (r : Reloc) (buf : Bytes) (v : Int64) :
    (r.store v).Does buf (r.write buf v) := by
  unfold store write Store.Does
  rw [Course.outcome_bind, Course.outcome_get]
  dsimp only
  split
  · rename_i haddress
    simp only [Bool.and_eq_true, decide_eq_true_eq] at haddress
    exact Store.does_ite (Store.put_does haddress.2 _)
  · exact Store.signed_does

end MachineCode
