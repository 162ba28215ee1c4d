import MachineCode.Proofs.Rewriting
import MachineCode.Assembler

/-!
Patches, byte by byte. All patches of one step are computed from the code before it; applied one
after the other they leave the bytes outside the fields alone, and where fields meet the last one
wins. `Resolves` states this of whole lists of references; every operation that resolves
references is an instance of it.
-/
namespace MachineCode

namespace Reference

def Covers (r : Reference) (i : Nat) : Prop := r.field ≤ i ∧ i < r.fieldEnd

instance (r : Reference) (i : Nat) : Decidable (r.Covers i) :=
  inferInstanceAs (Decidable (_ ∧ _))

def Apart (r s : Reference) : Prop := r.fieldEnd ≤ s.field ∨ s.fieldEnd ≤ r.field

instance (r s : Reference) : Decidable (r.Apart s) := inferInstanceAs (Decidable (_ ∨ _))

theorem Apart.symm {r s : Reference} (h : r.Apart s) : s.Apart r := Or.symm h

theorem Apart.not_covers {r s : Reference} (h : r.Apart s) {i : Nat} (hr : r.Covers i) :
    ¬ s.Covers i := by
  unfold Apart Covers at *
  omega

/-- A reference that does not depend on the base address has the same value everywhere: either
the address is fixed, or the base addresses cancel. -/
theorem value_of_not_baseDependent {r : Reference} (h : r.baseDependent = false) (b c : UInt64) :
    r.value b = r.value c := by
  simp only [baseDependent, Bool.or_eq_false_iff, bne_eq_false_iff_eq] at h
  obtain ⟨hp, hk⟩ := h
  unfold value
  by_cases ha : r.rel.kind = .absToRel
  · rw [if_pos ha, if_pos ha]
    cases ht : r.target with
    | external a => simp only [destination, ht]
    | nowhere | global | forward | backward | dynamic => simp [ht, ha, Target.isExternal] at hk
  · rw [if_neg ha, if_neg ha, hp]
    have cancel : ∀ x y z w : Int64, x + y + w - (x + z) = y + w - z := by
      intro x y z w
      grind
    cases ht : r.target with
    | external a => simp [ht, ha, Target.isExternal] at hk
    | nowhere | global | forward | backward | dynamic =>
      simp only [destination, pc, ht, cancel, Bool.false_eq_true, if_false]

end Reference

namespace Patch

def Covers (p : Patch) (i : Nat) : Prop := p.offset ≤ i ∧ i < p.offset + p.data.length

def Within (p : Patch) (n : Nat) : Prop := p.offset + p.data.length ≤ n

theorem getElem?_apply {p : Patch} {code : Bytes} (h : p.Within code.length) (i : Nat) :
    (code.overwrite (p.offset - 0) p.data)[i]? =
      if p.offset ≤ i ∧ i < p.offset + p.data.length then p.data[i - p.offset]? else code[i]? :=
  Bytes.getElem?_overwrite h i

theorem length_apply {p : Patch} {code : Bytes} (h : p.Within code.length) :
    (code.overwrite (p.offset - 0) p.data).length = code.length :=
  Bytes.length_overwrite _ _ _ h

theorem length_applyAll {ps : List Patch} {code : Bytes} (h : ∀ p ∈ ps, p.Within code.length) :
    (applyAll ps code 0).length = code.length := by
  induction ps generalizing code with
  | nil => rfl
  | cons p ps ih =>
    have hp := length_apply (h p (List.mem_cons_self ..))
    have hps : (applyAll ps (code.overwrite (p.offset - 0) p.data) 0).length = _ :=
      ih fun q hq => hp ▸ h q (List.mem_cons_of_mem _ hq)
    exact hps.trans hp

/-- Bytes that no patch covers stay. -/
theorem getElem?_applyAll_outside {ps : List Patch} {code : Bytes} {i : Nat}
    (h : ∀ p ∈ ps, p.Within code.length) (hi : ∀ p ∈ ps, ¬ p.Covers i) :
    (applyAll ps code 0)[i]? = code[i]? := by
  induction ps generalizing code with
  | nil => rfl
  | cons p ps ih =>
    have hp := h p (List.mem_cons_self ..)
    have hps : (applyAll ps (code.overwrite (p.offset - 0) p.data) 0)[i]? = _ :=
      ih (fun q hq => length_apply hp ▸ h q (List.mem_cons_of_mem _ hq))
        (fun q hq => hi q (List.mem_cons_of_mem _ hq))
    exact hps.trans ((getElem?_apply hp i).trans (if_neg (hi p (List.mem_cons_self ..))))

/-- A byte that is covered comes from one of the patches that cover it. -/
theorem getElem?_applyAll_inside {ps : List Patch} {code : Bytes} {i : Nat}
    (h : ∀ p ∈ ps, p.Within code.length) (hi : ∃ p ∈ ps, p.Covers i) :
    ∃ p ∈ ps, p.Covers i ∧ (applyAll ps code 0)[i]? = p.data[i - p.offset]? := by
  induction ps generalizing code with
  | nil =>
    obtain ⟨p, hp, -⟩ := hi
    cases hp
  | cons p ps ih =>
    have hp := h p (List.mem_cons_self ..)
    have hps : ∀ q ∈ ps, q.Within (code.overwrite (p.offset - 0) p.data).length :=
      fun q hq => length_apply hp ▸ h q (List.mem_cons_of_mem _ hq)
    by_cases hlater : ∃ q ∈ ps, q.Covers i
    · obtain ⟨q, hq, hc, he⟩ := ih hps hlater
      exact ⟨q, List.mem_cons_of_mem _ hq, hc, he⟩
    · -- Nothing after the first patch covers the byte, so the first one does.
      obtain ⟨q, hq, hc⟩ := hi
      rcases List.mem_cons.mp hq with rfl | hq
      · refine ⟨q, List.mem_cons_self .., hc, ?_⟩
        have hout := getElem?_applyAll_outside hps fun x hx hxi => hlater ⟨x, hx, hxi⟩
        exact hout.trans ((getElem?_apply hp i).trans (if_pos hc))
      · exact absurd ⟨q, hq, hc⟩ hlater

/-- The last patch that covers a byte gives its value. -/
theorem getElem?_applyAll_last {ps qs : List Patch} {p : Patch} {code : Bytes} {i : Nat}
    (h : ∀ q ∈ ps ++ p :: qs, q.Within code.length) (hp : p.Covers i)
    (hqs : ∀ q ∈ qs, ¬ q.Covers i) :
    (applyAll (ps ++ p :: qs) code 0)[i]? = p.data[i - p.offset]? := by
  have hps : ∀ q ∈ ps, q.Within code.length := fun q hq => h q (List.mem_append_left _ hq)
  have hlen := length_applyAll hps
  have hlater : ∀ q ∈ p :: qs, q.Within (applyAll ps code 0).length := by
    intro q hq
    rw [hlen]
    exact h q (List.mem_append_right _ hq)
  have happend : applyAll (ps ++ p :: qs) code 0 = applyAll (p :: qs) (applyAll ps code 0) 0 :=
    List.foldl_append ..
  obtain ⟨q, hq, hc, he⟩ := getElem?_applyAll_inside hlater ⟨p, List.mem_cons_self .., hp⟩
  rcases List.mem_cons.mp hq with rfl | hq
  · rw [happend, he]
  · exact absurd hc (hqs q hq)

theorem append_applyAll {code : Bytes} {ps : List Patch} (scratch : Bytes)
    (h : ∀ p ∈ ps, code.length ≤ p.offset) :
    code ++ applyAll ps scratch code.length = applyAll ps (code ++ scratch) 0 := by
  induction ps generalizing scratch with
  | nil => rfl
  | cons p ps ih =>
    have hp : code ++ scratch.overwrite (p.offset - code.length) p.data = _ :=
      Bytes.append_overwrite (h p (List.mem_cons_self ..))
    have hps := ih (scratch.overwrite (p.offset - code.length) p.data)
      fun q hq => h q (List.mem_cons_of_mem _ hq)
    exact hps.trans (congrArg (applyAll ps · 0) hp)

structure For (code : Bytes) (lo : Nat) (base : UInt64) (refs : List Reference) (ps : List Patch) :
    Prop where
  made : ∀ p ∈ ps, ∃ r ∈ refs, ofReference code lo base r = .ok p
  complete : ∀ r ∈ refs, ∃ p ∈ ps, ofReference code lo base r = .ok p

theorem For.cons {code : Bytes} {lo : Nat} {base : UInt64} {refs : List Reference}
    {ps : List Patch} (h : For code lo base refs ps) {r : Reference} {p : Patch}
    (hr : ofReference code lo base r = .ok p) : For code lo base (r :: refs) (p :: ps) := by
  constructor
  · intro q hq
    rcases List.mem_cons.mp hq with rfl | hq
    · exact ⟨r, List.mem_cons_self .., hr⟩
    · obtain ⟨s, hs, he⟩ := h.made q hq
      exact ⟨s, List.mem_cons_of_mem _ hs, he⟩
  · intro s hs
    rcases List.mem_cons.mp hs with rfl | hs
    · exact ⟨p, List.mem_cons_self .., hr⟩
    · obtain ⟨q, hq, he⟩ := h.complete s hs
      exact ⟨q, List.mem_cons_of_mem _ hq, he⟩

theorem ofReference_eq_ok {code : Bytes} {lo : Nat} {base : UInt64} {r : Reference} {p : Patch}
    (h : ofReference code lo base r = .ok p) : p.offset = r.field ∧
      r.rel.write (code.slice (r.field - lo) r.rel.size) (r.value base) = .ok p.data := by
  obtain ⟨data, hd, rfl⟩ := map_eq_ok h
  exact ⟨rfl, hd⟩

theorem ofReference_append {code scratch : Bytes} {r : Reference} (h : code.length ≤ r.field)
    (base : UInt64) :
    ofReference scratch code.length base r = ofReference (code ++ scratch) 0 base r := by
  rw [ofReference, ofReference, Bytes.slice_append_right (by omega), Nat.sub_zero]

end Patch

/-- `after` is `before` with references resolved at `base`: each field is written from what stood
in it before, and each byte in a field comes from a reference whose field it is in. -/
structure Resolves (base : UInt64) (refs : List Reference) (before after : Bytes) : Prop where
  length : after.length = before.length
  outside : ∀ i, (∀ r ∈ refs, ¬ r.Covers i) → after[i]? = before[i]?
  accepted : ∀ r ∈ refs, ∃ data,
    r.rel.write (before.slice r.field r.rel.size) (r.value base) = .ok data
  inside : ∀ i, (∃ r ∈ refs, r.Covers i) → ∃ r ∈ refs, r.Covers i ∧ ∃ data,
    r.rel.write (before.slice r.field r.rel.size) (r.value base) = .ok data ∧
    after[i]? = data[i - r.field]?

namespace Resolves

/-- A field that no other field meets holds the value of its reference. -/
theorem slice {base : UInt64} {refs : List Reference} {before after : Bytes}
    (h : Resolves base refs before after) {r : Reference} (hr : r ∈ refs)
    (hin : r.fieldEnd ≤ before.length) (hapart : ∀ s ∈ refs, s = r ∨ s.Apart r) :
    r.rel.write (before.slice r.field r.rel.size) (r.value base) =
      .ok (after.slice r.field r.rel.size) := by
  obtain ⟨data, hw⟩ := h.accepted r hr
  have hlen := r.rel.rewritable_write.length (Bytes.length_slice _ _ _ hin) hw
  have hd : after.slice r.field r.rel.size = data := by
    apply List.ext_getElem?
    intro i
    rw [Bytes.getElem?_slice]
    by_cases hi : i < r.rel.size
    · have hc : r.Covers (r.field + i) := ⟨by omega, by unfold Reference.fieldEnd; omega⟩
      obtain ⟨s, hs, hsc, d, hd, he⟩ := h.inside _ ⟨r, hr, hc⟩
      obtain rfl := (hapart s hs).resolve_right fun ha => ha.symm.not_covers hc hsc
      obtain rfl := Except.ok.inj (hd.symm.trans hw)
      rw [if_pos hi, he, Nat.add_sub_cancel_left]
    · rw [if_neg hi, List.getElem?_eq_none (by omega)]
  rw [hw, hd]

/-- A byte that lies in one field only is what its reference writes there. -/
theorem byte {base : UInt64} {refs : List Reference} {before after : Bytes}
    (h : Resolves base refs before after) {r : Reference} (hr : r ∈ refs) :
    ∃ data, r.rel.write (before.slice r.field r.rel.size) (r.value base) = .ok data ∧
      ∀ i, r.Covers i → (∀ s ∈ refs, s.Covers i → s = r) → after[i]? = data[i - r.field]? := by
  obtain ⟨data, hdata⟩ := h.accepted r hr
  refine ⟨data, hdata, ?_⟩
  intro i hi hone
  obtain ⟨s, hs, hc, d, hd, he⟩ := h.inside i ⟨r, hr, hi⟩
  obtain rfl := hone s hs hc
  obtain rfl := Except.ok.inj (hd.symm.trans hdata)
  exact he

theorem of_patches {code scratch : Bytes} {base : UInt64} {refs : List Reference} {ps : List Patch}
    (h : Patch.For scratch code.length base refs ps)
    (hin : ∀ r ∈ refs, code.length ≤ r.field ∧ r.fieldEnd ≤ code.length + scratch.length) :
    Resolves base refs (code ++ scratch) (code ++ Patch.applyAll ps scratch code.length) := by
  -- What a patch is, in terms of the whole code.
  have spec : ∀ r ∈ refs, ∀ p, Patch.ofReference scratch code.length base r = .ok p →
      p.offset = r.field ∧ p.data.length = r.rel.size ∧
      r.rel.write ((code ++ scratch).slice r.field r.rel.size) (r.value base) = .ok p.data := by
    intro r hr p hp
    rw [Patch.ofReference_append (hin r hr).1] at hp
    obtain ⟨ho, hw⟩ := Patch.ofReference_eq_ok hp
    rw [Nat.sub_zero] at hw
    have hl : r.field + r.rel.size ≤ (code ++ scratch).length := by
      rw [List.length_append]
      exact (hin r hr).2
    exact ⟨ho, r.rel.rewritable_write.length (Bytes.length_slice _ _ _ hl) hw, hw⟩
  have covers : ∀ r ∈ refs, ∀ p, Patch.ofReference scratch code.length base r = .ok p →
      ∀ i, p.Covers i ↔ r.Covers i := by
    intro r hr p hp i
    obtain ⟨ho, hl, -⟩ := spec r hr p hp
    unfold Patch.Covers Reference.Covers Reference.fieldEnd
    rw [ho, hl]
  have within : ∀ p ∈ ps, p.Within (code ++ scratch).length := by
    intro p hp
    obtain ⟨r, hr, hrp⟩ := h.made p hp
    obtain ⟨ho, hl, -⟩ := spec r hr p hrp
    unfold Patch.Within
    rw [ho, hl, List.length_append]
    exact (hin r hr).2
  rw [Patch.append_applyAll scratch fun p hp => by
    obtain ⟨r, hr, hrp⟩ := h.made p hp
    rw [(spec r hr p hrp).1]
    exact (hin r hr).1]
  refine ⟨Patch.length_applyAll within, ?_, ?_, ?_⟩
  · intro i hi
    apply Patch.getElem?_applyAll_outside within
    intro p hp hc
    obtain ⟨r, hr, hrp⟩ := h.made p hp
    exact hi r hr ((covers r hr p hrp i).mp hc)
  · intro r hr
    obtain ⟨p, -, hrp⟩ := h.complete r hr
    exact ⟨p.data, (spec r hr p hrp).2.2⟩
  · rintro i ⟨r, hr, hi⟩
    obtain ⟨p, hp, hrp⟩ := h.complete r hr
    obtain ⟨q, hq, hqi, he⟩ :=
      Patch.getElem?_applyAll_inside within ⟨p, hp, (covers r hr p hrp i).mpr hi⟩
    obtain ⟨s, hs, hsq⟩ := h.made q hq
    obtain ⟨ho, -, hw⟩ := spec s hs q hsq
    exact ⟨s, hs, (covers s hs q hsq i).mp hqi, q.data, hw, ho ▸ he⟩

theorem refl (base : UInt64) (code : Bytes) : Resolves base [] code code :=
  ⟨rfl, fun _ _ => rfl, by simp, by simp⟩

theorem rebase {b : UInt64} {refs : List Reference} {before after : Bytes}
    (h : Resolves b refs before after) (hn : ∀ r ∈ refs, r.baseDependent = false) (c : UInt64) :
    Resolves c refs before after := by
  refine ⟨h.length, h.outside, ?_, ?_⟩
  · intro r hr
    rw [Reference.value_of_not_baseDependent (hn r hr) c b]
    exact h.accepted r hr
  · intro i hi
    obtain ⟨r, hr, hc, data, hd, he⟩ := h.inside i hi
    refine ⟨r, hr, hc, data, ?_, he⟩
    rw [Reference.value_of_not_baseDependent (hn r hr) c b]
    exact hd

theorem of_all_patches {code : Bytes} {base : UInt64} {refs : List Reference} {ps : List Patch}
    (h : Patch.For code 0 base refs ps) (hin : ∀ r ∈ refs, r.fieldEnd ≤ code.length) :
    Resolves base refs code (Patch.applyAll ps code 0) := by
  refine @of_patches [] code base refs ps h ?_
  intro r hr
  rw [List.length_nil, Nat.zero_add]
  exact ⟨Nat.zero_le _, hin r hr⟩

end Resolves

namespace Assembler

theorem gather_eq_ok {α : Type} {xs : List (Except Error α)} {ys : List α}
    (h : gather xs = .ok ys) : xs = ys.map .ok := by
  induction xs generalizing ys with
  | nil =>
    obtain rfl := Except.ok.inj h
    rfl
  | cons x xs ih =>
    cases x with
    | error e =>
      simp only [gather] at h
      split at h <;> cases h
    | ok y =>
      obtain ⟨zs, hz, rfl⟩ := map_eq_ok h
      rw [List.map_cons, ih hz]

theorem mem_of_gather {α β : Type} {f : α → Except Error β} {xs : List α} {ys : List β}
    (h : gather (xs.map f) = .ok ys) :
    (∀ y ∈ ys, ∃ x ∈ xs, f x = .ok y) ∧ ∀ x ∈ xs, ∃ y ∈ ys, f x = .ok y := by
  have he := gather_eq_ok h
  constructor
  · intro y hy
    exact List.mem_map.mp (he ▸ List.mem_map_of_mem hy)
  · intro x hx
    have hm : f x ∈ ys.map Except.ok := he ▸ List.mem_map_of_mem hx
    obtain ⟨y, hy, hxy⟩ := List.mem_map.mp hm
    exact ⟨y, hy, hxy.symm⟩

end Assembler

end MachineCode
