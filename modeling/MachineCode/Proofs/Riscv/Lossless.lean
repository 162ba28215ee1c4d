import MachineCode.Proofs.Riscv.Constants
import MachineCode.Proofs.Riscv.Layout

/-!
Instructions lose nothing of their operands. Every immediate field takes the values that it is for
and gives them back, whatever stands around it; the steps of a template write bits of their own; and
so the words of an instruction say which registers and numbers its operands were, while its labels
are in its references.
-/
namespace MachineCode.Riscv

def Field.all : List BitField :=
  [i, s, b, u, j, shamt5, shamt6, zimm, csr, ci, ciNonzero, cShamt5, cShamt6, cLui, c16sp, c4spn,
    cLw, cLd, cLwsp, cLdsp, cSwsp, cSdsp, cb, cj, cLbu, cLh]

/-- A field takes exactly the values that it admits. They come back from every word that was clear
in the field, and other bits are not touched. -/
structure Faithful (f : BitField) : Prop where
  accepts : ∀ name v w, fieldBits name f v = .ok w ↔ f.Admits v ∧ w = f.place v
  returns : ∀ v w, f.Admits v → w &&& f.mask = 0 → f.gather (w ||| f.place v) = v
  stays : ∀ v, f.place v &&& ~~~f.mask = 0

theorem fields_proper : ∀ f ∈ Field.all, f.Proper := by
  decide +kernel

theorem fields_faithful : ∀ f ∈ Field.all, Faithful f := fun f hf =>
  have hproper := fields_proper f hf
  ⟨fun _ _ _ => fieldBits_eq_ok_iff hproper,
    fun _ _ h hw => BitField.gather_or_place hproper h hw, BitField.place_and_not_mask f⟩

def Action.field? : Action → Option BitField
  | imm f => some f
  | upper => some Field.u
  | _ => none

/-- The steps of a template have bits of their own, and their numbers go into known fields. -/
theorem entries_separate : ∀ e ∈ entries, e.template.Orderly ∧
    ∀ st ∈ e.template.steps, ∀ f ∈ st.action.field?, f ∈ Field.all := by
  have hfields : ∀ e ∈ entries, ∀ st ∈ e.template.steps, ∀ f ∈ st.action.field?,
      f ∈ Field.all := by
    decide +kernel
  exact fun e he => ⟨entries_orderly e he, hfields e he⟩

structure Lossless (t : Template) (xlen : Int) (args : List Operand) (ws : List Word)
    (refs : List (Ref Reloc)) : Prop where
  /-- Every step has set bits among its own, which no other step of the word has set and which are
  clear in the template. -/
  written : ∃ bits, bits.length = t.steps.length ∧ ws = fill t.words (t.steps.zip bits) ∧
    (∀ x ∈ t.steps.zip bits, Within (x.1.action.stretches 0) x.2) ∧
    (t.steps.zip bits).Pairwise (fun x y => x.1.word = y.1.word → x.2 &&& y.2 = 0) ∧
    ∀ x ∈ t.steps.zip bits, t.words.getD x.1.word 0 &&& x.2 = 0
  /-- The words say what the operands say. On 32-bit registers this is an upper immediate modulo
  a power of two. -/
  told : readings xlen ws t.steps refs = contents (t.isUpper && xlen == 32) t.slots args
  /-- Where a distance is not said, it is zero. -/
  bare : ∀ a, (.addr, a) ∈ t.slots.zip args → ∃ b, a = .mem b 0
  /-- Every label is one reference of the kind that its step says. -/
  rels : refs.map (·.rel) = t.steps.filterMap (·.action.rel?)
  /-- The bits of its displacement are clear. -/
  vacant : ∀ st ∈ t.steps, ∀ kind ∈ st.action.rel?, ∀ k, ∀ s ∈ kind.stretches k,
    s.read (ws.getD (st.word + k) 0) = 0
  /-- Nothing is cut off a half word. -/
  half : t.size = 2 → ∀ w ∈ ws, w.toNat < 2 ^ 16

theorem Action.stretches_of_two_le (a : Action) {k : Nat} (hk : 2 ≤ k) : a.stretches k = [] := by
  obtain ⟨k, rfl⟩ := Nat.exists_eq_add_of_le' hk
  cases a with
  | rel kind => cases kind <;> rfl
  | _ => rfl

theorem Step.stretches_add (st : Step) (k : Nat) :
    st.stretches (st.word + k) = st.action.stretches k := by
  rw [stretches, if_pos (Nat.le_add_right _ _), Nat.add_sub_cancel_left]

namespace Template.Orderly

variable {t : Template} {bits : List Word}

/-- No step reaches behind the last word. -/
theorem stretches_eq_nil (h : t.Orderly) {st : Step} (hst : st ∈ t.steps) {n : Nat}
    (hn : t.words.length ≤ n) : st.stretches n = [] := by
  have hplaced := h.placed st hst
  obtain ⟨k, rfl⟩ := Nat.exists_eq_add_of_le (show st.word ≤ n by omega)
  rw [Step.stretches_add]
  by_cases hk : k < 2
  · by_contra hne
    have := h.room st hst k hk hne
    omega
  · exact st.action.stretches_of_two_le (by omega)

/-- Distinct steps are apart in all words. -/
theorem pairwise_apart (h : t.Orderly) : t.steps.Pairwise Step.Apart := by
  have hword : ∀ n, t.steps.Pairwise fun st st' =>
      ∀ x ∈ st.stretches n, ∀ y ∈ st'.stretches n, x.Apart y := by
    intro n
    by_cases hn : n < t.words.length
    · exact (List.pairwise_flatMap.mp (h.apart n hn)).2
    · apply List.Pairwise.imp_of_mem (R := fun _ _ => True)
      · intro st st' hst _ _
        rw [h.stretches_eq_nil hst (by omega)]
        exact nofun
      · exact List.pairwise_of_forall (fun _ _ => trivial)
  rw [List.pairwise_iff_forall_sublist]
  intro st st' hsub n
  exact List.pairwise_iff_forall_sublist.mp (hword n) hsub

theorem read_words (h : t.Orderly) {st : Step} (hst : st ∈ t.steps) (n : Nat) :
    ∀ s ∈ st.stretches n, s.read (t.words.getD n 0) = 0 := by
  intro s hs
  by_cases hn : n < t.words.length
  · exact h.clear n hn st hst s hs
  · rw [h.stretches_eq_nil hst (by omega)] at hs
    cases hs

theorem pairwise_zip (h : t.Orderly) (hlength : bits.length = t.steps.length) :
    (t.steps.zip bits).Pairwise fun x y => x.1.Apart y.1 := by
  have hmap : (t.steps.zip bits).map (·.1) = t.steps :=
    List.map_fst_zip (Nat.le_of_eq hlength.symm)
  exact List.pairwise_map.mp (hmap.symm ▸ h.pairwise_apart)

theorem held (h : t.Orderly) (hlength : bits.length = t.steps.length)
    (hwithin : ∀ x ∈ t.steps.zip bits, Within (x.1.action.stretches 0) x.2) :
    ∀ x ∈ t.steps.zip bits, Held (fill t.words (t.steps.zip bits)) x :=
  held_fill (fun x hx => h.placed x.1 (List.of_mem_zip hx).1) hwithin (h.pairwise_zip hlength)
    fun _ hx n => h.read_words (List.of_mem_zip hx).1 n

theorem lt_of_half (h : t.Orderly) (hsize : t.size = 2)
    (hwithin : ∀ x ∈ t.steps.zip bits, Within (x.1.action.stretches 0) x.2) {w : Word}
    (hw : w ∈ fill t.words (t.steps.zip bits)) : w.toNat < 2 ^ 16 := by
  obtain ⟨n, hn, rfl⟩ := List.getElem_of_mem hw
  have hn' : n < t.words.length := by simpa using hn
  have hread : Stretch.read ⟨16, 16⟩ ((fill t.words (t.steps.zip bits)).getD n 0) = 0 := by
    rw [read_fill (fun x hx => h.placed x.1 (List.of_mem_zip hx).1) hwithin, h.half hsize n hn']
    intro x hx s hs
    have hinside := h.inside n hn' x.1 (List.of_mem_zip hx).1 s hs
    rw [hsize] at hinside
    exact Or.inr hinside
  rw [List.getD_eq_getElem?_getD, List.getElem?_eq_getElem hn, Option.getD_some, Stretch.read,
    BitVec.extractLsb'_toNat, Nat.shiftRight_eq_div_pow] at hread
  dsimp only at hread
  have hlt := ((fill t.words (t.steps.zip bits))[n]).isLt
  omega

end Template.Orderly

/-- The template that encodes the operands of an instruction: the first one of its mnemonic in the
profile that takes them. -/
structure Chosen (p : Profile) (mnemonic : String) (args : List Operand) (t : Template) : Prop where
  plain : LoadConstant.ofName? (Text.toLower (Text.trim mnemonic)) = none
  first : ((templatesOf (Text.toLower (Text.trim mnemonic))).filter (·.availableIn p)).find?
    (·.accepts args) = some t

theorem Chosen.mem_entries {p : Profile} {mnemonic : String} {args : List Operand} {t : Template}
    (h : Chosen p mnemonic args t) :
    (⟨Text.toLower (Text.trim mnemonic), t⟩ : Entry) ∈ entries ∧ t.availableIn p = true ∧
      t.accepts args = true := by
  have hmem := List.mem_filter.mp (List.mem_of_find?_eq_some h.first)
  have haccepts := List.find?_some h.first
  obtain ⟨e, he, rfl⟩ := List.mem_map.mp hmem.1
  obtain ⟨he, hname⟩ := List.mem_filter.mp he
  refine ⟨?_, hmem.2, haccepts⟩
  rw [← eq_of_beq hname]
  exact he

/-- An encoded instruction loads a constant or fills the template that was chosen. -/
theorem encodeIn_cases {p : Profile} {mnemonic : String} {args : List Operand} {e : Encoded Reloc}
    (h : encodeIn p mnemonic args = .ok e) :
    (∃ c, LoadConstant.ofName? (Text.toLower (Text.trim mnemonic)) = some c ∧
      c.encode (Text.toLower (Text.trim mnemonic)) p args = .ok e) ∨
    ∃ t, Chosen p mnemonic args t ∧
      t.encode (Text.toLower (Text.trim mnemonic)) p args = .ok e := by
  unfold encodeIn at h
  dsimp only at h
  split at h
  next c hc => exact Or.inl ⟨c, hc, h⟩
  next hnone =>
    split at h
    · cases h
    next all hall =>
      split at h
      · cases h
      next available havailable =>
        split at h
        · cases h
        next t hfind => exact Or.inr ⟨t, ⟨hnone, hfind⟩, h⟩

theorem of_encode {p : Profile} {mnemonic : String} {given : List (Given Operand)}
    {e : Encoded Reloc} (h : encode p mnemonic given = .ok e) :
    ∃ args, given = args.map .operand ∧ encodeIn p mnemonic args = .ok e := by
  unfold encode at h
  split at h
  · cases h
  next args hargs => exact ⟨args, Given.eq_map_of_all hargs, h⟩

/-- Filling a template of the instruction set loses nothing of the operands. -/
theorem lossless_of_fill {p : Profile} {mnemonic name : String} {args : List Operand}
    {t : Template} {e : Encoded Reloc} (hchosen : Chosen p mnemonic args t)
    (h : t.encode name p args = .ok e) :
    ∃ ws, e.code = t.bytes ws ∧ Lossless t p.xlen args ws e.refs := by
  obtain ⟨hmem, -, haccepts⟩ := hchosen.mem_entries
  have horderly := entries_orderly _ hmem
  have hsuited := entries_suited _ hmem
  dsimp only at horderly hsuited
  obtain ⟨parts, hparts, h⟩ := bind_eq_ok h
  obtain ⟨done, hrun, h⟩ := bind_eq_ok h
  cases h
  have hsay : AllSay (t.isUpper && p.xlen == 32) t.kinds parts
      (contents (t.isUpper && p.xlen == 32) t.slots args) :=
    allSay_of_partsOfAll hsuited.optional haccepts hparts
  have hin : ∀ st ∈ t.steps, ∀ x ∈ st.action.stretches 0, x.stop ≤ 32 := by
    intro st hst x hx
    rw [← st.stretches_word] at hx
    have hinside := horderly.inside _ (horderly.placed st hst) st hst x hx
    rcases horderly.size with hsize | hsize <;> omega
  obtain ⟨bits, refs, hran⟩ := run_ran rfl hsay hsuited.consumes hsuited.listed hin
    (Nat.succ_pos 15) hrun
  have hheld := horderly.held hran.length hran.within
  have hwords := hran.words
  have hrefs : done.refs = refs := hran.refs
  dsimp only at hwords hheld
  refine ⟨done.words, rfl, ?_⟩
  exact {
    written := by
      refine ⟨bits, hran.length, hwords, hran.within, ?_, ?_⟩
      · refine List.Pairwise.imp_of_mem ?_ (horderly.pairwise_zip hran.length)
        intro x y hx hy hapart hword
        refine (hran.within x hx).and_eq_zero (hran.within y hy) fun s hs s' hs' => ?_
        rw [← Step.stretches_word] at hs hs'
        exact hapart x.1.word s hs s' (hword ▸ hs')
      · intro x hx
        refine (hran.within x hx).and_eq_zero_of_read fun s hs => ?_
        rw [← Step.stretches_word] at hs
        exact horderly.read_words (List.of_mem_zip hx).1 _ s hs
    told := by
      dsimp only
      rw [hwords, hrefs]
      exact hran.told _ hheld nofun
    bare := fun a ha => eq_mem_zero_of_takes (takes_of_zip haccepts ha)
    rels := by
      dsimp only
      rw [hrefs, hran.rels]
    vacant := by
      intro st hst kind hkind k s hs
      have hmap : (t.steps.zip bits).map (·.1) = t.steps :=
        List.map_fst_zip (Nat.le_of_eq hran.length.symm)
      rw [← hmap] at hst
      obtain ⟨x, hx, rfl⟩ := List.mem_map.mp hst
      have hstretches : x.1.action.stretches k = kind.stretches k := by
        generalize x.1.action = a at hkind
        cases a with
        | rel kind' =>
          cases hkind
          cases k <;> rfl
        | _ => cases hkind
      have hread := hheld x hx (x.1.word + k) s (by rwa [Step.stretches_add, hstretches])
      have hnone := hran.vacant x hx (Option.isSome_iff_exists.mpr ⟨kind, hkind⟩)
      rw [hwords, hread, hnone, Stretch.read_zero, ite_self]
    half := fun hsize w hw => horderly.lt_of_half hsize hran.within (hwords ▸ hw) }

/-- The operands of an instruction can be recovered from its code and its references. Where it
loads a constant, all of its words name the register, and they build what the register can hold of
the constant. -/
def Recoverable (p : Profile) (mnemonic : String) (args : List Operand) (e : Encoded Reloc) :
    Prop :=
  (∃ rd v ws, args = [.reg rd, .imm v] ∧ e = ⟨ws.flatMap Bytes.ofWord, []⟩ ∧ ws ≠ [] ∧
    (∀ w ∈ ws, LoadConstant.Names rd.num w) ∧
    LoadConstant.built p.is64 ws = numeral (p.xlen == 32) v) ∨
  ∃ t ws, Chosen p mnemonic args t ∧ e.code = t.bytes ws ∧ Lossless t p.xlen args ws e.refs

/-- Nothing is lost: not in a field, not between the steps of a template, and not of the operands
of an instruction. -/
theorem operands_recoverable :
    (∀ f ∈ Field.all, Faithful f) ∧
    (∀ entry ∈ entries, entry.template.Orderly ∧
      ∀ st ∈ entry.template.steps, ∀ f ∈ st.action.field?, f ∈ Field.all) ∧
    ∀ p mnemonic given e, encode p mnemonic given = .ok e →
      ∃ args, given = args.map .operand ∧ Recoverable p mnemonic args e := by
  refine ⟨fields_faithful, entries_separate, ?_⟩
  intro p mnemonic given e h
  obtain ⟨args, rfl, hin⟩ := of_encode h
  refine ⟨args, rfl, ?_⟩
  rcases encodeIn_cases hin with ⟨c, -, hload⟩ | ⟨t, hchosen, hfill⟩
  · exact Or.inl (LoadConstant.built_of_encode hload)
  · obtain ⟨ws, hcode, hlossless⟩ := lossless_of_fill hchosen hfill
    exact Or.inr ⟨t, ws, hchosen, hcode, hlossless⟩

def rv32All : Profile := ⟨32, false, Extension.all⟩

def pushAll : List (Given Operand) :=
  [.operand (.regList [.x 1, .x 8, .x 27]), .operand (.imm (-112))]

theorem operands_recoverable_push :
    encode rv32All "CM.PUSH" pushAll = .ok ⟨[0xfe, 0xb8], []⟩ ∧
      ∃ args, pushAll = args.map .operand ∧
        Recoverable rv32All "CM.PUSH" args ⟨[0xfe, 0xb8], []⟩ := by
  have hok : encode rv32All "CM.PUSH" pushAll = .ok ⟨[0xfe, 0xb8], []⟩ := by
    decide +kernel
  exact ⟨hok, operands_recoverable.2.2 _ _ _ _ hok⟩

end MachineCode.Riscv
