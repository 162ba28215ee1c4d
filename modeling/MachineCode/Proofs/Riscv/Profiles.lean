import MachineCode.Proofs.Riscv.Lossless

/-!
What a profile permits. An instruction is of the extensions and of the register width of its
profile, all its registers exist there, and half words only come from compressed mnemonics. A
profile with more extensions encodes it in the same way: the templates of a mnemonic are all of
the same extensions, so none of them turns up in front of the one that was chosen.
-/
namespace MachineCode.Riscv

section Agreement

variable {α : Type} {key : α → Nat} {same : α → α → Bool}

/-- Whether all elements that share the lowest bits of their keys are the same. They are sorted by
the bits first, so that few pairs are left to be compared. -/
def agreeing (key : α → Nat) (same : α → α → Bool) : Nat → List α → Bool
  | 0, xs => xs.all fun x => xs.all (same x)
  | k + 1, xs => agreeing key same k (xs.filter fun x => (key x).testBit k) &&
      agreeing key same k (xs.filter fun x => !(key x).testBit k)

theorem same_of_agreeing {k : Nat} {xs : List α} (h : agreeing key same k xs = true) {x y : α}
    (hx : x ∈ xs) (hy : y ∈ xs) (hkey : key x = key y) : same x y = true := by
  induction k generalizing xs with
  | zero => exact List.all_eq_true.mp (List.all_eq_true.mp h x hx) y hy
  | succ k ih =>
    obtain ⟨hset, hclear⟩ := Bool.and_eq_true_iff.mp h
    cases hbit : (key x).testBit k with
    | true =>
      exact ih hset (List.mem_filter.mpr ⟨hx, hbit⟩) (List.mem_filter.mpr ⟨hy, hkey ▸ hbit⟩)
    | false =>
      exact ih hclear (List.mem_filter.mpr ⟨hx, by rw [hbit, Bool.not_false]⟩)
        (List.mem_filter.mpr ⟨hy, by rw [← hkey, hbit, Bool.not_false]⟩)

end Agreement

/-- A number for a mnemonic. It is made of bytes, since those are what a text consists of. -/
def Entry.key (e : Entry) : Nat :=
  e.name.toByteArray.data.toList.foldl (fun n b => 31 * n + b.toNat) 0

theorem entries_agreeing : agreeing Entry.key
    (fun e e' => e.template.extensions == e'.template.extensions || e.name != e'.name) 8
      entries = true := by
  decide +kernel

/-- The templates of one mnemonic are of the same extensions. -/
theorem extensions_eq_of_name_eq {e e' : Entry} (he : e ∈ entries) (he' : e' ∈ entries)
    (hname : e.name = e'.name) : e.template.extensions = e'.template.extensions := by
  have hsame := same_of_agreeing entries_agreeing he he' (by rw [Entry.key, Entry.key, hname])
  simpa [hname] using hsame

def IsCompressedName (name : String) : Prop :=
  ['c', '.'] <+: name.toList ∨ ['c', 'm', '.'] <+: name.toList

instance (name : String) : Decidable (IsCompressedName name) := inferInstanceAs (Decidable (_ ∨ _))

/-- Half words are of compressed instructions. -/
theorem entries_half : ∀ e ∈ entries, e.template.size = 2 →
    .c ∈ e.template.extensions ∧ IsCompressedName e.name := by
  decide +kernel

/-- The lowest bits of a whole word are those of an instruction of 32 bits, and no step reaches
them. -/
theorem entries_whole : ∀ e ∈ entries, e.template.size = 4 → ∀ n < e.template.words.length,
    Stretch.read ⟨0, 2⟩ (e.template.words.getD n 0) = 3 ∧
      ∀ st ∈ e.template.steps, ∀ s ∈ st.stretches n, 2 ≤ s.pos := by
  decide +kernel

/-- The registers that an operand uses. -/
def Operand.registers : Operand → List Register
  | .reg r => [r]
  | .mem b _ | .labelMem b _ => [b]
  | .regList rs => rs
  | .imm _ | .label _ | .rounding _ | .fence _ | .csr _ => []

/-- The lengths of the instructions in some code. The two lowest bits of an instruction of 32 bits
are set, and those of a shorter one are not. -/
def lengths : Bytes → List Nat
  | [] => []
  | b :: bs =>
    if b.toNat % 4 = 3 then 4 :: lengths (bs.drop 3) else 2 :: lengths (bs.drop 1)
termination_by bs => bs.length

section Lengths

theorem lengths_ofNat_append {n : Nat} (h : n % 4 = 3) (rest : Bytes) :
    lengths (Bytes.ofNat 4 n ++ rest) = 4 :: lengths rest := by
  have hbyte : (UInt8.ofNat n).toNat % 4 = 3 := by
    rw [UInt8.toNat_ofNat']
    omega
  simp only [Bytes.ofNat, List.cons_append, List.nil_append]
  rw [lengths, if_pos hbyte, List.drop_succ_cons, List.drop_succ_cons, List.drop_succ_cons,
    List.drop_zero]

theorem lengths_words {ws : List Word} (h : ∀ w ∈ ws, Stretch.read ⟨0, 2⟩ w = 3) :
    lengths (ws.flatMap fun w => Bytes.ofNat 4 w.toNat) = List.replicate ws.length 4 := by
  induction ws with
  | nil =>
    rw [List.flatMap_nil, lengths]
    rfl
  | cons w ws ih =>
    obtain ⟨hw, hws⟩ := List.forall_mem_cons.mp h
    have hlow : w.toNat % 4 = 3 := by
      rw [Stretch.read, BitVec.extractLsb'_toNat, Nat.shiftRight_zero] at hw
      exact hw
    rw [List.flatMap_cons, lengths_ofNat_append hlow, ih hws, List.length_cons,
      List.replicate_succ]

end Lengths

structure Permitted (p : Profile) (mnemonic : String) (args : List Operand) (e : Encoded Reloc) :
    Prop where
  /-- A constant is loaded at a width of the profile, or the code is that of a template whose
  extensions and register width the profile has. -/
  available :
    (∃ c, LoadConstant.ofName? (Text.toLower (Text.trim mnemonic)) = some c ∧
      c.encode (Text.toLower (Text.trim mnemonic)) p args = .ok e ∧
      (p.xlen = 64 ∨ c.width true ≤ 32 ∨ c = .shortest)) ∨
    ∃ t, Chosen p mnemonic args t ∧
      t.encode (Text.toLower (Text.trim mnemonic)) p args = .ok e ∧
      (∀ x ∈ t.extensions, x ∈ p.extensions) ∧ ∀ n ∈ t.xlen, p.xlen = n
  /-- The embedded profiles have half of the integer registers. -/
  registers : p.embedded = true → ∀ a ∈ args, ∀ r ∈ a.registers, r.file = Register.fileX →
    r.num < 16
  /-- Half words are of compressed mnemonics. -/
  compressed : 2 ∈ lengths e.code →
    .c ∈ p.extensions ∧ IsCompressedName (Text.toLower (Text.trim mnemonic))

section Available

variable {p p' : Profile} {t : Template} {mnemonic : String} {args : List Operand}

theorem Profile.has_iff {es : List Extension} :
    p.has es = true ↔ ∀ x ∈ es, x ∈ p.extensions := by
  simp only [Profile.has, List.all_eq_true, List.contains_iff_mem]

theorem Template.availableIn_iff : t.availableIn p = true ↔
    (∀ x ∈ t.extensions, x ∈ p.extensions) ∧ ∀ n ∈ t.xlen, p.xlen = n := by
  rw [availableIn, Bool.and_eq_true, Profile.has_iff]
  cases t.xlen <;> simp

/-- A profile with more extensions has the same templates of a mnemonic of which it had one. -/
theorem Chosen.of_subset (h : Chosen p mnemonic args t) (hxlen : p'.xlen = p.xlen)
    (hextensions : ∀ x ∈ p.extensions, x ∈ p'.extensions) : Chosen p' mnemonic args t := by
  obtain ⟨hmem, havailable, -⟩ := h.mem_entries
  have hsame : ∀ t' ∈ templatesOf (Text.toLower (Text.trim mnemonic)),
      t'.availableIn p' = t'.availableIn p := by
    intro t' ht'
    obtain ⟨e, he, rfl⟩ := List.mem_map.mp ht'
    obtain ⟨he, hname⟩ := List.mem_filter.mp he
    have hext : e.template.extensions = t.extensions :=
      extensions_eq_of_name_eq he hmem (eq_of_beq hname)
    have hhas := (Template.availableIn_iff.mp havailable).1
    rw [Bool.eq_iff_iff, Template.availableIn_iff, Template.availableIn_iff, hxlen, hext]
    exact and_congr_left fun _ =>
      ⟨fun _ => hhas, fun _ x hx => hextensions x (hhas x hx)⟩
  refine ⟨h.plain, ?_⟩
  rw [List.filter_congr hsame]
  exact h.first

theorem Chosen.encodeIn_eq (h : Chosen p mnemonic args t) :
    encodeIn p mnemonic args = t.encode (Text.toLower (Text.trim mnemonic)) p args := by
  have hfirst := h.first
  unfold encodeIn
  dsimp only
  rw [h.plain]
  dsimp only
  generalize templatesOf (Text.toLower (Text.trim mnemonic)) = all at hfirst
  cases all with
  | nil => cases hfirst
  | cons t₀ rest =>
    dsimp only
    generalize (t₀ :: rest).filter (·.availableIn p) = available at hfirst
    cases available with
    | nil => cases hfirst
    | cons t₁ more =>
      dsimp only
      rw [hfirst]

end Available

section Registers

variable {name : String} {p : Profile}

theorem num_lt_of_embedded {r : Register} (h : r.fault? true = none)
    (hfile : r.file = Register.fileX) : r.num < 16 := by
  unfold Register.fault? at h
  split at h
  · cases h
  · split at h
    · cases h
    · split at h
      · cases h
      next hnum =>
        simp only [hfile, Bool.true_and, beq_self_eq_true, decide_eq_true_eq] at hnum
        omega

/-- The parts of an operand come with the check of its registers. -/
theorem fault?_of_partsOf {s : Slot} {a : Operand} {parts : List Part}
    (h : partsOf name p s a = .ok parts) : ∀ r ∈ a.registers, r.fault? p.embedded = none := by
  cases a with
  | reg r | mem r off | labelMem r l =>
    obtain ⟨hfault, -⟩ := ok_of_checked h
    exact List.forall_mem_singleton.mpr (of_registerFault? hfault).1
  | regList rs =>
    rw [partsOf] at h
    split at h
    · cases h
    next hnone =>
      intro r hr
      have hr' := List.findSome?_eq_none_iff.mp hnone r hr
      exact Option.map_eq_none_iff.mp hr'
  | _ =>
    intro r hr
    cases hr

theorem fault?_of_partsOfAll {ss : List Slot} {args : List Operand} {parts : List Part}
    (haccepts : Template.accepts.go ss args = true) (h : partsOfAll name p ss args = .ok parts) :
    ∀ a ∈ args, ∀ r ∈ a.registers, r.fault? p.embedded = none := by
  induction ss generalizing args parts with
  | nil =>
    cases args with
    | nil => exact nofun
    | cons a as => cases haccepts
  | cons s ss ih =>
    cases args with
    | nil => exact nofun
    | cons a as =>
      obtain ⟨front, hfront, h⟩ := bind_eq_ok h
      obtain ⟨rest, hrest, -⟩ := bind_eq_ok h
      exact List.forall_mem_cons.mpr
        ⟨fault?_of_partsOf hfront, ih (Bool.and_eq_true_iff.mp haccepts).2 hrest⟩

/-- The parts of the operands do not depend on the extensions. -/
theorem partsOfAll_extensions (es : List Extension) (ss : List Slot) (args : List Operand) :
    partsOfAll name { p with extensions := es } ss args = partsOfAll name p ss args := by
  induction ss generalizing args with
  | nil => cases args <;> rfl
  | cons s ss ih =>
    cases args with
    | nil => rw [partsOfAll, partsOfAll, ih]
    | cons a as =>
      rw [partsOfAll, partsOfAll, ih]
      rfl

end Registers

theorem permitted_of_load {p : Profile} {mnemonic : String} {args : List Operand}
    {e : Encoded Reloc} {c : LoadConstant}
    (hc : LoadConstant.ofName? (Text.toLower (Text.trim mnemonic)) = some c)
    (h : c.encode (Text.toLower (Text.trim mnemonic)) p args = .ok e) :
    Permitted p mnemonic args e := by
  obtain ⟨rd, v, rfl, hfile, hfault, hwide, hfits, rfl⟩ := LoadConstant.encode_eq_ok_iff.mp h
  have hnames := (LoadConstant.built_words (num_lt_of_fault? hfault) hfits hwide).2.1
  exact {
    available := by
      refine Or.inl ⟨c, hc, h, hwide.imp_left fun h64 => ?_⟩
      simpa [Profile.is64] using h64
    registers := by
      intro hembedded
      rw [hembedded] at hfault
      simpa [Operand.registers] using num_lt_of_embedded hfault
    compressed := by
      intro hhalf
      have hlengths := lengths_words fun w hw => (hnames w hw).1
      exact absurd (List.eq_of_mem_replicate (hlengths ▸ hhalf)) (by decide) }

theorem permitted_of_fill {p : Profile} {mnemonic : String} {args : List Operand}
    {e : Encoded Reloc} {t : Template} (hchosen : Chosen p mnemonic args t)
    (h : t.encode (Text.toLower (Text.trim mnemonic)) p args = .ok e) :
    Permitted p mnemonic args e := by
  obtain ⟨hmem, havailable, haccepts⟩ := hchosen.mem_entries
  obtain ⟨hextensions, hxlen⟩ := Template.availableIn_iff.mp havailable
  exact {
    available := Or.inr ⟨t, hchosen, h, hextensions, hxlen⟩
    registers := by
      intro hembedded a ha r hr
      obtain ⟨parts, hparts, -⟩ := bind_eq_ok h
      have hfault := fault?_of_partsOfAll haccepts hparts a ha r hr
      rw [hembedded] at hfault
      exact num_lt_of_embedded hfault
    compressed := by
      intro hhalf
      rcases (entries_orderly _ hmem).size with hsize | hsize
      · obtain ⟨hc, hname⟩ := entries_half _ hmem hsize
        exact ⟨hextensions _ hc, hname⟩
      · -- A template of whole words leaves no half word.
        obtain ⟨ws, hcode, hlossless⟩ := lossless_of_fill hchosen h
        obtain ⟨bits, hlength, rfl, hwithin, -, -⟩ := hlossless.written
        have horderly := entries_orderly _ hmem
        have hlow : ∀ w ∈ fill t.words (t.steps.zip bits), Stretch.read ⟨0, 2⟩ w = 3 := by
          intro w hw
          obtain ⟨n, hn, rfl⟩ := List.getElem_of_mem hw
          have hn' : n < t.words.length := by simpa using hn
          obtain ⟨hread, hclear⟩ := entries_whole _ hmem hsize n hn'
          have hfill : Stretch.read ⟨0, 2⟩ ((fill t.words (t.steps.zip bits)).getD n 0) = 3 := by
            rw [read_fill (fun x hx => horderly.placed x.1 (List.of_mem_zip hx).1) hwithin, hread]
            exact fun x hx s hs => Or.inl (hclear x.1 (List.of_mem_zip hx).1 s hs)
          rwa [List.getD_eq_getElem?_getD, List.getElem?_eq_getElem hn, Option.getD_some] at hfill
        rw [hcode, Template.bytes, hsize, lengths_words hlow] at hhalf
        exact absurd (List.eq_of_mem_replicate hhalf) (by decide) }

/-- More extensions change nothing of an instruction. -/
theorem encodeIn_of_subset {p : Profile} {mnemonic : String} {args : List Operand}
    {e : Encoded Reloc} (h : encodeIn p mnemonic args = .ok e) {es : List Extension}
    (hes : ∀ x ∈ p.extensions, x ∈ es) :
    encodeIn { p with extensions := es } mnemonic args = .ok e := by
  rcases encodeIn_cases h with ⟨c, hc, hload⟩ | ⟨t, hchosen, hfill⟩
  · unfold encodeIn
    dsimp only
    rw [hc]
    obtain ⟨rd, v, hargs, hfile, hfault, hwide, hfits, he⟩ := LoadConstant.encode_eq_ok_iff.mp hload
    exact LoadConstant.encode_eq_ok_iff.mpr ⟨rd, v, hargs, hfile, hfault, hwide, hfits, he⟩
  · have hchosen' : Chosen { p with extensions := es } mnemonic args t :=
      hchosen.of_subset rfl hes
    rw [hchosen'.encodeIn_eq, Template.encode, partsOfAll_extensions]
    exact hfill

/-- What is encoded is permitted, and profiles with more extensions encode it as well. -/
theorem encode_permitted {p : Profile} {mnemonic : String} {given : List (Given Operand)}
    {e : Encoded Reloc} (h : encode p mnemonic given = .ok e) :
    (∃ args, given = args.map .operand ∧ Permitted p mnemonic args e) ∧
      ∀ p' : Profile, p'.xlen = p.xlen → p'.embedded = p.embedded →
        (∀ x ∈ p.extensions, x ∈ p'.extensions) → encode p' mnemonic given = .ok e := by
  constructor
  · obtain ⟨args, rfl, hin⟩ := of_encode h
    refine ⟨args, rfl, ?_⟩
    rcases encodeIn_cases hin with ⟨c, hc, hload⟩ | ⟨t, hchosen, hfill⟩
    · exact permitted_of_load hc hload
    · exact permitted_of_fill hchosen hfill
  · rintro ⟨xlen', embedded', es⟩ rfl rfl hes
    unfold encode at h ⊢
    split at h
    · cases h
    · exact encodeIn_of_subset h hes

def rv32ec : Profile := ⟨32, true, [.c]⟩

def loadLast : List (Given Operand) := [.operand (.reg (.x 8)), .operand (.mem (.x 15) 64)]

theorem encode_permitted_half :
    encode rv32ec "C.LW" loadLast = .ok ⟨[0xa0, 0x43], []⟩ ∧
      (∃ args, loadLast = args.map .operand ∧
        Permitted rv32ec "C.LW" args ⟨[0xa0, 0x43], []⟩) ∧
      encode ⟨32, true, Extension.all⟩ "C.LW" loadLast = .ok ⟨[0xa0, 0x43], []⟩ := by
  have hok : encode rv32ec "C.LW" loadLast = .ok ⟨[0xa0, 0x43], []⟩ := by
    decide +kernel
  obtain ⟨hpermitted, hmore⟩ := encode_permitted hok
  exact ⟨hok, hpermitted, hmore _ rfl rfl (by decide)⟩

end MachineCode.Riscv
