import MachineCode.Proofs.X86.Immediates

/-!
Numbers of one byte that the processor sign-extends to the operand size. Rows with such a byte take
all numbers of a byte, signed and unsigned ones, but the unsigned ones come back negative. A search
for one match does not find such a row for them, since a row with a number of the operand size
stands in front of it; a search for all matches does.
-/
namespace MachineCode.X86

namespace Form

/-- Whether the processor sign-extends the byte behind the opcode: operations with a number, and the
product with one. -/
def extendsByte (f : Form) : Bool := f.opcode == [0x83] || f.opcode == [0x6b]

def widened (f : Form) : Form := { f with opcode := [0x81], slots := f.slots.dropLast ++ [.ia] }

/-- A form that ends in a byte and is tried behind some other forms. Either it takes no number
without a size, or the form with a wider number is among those before it. -/
structure EndsInByte (f : Form) (before : List Form) : Prop where
  one : f.OneNumber
  slots : f.slots = f.slots.dropLast ++ [.ib]
  rest : ∀ s ∈ f.slots.dropLast, s.kind.isTrailing = false
  earlier : f.has .exactSize = true ∨ f.slots.dropLast.length = 1 ∧ f.widened ∈ before

instance (f : Form) (before : List Form) : Decidable (f.EndsInByte before) :=
  decidable_of_iff (_ ∧ _ ∧ _ ∧ _) ⟨fun ⟨h1, h2, h3, h4⟩ => ⟨h1, h2, h3, h4⟩,
    fun ⟨h1, h2, h3, h4⟩ => ⟨h1, h2, h3, h4⟩⟩

end Form

theorem families_endInByte : ∀ f ∈ families, ∀ x ∈ f.forms.zipIdx, x.1.extendsByte = true →
    x.1.EndsInByte (f.forms.take x.2) := by
  decide +kernel

section Extension

variable {x : Int} {n : Nat}

/-- The sign extension of a byte is a number again if and only if the number is a signed one. -/
theorem extended_iff (hlow : -0x80 ≤ x) (hhigh : x < 0x100) (hn : n = 2 ∨ n = 4 ∨ n = 8) :
    x.bmod (2 ^ 8) ≡ x [ZMOD (2 ^ (8 * n) : Nat)] ↔ x < 0x80 := by
  by_cases hsigned : x < 0x80
  · rw [bmod_of_inSigned (k := 8) (by decide) ⟨by simpa using hlow, by simpa using hsigned⟩]
    exact ⟨fun _ => hsigned, fun _ => rfl⟩
  · have hwraps : x.bmod (2 ^ 8) = x - 0x100 := by
      rw [Int.bmod_def]
      split <;> omega
    rw [hwraps, Int.ModEq]
    rcases hn with rfl | rfl | rfl <;> omega

end Extension

section Widened

variable {c : Matcher} {s : Scratch} {addrSize n : Nat} {m : Match} {f : Form} {t : Slot}
  {a : Operand} {v : Int64} {name : String}

theorem add_unsized (votes : SizeVotes) (t : Slot) (v : Int64) :
    votes.add name t (.imm (.unsized v)) = .ok votes := by
  unfold SizeVotes.add
  split <;> rfl

/-- A number without a size has no part in how the other operand is sized. -/
theorem sizesIn_widened {mode : Mode} (hslots : f.slots = [t, .ib]) :
    sizesIn name mode f.widened [a, .imm (.unsized v)] =
      sizesIn name mode f [a, .imm (.unsized v)] := by
  have hwidened : f.widened.slots = [t, .ia] := by
    rw [Form.widened, hslots]
    rfl
  have hcollect : ∀ u : Slot, SizeVotes.collect name ([t, u].zip [a, .imm (.unsized v)]) =
      SizeVotes.add name {} t a := by
    intro u
    unfold SizeVotes.collect
    rw [List.zip_cons_cons, List.zip_cons_cons, List.zip_nil_right, List.foldlM_cons]
    dsimp only
    cases SizeVotes.add name {} t a with
    | error e => rfl
    | ok votes =>
      rw [ok_bind, List.foldlM_cons, add_unsized]
      rfl
  unfold sizesIn
  rw [hwidened, hslots, hcollect, hcollect]
  rfl

theorem imm_of_settleSizes {mode : Mode} {votes : SizeVotes} {imm : Nat}
    (h : settleSizes name mode f votes = .ok (some n, imm)) : imm = min n 4 := by
  unfold settleSizes at h
  dsimp only at h
  split at h
  next n' _ =>
    obtain ⟨-, hpair⟩ := ok_of_unless h
    obtain ⟨hsize, rfl⟩ := Prod.mk.inj hpair
    rw [Option.some.inj hsize]
  next =>
    obtain ⟨-, hpair⟩ := ok_of_unless h
    cases (Prod.mk.inj hpair).1

/-- Numbers of a byte are sized in every slot for any size. -/
theorem resize_widened (hn : n = 2 ∨ n = 4 ∨ n = 8) (hlow : -0x80 ≤ v.toInt)
    (hhigh : v.toInt < 0x100) :
    resize name (some n) (min n 4) .ia (.imm (.unsized v)) =
      .ok (.imm (.ofSize v (min n 4))) := by
  have hfits : Imm.fits v 2 = true ∧ Imm.fits v 4 = true ∧ Imm.fitsSigned v = true := by
    unfold Imm.fits Imm.fitsSigned
    simp only [Bool.and_eq_true, decide_eq_true_eq]
    omega
  unfold resize Imm.unsized
  dsimp only
  refine if_neg ?_
  rcases hn with rfl | rfl | rfl <;> simp [hfits]

theorem args_of_operands (h : s.operands = [a, .imm (.unsized v)]) :
    ∃ x, s.args = [x, .plain (.imm (.unsized v))] := by
  unfold Scratch.operands at h
  obtain ⟨x, rest, hargs, -, hrest⟩ := List.map_eq_cons_iff.mp h
  obtain ⟨y, rest, rfl, hy, hnil⟩ := List.map_eq_cons_iff.mp hrest
  obtain rfl := List.map_eq_nil_iff.mp hnil
  cases y with
  | memory => cases hy
  | plain b =>
    obtain rfl : b = .imm (.unsized v) := hy
    exact ⟨x, hargs⟩

theorem resizeHeld_widened {imm : Nat} {u : Slot} {x : Held} {b : Operand} {args : List Held}
    {operand : Option Nat}
    (h : resizeHeld name operand imm [t, .ib] [x, .plain (.imm (.unsized v))] = (args, none))
    (hu : resize name operand imm u (.imm (.unsized v)) = .ok b) :
    ∃ args', resizeHeld name operand imm [t, u] [x, .plain (.imm (.unsized v))] =
      (args', none) := by
  have hrest : resizeHeld name operand imm [u] [.plain (.imm (.unsized v))] =
      ([.plain b], none) := by
    rw [resizeHeld, hu]
    rfl
  cases x with
  | memory =>
    rw [resizeHeld, hrest]
    exact ⟨_, rfl⟩
  | plain a =>
    rw [resizeHeld] at h ⊢
    cases ha : resize name operand imm t a with
    | error e =>
      rw [ha] at h
      cases (Prod.mk.inj h).2
    | ok a' =>
      dsimp only
      rw [hrest]
      exact ⟨_, rfl⟩

/-- Where a form with a byte makes a match of a number, that with a wider number makes one too. -/
theorem exists_yields_widened {i j : Nat} (name' : String) (hslots : f.slots = [t, .ib])
    (hops : s.operands = [a, .imm (.unsized v)]) (hn : n = 2 ∨ n = 4 ∨ n = 8)
    (hlow : -0x80 ≤ v.toInt) (hhigh : v.toInt < 0x100) (hsize : m.operandSize = some n)
    (h : yields c s addrSize (⟨name, f⟩, i) = some m) :
    ∃ m', yields c s addrSize (⟨name', f.widened⟩, j) = some m' := by
  have hwidened : f.widened.slots = [t, .ia] := by
    rw [Form.widened, hslots]
    rfl
  obtain ⟨htakes, after, size, hresize, rfl⟩ := yields_eq_some.mp h
  obtain rfl : size = some n := hsize
  dsimp only at htakes hresize
  obtain ⟨hfeatures, hmode, hlength, htakes⟩ := Form.takes_iff.mp htakes
  have htakes' : f.widened.takes c.mode c.features s.operands = true := by
    refine Form.takes_iff.mpr ⟨hfeatures, hmode, ?_, ?_⟩
    · rw [hwidened, hops]
      rfl
    · intro x hx
      rw [hwidened, hops] at hx
      rw [hslots, hops] at htakes
      rcases List.mem_pair.mp hx with rfl | rfl
      · exact htakes (t, a) List.mem_cons_self
      · rfl
  obtain ⟨x, hargs⟩ := args_of_operands hops
  have hresize' : ∃ after', s.resizeArgs c.mode f.widened = (after', .ok (some n)) := by
    unfold Scratch.resizeArgs at hresize ⊢
    rw [hops, hargs, hslots] at hresize
    rw [hops, hargs, hwidened, sizesIn_widened hslots]
    split at hresize
    · cases hresize
    next operandSize imm hsizes =>
      split at hresize
      · cases (Prod.mk.inj hresize).2
      next args hheld =>
        obtain rfl := Except.ok.inj (Prod.mk.inj hresize).2
        obtain ⟨votes, -, hsettle⟩ := bind_eq_ok hsizes
        obtain rfl := imm_of_settleSizes hsettle
        obtain ⟨args', hargs'⟩ := resizeHeld_widened hheld (resize_widened hn hlow hhigh)
        rw [hargs']
        exact ⟨_, rfl⟩
  obtain ⟨after', hafter⟩ := hresize'
  exact ⟨_, yields_eq_some.mpr ⟨htakes', after', some n, hafter, rfl⟩⟩

end Widened

section Short

variable {c : Matcher} {inst : Inst} {ops settled : List Operand} {m : Match} {b : UInt8} {s : Slot}
  {v : Int64} {n : Nat} {enc : Encoded Reloc} {name : String}

theorem Matched.exists_place (h : Matched c inst ops settled m)
    (hname : Inst.lookup name = some inst) : ∃ f ∈ families, ∃ k,
      inst.rows = f.rows.zipIdx inst.first ∧ f.forms[k]? = some m.form ∧
        m.row = inst.first + k := by
  obtain ⟨f, hf, -, hrows⟩ := exists_family hname
  obtain ⟨n, hrow⟩ := h.row
  rw [hrows] at hrow
  obtain ⟨hle, hget⟩ := List.mk_mem_zipIdx_iff_le_and_getElem?_sub.mp hrow
  rw [Family.rows, List.getElem?_map] at hget
  obtain ⟨g, hg, heq⟩ := Option.map_eq_some_iff.mp hget
  obtain rfl : g = m.form := ((Row.mk.injEq ..).mp heq).2
  exact ⟨f, hf, m.row - inst.first, hrows, hg, (Nat.add_sub_cancel' hle).symm⟩

theorem endsInByte_of_place {f : Family} (hf : f ∈ families) {k : Nat}
    (hk : f.forms[k]? = some m.form) (hshort : m.form.extendsByte = true) :
    m.form.EndsInByte (f.forms.take k) :=
  families_endInByte f hf (m.form, k) (List.mk_mem_zipIdx_iff_getElem?.mpr hk) hshort

theorem Form.EndsInByte.slot_eq {f : Form} {before : List Form} {i : Imm} {exact : Bool}
    (h : f.EndsInByte before) (hs : s ∈ f.slots) (htakes : s.takes (.imm i) exact = true) :
    s = .ib := by
  rw [h.slots] at hs
  rcases List.mem_append.mp hs with hs | hs
  · have hplaced := h.rest s hs
    rw [Slot.kind_of_imm htakes] at hplaced
    cases hplaced
  · exact List.mem_singleton.mp hs

theorem lastNumber_of_byte (hname : Inst.lookup name = some inst) (h : c.Finds inst ops m)
    (hshort : m.form.extendsByte = true)
    (hv : (s, .imm (.unsized v)) ∈ m.form.slots.zip ops) (hn : m.operandSize = some n)
    (hemit : m.emit b = .ok enc) :
    (n = 2 ∨ n = 4 ∨ n = 8) ∧ -0x80 ≤ v.toInt ∧ v.toInt < 0x100 ∧
      lastNumber 1 enc.code = v.toInt.bmod (2 ^ 8) := by
  obtain ⟨settled, votes, imm, x, hmatched, -, htakes, hx, hresize⟩ := h.resized hv
  obtain ⟨f, hf, k, -, hk, -⟩ := hmatched.exists_place hname
  have hends := endsInByte_of_place hf hk hshort
  obtain rfl := hends.slot_eq (List.of_mem_zip hv).1 htakes
  obtain ⟨rfl, hfits⟩ := exists_fits htakes hresize
  have hbyte : Imm.fits v 1 = true := hfits
  have hx : (Slot.ib, Operand.imm (.ofSize v 1)) ∈ m.slots := hx
  obtain ⟨hwidth, hvalue⟩ := Imm.ofSize_spec (n := 1) (by decide) v
  have hlast := hmatched.lastNumber_eq hends.one hx rfl (by rw [hwidth]; decide) hemit
  rw [hwidth, hvalue, Int.bmod_bmod] at hlast
  unfold Imm.fits at hbyte
  simp only [Bool.and_eq_true, decide_eq_true_eq] at hbyte
  exact ⟨hends.one.operandSize_cases hn hemit, hbyte.1, hbyte.2, hlast⟩

theorem exists_row_of_mem_take {f : Family} {g : Form} {k : Nat}
    (hrows : inst.rows = f.rows.zipIdx inst.first) (hg : g ∈ f.forms.take k) :
    ∃ j < k, ((⟨f.name, g⟩ : Row), inst.first + j) ∈ inst.rows := by
  obtain ⟨j, hj, hget⟩ := List.mem_take_iff_getElem.mp hg
  refine ⟨j, by omega, ?_⟩
  rw [hrows]
  refine List.mk_mem_zipIdx_iff_le_and_getElem?_sub.mpr ⟨Nat.le_add_right .., ?_⟩
  rw [Nat.add_sub_cancel_left, Family.rows, List.getElem?_map,
    List.getElem?_eq_getElem (by omega), hget]
  rfl

theorem exists_operands_eq {f : Form} {t : Slot} {a : Operand} (hslots : f.slots = [t, .ib])
    (ht : t.kind.isTrailing = false) (hlength : f.slots.length = ops.length)
    (ha : (.ib, a) ∈ f.slots.zip ops) : ∃ x, ops = [x, a] := by
  rw [hslots] at hlength ha
  obtain ⟨x, y, rfl⟩ := List.length_eq_two.mp hlength.symm
  rcases List.mem_pair.mp ha with heq | heq
  · rw [← (Prod.mk.inj heq).1] at ht
    cases ht
  · rw [(Prod.mk.inj heq).2]
    exact ⟨x, rfl⟩

/-- A search for one match stops at a row with a wider number before it comes to one with a byte. -/
theorem find_ne_of_byte (hname : Inst.lookup name = some inst) (hshort : m.form.extendsByte = true)
    (hv : (s, .imm (.unsized v)) ∈ m.form.slots.zip ops) (hn : m.operandSize = some n)
    (hemit : m.emit b = .ok enc) : c.find inst (ops.map some) ≠ .ok m := by
  intro hfind
  have hfinds := finds_of_find hfind
  obtain ⟨hsize, hlow, hhigh, -⟩ := lastNumber_of_byte hname hfinds hshort hv hn hemit
  obtain ⟨-, settled', hmatched⟩ := hfinds.matched
  obtain ⟨f, hf, k, hrows, hk, hrow⟩ := hmatched.exists_place hname
  have hends := endsInByte_of_place hf hk hshort
  obtain ⟨s', settled, addrSize, hholds, hprepared, hcandidate, hleast⟩ := least_of_find hfind
  have hinst : settled.inst = inst := (inst_of_settle hprepared.settled).trans hholds.inst
  obtain ⟨y, hsettles, hy⟩ := exists_mem_zip
    ((hholds.settled hprepared.settled).settles hholds.oneMem) hv
  obtain rfl : y = .imm (.unsized v) := by
    cases hsettles
    rfl
  have htakes := hcandidate.slots _ hy
  obtain rfl := hends.slot_eq (List.of_mem_zip hv).1 htakes
  rcases hends.earlier with hexact | ⟨hlength, hearlier⟩
  · rw [hexact] at htakes
    cases htakes
  · obtain ⟨t, ht⟩ := List.length_eq_one_iff.mp hlength
    have hslots : m.form.slots = [t, .ib] := by
      rw [hends.slots, ht]
      rfl
    obtain ⟨a, hops⟩ := exists_operands_eq hslots (hends.rest t (ht ▸ List.mem_cons_self))
      hcandidate.length hy
    obtain ⟨⟨⟨name', form⟩, i⟩, -, hyields⟩ := candidate_iff.mp hcandidate
    obtain rfl : m.form = form := (row_of_yields hyields).1
    obtain ⟨j, hj, hmem⟩ := exists_row_of_mem_take hrows hearlier
    obtain ⟨m', hm'⟩ := exists_yields_widened (j := inst.first + j) f.name hslots hops hsize
      hlow hhigh hn hyields
    have hrow' := (row_of_yields hm').2
    have hfirst := hleast m' (candidate_iff.mpr ⟨_, hinst.symm ▸ hmem, hm'⟩)
    rw [hrow'] at hfirst
    dsimp only at hfirst
    omega

/-- Numbers in bytes that are sign-extended keep their value, modulo the range of the operand size,
if and only if they are signed numbers of a byte. A search for one match puts no number without a
size into such a byte. -/
theorem short_numbers_keep_value (hname : Inst.lookup name = some inst) (h : c.Finds inst ops m)
    (hshort : m.form.extendsByte = true) (hv : (s, .imm (.unsized v)) ∈ m.form.slots.zip ops)
    (hn : m.operandSize = some n) (hemit : m.emit b = .ok enc) :
    (lastNumber 1 enc.code ≡ v.toInt [ZMOD (2 ^ (8 * n) : Nat)] ↔ v.toInt < 0x80) ∧
      c.find inst (ops.map some) ≠ .ok m := by
  obtain ⟨hsize, hlow, hhigh, hlast⟩ := lastNumber_of_byte hname h hshort hv hn hemit
  constructor
  · rw [hlast]
    exact extended_iff hlow hhigh hsize
  · exact find_ne_of_byte hname hshort hv hn hemit

end Short

def addToQword (v : Int64) : List Operand :=
  [.mem { base := some (.make .legacy 8 0), width := 8 }, .imm (.unsized v)]

def addByte : Form := ⟨[0x83], [.autoSize, .lock], [], some 0, [.ma, .ib]⟩

def addByteMatch (v : Int64) : Match where
  mode := .x64
  inst := ⟨0x00ee0013⟩
  row := 28
  form := addByte
  args := [.mem { base := some (.make .legacy 8 0), scale := 1, width := 8 }, .imm (.ofSize v 1)]
  addrSize := 8
  operandSize := some 8

theorem mem_findAll_addToQword (v : Int64) (hv : v = -3 ∨ v = 200) : ∃ ms,
    Matcher.findAll ⟨.x64, .everything⟩ ⟨0x00ee0013⟩ ((addToQword v).map some) = .ok ms ∧
      addByteMatch v ∈ ms := by
  have hfound : ((Matcher.findAll ⟨.x64, .everything⟩ ⟨0x00ee0013⟩
      ((addToQword v).map some)).toOption.any fun ms => ms.contains (addByteMatch v)) = true := by
    rcases hv with rfl | rfl <;> decide +kernel
  obtain ⟨ms, hms, hmem⟩ := exists_eq_ok hfound
  exact ⟨ms, hms, List.contains_iff_mem.mp hmem⟩

theorem short_numbers_keep_value_added :
    Inst.lookup "add" = some ⟨0x00ee0013⟩ ∧
    Matcher.Finds ⟨.x64, .everything⟩ ⟨0x00ee0013⟩ (addToQword (-3)) (addByteMatch (-3)) ∧
    (addByteMatch (-3)).emit 0 = .ok ⟨[0x48, 0x83, 0x00, 0xfd], []⟩ ∧
    (lastNumber 1 [0x48, 0x83, 0x00, 0xfd] ≡ (-3 : Int64).toInt [ZMOD (2 ^ (8 * 8) : Nat)] ↔
      (-3 : Int64).toInt < 0x80) ∧
    Matcher.find ⟨.x64, .everything⟩ ⟨0x00ee0013⟩ ((addToQword (-3)).map some) ≠
      .ok (addByteMatch (-3)) := by
  have hname : Inst.lookup "add" = some ⟨0x00ee0013⟩ := by decide +kernel
  obtain ⟨ms, hms, hmem⟩ := mem_findAll_addToQword (-3) (Or.inl rfl)
  have hfinds := finds_of_findAll hms hmem
  have hemit : (addByteMatch (-3)).emit 0 = .ok ⟨[0x48, 0x83, 0x00, 0xfd], []⟩ := by decide +kernel
  have hv : (Slot.ib, Operand.imm (.unsized (-3))) ∈
      (addByteMatch (-3)).form.slots.zip (addToQword (-3)) := by decide
  have hshort : (addByteMatch (-3)).form.extendsByte = true := by decide
  have hsize : (addByteMatch (-3)).operandSize = some 8 := rfl
  have hkeeps := short_numbers_keep_value hname hfinds hshort hv hsize hemit
  exact ⟨hname, hfinds, hemit, hkeeps⟩

/-- Among all that is found for the sum with 200 is one that adds -56. -/
theorem counterexample_unsigned_byte : ∃ ms,
    Matcher.findAll ⟨.x64, .everything⟩ ⟨0x00ee0013⟩ ((addToQword 200).map some) = .ok ms ∧
      addByteMatch 200 ∈ ms ∧
        Encoder.encodeMatch ⟨.x64, .everything⟩ .x64 (some (addByteMatch 200)) =
          .ok ⟨[0x48, 0x83, 0x00, 0xc8], []⟩ ∧
            lastNumber 1 [0x48, 0x83, 0x00, 0xc8] = -56 ∧
              ¬ (-56 : Int) ≡ (200 : Int64).toInt [ZMOD (2 ^ (8 * 8) : Nat)] := by
  obtain ⟨ms, hms, hmem⟩ := mem_findAll_addToQword 200 (Or.inr rfl)
  have hemit : Encoder.encodeMatch ⟨.x64, .everything⟩ .x64 (some (addByteMatch 200)) =
      .ok ⟨[0x48, 0x83, 0x00, 0xc8], []⟩ := by decide +kernel
  have hlast : lastNumber 1 [0x48, 0x83, 0x00, 0xc8] = -56 := by decide +kernel
  have hdiffers : ¬ (-56 : Int) ≡ (200 : Int64).toInt [ZMOD (2 ^ (8 * 8) : Nat)] := by
    decide +kernel
  exact ⟨ms, hms, hmem, hemit, hlast, hdiffers⟩

end MachineCode.X86
