import MachineCode.Proofs.AArch64.Immediates
import MachineCode.Proofs.AArch64.Parts

/-!
Reading a word back. Every action has stretches of its own in the word; the numbers in them have a
meaning, and so do the parts that the action sees. An action that succeeds on parts of the right
kinds puts numbers into its stretches that mean what the parts mean.
-/
namespace MachineCode.AArch64

namespace Action

/-- The bits that an action may set. -/
def stretches : Action → List Stretch
  | reg pos | peek pos => [⟨pos, 5⟩]
  | imm f => f.stretches
  | addImm => [⟨22, 1⟩, ⟨10, 12⟩]
  | logical _ => [⟨22, 1⟩, ⟨16, 6⟩, ⟨10, 6⟩]
  | wide _ | movWide _ _ => [⟨5, 16⟩, ⟨21, 2⟩]
  | shift _ => [⟨22, 2⟩, ⟨10, 6⟩]
  | extend _ => [⟨10, 3⟩, ⟨13, 3⟩]
  | memIndex _ => [⟨16, 5⟩, ⟨13, 3⟩, ⟨12, 1⟩]
  | cond pos | condInv pos => [⟨pos, 4⟩]
  | rel kind => (kind.field?.map (·.stretches)).getD []
  -- The numbers of a bitfield alias are not kept to their fields.
  | extract _ | insert _ => [⟨10, 22⟩]
  | shiftLeft _ => [⟨16, 6⟩, ⟨10, 6⟩]
  | shiftRight _ => [⟨16, 6⟩]
  | float8 pos => [⟨pos, 8⟩]
  | byteMask | vectorImm => [⟨16, 3⟩, ⟨5, 5⟩]
  | vecQ pos | vecSz pos => [⟨pos, 1⟩]
  | vecSize pos => [⟨pos, 2⟩]
  | vecImm5 => [⟨16, 5⟩]
  | elemImm5 pos => [⟨pos, 5⟩, ⟨16, 5⟩]
  | list pos => [⟨pos, 5⟩, ⟨12, 4⟩]
  | testBit _ => [⟨31, 1⟩, ⟨19, 5⟩]
  | listPost | skip => []

def consumed : Action → Nat
  | peek _ | vecQ _ | vecSize _ | vecSz _ | vecImm5 => 0
  | addImm | wide _ | memIndex _ | extract _ | insert _ => 2
  | _ => 1

def refs : Action → List Part → List (Ref Reloc)
  | rel kind, .label l :: _ => [⟨l.target, l.addend, kind⟩]
  | _, _ => []

/-- The bytes that the last list transfers, after an action. -/
def bytes : Action → List Part → Nat → Nat
  | list _, .list _ arr count :: _, _ => count * arr.bytes
  | _, _, n => n

end Action

def seen {α : Type} : List α → List Action → List (Action × List α)
  | _, [] => []
  | ps, a :: as => (a, ps) :: seen (ps.drop a.consumed) as

inductive Reading where
  /-- The operand leaves no bits. -/
  | nothing
  | register (num : Nat)
  | number (v : Int)
  /-- The bits of a value in a register. -/
  | bits (v : Option (BitVec 64))
  /-- Sixteen bits that are shifted. -/
  | chunk (v : Int) (amount : Nat)
  /-- A shift or extension, by its number. -/
  | modifier (kind amount : Nat)
  | index (num kind amount : Nat)
  | condition (code : Nat)
  | float (bits : UInt64)
  | element (num size lane : Nat)
  | registers (num count : Nat)
  /-- Numbers that speak for themselves. -/
  | raw (ns : List Nat)
  deriving DecidableEq

/-- The size of an element is the place of the lowest set bit. -/
def elemSize (n : Nat) : Nat := ((List.range 4).find? n.testBit).getD 0

/-- The lane of an element is what stands above the lowest set bit. -/
def elemLane (n : Nat) : Nat := n >>> (elemSize n + 1)

def listCount (code : Nat) : Nat := ([1, 2, 3, 4].find? (Filling.listCode · == code)).getD 0

namespace Action

def interpret (a : Action) (ns : List Nat) : Reading :=
  match a, ns with
  | reg _, [n] | peek _, [n] => .register n
  | imm f, [n] => .number (f.undo n)
  | addImm, [sh, n] => .number (n <<< (12 * sh) : Nat)
  | logical is64, [n, immr, imms] => .bits (Bitmask.decode ⟨n, immr, imms⟩ is64)
  | wide _, [n, hw] => .chunk n (16 * hw)
  | movWide is64 inverted, [n, hw] => .bits (some (movedBits is64 inverted n hw))
  | shift _, [kind, n] => .modifier (kind + 1) n
  | extend _, [n, option] => .modifier (option + 5) n
  | memIndex scale, [n, option, s] => .index n (option + 5) (s * scale)
  | cond _, [n] => .condition n
  | condInv _, [n] => .condition (n ^^^ 1)
  | shiftLeft width, [_, n] => .number (width - 1 - n)
  | shiftRight _, [n] => .number n
  | float8 _, [n] => .float (fp8Bits (UInt8.ofNat n))
  | byteMask, [hi, lo] => .bits (some (stretched (32 * hi + lo)))
  | vectorImm, [hi, lo] | testBit _, [hi, lo] => .number (32 * hi + lo : Nat)
  | elemImm5 _, [n, imm5] => .element n (elemSize imm5) (elemLane imm5)
  | list _, [n, code] => .registers n (listCount code)
  | rel _, ns | vecQ _, ns | vecSize _, ns | vecSz _, ns | vecImm5, ns => .raw ns
  | _, _ => .nothing

/-- The meaning of the parts that an action sees, if it can use them. A shift or extension that is
left out is one by zero, and where a shift stands for an extension it is that of the form. -/
def meant (a : Action) (ps : List Part) : Option Reading :=
  match a with
  | reg _ | peek _ => match ps with
    | .reg r :: _ | .vec r _ :: _ => some (.register r.num)
    | _ => none
  | imm _ | shiftLeft _ | shiftRight _ | testBit _ | listPost => match ps with
    | .imm v :: _ => some (.number v.toInt)
    | _ => none
  | addImm => match ps with
    | .imm v :: .mod m :: _ => some (.number (v.toInt * 2 ^ m.amount.toNat))
    | .imm v :: .absent :: _ => some (.number v.toInt)
    | _ => none
  | logical is64 | movWide is64 _ => match ps with
    | .imm v :: _ => some (.bits (immBits v is64))
    | _ => none
  | wide _ => match ps with
    | .imm v :: .mod m :: _ => some (.chunk v.toInt m.amount.toNat)
    | .imm v :: .absent :: _ => some (.chunk v.toInt 0)
    | _ => none
  | shift _ => match ps with
    | .mod m :: _ => some (.modifier m.kind.code.toNat m.amount.toNat)
    | .absent :: _ => some (.modifier ModKind.lsl.code.toNat 0)
    | _ => none
  | extend option => match ps with
    | .mod m :: _ =>
      some (.modifier (if m.kind = .lsl then option + 5 else m.kind.code.toNat) m.amount.toNat)
    | .absent :: _ => some (.modifier (option + 5) 0)
    | _ => none
  | memIndex _ => match ps with
    | .reg r :: .mod m :: _ => some (.index r.num (indexKind (some m)) (indexAmount (some m)))
    | .reg r :: .absent :: _ => some (.index r.num (indexKind none) (indexAmount none))
    | _ => none
  | cond _ => match ps with
    | .cond c :: _ => some (.condition (c.code.toNat % 16))
    | _ => none
  | condInv _ => match ps with
    | .cond c :: _ => some (.condition c.code.toNat)
    | _ => none
  | rel kind => match ps with
    | .label _ :: _ => some (.raw ((rel kind).stretches.map fun _ => 0))
    | _ => none
  | float8 _ => match ps with
    | .float bits :: _ => some (.float bits)
    | _ => none
  | byteMask => match ps with
    | .imm v :: _ => some (.bits (some v.toBitVec))
    | _ => none
  | vectorImm => match ps with
    | .imm v :: _ => some (.number (v.toInt % 256))
    | _ => none
  | vecQ _ => match ps with
    | .vec _ arr :: _ | .list _ arr _ :: _ => some (.raw [arr.q])
    | _ => none
  | vecSize _ => match ps with
    | .vec _ arr :: _ | .list _ arr _ :: _ => some (.raw [arr.size])
    | _ => none
  | vecSz _ => match ps with
    | .vec _ arr :: _ | .list _ arr _ :: _ => some (.raw [arr.size % 2])
    | _ => none
  | vecImm5 => match ps with
    | .vec _ arr :: _ | .list _ arr _ :: _ => some (.raw [1 <<< arr.size])
    | _ => none
  | elemImm5 _ => match ps with
    | .elem r size lane :: _ => some (.element r.num size.code.toNat lane.toNat)
    | _ => none
  | list _ => match ps with
    | .list r _ count :: _ => some (.registers r.num count)
    | _ => none
  | extract _ | insert _ | skip => some .nothing

def suits (a : Action) (ks : List Kind) : Bool :=
  match a with
  | reg _ | peek _ => match ks with
    | .register _ :: _ | .base :: _ | .vec _ :: _ => true
    | _ => false
  | imm f => match ks with
    | .imm :: _ => f.isPlain
    | _ => false
  | addImm | wide _ => match ks with
    | .imm :: .mod _ :: _ => true
    | _ => false
  | logical _ | byteMask | vectorImm | listPost => match ks with
    | .imm :: _ => true
    | _ => false
  | movWide is64 _ => match ks with
    | .wide b :: _ => b == is64
    | _ => false
  | shift width => match ks with
    | .mod kinds :: _ => width ≤ 64 && kinds.all fun k => 0 < k.code.toNat && k.code.toNat ≤ 4
    | _ => false
  | extend option => match ks with
    | .mod kinds :: _ =>
      option < 8 && kinds.all fun k => k == .lsl || (5 ≤ k.code.toNat && k.code.toNat < 13)
    | _ => false
  | memIndex _ => match ks with
    | .index :: .indexMod :: _ => true
    | _ => false
  | cond _ => match ks with
    | .cond :: _ => true
    | _ => false
  | condInv _ => match ks with
    | .condInv :: _ => true
    | _ => false
  | rel _ => match ks with
    | .label :: _ => true
    | _ => false
  | extract _ | insert _ => match ks with
    | .imm :: .imm :: _ => true
    | _ => false
  | shiftLeft width | shiftRight width | testBit width => match ks with
    | .imm :: _ => width ≤ 64
    | _ => false
  | float8 _ => match ks with
    | .float :: _ => true
    | _ => false
  | vecQ _ | vecSize _ | vecSz _ | vecImm5 => match ks with
    | .vec arrs :: _ | .list arrs :: _ => arrs.all fun arr => arr.code.toNat < 8
    | _ => false
  | elemImm5 _ => match ks with
    | .elem sizes :: _ => sizes.all fun size => size.code.toNat < 4
    | _ => false
  | list _ => match ks with
    | .list _ :: _ => true
    | _ => false
  | skip => match ks with
    | .zero :: _ => true
    | _ => false

end Action

/-- What one action did: it put numbers with the meaning of its parts into its stretches, took its
parts, and recorded its references. The offset behind a list is compared and not put anywhere. -/
structure Did (a : Action) (s s' : Filling) (ns : List Nat) : Prop where
  fits : List.Forall₂ (fun s n => n < 2 ^ s.width) a.stretches ns
  word : s'.word = s.word ||| join (a.stretches.zip ns)
  parts : s'.parts = s.parts.drop a.consumed
  refs : s'.refs = s.refs ++ a.refs s.parts
  bytes : s'.listBytes = a.bytes s.parts s.listBytes
  told : a ≠ .listPost → a.meant s.parts = some (a.interpret ns)
  post : a = .listPost → a.meant s.parts = some (.number s.listBytes)

namespace Did

variable {a : Action} {s : Filling} {ns : List Nat} {bits : Word} {n : Nat}

theorem of_sets (hsets : Sets a.stretches ns bits) (hn : n = a.consumed)
    (hrefs : a.refs s.parts = []) (hbytes : a.bytes s.parts s.listBytes = s.listBytes)
    (hpost : a ≠ .listPost) (htold : a.meant s.parts = some (a.interpret ns)) :
    Did a s (s.set n bits) ns where
  fits := hsets.fits
  word := by rw [Filling.set, hsets.bits_eq]
  parts := by rw [Filling.set, hn]
  refs := by rw [Filling.set, hrefs, List.append_nil]
  bytes := by rw [Filling.set, hbytes]
  told := fun _ => htold
  post := fun h => absurd h hpost

end Did

/-- A part that goes into the word together with another is a number, a modifier, or the index of an
address, which is the first of the two. -/
theorem paired_of_suits {a : Action} {ks : List Kind} {ps : List Part} {p : Part}
    (hk : List.Forall₂ Kind.Holds ks ps) (hs : a.suits ks = true) (htwo : a.consumed = 2)
    (hp : p ∈ ps.take a.consumed) :
    (∃ v, p = .imm v) ∨ (∃ m, p = .mod m) ∨ p = .absent ∨
      ∃ r rest scale, p = .reg r ∧ ps = p :: rest ∧ a = .memIndex scale := by
  rw [htwo] at hp
  cases hk with
  | nil => cases hp
  | @cons k first ks ps hfirst hrest =>
    cases hrest with
    | nil => cases a <;> cases htwo <;> cases hfirst <;> cases hs
    | @cons l second ks ps hsecond hrest =>
      have hmem : p = first ∨ p = second := by simpa using hp
      cases a with
      | addImm | wide _ | extract _ | insert _ =>
        cases hfirst with
        | imm v =>
          rcases hmem with rfl | rfl
          · exact Or.inl ⟨v, rfl⟩
          · cases hsecond with
            | imm v => exact Or.inl ⟨v, rfl⟩
            | mod _ => exact Or.inr (Or.inl ⟨_, rfl⟩)
            | omitted _ => exact Or.inr (Or.inr (Or.inl rfl))
            | _ => cases hs
        | _ => cases hs
      | memIndex scale =>
        cases hfirst with
        | index hfamily hfault =>
          rcases hmem with rfl | rfl
          · exact Or.inr (Or.inr (Or.inr ⟨_, _, scale, rfl, rfl, rfl⟩))
          · cases hsecond with
            | indexMod m => exact Or.inr (Or.inl ⟨m, rfl⟩)
            | indexPlain => exact Or.inr (Or.inr (Or.inl rfl))
            | _ => cases hs
        | _ => cases hs
      | _ => cases htwo

theorem num_lt_of_fault? {r : Register} (h : r.fault? = none) : r.num < 32 := by
  unfold Register.fault? at h
  split at h
  · cases h
  · split at h
    · cases h
    · omega

theorem fault?_of_registerFault? {s : Slot} {r : Register} (h : registerFault? s r = none) :
    r.fault? = none := by
  unfold registerFault? at h
  split at h
  · cases h
  next hfault => exact hfault

/-- Only a slot of the stack pointer has a rule of its own. -/
theorem registerFault?_of_fault? {s : Slot} {r : Register} (hs : s ≠ .gpWsp ∧ s ≠ .gpXsp)
    (h : r.fault? = none) : registerFault? s r = none := by
  rw [registerFault?, h]
  simp [hs]

theorem inRange_of_ok {ε α : Type} {v : Int64} {width : Nat} {e : ε} {x y : α}
    (h : (if v.toInt < 0 || v.toInt ≥ width then Except.error e else Except.ok x) = Except.ok y) :
    0 ≤ v.toInt ∧ v.toInt < width ∧ x = y := by
  obtain ⟨hrange, heq⟩ := ok_of_unless h
  simp only [Bool.or_eq_true, decide_eq_true_eq, not_or] at hrange
  exact ⟨by omega, by omega, heq⟩

theorem sets_regNum {p : Part} {pos : Nat} (h : p.register.num < 32) :
    Sets [⟨pos, 5⟩] [p.register.num] (bitsAt p.regNum pos) := by
  rw [Part.regNum, Nat.mod_eq_of_lt h]
  exact Sets.one h

namespace Filling

variable {name : String} {word : Word} {ps : List Part} {rs : List (Ref Reloc)} {n : Nat}
  {s' : Filling}

@[simp] theorem part_zero {p : Part} : part ⟨word, p :: ps, rs, n⟩ 0 = p := rfl

theorem did_imm {f : BitField} {v : Int64} (hplain : f.isPlain = true)
    (h : step name ⟨word, .imm v :: ps, rs, n⟩ (.imm f) = .ok s') :
    ∃ ns, Did (.imm f) ⟨word, .imm v :: ps, rs, n⟩ s' ns := by
  unfold step at h
  dsimp only [part_zero, Part.value] at h
  split at h
  · cases h
  · cases h
  next hfault =>
    cases h
    obtain ⟨m, hsets, hundo⟩ := BitField.sets_place hplain hfault
    refine ⟨[m], .of_sets hsets rfl rfl rfl (by simp) ?_⟩
    show _ = some (Reading.number (f.undo m))
    rw [hundo]
    rfl

theorem did_of_map {a : Action} {s : Filling} {r : Except Refusal Word}
    (h : r.map (s.set a.consumed) = .ok s') (hrefs : a.refs s.parts = [])
    (hbytes : a.bytes s.parts s.listBytes = s.listBytes) (hpost : a ≠ .listPost)
    (hspec : ∀ bits, r = .ok bits →
      ∃ ns, Sets a.stretches ns bits ∧ a.meant s.parts = some (a.interpret ns)) :
    ∃ ns, Did a s s' ns := by
  cases r with
  | error e => cases h
  | ok bits =>
    cases h
    obtain ⟨ns, hsets, htold⟩ := hspec bits rfl
    exact ⟨ns, .of_sets hsets rfl hrefs hbytes hpost htold⟩

theorem did_addImm {v : Int64} {p : Part} (hp : p = .absent ∨ ∃ m, p = .mod m)
    (h : step name ⟨word, .imm v :: p :: ps, rs, n⟩ .addImm = .ok s') :
    ∃ ns, Did .addImm ⟨word, .imm v :: p :: ps, rs, n⟩ s' ns := by
  refine did_of_map h rfl rfl (by simp) fun bits hbits => ?_
  obtain ⟨sh, m, hsets, hvalue⟩ := addImmBits_spec hbits
  refine ⟨[sh, m], hsets, ?_⟩
  show _ = some (Reading.number (m <<< (12 * sh) : Nat))
  rw [hvalue]
  rcases hp with rfl | ⟨m, rfl⟩ <;> rfl

theorem did_logical {v : Int64} {is64 : Bool}
    (h : step name ⟨word, .imm v :: ps, rs, n⟩ (.logical is64) = .ok s') :
    ∃ ns, Did (.logical is64) ⟨word, .imm v :: ps, rs, n⟩ s' ns := by
  refine did_of_map h rfl rfl (by simp) fun bits hbits => ?_
  obtain ⟨m, immr, imms, hsets, hvalue⟩ := logicalBits_spec hbits
  refine ⟨[m, immr, imms], hsets, ?_⟩
  show _ = some (Reading.bits (Bitmask.decode ⟨m, immr, imms⟩ is64))
  rw [hvalue]
  rfl

theorem did_wide {v : Int64} {is64 : Bool} {p : Part} (hp : p = .absent ∨ ∃ m, p = .mod m)
    (h : step name ⟨word, .imm v :: p :: ps, rs, n⟩ (.wide is64) = .ok s') :
    ∃ ns, Did (.wide is64) ⟨word, .imm v :: p :: ps, rs, n⟩ s' ns := by
  refine did_of_map h rfl rfl (by simp) fun bits hbits => ?_
  obtain ⟨m, hw, hsets, hvalue, hamount⟩ := wideBits_spec hbits
  refine ⟨[m, hw], hsets, ?_⟩
  show _ = some (Reading.chunk m (16 * hw))
  rw [hvalue, hamount]
  rcases hp with rfl | ⟨m, rfl⟩ <;> rfl

theorem did_movWide {v : Int64} {is64 inverted : Bool} (hv : (immBits v is64).isSome = true)
    (h : step name ⟨word, .imm v :: ps, rs, n⟩ (.movWide is64 inverted) = .ok s') :
    ∃ ns, Did (.movWide is64 inverted) ⟨word, .imm v :: ps, rs, n⟩ s' ns := by
  refine did_of_map h rfl rfl (by simp) fun bits hbits => ?_
  obtain ⟨m, hw, hsets, hvalue⟩ := movWideBits_spec hv hbits
  refine ⟨[m, hw], hsets, ?_⟩
  show _ = some (Reading.bits (some (movedBits is64 inverted m hw)))
  rw [hvalue]
  rfl

theorem did_memIndex {r : Register} {scale : Nat} {p : Part} (hr : r.num < 32)
    (hp : p = .absent ∨ ∃ m, p = .mod m)
    (h : step name ⟨word, .reg r :: p :: ps, rs, n⟩ (.memIndex scale) = .ok s') :
    ∃ ns, Did (.memIndex scale) ⟨word, .reg r :: p :: ps, rs, n⟩ s' ns := by
  refine did_of_map h rfl rfl (by simp) fun bits hbits => ?_
  obtain ⟨option, s, hsets, hkind, hamount⟩ := memIndexBits_spec hbits
  refine ⟨[r.num % 32, option, s], hsets, ?_⟩
  show _ = some (Reading.index (r.num % 32) (option + 5) (s * scale))
  rw [hkind, hamount, Nat.mod_eq_of_lt hr]
  rcases hp with rfl | ⟨m, rfl⟩ <;> rfl

theorem did_shift {width : Nat} {p : Part} {kinds : List ModKind} (hp : Kind.Holds (.mod kinds) p)
    (hwidth : width ≤ 64) (hkinds : ∀ k ∈ kinds, 0 < k.code.toNat ∧ k.code.toNat ≤ 4)
    (h : step name ⟨word, p :: ps, rs, n⟩ (.shift width) = .ok s') :
    ∃ ns, Did (.shift width) ⟨word, p :: ps, rs, n⟩ s' ns := by
  cases hp with
  | omitted =>
    cases h
    exact ⟨[0, 0], .of_sets (Sets.cons (by decide) (Sets.one (by decide))) rfl rfl rfl
      (by simp) rfl⟩
  | @mod _ m hm =>
    unfold step at h
    dsimp only [part_zero] at h
    split at h
    · cases h
    next hamount =>
      cases h
      obtain ⟨hpos, hle⟩ := hkinds _ hm
      refine ⟨[m.kind.code.toNat - 1, m.amount.toNat],
        .of_sets (Sets.cons ?_ (Sets.one ?_)) rfl rfl rfl (by simp) ?_⟩
      · show m.kind.code.toNat - 1 < 2 ^ 2
        omega
      · show m.amount.toNat < 2 ^ 6
        omega
      · show _ = some (Reading.modifier (m.kind.code.toNat - 1 + 1) m.amount.toNat)
        rw [Nat.sub_add_cancel hpos]
        rfl

theorem did_extend {option : Nat} {p : Part} {kinds : List ModKind} (hp : Kind.Holds (.mod kinds) p)
    (hoption : option < 8)
    (hkinds : ∀ k ∈ kinds, k = .lsl ∨ (5 ≤ k.code.toNat ∧ k.code.toNat < 13))
    (h : step name ⟨word, p :: ps, rs, n⟩ (.extend option) = .ok s') :
    ∃ ns, Did (.extend option) ⟨word, p :: ps, rs, n⟩ s' ns := by
  cases hp with
  | omitted =>
    cases h
    refine ⟨[0, option], .of_sets (?_ : Sets [⟨10, 3⟩, ⟨13, 3⟩] _ _) rfl rfl rfl (by simp) rfl⟩
    have hsets : Sets [⟨10, 3⟩, ⟨13, 3⟩] [0, option] (bitsAt 0 10 ||| bitsAt option 13) :=
      Sets.cons (by decide) (Sets.one hoption)
    simpa [bitsAt] using hsets
  | @mod _ m hm =>
    unfold step at h
    dsimp only [part_zero] at h
    split at h
    · cases h
    next hamount =>
      cases h
      have hchoice : (if m.kind = .lsl then option else m.kind.extendOption) < 8 ∧
          (if m.kind = .lsl then option else m.kind.extendOption) + 5 =
            if m.kind = .lsl then option + 5 else m.kind.code.toNat := by
        split
        next hlsl => exact ⟨hoption, rfl⟩
        next hlsl =>
          obtain ⟨hlow, hhigh⟩ := (hkinds _ hm).resolve_left hlsl
          have hsub : m.kind.extendOption = m.kind.code.toNat - 5 := by
            rw [ModKind.extendOption, UInt8.toNat_sub_of_le]
            · rfl
            · exact UInt8.le_iff_toNat_le.mpr hlow
          omega
      refine ⟨[m.amount.toNat, _], .of_sets (Sets.cons ?_ (Sets.one hchoice.1)) rfl rfl rfl
        (by simp) ?_⟩
      · show m.amount.toNat < 2 ^ 3
        omega
      · show _ = some (Reading.modifier (_ + 5) m.amount.toNat)
        rw [hchoice.2]
        rfl

theorem did_condInv {c : Cond} {pos : Nat} (hc : c.isConditional = true) :
    Did (.condInv pos) ⟨word, .cond c :: ps, rs, n⟩
      (set ⟨word, .cond c :: ps, rs, n⟩ 1 (bitsAt (c.invert.code.toNat % 16) pos))
      [c.invert.code.toNat % 16] := by
  have hcode : c.code.toNat < 14 := by simpa [Cond.isConditional] using hc
  have htwice : ∀ k < 14, (k ^^^ 1) % 16 ^^^ 1 = k := by decide
  have hinvert : c.invert.code.toNat = c.code.toNat ^^^ 1 := by
    rw [Cond.invert, if_pos hc, UInt8.toNat_xor]
    rfl
  refine .of_sets (Sets.one (show c.invert.code.toNat % 16 < 2 ^ 4 by omega)) rfl rfl rfl
    (by simp) ?_
  show _ = some (Reading.condition (c.invert.code.toNat % 16 ^^^ 1))
  rw [hinvert, htwice _ hcode]
  rfl

theorem did_bitfield {a : Action} {v w : Int64} {width : Nat}
    (ha : a = .extract width ∨ a = .insert width)
    (h : step name ⟨word, .imm v :: .imm w :: ps, rs, n⟩ a = .ok s') :
    ∃ ns, Did a ⟨word, .imm v :: .imm w :: ps, rs, n⟩ s' ns := by
  have hclear : ∀ {insert : Bool} {bits : Word}, bitfieldBits name v w width insert = .ok bits →
      Sets [⟨10, 22⟩] [bits.toNat >>> 10] bits := by
    intro insert bits hbits
    have hlow : ∀ (x y : Int64) (i : Nat), i < 10 →
        (wordAt x 16 ||| wordAt y 10).getLsbD i = false := by
      intro x y i hi
      simp [wordAt, BitVec.getLsbD_shiftLeft, hi, show i < 16 by omega]
    unfold bitfieldBits at hbits
    dsimp only at hbits
    split at hbits
    · cases hbits
    · split at hbits
      · cases hbits
      · split at hbits <;> cases hbits <;> exact Sets.of_low_clear (by decide) (hlow _ _)
  rcases ha with rfl | rfl
  · exact did_of_map h rfl rfl (by simp) fun bits hbits => ⟨_, hclear hbits, rfl⟩
  · exact did_of_map h rfl rfl (by simp) fun bits hbits => ⟨_, hclear hbits, rfl⟩

theorem did_shiftLeft {v : Int64} {width : Nat} (hwidth : width ≤ 64)
    (h : step name ⟨word, .imm v :: ps, rs, n⟩ (.shiftLeft width) = .ok s') :
    ∃ ns, Did (.shiftLeft width) ⟨word, .imm v :: ps, rs, n⟩ s' ns := by
  obtain ⟨hlow, hhigh, rfl⟩ := inRange_of_ok (v := v) h
  have hlt : (width - v.toInt.toNat) % width < width := Nat.mod_lt _ (by omega)
  refine ⟨[(width - v.toInt.toNat) % width, width - 1 - v.toInt.toNat],
    .of_sets (Sets.cons (show (width - v.toInt.toNat) % width < 2 ^ 6 by omega)
      (Sets.one (show width - 1 - v.toInt.toNat < 2 ^ 6 by omega))) rfl rfl rfl (by simp) ?_⟩
  have hback : (width : Int) - 1 - (width - 1 - v.toInt.toNat : Nat) = v.toInt := by omega
  exact congrArg (fun v => some (Reading.number v)) hback.symm

theorem did_shiftRight {v : Int64} {width : Nat} (hwidth : width ≤ 64)
    (h : step name ⟨word, .imm v :: ps, rs, n⟩ (.shiftRight width) = .ok s') :
    ∃ ns, Did (.shiftRight width) ⟨word, .imm v :: ps, rs, n⟩ s' ns := by
  obtain ⟨hlow, hhigh, rfl⟩ := inRange_of_ok (v := v) h
  refine ⟨[v.toInt.toNat], .of_sets (Sets.one (show v.toInt.toNat < 2 ^ 6 by omega)) rfl rfl rfl
    (by simp) ?_⟩
  exact congrArg (fun v => some (Reading.number v)) (Int.toNat_of_nonneg hlow).symm

theorem did_testBit {v : Int64} {width : Nat} (hwidth : width ≤ 64)
    (h : step name ⟨word, .imm v :: ps, rs, n⟩ (.testBit width) = .ok s') :
    ∃ ns, Did (.testBit width) ⟨word, .imm v :: ps, rs, n⟩ s' ns := by
  obtain ⟨hlow, hhigh, rfl⟩ := inRange_of_ok (v := v) h
  refine ⟨[v.toInt.toNat / 32, v.toInt.toNat % 32],
    .of_sets (Sets.cons (show v.toInt.toNat / 32 < 2 ^ 1 by omega)
      (Sets.one (show v.toInt.toNat % 32 < 2 ^ 5 by omega))) rfl rfl rfl (by simp) ?_⟩
  show _ = some (Reading.number (32 * (v.toInt.toNat / 32) + v.toInt.toNat % 32 : Nat))
  rw [Nat.div_add_mod, Int.toNat_of_nonneg hlow]
  rfl

theorem did_float8 {bits : UInt64} {pos : Nat}
    (h : step name ⟨word, .float bits :: ps, rs, n⟩ (.float8 pos) = .ok s') :
    ∃ ns, Did (.float8 pos) ⟨word, .float bits :: ps, rs, n⟩ s' ns := by
  unfold step at h
  dsimp only [part_zero] at h
  split at h
  · cases h
  next imm himm =>
    cases h
    obtain ⟨hlt, hbits⟩ := fp8OfBits?_spec himm
    refine ⟨[imm], .of_sets (Sets.one hlt) rfl rfl rfl (by simp) ?_⟩
    exact congrArg (fun bits => some (Reading.float bits)) hbits.symm

theorem did_byteMask {v : Int64}
    (h : step name ⟨word, .imm v :: ps, rs, n⟩ .byteMask = .ok s') :
    ∃ ns, Did .byteMask ⟨word, .imm v :: ps, rs, n⟩ s' ns := by
  unfold step at h
  simp only [part_zero, Part.value] at h
  split at h
  · cases h
  next imm himm =>
    cases h
    obtain ⟨hlt, hbits⟩ := stretchedImm_spec himm
    refine ⟨_, .of_sets (sets_vectorBits hlt) rfl rfl rfl (by simp) ?_⟩
    show _ = some (Reading.bits (some (stretched (32 * (imm / 32) + imm % 32))))
    rw [Nat.div_add_mod, hbits]
    rfl

theorem did_vectorImm {v : Int64}
    (h : step name ⟨word, .imm v :: ps, rs, n⟩ .vectorImm = .ok s') :
    ∃ ns, Did .vectorImm ⟨word, .imm v :: ps, rs, n⟩ s' ns := by
  obtain ⟨-, rfl⟩ := ok_of_unless h
  refine ⟨_, .of_sets (sets_vectorBits (show (v.toInt % 256).toNat < 256 by omega)) rfl rfl rfl
    (by simp) ?_⟩
  show _ = some (Reading.number
    (32 * ((v.toInt % 256).toNat / 32) + (v.toInt % 256).toNat % 32 : Nat))
  rw [Nat.div_add_mod, Int.toNat_of_nonneg (by omega)]
  rfl

theorem elem_spec : ∀ e < 4, ∀ lane < 16 >>> e, (2 * lane + 1) <<< e < 32 ∧
    elemSize ((2 * lane + 1) <<< e) = e ∧ elemLane ((2 * lane + 1) <<< e) = lane := by
  decide +kernel

theorem did_elemImm5 {r : Register} {size : ElemSize} {lane : UInt8} {pos : Nat} (hr : r.num < 32)
    (hsize : size.code.toNat < 4) (hlane : lane.toNat < size.lanes) :
    Did (.elemImm5 pos) ⟨word, .elem r size lane :: ps, rs, n⟩
      (set ⟨word, .elem r size lane :: ps, rs, n⟩ 1
        (bitsAt (r.num % 32) pos ||| bitsAt ((2 * lane.toNat + 1) <<< size.code.toNat) 16))
      [r.num, (2 * lane.toNat + 1) <<< size.code.toNat] := by
  obtain ⟨hlt, he, hl⟩ := elem_spec _ hsize _ hlane
  rw [Nat.mod_eq_of_lt hr]
  refine .of_sets (Sets.cons hr (Sets.one hlt)) rfl rfl rfl (by simp) ?_
  show _ = some (Reading.element r.num (elemSize _) (elemLane _))
  rw [he, hl]
  rfl

theorem listCount_spec : ∀ count < 5, 0 < count → listCode count < 16 ∧
    listCount (listCode count) = count := by
  decide

theorem did_list {r : Register} {arr : Arrangement} {count pos : Nat} (hr : r.num < 32)
    (hpos : 0 < count) (hle : count ≤ 4) :
    Did (.list pos) ⟨word, .list r arr count :: ps, rs, n⟩
      { set ⟨word, .list r arr count :: ps, rs, n⟩ 1
          (bitsAt (r.num % 32) pos ||| bitsAt (listCode count) 12) with
        listBytes := count * arr.bytes }
      [r.num, listCode count] := by
  obtain ⟨hlt, hcount⟩ := listCount_spec count (by omega) hpos
  rw [Nat.mod_eq_of_lt hr]
  have hsets : Sets (Action.list pos).stretches [r.num, listCode count]
      (bitsAt r.num pos ||| bitsAt (listCode count) 12) := Sets.cons hr (Sets.one hlt)
  refine ⟨hsets.fits, ?_, rfl, (List.append_nil _).symm, rfl, fun _ => ?_, fun h => by cases h⟩
  · rw [set, hsets.bits_eq]
  · show _ = some (Reading.registers r.num (listCount (listCode count)))
    rw [hcount]
    rfl

theorem did_rel {l : LabelRef} {kind : Reloc} :
    Did (.rel kind) ⟨word, .label l :: ps, rs, n⟩
      { set ⟨word, .label l :: ps, rs, n⟩ 1 0 with refs := rs ++ [⟨l.target, l.addend, kind⟩] }
      ((Action.rel kind).stretches.map fun _ => 0) := by
  have hsets := Sets.zeros (Action.rel kind).stretches
  exact ⟨hsets.fits, congrArg (word ||| ·) hsets.bits_eq, rfl, rfl, rfl, fun _ => rfl,
    fun h => by cases h⟩

theorem did_listPost {v : Int64}
    (h : step name ⟨word, .imm v :: ps, rs, n⟩ .listPost = .ok s') :
    Did .listPost ⟨word, .imm v :: ps, rs, n⟩ s' [] := by
  obtain ⟨heq, rfl⟩ := ok_of_when h
  refine ⟨.nil, ?_, rfl, (List.append_nil _).symm, rfl, fun hne => absurd rfl hne, fun _ => ?_⟩
  · rfl
  · rw [← heq]
    rfl

theorem did_reg {p : Part} {pos : Nat} (hr : p.register.num < 32)
    (hp : (Action.reg pos).meant (p :: ps) = some (.register p.register.num)) :
    Did (.reg pos) ⟨word, p :: ps, rs, n⟩
      (set ⟨word, p :: ps, rs, n⟩ 1 (bitsAt p.regNum pos)) [p.register.num] :=
  .of_sets (sets_regNum hr) rfl rfl rfl (by simp) hp

theorem did_peek {p : Part} {pos : Nat} (hr : p.register.num < 32)
    (hp : (Action.peek pos).meant (p :: ps) = some (.register p.register.num)) :
    Did (.peek pos) ⟨word, p :: ps, rs, n⟩
      (set ⟨word, p :: ps, rs, n⟩ 0 (bitsAt p.regNum pos)) [p.register.num] :=
  .of_sets (sets_regNum hr) rfl rfl rfl (by simp) hp

theorem q_lt (arr : Arrangement) : arr.q < 2 ^ 1 := Nat.mod_lt _ (by decide)

theorem size_lt {arrs : List Arrangement} {arr : Arrangement} (ha : arr ∈ arrs)
    (h : (arrs.all fun arr => decide (arr.code.toNat < 8)) = true) : arr.size < 2 ^ 2 := by
  have hcode := of_decide_eq_true (List.all_eq_true.mp h arr ha)
  unfold Arrangement.size
  omega

theorem imm5_lt {arrs : List Arrangement} {arr : Arrangement} (ha : arr ∈ arrs)
    (h : (arrs.all fun arr => decide (arr.code.toNat < 8)) = true) : 1 <<< arr.size < 2 ^ 5 := by
  rw [Nat.one_shiftLeft]
  exact Nat.pow_lt_pow_right (by decide) (by have := size_lt ha h; omega)

/-- Every action that succeeds on parts of kinds that suit it has done its work. -/
theorem step_did {s : Filling} {a : Action} {ks : List Kind}
    (hk : List.Forall₂ Kind.Holds ks s.parts) (hs : a.suits ks = true)
    (h : s.step name a = .ok s') : ∃ ns, Did a s s' ns := by
  obtain ⟨word, ps, rs, n⟩ := s
  -- Parts of other kinds, and none at all, do not suit the action.
  cases hk with
  | nil => cases a <;> cases hs
  | cons hp hrest =>
    cases a with
    | reg pos =>
      cases hp with
      | register htakes hfault =>
        cases h
        exact ⟨_, did_reg (num_lt_of_fault? (fault?_of_registerFault? hfault)) rfl⟩
      | base hfamily hfault =>
        cases h
        exact ⟨_, did_reg (num_lt_of_fault? hfault) rfl⟩
      | vec _ ha hfault =>
        cases h
        exact ⟨_, did_reg (num_lt_of_fault? hfault) rfl⟩
      | _ => cases hs
    | peek pos =>
      cases hp with
      | register htakes hfault =>
        cases h
        exact ⟨_, did_peek (num_lt_of_fault? (fault?_of_registerFault? hfault)) rfl⟩
      | base hfamily hfault =>
        cases h
        exact ⟨_, did_peek (num_lt_of_fault? hfault) rfl⟩
      | vec _ ha hfault =>
        cases h
        exact ⟨_, did_peek (num_lt_of_fault? hfault) rfl⟩
      | _ => cases hs
    | imm f =>
      cases hp with
      | imm v => exact did_imm hs h
      | _ => cases hs
    | addImm =>
      cases hp with
      | imm v =>
        cases hrest with
        | nil => cases hs
        | cons hq hrest =>
          cases hq with
          | mod hkind => exact did_addImm (Or.inr ⟨_, rfl⟩) h
          | omitted => exact did_addImm (Or.inl rfl) h
          | _ => cases hs
      | _ => cases hs
    | logical is64 =>
      cases hp with
      | imm v => exact did_logical h
      | _ => cases hs
    | wide is64 =>
      cases hp with
      | imm v =>
        cases hrest with
        | nil => cases hs
        | cons hq hrest =>
          cases hq with
          | mod hkind => exact did_wide (Or.inr ⟨_, rfl⟩) h
          | omitted => exact did_wide (Or.inl rfl) h
          | _ => cases hs
      | _ => cases hs
    | movWide is64 inverted =>
      cases hp with
      | wide hv =>
        cases beq_iff_eq.mp hs
        exact did_movWide hv h
      | _ => cases hs
    | shift width =>
      have hkind := hp
      cases hp with
      | mod _ | omitted _ =>
        unfold Action.suits at hs
        simp only [Bool.and_eq_true, decide_eq_true_eq, List.all_eq_true] at hs
        exact did_shift hkind hs.1 hs.2 h
      | _ => cases hs
    | extend option =>
      have hkind := hp
      cases hp with
      | mod _ | omitted _ =>
        unfold Action.suits at hs
        simp only [Bool.and_eq_true, Bool.or_eq_true, beq_iff_eq, decide_eq_true_eq,
          List.all_eq_true] at hs
        exact did_extend hkind hs.1 hs.2 h
      | _ => cases hs
    | memIndex scale =>
      cases hp with
      | index hfamily hfault =>
        cases hrest with
        | nil => cases hs
        | cons hq hrest =>
          cases hq with
          | indexMod m => exact did_memIndex (num_lt_of_fault? hfault) (Or.inr ⟨_, rfl⟩) h
          | indexPlain => exact did_memIndex (num_lt_of_fault? hfault) (Or.inl rfl) h
          | _ => cases hs
      | _ => cases hs
    | cond pos =>
      cases hp with
      | cond c =>
        cases h
        exact ⟨[c.code.toNat % 16], .of_sets (Sets.one (Nat.mod_lt _ (by decide))) rfl rfl rfl
          (by simp) rfl⟩
      | _ => cases hs
    | condInv pos =>
      cases hp with
      | condInv hc =>
        cases h
        exact ⟨_, did_condInv hc⟩
      | _ => cases hs
    | rel kind =>
      cases hp with
      | label l =>
        cases h
        exact ⟨_, did_rel⟩
      | _ => cases hs
    | extract width =>
      cases hp with
      | imm v =>
        cases hrest with
        | nil => cases hs
        | cons hq hrest =>
          cases hq with
          | imm w => exact did_bitfield (Or.inl rfl) h
          | _ => cases hs
      | _ => cases hs
    | insert width =>
      cases hp with
      | imm v =>
        cases hrest with
        | nil => cases hs
        | cons hq hrest =>
          cases hq with
          | imm w => exact did_bitfield (Or.inr rfl) h
          | _ => cases hs
      | _ => cases hs
    | shiftLeft width =>
      cases hp with
      | imm v => exact did_shiftLeft (of_decide_eq_true hs) h
      | _ => cases hs
    | shiftRight width =>
      cases hp with
      | imm v => exact did_shiftRight (of_decide_eq_true hs) h
      | _ => cases hs
    | testBit width =>
      cases hp with
      | imm v => exact did_testBit (of_decide_eq_true hs) h
      | _ => cases hs
    | float8 pos =>
      cases hp with
      | float bits => exact did_float8 h
      | _ => cases hs
    | byteMask =>
      cases hp with
      | imm v => exact did_byteMask h
      | _ => cases hs
    | vectorImm =>
      cases hp with
      | imm v => exact did_vectorImm h
      | _ => cases hs
    | vecQ pos =>
      cases hp with
      | vec _ ha _ | list _ ha _ _ _ =>
        cases h
        exact ⟨_, .of_sets (Sets.one (q_lt _)) rfl rfl rfl (by simp) rfl⟩
      | _ => cases hs
    | vecSize pos =>
      cases hp with
      | vec _ ha _ | list _ ha _ _ _ =>
        cases h
        exact ⟨_, .of_sets (Sets.one (size_lt ha hs)) rfl rfl rfl (by simp) rfl⟩
      | _ => cases hs
    | vecSz pos =>
      cases hp with
      | vec _ ha _ | list _ ha _ _ _ =>
        cases h
        exact ⟨_, .of_sets (Sets.one (Nat.mod_lt _ (by decide))) rfl rfl rfl (by simp) rfl⟩
      | _ => cases hs
    | vecImm5 =>
      cases hp with
      | vec _ ha _ | list _ ha _ _ _ =>
        cases h
        exact ⟨_, .of_sets (Sets.one (imm5_lt ha hs)) rfl rfl rfl (by simp) rfl⟩
      | _ => cases hs
    | elemImm5 pos =>
      cases hp with
      | elem _ hsize hfault hlane =>
        cases h
        have hcode := of_decide_eq_true (List.all_eq_true.mp hs _ hsize)
        exact ⟨_, did_elemImm5 (num_lt_of_fault? hfault) hcode hlane⟩
      | _ => cases hs
    | list pos =>
      cases hp with
      | list _ ha hfault hpos hle =>
        cases h
        exact ⟨_, did_list (num_lt_of_fault? hfault) hpos hle⟩
      | _ => cases hs
    | listPost =>
      cases hp with
      | imm v => exact ⟨[], did_listPost h⟩
      | _ => cases hs
    | skip =>
      cases hp with
      | zero _ | zeroFloat _ =>
        cases h
        exact ⟨[], .of_sets Sets.nil rfl rfl rfl (by simp) rfl⟩
      | _ => cases hs

end Filling
end MachineCode.AArch64
