import MachineCode.Proofs.AArch64.Layout

/-!
Instructions lose nothing of their operands. The word of an instruction says which registers,
immediates, shifts, conditions and lanes its operands had, and in which arrangement its vectors
stood; a label leaves its bits to the reference that it becomes. The one form whose word does not
say all is the copy of an element into a vector, which takes elements of another size than those
of the vector.
-/
namespace MachineCode.AArch64

def bitfieldAliases : List String := ["sbfx", "bfxil", "ubfx", "sbfiz", "bfi", "ubfiz"]

/-- What the word of an instruction says of the operand of an action. The offset behind a list is
the number of bytes that the list transfers. -/
def Action.tells (a : Action) (w : Word) : Reading :=
  match a with
  | .listPost => .number (listCount (Stretch.read ⟨12, 4⟩ w) * (8 <<< Stretch.read ⟨30, 1⟩ w) : Nat)
  | _ => a.interpret (a.stretches.map (·.read w))

/-- The arrangements that a slot leaves to choose from. -/
def Slot.arrangements : Slot → List Arrangement
  | vec arrs _ | list arrs => arrs
  | _ => []

def Operand.arrangements : Operand → List Arrangement
  | vec v => [v.arr]
  | list vs => vs.map (·.arr)
  | _ => []

def Action.shape? : Action → Arrangement → Option Nat
  | vecQ _, arr => some arr.q
  | vecSize _, arr => some arr.size
  | vecSz _, arr => some (arr.size % 2)
  | vecImm5, arr => some (1 <<< arr.size)
  -- The elements of a vector are of the size of the element that is copied into them.
  | elemImm5 _, arr => some arr.size
  | _, _ => none

/-- The number in the word that an arrangement is shown by. -/
def Action.shapeIn (a : Action) (w : Word) : Nat :=
  match a with
  | vecQ pos | vecSz pos => Stretch.read ⟨pos, 1⟩ w
  | vecSize pos => Stretch.read ⟨pos, 2⟩ w
  | vecImm5 => Stretch.read ⟨16, 5⟩ w
  | elemImm5 _ => elemSize (Stretch.read ⟨16, 5⟩ w)
  | _ => 0

/-- The word shows an arrangement by all numbers that the template has for it. -/
def Template.Shows (t : Template) (w : Word) (arr : Arrangement) : Prop :=
  ∀ a ∈ t.actions, ∀ n ∈ a.shape? arr, a.shapeIn w = n

def Operand.label? : Operand → Option LabelRef
  | label l => some l
  | _ => none

def Part.label? : Part → Option LabelRef
  | label l => some l
  | _ => none

/-- The word and the references of an instruction say what its operands were. -/
structure Lossless (t : Template) (args : List Operand) (parts : List Part) (w : Word)
    (refs : List (Ref Reloc)) : Prop where
  /-- The word is the fixed bits and numbers in stretches apart from them and from each other. -/
  fields : ∃ fields, fields.map (·.1) = t.stretches ∧ Laid fields ∧
    (∀ s ∈ t.stretches, s.read t.base = 0) ∧ w = t.base ||| join fields
  /-- The parts are those of the operands in their slots. -/
  seated : Seated t.slots args parts
  /-- An operand is known by its parts. -/
  known : ∀ s a b, (s, a) ∈ t.slots.zip args → s.takes b = true → Checked s b →
    partsIn s a = partsIn s b → Alike a b
  /-- The word says what the parts mean. -/
  told : ∀ x ∈ seen parts t.actions, x.1.meant x.2 = some (x.1.tells w)
  /-- No part is left out. -/
  consumed : ∀ p ∈ parts, ∃ x ∈ seen parts t.actions, p ∈ x.2.take x.1.consumed
  /-- The arrangement of a vector is the one that its slot takes and the word shows. -/
  shaped : ∀ s a, (s, a) ∈ t.slots.zip args → ∀ arr ∈ a.arrangements, ∀ b,
    b ∈ s.arrangements ∧ t.Shows w b ↔ b = arr
  /-- Every label is one reference. -/
  labels : (refs.map fun r => (⟨r.target, r.addend⟩ : LabelRef)) = args.filterMap (·.label?)
  /-- The bits of a reference are clear. -/
  vacant : ∀ r ∈ refs, .rel r.rel ∈ t.actions ∧
    ∀ s ∈ (Action.rel r.rel).stretches, s.read w = 0

def Slot.isFollower : Slot → Bool
  | vec _ same => same
  | list _ => false
  | _ => true

def uniform : List Slot → Bool
  | [] => true
  | .vec _ _ :: ss => ss.all (·.isFollower)
  | .list _ :: ss => ss.all fun s => s.arrangements.isEmpty
  | _ :: ss => uniform ss

/-- A template whose word shows the arrangements of its vectors, and whose stretches are clear of
fixed bits. -/
structure Template.Telling (t : Template) : Prop where
  clear : ∀ s ∈ t.stretches, s.read t.base = 0
  uniform : uniform t.slots = true
  shapes : ∀ s ∈ t.slots, ∀ b ∈ s.arrangements, ∀ c ∈ s.arrangements,
    (∀ a ∈ t.actions, a.shape? b = a.shape? c) → b = c
  post : .listPost ∈ t.actions → t.actions = [.vecQ 30, .vecSize 10, .list 0, .reg 5, .listPost]

instance (t : Template) : Decidable t.Telling :=
  decidable_of_iff ((∀ s ∈ t.stretches, s.read t.base = 0) ∧ AArch64.uniform t.slots = true ∧
    (∀ s ∈ t.slots, ∀ b ∈ s.arrangements, ∀ c ∈ s.arrangements,
      (∀ a ∈ t.actions, a.shape? b = a.shape? c) → b = c) ∧
    (.listPost ∈ t.actions → t.actions = [.vecQ 30, .vecSize 10, .list 0, .reg 5, .listPost]))
    ⟨fun ⟨h1, h2, h3, h4⟩ => ⟨h1, h2, h3, h4⟩, fun ⟨h1, h2, h3, h4⟩ => ⟨h1, h2, h3, h4⟩⟩

theorem entries_telling : ∀ e ∈ entries, e.name ∈ bitfieldAliases ∨ e.template.Telling := by
  decide +kernel

theorem arrangements_of_takes {s : Slot} {a : Operand} (h : s.takes a = true) {arr : Arrangement}
    (harr : arr ∈ a.arrangements) : arr ∈ s.arrangements := by
  cases a with
  | vec v =>
    cases s with
    | vec arrs same =>
      simp only [Slot.takes, Bool.and_eq_true, List.contains_iff_mem] at h
      rw [List.mem_singleton.mp harr]
      exact h.2
    | _ => cases h
  | list vs =>
    obtain ⟨v, hv, rfl⟩ := List.mem_map.mp harr
    cases s with
    | list arrs =>
      cases vs with
      | nil => cases hv
      | cons first rest =>
        simp only [Slot.takes, Bool.and_eq_true, List.all_eq_true, List.contains_iff_mem] at h
        exact (h.2 v hv).2
    | _ => cases h
  | _ => cases harr

theorem arrangements_eq_nil {s : Slot} {a : Operand} (h : s.takes a = true)
    (hs : s.arrangements = []) : a.arrangements = [] := by
  rw [List.eq_nil_iff_forall_not_mem]
  intro arr harr
  have hmem := arrangements_of_takes h harr
  rw [hs] at hmem
  cases hmem

theorem arrangements_of_go_some {first : Arrangement} {ss : List Slot} {as : List Operand}
    (hs : ∀ s ∈ ss, s.isFollower = true) (h : Template.accepts.go (some first) ss as = true) :
    ∀ a ∈ as, ∀ arr ∈ a.arrangements, arr = first := by
  induction ss generalizing as with
  | nil =>
    cases as with
    | nil => exact fun a ha => by cases ha
    | cons a as => cases h
  | cons s ss ih =>
    cases as with
    | nil => exact fun a ha => by cases ha
    | cons a as =>
      have hfollower := hs s List.mem_cons_self
      have hrest := fun s' hs' => hs s' (List.mem_cons_of_mem _ hs')
      obtain ⟨htakes, ⟨arrs, same, v, rfl, rfl, hsame, hgo⟩ | ⟨hne, hgo⟩⟩ := go_cons h
      · intro b hb arr harr
        rcases List.mem_cons.mp hb with rfl | hb
        · rw [List.mem_singleton.mp harr]
          exact hsame first rfl hfollower
        · exact ih hrest hgo b hb arr harr
      · intro b hb arr harr
        rcases List.mem_cons.mp hb with rfl | hb
        · cases b with
          | vec v => exact absurd rfl (hne v)
          | list vs =>
            obtain ⟨arrs, rfl⟩ : ∃ arrs, s = .list arrs := by
              cases s with
              | list arrs => exact ⟨arrs, rfl⟩
              | _ => cases htakes
            cases hfollower
          | _ => cases harr
        · exact ih hrest hgo b hb arr harr

theorem arrangements_of_go_plain {arr : Option Arrangement} {ss : List Slot} {as : List Operand}
    (hs : ∀ s ∈ ss, s.arrangements = []) (h : Template.accepts.go arr ss as = true) :
    ∀ a ∈ as, a.arrangements = [] := by
  induction ss generalizing arr as with
  | nil =>
    cases as with
    | nil => exact fun a ha => by cases ha
    | cons a as => cases h
  | cons s ss ih =>
    cases as with
    | nil => exact fun a ha => by cases ha
    | cons a as =>
      obtain ⟨htakes, arr', hgo⟩ := go_tail h
      intro b hb
      rcases List.mem_cons.mp hb with rfl | hb
      · exact arrangements_eq_nil htakes (hs s List.mem_cons_self)
      · exact ih (fun s' hs' => hs s' (List.mem_cons_of_mem _ hs')) hgo b hb

/-- All vectors of accepted operands have one arrangement. -/
theorem exists_arrangement {ss : List Slot} {as : List Operand} (hs : uniform ss = true)
    (h : Template.accepts.go none ss as = true) :
    ∃ common, ∀ a ∈ as, ∀ arr ∈ a.arrangements, arr = common := by
  induction ss generalizing as with
  | nil =>
    cases as with
    | nil => exact ⟨.b8, fun a ha => by cases ha⟩
    | cons a as => cases h
  | cons s ss ih =>
    cases as with
    | nil => exact ⟨.b8, fun a ha => by cases ha⟩
    | cons a as =>
      -- An operand without vectors leaves it to the rest.
      have hkeep : a.arrangements = [] → uniform ss = true →
          Template.accepts.go none ss as = true →
          ∃ common, ∀ b ∈ a :: as, ∀ arr ∈ b.arrangements, arr = common := by
        intro hnil huniform hgo
        obtain ⟨common, hcommon⟩ := ih huniform hgo
        refine ⟨common, fun b hb arr harr => ?_⟩
        rcases List.mem_cons.mp hb with rfl | hb
        · rw [hnil] at harr
          cases harr
        · exact hcommon b hb arr harr
      obtain ⟨htakes, ⟨arrs, same, v, rfl, rfl, -, hgo⟩ | ⟨hne, hgo⟩⟩ := go_cons h
      · refine ⟨v.arr, fun b hb arr harr => ?_⟩
        rcases List.mem_cons.mp hb with rfl | hb
        · exact List.mem_singleton.mp harr
        · exact arrangements_of_go_some (List.all_eq_true.mp hs) hgo b hb arr harr
      · cases s with
        | vec arrs same =>
          obtain ⟨v, rfl⟩ := fits_of_takes htakes
          exact absurd rfl (hne v)
        | list arrs =>
          obtain ⟨vs, rfl⟩ := fits_of_takes htakes
          have hplain : ∀ s ∈ ss, s.arrangements = [] := by
            simpa [uniform, List.all_eq_true] using hs
          have hnil := arrangements_of_go_plain hplain hgo
          cases vs with
          | nil => cases htakes
          | cons first rest =>
            refine ⟨first.arr, fun b hb arr harr => ?_⟩
            rcases List.mem_cons.mp hb with rfl | hb
            · change arr ∈ (first :: rest).map (·.arr) at harr
              rw [arrs_of_takes htakes] at harr
              exact (List.mem_replicate.mp harr).2
            · rw [hnil b hb] at harr
              cases harr
        | _ => exact hkeep (arrangements_eq_nil htakes rfl) hs hgo

theorem mem_of_mem_seen {α : Type} {ps : List α} {as : List Action} {x : Action × List α}
    (hx : x ∈ seen ps as) : x.1 ∈ as ∧ ∀ p ∈ x.2, p ∈ ps := by
  induction as generalizing ps with
  | nil => cases hx
  | cons a as ih =>
    rcases List.mem_cons.mp hx with rfl | hx
    · exact ⟨List.mem_cons_self, fun p hp => hp⟩
    · obtain ⟨ha, hps⟩ := ih hx
      exact ⟨List.mem_cons_of_mem _ ha, fun p hp => List.mem_of_mem_drop (hps p hp)⟩

theorem exists_seen_of_mem {α : Type} (ps : List α) {as : List Action} {a : Action} (ha : a ∈ as) :
    ∃ ps', (a, ps') ∈ seen ps as := by
  induction as generalizing ps with
  | nil => cases ha
  | cons b as ih =>
    rcases List.mem_cons.mp ha with rfl | ha
    · exact ⟨ps, List.mem_cons_self⟩
    · obtain ⟨ps', hps'⟩ := ih (ps.drop b.consumed) ha
      exact ⟨ps', List.mem_cons_of_mem _ hps'⟩

/-- An action makes one reference of each label that it consumes. -/
theorem refs_of_suits {a : Action} {ks : List Kind} {ps : List Part}
    (hk : List.Forall₂ Kind.Holds ks ps) (hs : a.suits ks = true) :
    ((a.refs ps).map fun r => (⟨r.target, r.addend⟩ : LabelRef)) =
      (ps.take a.consumed).filterMap (·.label?) := by
  cases a with
  | peek _ | vecQ _ | vecSize _ | vecSz _ | vecImm5 => rfl
  | addImm | wide _ | memIndex _ | extract _ | insert _ =>
    refine (List.filterMap_eq_nil_iff.mpr fun p hp => ?_).symm
    rcases paired_of_suits hk hs rfl hp with
      ⟨v, rfl⟩ | ⟨m, rfl⟩ | rfl | ⟨r, rest, scale, rfl, -⟩ <;> rfl
  | _ =>
    cases hk with
    | nil => cases hs
    | cons hp hrest => cases hp <;> first | rfl | cases hs

theorem refs_of_seen {as : List Action} {ks : List Kind} {ps : List Part}
    (hk : List.Forall₂ Kind.Holds ks ps) (hs : ∀ x ∈ seen ks as, x.1.suits x.2 = true)
    (hlength : ps.length ≤ (as.map (·.consumed)).sum) :
    (((seen ps as).flatMap fun x => x.1.refs x.2).map fun r => (⟨r.target, r.addend⟩ : LabelRef)) =
      ps.filterMap (·.label?) := by
  induction as generalizing ks ps with
  | nil =>
    rw [List.length_eq_zero_iff.mp (Nat.le_zero.mp hlength)]
    rfl
  | cons a as ih =>
    have hrest : (ps.drop a.consumed).length ≤ (as.map (·.consumed)).sum := by
      rw [List.map_cons, List.sum_cons] at hlength
      rw [List.length_drop]
      omega
    rw [seen, List.flatMap_cons, List.map_append,
      refs_of_suits hk (hs (a, ks) List.mem_cons_self),
      ih (forall₂_drop hk _) (fun x hx => hs x (List.mem_cons_of_mem _ hx)) hrest,
      ← List.filterMap_append, List.take_append_drop]

theorem labels_of_seated {slots : List Slot} {args : List Operand} {parts : List Part}
    (h : Seated slots args parts) : parts.filterMap (·.label?) = args.filterMap (·.label?) := by
  induction h with
  | nil => rfl
  | omitted _ => rfl
  | @cons s ss a as ps _ _ _ ih =>
    have hone : (partsIn s a).filterMap (·.label?) = a.label?.toList := by
      cases a with
      | list vs => cases vs <;> rfl
      | mem m =>
        cases s with
        | memIdx =>
          dsimp only [partsIn]
          split <;> rfl
        | _ => rfl
      | _ => rfl
    rw [List.filterMap_append, hone, ih, List.filterMap_cons]
    cases a.label? <;> rfl

theorem mem_partsIn_mem {s : Slot} {m : Mem} {p : Part} (hp : p ∈ partsIn s (.mem m)) :
    (∃ r, p = .reg r) ∨ (∃ v, p = .imm v) ∨ (∃ m, p = .mod m) ∨ p = .absent := by
  have hmod : p = (if m.mod.kind = .none then .absent else .mod m.mod) →
      (∃ m, p = .mod m) ∨ p = .absent := by
    intro hp
    split at hp
    · exact Or.inr hp
    · exact Or.inl ⟨_, hp⟩
  cases s with
  | memIdx =>
    rcases List.mem_cons.mp hp with hp | hp
    · exact Or.inl ⟨_, hp⟩
    · rcases List.mem_cons.mp hp with hp | hp
      · exact Or.inl ⟨_, hp⟩
      · exact Or.inr (Or.inr (hmod (List.mem_singleton.mp hp)))
  | memBase => exact Or.inl ⟨_, List.mem_singleton.mp hp⟩
  | _ =>
    rcases List.mem_cons.mp hp with hp | hp
    · exact Or.inl ⟨_, hp⟩
    · exact Or.inr (Or.inl ⟨_, List.mem_singleton.mp hp⟩)

def Part.shape? : Part → Option Arrangement
  | vec _ arr | list _ arr _ => some arr
  | _ => none

theorem shape_of_partsIn {s : Slot} {a : Operand} {p : Part} (hp : p ∈ partsIn s a)
    {arr : Arrangement} (harr : p.shape? = some arr) : arr ∈ a.arrangements := by
  cases a with
  | list vs =>
    cases vs with
    | nil => cases hp
    | cons v vs =>
      cases List.mem_singleton.mp hp
      cases harr
      exact List.mem_cons_self
  | mem m =>
    rcases mem_partsIn_mem hp with ⟨r, rfl⟩ | ⟨v, rfl⟩ | ⟨m, rfl⟩ | rfl <;> cases harr
  | vec v =>
    cases List.mem_singleton.mp hp
    cases harr
    exact List.mem_singleton_self _
  | _ =>
    cases List.mem_singleton.mp hp
    cases harr

theorem elem_of_partsIn {s : Slot} {a : Operand} {r : Register} {size : ElemSize} {lane : UInt8}
    (hp : .elem r size lane ∈ partsIn s a) : a = .elem r size lane := by
  cases a with
  | list vs =>
    cases vs with
    | nil => cases hp
    | cons v vs => cases List.mem_singleton.mp hp
  | mem m => rcases mem_partsIn_mem hp with ⟨r, h⟩ | ⟨v, h⟩ | ⟨m, h⟩ | h <;> cases h
  | elem r' size' lane' =>
    cases List.mem_singleton.mp hp
    rfl
  | _ => cases List.mem_singleton.mp hp

namespace Seated

variable {slots : List Slot} {args : List Operand} {parts : List Part}

theorem shape (h : Seated slots args parts) {p : Part} (hp : p ∈ parts) {arr : Arrangement}
    (harr : p.shape? = some arr) : ∃ a ∈ args, arr ∈ a.arrangements := by
  rcases h.mem hp with rfl | ⟨s, a, ha, hpa⟩
  · cases harr
  · exact ⟨a, ha, shape_of_partsIn hpa harr⟩

theorem elem (h : Seated slots args parts) {r : Register} {size : ElemSize} {lane : UInt8}
    (hp : .elem r size lane ∈ parts) : .elem r size lane ∈ args := by
  rcases h.mem hp with hp | ⟨s, a, ha, hpa⟩
  · cases hp
  · exact elem_of_partsIn hpa ▸ ha

end Seated

theorem shape_of_meant {a : Action} {ps : List Part} {w : Word} {arr : Arrangement} {n : Nat}
    (hn : a.shape? arr = some n) (h : a.meant ps = some (a.tells w)) :
    (∃ p ∈ ps, ∃ arr', p.shape? = some arr' ∧ a.shape? arr' = some (a.shapeIn w)) ∨
      (n = arr.size ∧ ∃ r size lane, .elem r size lane ∈ ps ∧ size.code.toNat = a.shapeIn w) := by
  cases a with
  | vecQ pos | vecSize pos | vecSz pos | vecImm5 =>
    left
    unfold Action.meant at h
    dsimp only at h
    split at h
    next r arr' rest =>
      refine ⟨_, List.mem_cons_self, arr', rfl, ?_⟩
      have hraw := Reading.raw.inj (Option.some.inj h)
      exact congrArg List.head? hraw
    next r arr' count rest =>
      refine ⟨_, List.mem_cons_self, arr', rfl, ?_⟩
      have hraw := Reading.raw.inj (Option.some.inj h)
      exact congrArg List.head? hraw
    · cases h
  | elemImm5 pos =>
    right
    unfold Action.meant at h
    dsimp only at h
    split at h
    next r size lane rest =>
      refine ⟨(Option.some.inj hn).symm, r, size, lane, List.mem_cons_self, ?_⟩
      exact (Reading.element.inj (Option.some.inj h)).2.1
    · cases h
  | _ => cases hn

section Telling

variable {t : Template} {args : List Operand} {parts : List Part} {w : Word}

/-- The word shows the one arrangement of all vectors, if elements are of its size. -/
theorem shows_common (hseated : Seated t.slots args parts) {common : Arrangement}
    (hcommon : ∀ a ∈ args, ∀ arr ∈ a.arrangements, arr = common)
    (hsize : ∀ r size lane, .elem r size lane ∈ args → common.size = size.code.toNat)
    (htold : ∀ x ∈ seen parts t.actions, x.1.meant x.2 = some (x.1.tells w)) :
    t.Shows w common := by
  intro a ha n hn
  obtain ⟨ps, hx⟩ := exists_seen_of_mem parts ha
  have hsub := (mem_of_mem_seen hx).2
  rcases shape_of_meant hn (htold _ hx) with
    ⟨p, hp, arr, harr, hshape⟩ | ⟨rfl, r, size, lane, hp, hin⟩
  · obtain ⟨b, hb, hmem⟩ := hseated.shape (hsub p hp) harr
    rw [hcommon b hb arr hmem, hn] at hshape
    exact (Option.some.inj hshape).symm
  · rw [hsize r size lane (hseated.elem (hsub _ hp)), hin]

theorem shape?_eq_of_shows {b c : Arrangement} (hb : t.Shows w b) (hc : t.Shows w c) :
    ∀ a ∈ t.actions, a.shape? b = a.shape? c := by
  intro a ha
  have hsome : (a.shape? b).isSome = (a.shape? c).isSome := by cases a <;> rfl
  cases hn : a.shape? b with
  | none =>
    rw [hn] at hsome
    cases hm : a.shape? c with
    | none => rfl
    | some m =>
      rw [hm] at hsome
      cases hsome
  | some n =>
    cases hm : a.shape? c with
    | none =>
      rw [hn, hm] at hsome
      cases hsome
    | some m => rw [← hb a ha n hn, ← hc a ha m hm]

/-- The offset behind a list is what the word says of the list. -/
theorem told_post {s' : Filling} {nss : List (List Nat)}
    (hactions : t.actions = [.vecQ 30, .vecSize 10, .list 0, .reg 5, .listPost])
    (hran : Ran t.actions ⟨t.base, parts, [], 0⟩ s' nss)
    (htold : ∀ x ∈ seen parts t.actions, x.1 ≠ .listPost → x.1.meant x.2 = some (x.1.tells s'.word))
    {x : Action × List Part} (hx : x ∈ seen parts t.actions) (hpost : x.1 = .listPost) :
    x.1.meant x.2 = some (x.1.tells s'.word) := by
  have hposted := hran.posted
  rw [hactions] at hposted htold hx
  have hvec := htold (.vecQ 30, parts) List.mem_cons_self (by simp)
  have hlist := htold (.list 0, parts) (by simp [seen, Action.consumed]) (by simp)
  -- The list has told its count, and the bit of the vector width its bytes.
  cases parts with
  | nil => cases hlist
  | cons p rest =>
    cases p with
    | list r arr count =>
      have hq : arr.q = Stretch.read ⟨30, 1⟩ s'.word :=
        (List.cons.inj (Reading.raw.inj (Option.some.inj hvec))).1
      have hcount : count = listCount (Stretch.read ⟨12, 4⟩ s'.word) :=
        (Reading.registers.inj (Option.some.inj hlist)).2
      have hx' : x = (.listPost, rest.drop 1) := by
        simp only [seen, Action.consumed, List.mem_cons, List.not_mem_nil, or_false] at hx
        rcases hx with rfl | rfl | rfl | rfl | rfl
        · cases hpost
        · cases hpost
        · cases hpost
        · cases hpost
        · rfl
      have hbytes : (Action.listPost).meant (rest.drop 1) =
          some (.number (count * arr.bytes : Nat)) := hposted.2.2.2.2.1 rfl
      rw [hx', hbytes, Action.tells, ← hq, ← hcount, Arrangement.bytes]
    | _ => cases hlist

theorem told_of_ran {s' : Filling} {nss : List (List Nat)} (hsound : t.Sound)
    (htelling : t.Telling) (hran : Ran t.actions ⟨t.base, parts, [], 0⟩ s' nss) :
    ∀ x ∈ seen parts t.actions, x.1.meant x.2 = some (x.1.tells s'.word) := by
  have htold : ∀ x ∈ seen parts t.actions, x.1 ≠ .listPost →
      x.1.meant x.2 = some (x.1.tells s'.word) := by
    intro x hx hne
    have hclear : ∀ s ∈ x.1.stretches, s.read t.base = 0 := fun s hs =>
      htelling.clear s (List.mem_flatMap.mpr ⟨x.1, (mem_of_mem_seen hx).1, hs⟩)
    have htells : x.1.tells s'.word = x.1.interpret (x.1.stretches.map (·.read s'.word)) := by
      obtain ⟨a, ps⟩ := x
      cases a with
      | listPost => exact absurd rfl hne
      | _ => rfl
    rw [htells]
    exact meant_eq hsound hran hx hclear hne
  intro x hx
  by_cases hpost : x.1 = .listPost
  · have hactions := htelling.post (hpost ▸ (mem_of_mem_seen hx).1)
    exact told_post hactions hran htold hx hpost
  · exact htold x hx hpost

theorem shaped_of_told (htelling : t.Telling) (haccepts : t.accepts args = true)
    (hseated : Seated t.slots args parts)
    (hsizes : ∀ a r size lane, a ∈ args → .elem r size lane ∈ args →
      ∀ arr ∈ a.arrangements, arr.size = size.code.toNat)
    (htold : ∀ x ∈ seen parts t.actions, x.1.meant x.2 = some (x.1.tells w))
    {s : Slot} {a : Operand} (hsa : (s, a) ∈ t.slots.zip args) {arr : Arrangement}
    (harr : arr ∈ a.arrangements) (b : Arrangement) :
    b ∈ s.arrangements ∧ t.Shows w b ↔ b = arr := by
  obtain ⟨hs, ha⟩ := List.of_mem_zip hsa
  obtain ⟨common, hcommon⟩ := exists_arrangement htelling.uniform haccepts
  have hmem : arr ∈ s.arrangements := arrangements_of_takes (hseated.zip hsa).1 harr
  have hshows : t.Shows w arr := by
    have heq := hcommon a ha arr harr
    subst heq
    exact shows_common hseated hcommon (fun r size lane he => hsizes a r size lane ha he arr harr)
      htold
  constructor
  · rintro ⟨hb, hbshows⟩
    exact htelling.shapes s hs b hb arr hmem (shape?_eq_of_shows hbshows hshows)
  · rintro rfl
    exact ⟨hmem, hshows⟩

/-- The bits of a reference are those of its label, which has put nothing there. -/
theorem vacant_of_told (htold : ∀ x ∈ seen parts t.actions, x.1.meant x.2 = some (x.1.tells w))
    {r : Ref Reloc} (hr : r ∈ (seen parts t.actions).flatMap fun x => x.1.refs x.2) :
    .rel r.rel ∈ t.actions ∧ ∀ s ∈ (Action.rel r.rel).stretches, s.read w = 0 := by
  obtain ⟨⟨a, ps⟩, hx, hrx⟩ := List.mem_flatMap.mp hr
  have hmeant := htold _ hx
  have ha := (mem_of_mem_seen hx).1
  dsimp only at hrx hmeant ha
  unfold Action.refs at hrx
  split at hrx
  next kind l rest =>
    cases List.mem_singleton.mp hrx
    refine ⟨ha, fun s hs => ?_⟩
    have hraw := Reading.raw.inj (Option.some.inj hmeant)
    exact (List.map_inj_left.mp hraw s hs).symm
  · cases hrx

end Telling

/-- Where vectors and an element stand side by side, they are of one element size. -/
def SizesAgree (given : List (Given Operand)) : Prop :=
  ∀ (a : Operand) (r : Register) (size : ElemSize) (lane : UInt8), .operand a ∈ given →
    .operand (.elem r size lane) ∈ given → ∀ arr ∈ a.arrangements, arr.size = size.code.toNat

theorem sizesAgree_pair {v : Vec} {r : Register} {size : ElemSize} {lane : UInt8}
    (h : v.arr.size = size.code.toNat) :
    SizesAgree [.operand (.vec v), .operand (.elem r size lane)] := by
  intro a r' size' lane' ha he arr harr
  simp only [List.mem_cons, Given.operand.injEq, List.not_mem_nil, or_false, reduceCtorEq,
    Operand.elem.injEq, false_or] at ha he
  obtain ⟨-, rfl, -⟩ := he
  rcases ha with rfl | rfl
  · rw [List.mem_singleton.mp harr]
    exact h
  · cases harr

/-- An instruction other than the bitfield aliases loses nothing of its operands, unless it copies
an element into a vector of elements of another size. -/
theorem templates_lose_nothing {mnemonic : String} {given : List (Given Operand)}
    {e : Encoded Reloc} (hname : Text.toLower (Text.trim mnemonic) ∉ bitfieldAliases)
    (hsizes : SizesAgree given) (h : encode mnemonic given = .ok e) :
    ∃ t args parts w, Chosen mnemonic given t args ∧ e.code = Bytes.ofWord w ∧
      Lossless t args parts w e.refs := by
  obtain ⟨t, args, parts, s', nss, hchosen, haccepts, hseated, hsound, hran, rfl⟩ :=
    filled_of_encode h
  obtain ⟨entry, hentry, rfl, hentryName⟩ := hchosen.exists_entry
  have htelling : entry.template.Telling := by
    refine (entries_telling entry hentry).resolve_left ?_
    rcases hentryName with hn | hn
    · rwa [hn]
    · rw [hn]
      decide
  have htold := told_of_ran hsound htelling hran
  have hlength := hsound.length_le hseated
  have hrefs : s'.refs = (seen parts entry.template.actions).flatMap fun x => x.1.refs x.2 :=
    hran.refs
  have hsizes' : ∀ a r size lane, a ∈ args → .elem r size lane ∈ args →
      ∀ arr ∈ a.arrangements, arr.size = size.code.toNat := by
    intro a r size lane ha he arr harr
    rcases hchosen.mem ha with ha | ⟨c, rfl⟩
    · rcases hchosen.mem he with he | ⟨c, hc⟩
      · exact hsizes a r size lane ha he arr harr
      · cases hc
    · cases harr
  refine ⟨entry.template, args, parts, s'.word, hchosen, rfl, ?_⟩
  exact {
    fields := ⟨fieldsOf entry.template.actions nss, Ran.map_fieldsOf hran.tells,
      Ran.laid hsound hran.tells, htelling.clear, hran.word⟩
    seated := hseated
    known := fun s a b hsa hb hcb heq =>
      have ⟨ha, hca, _⟩ := hseated.zip hsa
      alike_of_partsIn ha hca hb hcb heq
    told := htold
    consumed := fun p hp => exists_seen hlength hp
    shaped := fun s a hsa arr harr b =>
      shaped_of_told htelling haccepts hseated hsizes' htold hsa harr b
    labels := by
      dsimp only
      rw [hrefs, refs_of_seen hseated.holds hsound.suited hlength, labels_of_seated hseated]
    vacant := fun r hr => vacant_of_told htold (hrefs ▸ hr) }

def copiedHalf : List (Given Operand) :=
  [.operand (.vec ⟨.of Family.v 0, .h8⟩), .operand (.elem (.of Family.v 1) .h 2)]

theorem templates_lose_nothing_copied :
    SizesAgree copiedHalf ∧ encode "DUP" copiedHalf = .ok ⟨Bytes.ofWord 0x4e0a0420#32, []⟩ ∧
      ∃ t args parts w, Chosen "DUP" copiedHalf t args ∧
        Bytes.ofWord 0x4e0a0420#32 = Bytes.ofWord w ∧ Lossless t args parts w [] := by
  have hsizes : SizesAgree copiedHalf := sizesAgree_pair (by decide)
  have hok : encode "DUP" copiedHalf = .ok ⟨Bytes.ofWord 0x4e0a0420#32, []⟩ := by
    decide +kernel
  exact ⟨hsizes, hok, templates_lose_nothing (by decide +kernel) hsizes hok⟩

/-- A byte is copied into half words and into bytes by the same word. -/
theorem counterexample_copied :
    encode "dup" [.operand (.vec ⟨.of Family.v 0, .h4⟩), .operand (.elem (.of Family.v 1) .b 1)] =
        .ok ⟨Bytes.ofWord 0x0e030420#32, []⟩ ∧
      encode "dup" [.operand (.vec ⟨.of Family.v 0, .b8⟩), .operand (.elem (.of Family.v 1) .b 1)] =
        .ok ⟨Bytes.ofWord 0x0e030420#32, []⟩ ∧
      ¬ Alike (.vec ⟨.of Family.v 0, .h4⟩) (.vec ⟨.of Family.v 0, .b8⟩) := by
  refine and_assoc.mp ⟨by decide +kernel, ?_⟩
  intro h
  cases h

end MachineCode.AArch64
