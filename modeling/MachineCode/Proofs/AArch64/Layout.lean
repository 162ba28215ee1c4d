import MachineCode.AArch64.Encoder
import MachineCode.Proofs.AArch64.Readings

/-!
The layout of the templates. Every template of the instruction set gives its actions stretches of
their own, within the word and apart from each other, and parts of the kinds that suit them. So a
word that was filled from a template can be taken apart again.
-/
namespace MachineCode.AArch64

namespace Template

def stretches (t : Template) : List Stretch := t.actions.flatMap (·.stretches)

/-- A template whose actions do not get in each other's way, and which consumes all parts. -/
structure Sound (t : Template) : Prop where
  optional : optionalLast t.slots = true
  suited : ∀ x ∈ seen t.kinds t.actions, x.1.suits x.2 = true
  inside : ∀ s ∈ t.stretches, s.stop ≤ 32
  apart : t.stretches.Pairwise Stretch.Apart
  consumed : t.kinds.length ≤ (t.actions.map (·.consumed)).sum

instance (t : Template) : Decidable t.Sound :=
  decidable_of_iff (optionalLast t.slots = true ∧
    (∀ x ∈ seen t.kinds t.actions, x.1.suits x.2 = true) ∧ (∀ s ∈ t.stretches, s.stop ≤ 32) ∧
    t.stretches.Pairwise Stretch.Apart ∧ t.kinds.length ≤ (t.actions.map (·.consumed)).sum)
    ⟨fun ⟨h1, h2, h3, h4, h5⟩ => ⟨h1, h2, h3, h4, h5⟩,
      fun ⟨h1, h2, h3, h4, h5⟩ => ⟨h1, h2, h3, h4, h5⟩⟩

theorem Sound.length_le {t : Template} (h : t.Sound) {args : List Operand} {parts : List Part}
    (hseated : Seated t.slots args parts) :
    parts.length ≤ (t.actions.map (·.consumed)).sum := by
  rw [← hseated.holds.length_eq]
  exact h.consumed

end Template

theorem entries_sound : ∀ e ∈ entries, e.template.Sound := by
  decide +kernel

/-- Numbers of all actions at the stretches of the actions. -/
def fieldsOf : List Action → List (List Nat) → List Field
  | a :: as, ns :: nss => a.stretches.zip ns ++ fieldsOf as nss
  | _, _ => []

/-- Every offset behind a list is the number of bytes that the list transfers. -/
def Posted : Nat → List (Action × List Part) → Prop
  | _, [] => True
  | n, x :: rest =>
    (x.1 = .listPost → x.1.meant x.2 = some (.number n)) ∧ Posted (x.1.bytes x.2 n) rest

/-- Numbers that fit into the stretches of an action and mean what the action sees. -/
def Tells (x : Action × List Part) (ns : List Nat) : Prop :=
  List.Forall₂ (fun s n => n < 2 ^ s.width) x.1.stretches ns ∧
    (x.1 ≠ .listPost → x.1.meant x.2 = some (x.1.interpret ns))

structure Ran (as : List Action) (s s' : Filling) (nss : List (List Nat)) : Prop where
  tells : List.Forall₂ Tells (seen s.parts as) nss
  word : s'.word = s.word ||| join (fieldsOf as nss)
  refs : s'.refs = s.refs ++ (seen s.parts as).flatMap fun x => x.1.refs x.2
  posted : Posted s.listBytes (seen s.parts as)

theorem forall₂_drop {α β : Type} {R : α → β → Prop} {xs : List α} {ys : List β}
    (h : List.Forall₂ R xs ys) (n : Nat) : List.Forall₂ R (xs.drop n) (ys.drop n) := by
  induction h generalizing n with
  | nil => simp
  | cons hxy hrest ih =>
    cases n with
    | zero => exact .cons hxy hrest
    | succ n => exact ih n

/-- A run that succeeds on parts of suitable kinds does the work of every action. -/
theorem run_ran {name : String} {as : List Action} {s s' : Filling} {ks : List Kind}
    (hk : List.Forall₂ Kind.Holds ks s.parts) (hs : ∀ x ∈ seen ks as, x.1.suits x.2 = true)
    (h : s.run name as = .ok s') : ∃ nss, Ran as s s' nss := by
  induction as generalizing s ks with
  | nil =>
    cases h
    exact ⟨[], .nil, by simp [fieldsOf], by simp [seen], trivial⟩
  | cons a as ih =>
    rw [Filling.run] at h
    cases hstep : s.step name a with
    | error e =>
      rw [hstep] at h
      cases h
    | ok u =>
      rw [hstep] at h
      obtain ⟨ns, hdid⟩ := Filling.step_did hk (hs (a, ks) List.mem_cons_self) hstep
      -- The parts that are left are of the kinds that are left.
      have hrest : List.Forall₂ Kind.Holds (ks.drop a.consumed) u.parts := by
        rw [hdid.parts]
        exact forall₂_drop hk _
      obtain ⟨nss, hran⟩ := ih hrest (fun x hx => hs x (List.mem_cons_of_mem _ hx)) h
      have htells := hran.tells
      have hrefs := hran.refs
      have hposted := hran.posted
      rw [hdid.parts] at htells hrefs hposted
      rw [hdid.bytes] at hposted
      refine ⟨ns :: nss, .cons ⟨hdid.fits, hdid.told⟩ htells, ?_, ?_, hdid.post, hposted⟩
      · rw [hran.word, hdid.word, fieldsOf, join_append, BitVec.or_assoc]
      · rw [hrefs, hdid.refs, seen, List.flatMap_cons, List.append_assoc]

namespace Ran

variable {as : List Action} {ps : List Part} {nss : List (List Nat)}

theorem exists_numbers (h : List.Forall₂ Tells (seen ps as) nss) {x : Action × List Part}
    (hx : x ∈ seen ps as) :
    ∃ ns, Tells x ns ∧ ∀ f ∈ x.1.stretches.zip ns, f ∈ fieldsOf as nss := by
  induction as generalizing ps nss with
  | nil => cases hx
  | cons a as ih =>
    cases h with
    | cons hhead htail =>
      rcases List.mem_cons.mp hx with rfl | hx
      · exact ⟨_, hhead, fun f hf => List.mem_append_left _ hf⟩
      · obtain ⟨ns, htells, hfields⟩ := ih htail hx
        exact ⟨ns, htells, fun f hf => List.mem_append_right _ (hfields f hf)⟩

theorem map_fieldsOf (h : List.Forall₂ Tells (seen ps as) nss) :
    (fieldsOf as nss).map (·.1) = as.flatMap (·.stretches) := by
  induction as generalizing ps nss with
  | nil =>
    cases h
    rfl
  | cons a as ih =>
    cases h with
    | cons hhead htail =>
      rw [fieldsOf, List.map_append, ih htail, List.flatMap_cons,
        List.map_fst_zip (Nat.le_of_eq hhead.1.length_eq)]

theorem fits (h : List.Forall₂ Tells (seen ps as) nss) {f : Field} (hf : f ∈ fieldsOf as nss) :
    f.2 < 2 ^ f.1.width := by
  induction as generalizing ps nss with
  | nil => cases h; cases hf
  | cons a as ih =>
    cases h with
    | cons hhead htail =>
      rcases List.mem_append.mp hf with hf | hf
      · exact List.forall₂_zip hhead.1 hf
      · exact ih htail hf

theorem laid {t : Template} (hsound : t.Sound) (h : List.Forall₂ Tells (seen ps t.actions) nss) :
    Laid (fieldsOf t.actions nss) where
  fits := fun f hf => fits h hf
  inside := by
    intro f hf
    apply hsound.inside
    rw [Template.stretches, ← map_fieldsOf h]
    exact List.mem_map_of_mem hf
  apart := by
    rw [map_fieldsOf h]
    exact hsound.apart

end Ran

theorem map_read {ss : List Stretch} {ns : List Nat} {w : Word}
    (h : List.Forall₂ (fun s n => n < 2 ^ s.width) ss ns)
    (hread : ∀ f ∈ ss.zip ns, f.1.read w = f.2) : ss.map (·.read w) = ns := by
  induction h with
  | nil => rfl
  | cons hfits hrest ih =>
    rw [List.map_cons, ih fun f hf => hread f (List.mem_cons_of_mem _ hf),
      hread (_, _) List.mem_cons_self]

/-- Where the fixed bits are clear, the word says what the action saw. -/
theorem meant_eq {t : Template} {ps : List Part} {s' : Filling} {nss : List (List Nat)}
    (hsound : t.Sound) (h : Ran t.actions ⟨t.base, ps, [], 0⟩ s' nss) {x : Action × List Part}
    (hx : x ∈ seen ps t.actions) (hclear : ∀ s ∈ x.1.stretches, s.read t.base = 0)
    (hpost : x.1 ≠ .listPost) :
    x.1.meant x.2 = some (x.1.interpret (x.1.stretches.map (·.read s'.word))) := by
  obtain ⟨ns, htells, hfields⟩ := Ran.exists_numbers h.tells hx
  have hread : ∀ f ∈ x.1.stretches.zip ns, f.1.read s'.word = f.2 := by
    intro f hf
    rw [h.word]
    exact (Ran.laid hsound h.tells).read_join (hfields f hf) (hclear _ (List.of_mem_zip hf).1)
  rw [map_read htells.1 hread]
  exact htells.2 hpost

/-- The parts are all consumed. -/
theorem exists_seen {α : Type} {ps : List α} {as : List Action}
    (h : ps.length ≤ (as.map (·.consumed)).sum) {p : α} (hp : p ∈ ps) :
    ∃ x ∈ seen ps as, p ∈ x.2.take x.1.consumed := by
  induction as generalizing ps with
  | nil =>
    rw [List.length_eq_zero_iff.mp (Nat.le_zero.mp h)] at hp
    cases hp
  | cons a as ih =>
    rw [← List.take_append_drop a.consumed ps, List.mem_append] at hp
    rcases hp with hp | hp
    · exact ⟨(a, ps), List.mem_cons_self, hp⟩
    · have hlength : (ps.drop a.consumed).length ≤ (as.map (·.consumed)).sum := by
        rw [List.map_cons, List.sum_cons] at h
        rw [List.length_drop]
        omega
      obtain ⟨x, hx, hpx⟩ := ih hlength hp
      exact ⟨x, List.mem_cons_of_mem _ hx, hpx⟩

theorem exists_kinds {R : Kind → Part → Prop} {ks : List Kind} {ps : List Part} {as : List Action}
    (hk : List.Forall₂ R ks ps) {x : Action × List Part} (hx : x ∈ seen ps as) :
    ∃ ks', (x.1, ks') ∈ seen ks as ∧ List.Forall₂ R ks' x.2 := by
  induction as generalizing ks ps with
  | nil => cases hx
  | cons a as ih =>
    rcases List.mem_cons.mp hx with rfl | hx
    · exact ⟨ks, List.mem_cons_self, hk⟩
    · obtain ⟨ks', hmem, hholds⟩ := ih (forall₂_drop hk a.consumed) hx
      exact ⟨ks', List.mem_cons_of_mem _ hmem, hholds⟩

/-- The template that encodes the operands of an instruction: the first of its mnemonic that takes
them. A conditional branch has its condition in front of them. -/
def Chosen (mnemonic : String) (given : List (Given Operand)) (t : Template)
    (args : List Operand) : Prop :=
  ∃ key implied ops, resolve (Text.toLower (Text.trim mnemonic)) = some (key, implied) ∧
    Given.all given = .ok ops ∧ args = implied ++ ops ∧
    (templatesOf key).find? (·.accepts args) = some t

theorem resolve_cases {name key : String} {implied : List Operand}
    (h : resolve name = some (key, implied)) :
    (key = name ∧ implied = []) ∨ (key = "b.cond" ∧ ∃ c, implied = [.cond c]) := by
  unfold resolve at h
  split at h
  · obtain ⟨c, -, hc⟩ := Option.map_eq_some_iff.mp h
    cases hc
    exact Or.inr ⟨rfl, c, rfl⟩
  · cases h
    exact Or.inl ⟨rfl, rfl⟩

namespace Chosen

variable {mnemonic : String} {given : List (Given Operand)} {t : Template} {args : List Operand}

theorem exists_entry (h : Chosen mnemonic given t args) :
    ∃ e ∈ entries, e.template = t ∧
      (e.name = Text.toLower (Text.trim mnemonic) ∨ e.name = "b.cond") := by
  obtain ⟨key, implied, ops, hresolve, -, -, hfind⟩ := h
  have hmem := List.mem_of_find?_eq_some hfind
  simp only [templatesOf, List.mem_map, List.mem_filter, beq_iff_eq] at hmem
  obtain ⟨e, ⟨he, rfl⟩, rfl⟩ := hmem
  exact ⟨e, he, rfl, (resolve_cases hresolve).imp And.left And.left⟩

theorem mem (h : Chosen mnemonic given t args) {a : Operand} (ha : a ∈ args) :
    .operand a ∈ given ∨ ∃ c, a = .cond c := by
  obtain ⟨key, implied, ops, hresolve, hall, rfl, -⟩ := h
  rcases List.mem_append.mp ha with ha | ha
  · rcases resolve_cases hresolve with ⟨-, rfl⟩ | ⟨-, c, rfl⟩
    · cases ha
    · exact Or.inr ⟨c, List.mem_singleton.mp ha⟩
  · left
    rw [Given.eq_map_of_all hall]
    exact List.mem_map_of_mem ha

theorem mem_args (h : Chosen mnemonic given t args) {a : Operand} (ha : .operand a ∈ given) :
    a ∈ args := by
  obtain ⟨key, implied, ops, -, hall, rfl, -⟩ := h
  rw [Given.eq_map_of_all hall] at ha
  obtain ⟨b, hb, hba⟩ := List.mem_map.mp ha
  cases hba
  exact List.mem_append_right _ hb

end Chosen

theorem of_template_encode {t : Template} {name : String} {args : List Operand} {e : Encoded Reloc}
    (h : t.encode name args = .ok e) :
    ∃ parts s', partsOfAll name t.slots args = .ok parts ∧
      Filling.run name ⟨t.base, parts, [], 0⟩ t.actions = .ok s' ∧
      e = ⟨Bytes.ofWord s'.word, s'.refs⟩ := by
  unfold Template.encode at h
  cases hparts : partsOfAll name t.slots args with
  | error e =>
    rw [hparts] at h
    cases h
  | ok parts =>
    rw [hparts] at h
    cases hrun : Filling.run name ⟨t.base, parts, [], 0⟩ t.actions with
    | error e =>
      simp only [bind, Except.bind, hrun] at h
      cases h
    | ok s' =>
      simp only [bind, Except.bind, hrun] at h
      cases h
      exact ⟨parts, s', rfl, hrun, rfl⟩

def registerBits (positions : List Nat) (rs : List Register) : Word :=
  join ((positions.map (Stretch.mk · 5)).zip (rs.map (·.num % 32)))

theorem sets_registers (positions : List Nat) (rs : List Register)
    (hlength : positions.length = rs.length) (hrs : ∀ r ∈ rs, r.fault? = none) :
    Sets (positions.map (Stretch.mk · 5)) (rs.map (·.num)) (registerBits positions rs) := by
  induction positions generalizing rs with
  | nil =>
    cases List.length_eq_zero_iff.mp hlength.symm
    exact Sets.nil
  | cons pos positions ih =>
    cases rs with
    | nil => cases hlength
    | cons r rs =>
      have hnum := num_lt_of_fault? (hrs r List.mem_cons_self)
      have hbits : registerBits (pos :: positions) (r :: rs) =
          Stretch.place ⟨pos, 5⟩ r.num ||| registerBits positions rs := by
        change Stretch.place ⟨pos, 5⟩ (r.num % 32) ||| registerBits positions rs = _
        rw [Nat.mod_eq_of_lt hnum]
      rw [hbits]
      exact Sets.cons hnum
        (ih rs (Nat.succ.inj hlength) fun r' hr' => hrs r' (List.mem_cons_of_mem _ hr'))

theorem run_registers {name : String} {positions : List Nat} {rs : List Register} {ps : List Part}
    {as : List Action} {w : Word} (hlength : positions.length = rs.length) :
    Filling.run name ⟨w, rs.map .reg ++ ps, [], 0⟩ (positions.map .reg ++ as) =
      Filling.run name ⟨w ||| registerBits positions rs, ps, [], 0⟩ as := by
  induction positions generalizing rs w with
  | nil =>
    cases List.length_eq_zero_iff.mp hlength.symm
    simp [registerBits]
  | cons pos positions ih =>
    cases rs with
    | nil => cases hlength
    | cons r rs =>
      have hstep : Filling.run name ⟨w, (r :: rs).map .reg ++ ps, [], 0⟩
          ((pos :: positions).map .reg ++ as) =
          Filling.run name ⟨w ||| bitsAt (r.num % 32) pos, rs.map .reg ++ ps, [], 0⟩
            (positions.map .reg ++ as) := rfl
      rw [hstep, ih (Nat.succ.inj hlength), BitVec.or_assoc]
      rfl

theorem encode_registers {t : Template} {name : String} {args : List Operand} {rs : List Register}
    {ps : List Part} {positions : List Nat} {a : Action} {n : Nat} {r : Except Refusal Word}
    (hlength : positions.length = rs.length)
    (hparts : partsOfAll name t.slots args = .ok (rs.map .reg ++ ps))
    (hactions : t.actions = positions.map .reg ++ [a])
    (hstep : ∀ s : Filling, s.parts = ps → s.step name a = r.map (s.set n)) :
    t.encode name args = r.map fun bits =>
      ⟨Bytes.ofWord (t.base ||| (registerBits positions rs ||| bits)), []⟩ := by
  have hlast := hstep ⟨t.base ||| registerBits positions rs, ps, [], 0⟩ rfl
  unfold Template.encode
  rw [hparts, ok_bind, hactions, run_registers hlength, Filling.run, hlast]
  cases r with
  | error e => rfl
  | ok bits =>
    change Except.ok (⟨Bytes.ofWord (t.base ||| registerBits positions rs ||| bits), []⟩ :
      Encoded Reloc) = _
    rw [BitVec.or_assoc]
    rfl

/-- Every instruction that is encoded is a template filled with the parts of its operands. -/
theorem filled_of_encode {mnemonic : String} {given : List (Given Operand)} {e : Encoded Reloc}
    (h : encode mnemonic given = .ok e) :
    ∃ t args parts s' nss, Chosen mnemonic given t args ∧ t.accepts args = true ∧
      Seated t.slots args parts ∧ t.Sound ∧ Ran t.actions ⟨t.base, parts, [], 0⟩ s' nss ∧
      e = ⟨Bytes.ofWord s'.word, s'.refs⟩ := by
  unfold encode at h
  split at h
  · cases h
  next ops hops =>
    unfold encodeArgs at h
    dsimp only at h
    split at h
    · cases h
    next key implied hresolve =>
      split at h
      · cases h
      next all hall =>
        split at h
        · cases h
        next t hfind =>
          have hchosen : Chosen mnemonic given t (implied ++ ops) :=
            ⟨key, implied, ops, hresolve, hops, rfl, hfind⟩
          obtain ⟨entry, hentry, rfl, -⟩ := hchosen.exists_entry
          have hsound := entries_sound entry hentry
          have haccepts := List.find?_some hfind
          obtain ⟨parts, s', hparts, hrun, rfl⟩ := of_template_encode h
          have hseated := seated_of_accepts hsound.optional haccepts hparts
          obtain ⟨nss, hran⟩ := run_ran hseated.holds hsound.suited hrun
          exact ⟨_, _, parts, s', nss, hchosen, haccepts, hseated, hsound, hran, rfl⟩

/-- A mnemonic that carries no condition is encoded by the first of its templates that takes the
operands. -/
theorem encode_eq_ok_iff_find? {mnemonic key : String} {ops : List Operand} {e : Encoded Reloc}
    (hname : Text.toLower (Text.trim mnemonic) = key) (hresolve : resolve key = some (key, [])) :
    encode mnemonic (ops.map .operand) = .ok e ↔
      ∃ t, (templatesOf key).find? (·.accepts ops) = some t ∧ t.encode key ops = .ok e := by
  subst hname
  unfold encode encodeArgs
  rw [Given.all_map_operand]
  dsimp only
  rw [hresolve]
  dsimp only
  rw [List.nil_append]
  cases templatesOf (Text.toLower (Text.trim mnemonic)) with
  | nil =>
    constructor
    · intro h
      cases h
    · rintro ⟨t, hfind, -⟩
      cases hfind
  | cons t ts =>
    dsimp only
    cases (t :: ts).find? (·.accepts ops) with
    | none =>
      constructor
      · intro h
        cases h
      · rintro ⟨t, hfind, -⟩
        cases hfind
    | some u =>
      constructor
      · intro h
        exact ⟨u, rfl, h⟩
      · rintro ⟨t, hfind, h⟩
        cases hfind
        exact h

end MachineCode.AArch64
