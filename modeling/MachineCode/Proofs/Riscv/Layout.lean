import MachineCode.Riscv.Encoder
import MachineCode.Proofs.Riscv.Readings

/-!
The layout of the templates. In every word of a template, the bits of one step are apart from those
of the others and clear in the template, and so are the bits of a label's displacement. So the
words that come out of a run still say what every step has recorded.
-/
namespace MachineCode.Riscv

def Step.stretches (st : Step) (n : Nat) : List Stretch :=
  if st.word ≤ n then st.action.stretches (n - st.word) else []

theorem Step.stretches_word (st : Step) : st.stretches st.word = st.action.stretches 0 := by
  rw [stretches, if_pos (Nat.le_refl _), Nat.sub_self]

def fill : List Word → List (Step × Word) → List Word
  | ws, [] => ws
  | ws, x :: xs => fill (ws.modify x.1.word (· ||| x.2)) xs

@[simp] theorem length_fill (ws : List Word) (xs : List (Step × Word)) :
    (fill ws xs).length = ws.length := by
  induction xs generalizing ws with
  | nil => rfl
  | cons x xs ih => rw [fill, ih, List.length_modify]

theorem getD_modify (ws : List Word) (f : Word → Word) {i : Nat} (hi : i < ws.length) (n : Nat) :
    (ws.modify i f).getD n 0 = if n = i then f (ws.getD n 0) else ws.getD n 0 := by
  rw [List.getD_eq_getElem?_getD, List.getD_eq_getElem?_getD, List.getElem?_modify]
  by_cases hn : n = i
  · subst hn
    rw [List.getElem?_eq_getElem hi, if_pos rfl]
    simp
  · rw [if_neg hn]
    simp [Ne.symm hn]

def Step.Apart (st st' : Step) : Prop :=
  ∀ n, ∀ x ∈ st.stretches n, ∀ y ∈ st'.stretches n, x.Apart y

theorem Step.Apart.symm {st st' : Step} (h : st.Apart st') : st'.Apart st :=
  fun n x hx y hy => (h n y hy x hx).symm

/-- In its own word a step can be read as in its bits; in others it has left nothing. -/
def Held (ws : List Word) (x : Step × Word) : Prop :=
  ∀ n, ∀ s ∈ x.1.stretches n, s.read (ws.getD n 0) = if n = x.1.word then s.read x.2 else 0

section Fill

variable {ws : List Word} {x : Step × Word} {xs : List (Step × Word)}

/-- A step keeps what stands apart from its bits. -/
theorem read_modify {s : Stretch} {n : Nat} (hword : x.1.word < ws.length)
    (hwithin : Within (x.1.action.stretches 0) x.2) (hs : ∀ t ∈ x.1.stretches n, s.Apart t) :
    s.read ((ws.modify x.1.word (· ||| x.2)).getD n 0) = s.read (ws.getD n 0) := by
  rw [getD_modify _ _ hword]
  by_cases hn : n = x.1.word
  · rw [hn, Step.stretches_word] at hs
    rw [if_pos hn, Stretch.read_or, hwithin.read_eq_zero hs, Nat.or_zero]
  · rw [if_neg hn]

/-- All steps keep what stands apart from their bits. -/
theorem read_fill {s : Stretch} {n : Nat} (hword : ∀ x ∈ xs, x.1.word < ws.length)
    (hwithin : ∀ x ∈ xs, Within (x.1.action.stretches 0) x.2)
    (hs : ∀ x ∈ xs, ∀ t ∈ x.1.stretches n, s.Apart t) :
    s.read ((fill ws xs).getD n 0) = s.read (ws.getD n 0) := by
  induction xs generalizing ws with
  | nil => rfl
  | cons x xs ih =>
    obtain ⟨hword, hwords⟩ := List.forall_mem_cons.mp hword
    obtain ⟨hwithin, hwithins⟩ := List.forall_mem_cons.mp hwithin
    obtain ⟨hs, hss⟩ := List.forall_mem_cons.mp hs
    rw [fill, ih (by simpa using hwords) hwithins hss, read_modify hword hwithin hs]

/-- If the steps are apart and their bits were clear, all of them are held in the end. -/
theorem held_fill (hword : ∀ x ∈ xs, x.1.word < ws.length)
    (hwithin : ∀ x ∈ xs, Within (x.1.action.stretches 0) x.2)
    (hapart : xs.Pairwise fun x y => x.1.Apart y.1)
    (hclear : ∀ x ∈ xs, ∀ n, ∀ s ∈ x.1.stretches n, s.read (ws.getD n 0) = 0) :
    ∀ x ∈ xs, Held (fill ws xs) x := by
  induction xs generalizing ws with
  | nil => exact fun x hx => by cases hx
  | cons x xs ih =>
    obtain ⟨hword, hwords⟩ := List.forall_mem_cons.mp hword
    obtain ⟨hwithin, hwithins⟩ := List.forall_mem_cons.mp hwithin
    obtain ⟨hclear, hclears⟩ := List.forall_mem_cons.mp hclear
    obtain ⟨hapart, haparts⟩ := List.pairwise_cons.mp hapart
    rw [fill]
    refine List.forall_mem_cons.mpr ⟨?_, ?_⟩
    · -- The first step finds its bits clear, and the others do not touch them.
      intro n s hs
      rw [read_fill (by simpa using hwords) hwithins fun y hy t ht => hapart y hy n s hs t ht,
        getD_modify _ _ hword]
      by_cases hn : n = x.1.word
      · rw [if_pos hn, if_pos hn, Stretch.read_or, hclear n s hs, Nat.zero_or]
      · rw [if_neg hn, if_neg hn, hclear n s hs]
    · refine ih (by simpa using hwords) hwithins haparts fun y hy n s hs => ?_
      rw [read_modify hword hwithin fun t ht => ((hapart y hy).symm n s hs t ht),
        hclears y hy n s hs]

end Fill

/-- What the words say, step by step; the labels come from the references. The amount of a stack
adjustment counts from the list in the same word. -/
def readings (xlen : Int) (ws : List Word) : List Step → List (Ref Reloc) → List Content
  | [], _ => []
  | st :: steps, refs =>
    if st.action.peeks then readings xlen ws steps refs
    else if st.action.rel?.isSome then
      (refs.take 1).map (fun r => .label ⟨r.target, r.addend⟩) ++
        readings xlen ws steps (refs.drop 1)
    else
      let w := ws.getD st.word 0
      st.action.read xlen (Stretch.read ⟨4, 4⟩ w) w :: readings xlen ws steps refs

def consumes (upper : Bool) : List Step → List Kind → Bool
  | [], ks => ks.isEmpty
  | _ :: _, [] => false
  | st :: steps, k :: ks =>
    st.action.suits upper k && consumes upper steps (if st.action.peeks then k :: ks else ks)

/-- Whether every stack adjustment is in the word of the last register list, if there was one. -/
def listed : Option Nat → List Step → Bool
  | _, [] => true
  | last, ⟨.regList, word⟩ :: steps => last.isNone && listed (some word) steps
  | last, ⟨.stackAdj _, word⟩ :: steps => last == some word && listed last steps
  | last, _ :: steps => listed last steps

namespace Template

def isUpper (t : Template) : Bool := t.steps.any fun st => st.action == .upper

def kinds (t : Template) : List Kind := t.slots.flatMap (·.kinds)

structure Orderly (t : Template) : Prop where
  placed : ∀ st ∈ t.steps, st.word < t.words.length
  size : t.size = 2 ∨ t.size = 4
  half : t.size = 2 → ∀ n < t.words.length, Stretch.read ⟨16, 16⟩ (t.words.getD n 0) = 0
  inside : ∀ n < t.words.length, ∀ st ∈ t.steps, ∀ s ∈ st.stretches n, s.stop ≤ 8 * t.size
  room : ∀ st ∈ t.steps, ∀ k < 2, st.action.stretches k ≠ [] → st.word + k < t.words.length
  apart : ∀ n < t.words.length, (t.steps.flatMap (·.stretches n)).Pairwise Stretch.Apart
  clear : ∀ n < t.words.length, ∀ st ∈ t.steps, ∀ s ∈ st.stretches n,
    s.read (t.words.getD n 0) = 0

instance (t : Template) : Decidable t.Orderly :=
  decidable_of_iff ((∀ st ∈ t.steps, st.word < t.words.length) ∧ (t.size = 2 ∨ t.size = 4) ∧
    (t.size = 2 → ∀ n < t.words.length, Stretch.read ⟨16, 16⟩ (t.words.getD n 0) = 0) ∧
    (∀ n < t.words.length, ∀ st ∈ t.steps, ∀ s ∈ st.stretches n, s.stop ≤ 8 * t.size) ∧
    (∀ st ∈ t.steps, ∀ k < 2, st.action.stretches k ≠ [] → st.word + k < t.words.length) ∧
    (∀ n < t.words.length, (t.steps.flatMap (·.stretches n)).Pairwise Stretch.Apart) ∧
    ∀ n < t.words.length, ∀ st ∈ t.steps, ∀ s ∈ st.stretches n, s.read (t.words.getD n 0) = 0)
    ⟨fun ⟨h1, h2, h3, h4, h5, h6, h7⟩ => ⟨h1, h2, h3, h4, h5, h6, h7⟩,
      fun ⟨h1, h2, h3, h4, h5, h6, h7⟩ => ⟨h1, h2, h3, h4, h5, h6, h7⟩⟩

structure Suited (t : Template) : Prop where
  optional : optionalLast t.slots = true
  consumes : consumes t.isUpper t.steps t.kinds = true
  listed : listed none t.steps = true

instance (t : Template) : Decidable t.Suited :=
  decidable_of_iff (optionalLast t.slots = true ∧
    Riscv.consumes t.isUpper t.steps t.kinds = true ∧ Riscv.listed none t.steps = true)
    ⟨fun ⟨h1, h2, h3⟩ => ⟨h1, h2, h3⟩, fun ⟨h1, h2, h3⟩ => ⟨h1, h2, h3⟩⟩

end Template

theorem entries_orderly : ∀ e ∈ entries, e.template.Orderly := by
  decide +kernel

theorem entries_suited : ∀ e ∈ entries, e.template.Suited := by
  decide +kernel

theorem readings_peek {xlen : Int} {ws : List Word} {st : Step} {steps : List Step}
    {refs : List (Ref Reloc)} (h : st.action.peeks = true) :
    readings xlen ws (st :: steps) refs = readings xlen ws steps refs := by
  rw [readings, if_pos h]

theorem readings_read {xlen : Int} {ws : List Word} {st : Step} {steps : List Step}
    {refs : List (Ref Reloc)} (hpeeks : st.action.peeks = false) (hrel : st.action.rel? = none) :
    readings xlen ws (st :: steps) refs =
      st.action.read xlen (Stretch.read ⟨4, 4⟩ (ws.getD st.word 0)) (ws.getD st.word 0) ::
        readings xlen ws steps refs := by
  rw [readings, hpeeks, hrel, if_neg Bool.false_ne_true, Option.isSome_none,
    if_neg Bool.false_ne_true]

/-- Only a stack adjustment asks for the code of the list. -/
theorem Action.read_code {a : Action} {code code' : Nat} (xlen : Int) (w : Word)
    (h : ∀ negative, a = .stackAdj negative → code = code') :
    a.read xlen code w = a.read xlen code' w := by
  cases a with
  | stackAdj negative => rw [h negative rfl]
  | _ => rfl

theorem listed_cons {last : Option Nat} {st : Step} {steps : List Step}
    (h : listed last (st :: steps) = true) :
    listed (if st.action = .regList then some st.word else last) steps = true ∧
      ∀ negative, st.action = .stackAdj negative → last = some st.word := by
  obtain ⟨a, word⟩ := st
  cases a with
  | regList =>
    rw [listed, Bool.and_eq_true] at h
    exact ⟨h.2, nofun⟩
  | stackAdj negative =>
    rw [listed, Bool.and_eq_true, beq_iff_eq] at h
    exact ⟨h.2, fun _ _ => h.1⟩
  | _ => exact ⟨h, nofun⟩

structure Ran (xlen : Int) (last : Option Nat) (steps : List Step) (s s' : Filling)
    (cs : List Content) (bits : List Word) (rs : List (Ref Reloc)) : Prop where
  words : s'.words = fill s.words (steps.zip bits)
  refs : s'.refs = s.refs ++ rs
  rels : rs.map (·.rel) = steps.filterMap (·.action.rel?)
  length : bits.length = steps.length
  within : ∀ x ∈ steps.zip bits, Within (x.1.action.stretches 0) x.2
  vacant : ∀ x ∈ steps.zip bits, x.1.action.rel?.isSome = true → x.2 = 0
  told : ∀ ws, (∀ x ∈ steps.zip bits, Held ws x) →
    (∀ k ∈ last, Stretch.read ⟨4, 4⟩ (ws.getD k 0) = s.list) → readings xlen ws steps rs = cs

theorem Held.read {ws : List Word} {x : Step × Word} (h : Held ws x) {s : Stretch}
    (hs : s ∈ x.1.action.stretches 0) : s.read (ws.getD x.1.word 0) = s.read x.2 := by
  have hword := h x.1.word s (by rwa [Step.stretches_word])
  rwa [if_pos rfl] at hword

section Run

variable {xlen : Int} {wrapped upper : Bool}

/-- One step in front of a run. -/
theorem Ran.cons {last : Option Nat} {st : Step} {steps : List Step} {s u s' : Filling}
    {c : Content} {cs : List Content} {b : Word} {bits : List Word} {refs : List (Ref Reloc)}
    (hdid : Did st s u b) (htells : Tells xlen st.action s b c)
    (hlast : ∀ negative, st.action = .stackAdj negative → last = some st.word)
    (h : Ran xlen (if st.action = .regList then some st.word else last) steps u s' cs bits refs) :
    Ran xlen last (st :: steps) s s' (if st.action.peeks then cs else c :: cs) (b :: bits)
      (st.action.refs s.next ++ refs) where
  words := by rw [h.words, hdid.words, List.zip_cons_cons, fill]
  refs := by rw [h.refs, hdid.refs, List.append_assoc]
  rels := by
    rw [List.map_append, h.rels, List.filterMap_cons]
    obtain ⟨a, word⟩ := st
    cases a <;> rfl
  length := by rw [List.length_cons, List.length_cons, h.length]
  within := List.forall_mem_cons.mpr ⟨hdid.within, h.within⟩
  vacant := List.forall_mem_cons.mpr ⟨hdid.vacant, h.vacant⟩
  told := by
    intro ws hheld hcode
    rw [List.zip_cons_cons] at hheld
    obtain ⟨hheld, hhelds⟩ := List.forall_mem_cons.mp hheld
    have hrest := h.told ws hhelds (by
      -- A register list has its code in the word, and other steps leave the code alone.
      intro k hk
      rw [hdid.list]
      by_cases hlist : st.action = .regList
      · rw [if_pos hlist] at hk ⊢
        cases hk
        exact hheld.read (by rw [hlist]; exact List.mem_cons_self)
      · rw [if_neg hlist] at hk ⊢
        exact hcode k hk)
    cases hpeeks : st.action.peeks with
    | true =>
      have hrefs : st.action.refs s.next = [] := by
        obtain ⟨a, word⟩ := st
        cases a with
        | peek pos => rfl
        | _ => cases hpeeks
      rw [readings_peek hpeeks, hrefs, List.nil_append, hrest, if_pos rfl]
    | false =>
      rw [if_neg Bool.false_ne_true]
      cases hrel : st.action.rel? with
      | some kind =>
        obtain ⟨a, word⟩ := st
        cases a with
        | rel kind' =>
          have hc : c = .label s.next.labelRef := htells
          rw [hc, ← hrest]
          rfl
        | _ => cases hrel
      | none =>
        rw [Tells, hrel, Option.isSome_none, if_neg Bool.false_ne_true] at htells
        have hrefs : st.action.refs s.next = [] := by
          obtain ⟨a, word⟩ := st
          cases a with
          | rel kind => cases hrel
          | _ => rfl
        rw [readings_read hpeeks hrel, hrefs, List.nil_append, hrest, ← htells,
          Action.read_congr xlen _ fun x hx => hheld.read hx,
          Action.read_code xlen b fun negative hneg =>
            hcode st.word (hlast negative hneg)]

/-- A run on parts of the kinds that the steps consume records what the parts say. -/
theorem run_ran {name : String} {last : Option Nat} {steps : List Step} {s s' : Filling}
    {ks : List Kind} {cs : List Content} (hwrapped : wrapped = (upper && xlen == 32))
    (hsay : AllSay wrapped ks s.parts cs) (hconsumes : consumes upper steps ks = true)
    (hlisted : listed last steps = true)
    (hin : ∀ st ∈ steps, ∀ x ∈ st.action.stretches 0, x.stop ≤ 32) (hlist : s.list < 16)
    (h : s.run name xlen steps = .ok s') : ∃ bits refs, Ran xlen last steps s s' cs bits refs := by
  induction steps generalizing s ks cs last with
  | nil =>
    cases h
    obtain rfl : ks = [] := List.isEmpty_iff.mp hconsumes
    obtain rfl : cs = [] := by
      generalize s'.parts = parts at hsay
      cases hsay
      rfl
    exact ⟨[], [], rfl, (List.append_nil _).symm, rfl, rfl, nofun, nofun, fun _ _ _ => rfl⟩
  | cons st steps ih =>
    cases ks with
    | nil => cases hconsumes
    | cons k ks =>
      rw [consumes, Bool.and_eq_true] at hconsumes
      obtain ⟨hsuits, hconsumes⟩ := hconsumes
      obtain ⟨hin, hins⟩ := List.forall_mem_cons.mp hin
      obtain ⟨hlisted, hlast⟩ := listed_cons hlisted
      obtain ⟨u, hstep, hrun⟩ := bind_eq_ok h
      obtain ⟨p, ps, c, cs', hparts, rfl, hsaid, hrest⟩ : ∃ p ps c cs', s.parts = p :: ps ∧
          cs = c :: cs' ∧ Says wrapped k p c ∧ AllSay wrapped ks ps cs' := by
        generalize s.parts = parts at hsay
        cases hsay with
        | cons hhead htail => exact ⟨_, _, _, _, rfl, rfl, hhead, htail⟩
      have hnext : s.next = p := by rw [Filling.next, hparts, List.headD_cons]
      rw [← hnext] at hsaid
      obtain ⟨b, hdid, htells⟩ := step_records hwrapped hsaid hsuits hin hlist hstep
      have hlist' : u.list < 16 := by
        rw [hdid.list]
        split
        · exact Stretch.read_lt ⟨4, 4⟩ b
        · exact hlist
      -- A part that was only looked at is still there.
      cases hpeeks : st.action.peeks with
      | true =>
        have hpeek := hdid.parts
        rw [hpeeks, if_pos rfl] at hpeek hconsumes
        rw [← hpeek] at hsay
        obtain ⟨bits, refs, hran⟩ := ih hsay hconsumes hlisted hins hlist' hrun
        have hcons := Ran.cons hdid htells hlast hran
        rw [hpeeks, if_pos rfl] at hcons
        exact ⟨_, _, hcons⟩
      | false =>
        have htake := hdid.parts
        rw [hpeeks, if_neg Bool.false_ne_true] at htake hconsumes
        rw [hparts, List.drop_one, List.tail_cons] at htake
        rw [← htake] at hrest
        obtain ⟨bits, refs, hran⟩ := ih hrest hconsumes hlisted hins hlist' hrun
        have hcons := Ran.cons hdid htells hlast hran
        rw [hpeeks, if_neg Bool.false_ne_true] at hcons
        exact ⟨_, _, hcons⟩

end Run

end MachineCode.Riscv
