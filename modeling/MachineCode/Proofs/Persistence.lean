import MachineCode.Proofs.Images

/-!
Bytes that stay. A byte keeps its value as long as nothing touches it and no reference is left
that could still be written there. What an alteration has written last is therefore there for
good, unless one of these two things comes in between.
-/
namespace MachineCode

namespace History

/-- A byte lies in the field of a new reference, or an alteration writes it. -/
def Touches (h : History) (i : Nat) : Prop :=
  (∃ r ∈ h.references, r.Covers i) ∨ ∃ w ∈ h.writes, w.Covers i

instance (h : History) (i : Nat) : Decidable (h.Touches i) := inferInstanceAs (Decidable (_ ∨ _))

theorem writes_append (h new : History) : (h ++ new).writes = h.writes ++ new.writes :=
  List.flatMap_append ..

theorem touches_append {h new : History} {i : Nat} :
    (h ++ new).Touches i ↔ h.Touches i ∨ new.Touches i := by
  simp only [Touches, references_append, writes_append, List.mem_append, or_and_right, exists_or]
  exact or_or_or_comm

theorem mem_writes {h : History} {w : Overwrite} : w ∈ h.writes ↔
    ∃ writes, (.altered writes ∈ h ∨ .reworked writes ∈ h) ∧ w ∈ writes := by
  unfold writes
  rw [List.mem_flatMap]
  constructor
  · rintro ⟨e, he, hw⟩
    cases e with
    | altered writes => exact ⟨writes, Or.inl he, hw⟩
    | reworked writes => exact ⟨writes, Or.inr he, hw⟩
    | appended | recorded | bound | committed => cases hw
  · rintro ⟨writes, he | he, hw⟩
    · exact ⟨_, he, hw⟩
    · exact ⟨_, he, hw⟩

end History

/-- No reference is left that could still be written at an offset. -/
structure Clear (h : History) (i : Nat) : Prop where
  opened : ∀ {before r after}, h.Records before r after → Open r after → ¬ r.Covers i
  kept : ∀ {q}, Kept h q → ¬ q.Covers i

section step

variable {h new : History} {a b : Assembler} {refs : List Reference} {code : Bytes} {i : Nat}

theorem Clear.step (hc : Clear h i) (ht : Tracks h a) (hnext : Tracks (h ++ new) b)
    (hadv : Advances h a new b refs code) (hnew : ¬ new.Touches i) : Clear (h ++ new) i := by
  constructor
  · intro before r after hr ho hi
    rcases History.records_append.mp hr with ⟨tail, hold, rfl⟩ | ⟨mid, -, hfresh⟩
    · exact hc.opened hold ho.of_append hi
    · exact hnew (Or.inl ⟨r, hfresh.mem, hi⟩)
  · intro q hq hi
    rcases hq.of_append ht.orderly hadv.apart with
      ⟨hold | ⟨-, before, r, after, hr, hnot, rfl⟩, -⟩ | ⟨writes, w, hw, hmem, hqw⟩
    · exact hc.kept hold hi
    · have ho : Open r after := by
        by_cases hw : Waits r after
        · exact Or.inl hw
        · exact Or.inr (postponed_of_baseDependent hq.1 hw hnot)
      exact hc.opened hr ho hi
    · -- The field lies in what the alteration has written.
      obtain ⟨hlow, hhigh, -⟩ := (hnext.planted (List.mem_append_right _ hw) w hmem).refs q hqw
      refine hnew (Or.inr ⟨w, History.mem_writes.mpr ⟨writes, Or.inl hw, hmem⟩, ?_⟩)
      exact ⟨Nat.le_trans hlow hi.1, Nat.lt_of_lt_of_le hi.2 hhigh⟩

theorem Clear.image (hc : Clear h i) (hadv : Advances h a new b refs code)
    (hnew : ¬ new.Touches i) (hi : i < a.offset) : b.image[i]? = a.image[i]? := by
  have hpatches : b.image[i]? = code[i]? := by
    rw [hadv.image]
    apply Patch.getElem?_applyAll_outside
    · intro p hp
      obtain ⟨w, hw, rfl⟩ := List.mem_map.mp hp
      exact hadv.fits w hw
    · intro p hp hcov
      obtain ⟨w, hw, rfl⟩ := List.mem_map.mp hp
      exact hnew (Or.inr ⟨w, hw, hcov⟩)
  have hrefs : code[i]? = (a.image ++ new.code)[i]? := by
    apply hadv.resolves.outside
    intro q hq hcov
    rcases (hadv.refs q).mp hq with
      (⟨before, r, tail, hr, ho, -, rfl⟩ | ⟨mid, r, after, hr, -, rfl⟩) | ⟨-, hkept⟩
    · exact hc.opened hr ho hcov
    · exact hnew (Or.inl ⟨r, hr.mem, hcov⟩)
    · exact hc.kept hkept hcov
  rw [hpatches, hrefs, List.getElem?_append_left (a.length_image ▸ hi)]

end step

inductive AlteredFrom : History → Happening → Prop where
  | committed {h c writes m} : Tracks (h ++ [.committed]) c →
      Modifier.Leaves c.modifier writes m → AlteredFrom (h ++ [.committed]) (.altered writes)
  | uncommitted {h a writes m} : Tracks h a →
      ScratchModifier.Leaves a.scratchModifier writes m → AlteredFrom h (.reworked writes)

def Happening.writes? : Happening → Option (List Overwrite)
  | altered writes | reworked writes => some writes
  | _ => none

/-- An alteration is the last thing that happens in its operation. -/
theorem Tracks.alteration {h mid later : History} {a b : Assembler} {op : Operation}
    {e : Happening} {writes : List Overwrite} (ht : Tracks h a) (hb : a.perform op = .ok b)
    (hop : op.happenings a = mid ++ e :: later) (he : e.writes? = some writes) :
    later = [] ∧ (op.happenings a).writes = writes ∧ AlteredFrom (h ++ mid) e := by
  have hmem : e ∈ op.happenings a := hop ▸ List.mem_append_right _ (List.mem_cons_self ..)
  have hother : op.alters = false → False := by
    intro halters
    have hnot := (Operation.happenings_of_not_alters halters a).2 writes
    cases e with
    | altered ws => exact hnot.1 (Option.some.inj he ▸ hmem)
    | reworked ws => exact hnot.2 (Option.some.inj he ▸ hmem)
    | appended | recorded | bound | committed => cases he
  cases op with
  | alter next script =>
    obtain ⟨c, m, ws, hc, hm, hnew, rfl⟩ := Assembler.alter_eq_ok hb
    rw [hnew] at hop ⊢
    rcases mid with _ | ⟨x, _ | ⟨y, mid⟩⟩
    · obtain ⟨rfl, -⟩ := List.cons.inj hop
      cases he
    · obtain ⟨rfl, htail⟩ := List.cons.inj hop
      obtain ⟨rfl, rfl⟩ := List.cons.inj htail
      obtain rfl := Option.some.inj he
      exact ⟨rfl, by simp [History.writes], .committed (ht.commit hc) hm⟩
    · simp at hop
  | alterUncommitted script =>
    obtain ⟨m, ws, hm, hnew, rfl⟩ := Assembler.alterUncommitted_eq_ok hb
    rw [hnew] at hop ⊢
    rcases mid with _ | ⟨x, mid⟩
    · obtain ⟨rfl, rfl⟩ := List.cons.inj hop
      obtain rfl := Option.some.inj he
      rw [List.append_nil]
      exact ⟨rfl, by simp [History.writes], .uncommitted ht hm⟩
    · simp at hop
  | _ => exact (hother rfl).elim

namespace Session

/-- One induction for all that holds ever since an alteration: it is shown for the alteration
itself and for each operation after it. -/
theorem since_alteration {Q : History → Happening → History → Assembler → Prop} (capacity : Nat)
    (ops : List Operation)
    (hnew : ∀ {h mid e writes a op b}, Tracks h a → a.perform op = .ok b →
      op.happenings a = mid ++ [e] → e.writes? = some writes →
      (op.happenings a).writes = writes → AlteredFrom (h ++ mid) e → Q (h ++ mid) e [] b)
    (hold : ∀ {before e later writes a op b}, Tracks (before ++ e :: later) a →
      e.writes? = some writes → Q before e later a → a.perform op = .ok b →
      Q before e (later ++ op.happenings a) b)
    {before later : History} {e : Happening} {writes : List Overwrite}
    (hh : ((start capacity).run ops).history = before ++ e :: later)
    (he : e.writes? = some writes) : Q before e later ((start capacity).run ops).assembler := by
  suffices hrun : Tracks ((start capacity).run ops).history ((start capacity).run ops).assembler ∧
      ∀ {before e later writes}, ((start capacity).run ops).history = before ++ e :: later →
        e.writes? = some writes → Q before e later ((start capacity).run ops).assembler from
    hrun.2 hh he
  refine run_induction (P := fun s => Tracks s.history s.assembler ∧
    ∀ {before e later writes}, s.history = before ++ e :: later → e.writes? = some writes →
      Q before e later s.assembler) ?_ ?_
  · refine ⟨Tracks.start capacity, ?_⟩
    intro before e later writes hh
    simp [start] at hh
  · rintro s op b - ⟨ht, hs⟩ hb
    refine ⟨ht.perform hb, ?_⟩
    intro before e later writes hh he
    rcases History.append_eq_append_cons.mp hh with ⟨tail, hsplit, rfl⟩ | ⟨mid, rfl, hop⟩
    · exact hold (hsplit ▸ ht) he (hs hsplit he) hb
    · obtain ⟨rfl, hwrites, hfrom⟩ := ht.alteration hb hop he
      exact hnew ht hb hop he hwrites hfrom

theorem alteredFrom (capacity : Nat) (ops : List Operation) {before later : History}
    {e : Happening} {writes : List Overwrite}
    (hh : ((start capacity).run ops).history = before ++ e :: later)
    (he : e.writes? = some writes) : AlteredFrom before e :=
  since_alteration (Q := fun before e _ _ => AlteredFrom before e) capacity ops
    (fun _ _ _ _ _ hfrom => hfrom) (fun _ _ hfrom _ => hfrom) hh he

theorem altered_of_touches (capacity : Nat) (ops : List Operation) {before later : History}
    {writes : List Overwrite} {w : Overwrite} {i : Nat}
    (hh : ((start capacity).run ops).history = before ++ .altered writes :: later)
    (hw : w ∈ writes) (hi : w.Covers i) (htouch : later.Touches i) :
    ∃ vs, .altered vs ∈ later ∧ ∃ v ∈ vs, v.Covers i := by
  refine since_alteration (Q := fun _ e later _ => e = .altered writes → later.Touches i →
    ∃ vs, .altered vs ∈ later ∧ ∃ v ∈ vs, v.Covers i) capacity ops ?_ ?_ hh rfl rfl htouch
  · rintro h mid e ws a op b - - - - - - - (⟨r, hr, -⟩ | ⟨v, hv, -⟩)
    · cases hr
    · cases hv
  · rintro before e later ws a op b ht - hold hb rfl htouch
    rcases History.touches_append.mp htouch with htouch | htouch
    · obtain ⟨vs, hvs, hv⟩ := hold rfl htouch
      exact ⟨vs, List.mem_append_left _ hvs, hv⟩
    obtain ⟨refs, code, hadv⟩ := Advances.perform ht hb
    have hfits := ht.planted (List.mem_append_right _ (List.mem_cons_self ..)) w hw
    have hlt : i < a.committed := Nat.lt_of_lt_of_le hi.2 hfits.within
    rcases htouch with ⟨r, hr, hc⟩ | ⟨v, hv, hc⟩
    · exact absurd (Nat.le_trans (hadv.recorded r hr) hc.1) (Nat.not_le.mpr hlt)
    · obtain ⟨vs, hvs | hvs, hmem⟩ := History.mem_writes.mp hv
      · exact ⟨vs, List.mem_append_right _ hvs, v, hmem, hc⟩
      · exact absurd (Nat.le_trans (hadv.reworked vs hvs v hmem) hc.1) (Nat.not_le.mpr hlt)

/-- What an alteration has written last stays, if no reference was left then that could still be
written there and nothing has touched it since. -/
theorem image_of_last_write (capacity : Nat) (ops : List Operation) {before later : History}
    {e : Happening} {first rest : List Overwrite} {w : Overwrite} {i : Nat}
    (hh : ((start capacity).run ops).history = before ++ e :: later)
    (he : e.writes? = some (first ++ w :: rest)) (hw : w.Covers i)
    (hrest : ∀ v ∈ rest, ¬ v.Covers i) (hclear : Clear (before ++ [e]) i)
    (hlater : ¬ later.Touches i) :
    ((start capacity).run ops).assembler.image[i]? = w.data[i - w.start]? := by
  suffices hrun : Clear (before ++ e :: later) i ∧
      i < ((start capacity).run ops).assembler.offset ∧
      ((start capacity).run ops).assembler.image[i]? = w.data[i - w.start]? from hrun.2.2
  refine since_alteration (Q := fun before e later a => e.writes? = some (first ++ w :: rest) →
    Clear (before ++ [e]) i → ¬ later.Touches i → Clear (before ++ e :: later) i ∧ i < a.offset ∧
      a.image[i]? = w.data[i - w.start]?) capacity ops ?_ ?_ hh he he hclear hlater
  · rintro h mid e writes a op b ht hb - he' hwrites - he hclear -
    obtain rfl := Option.some.inj (he.symm.trans he')
    obtain ⟨refs, code, hadv⟩ := Advances.perform ht hb
    have hfits := hadv.fits
    have himage := hadv.image
    rw [hwrites] at hfits himage
    have hwithin : ∀ p ∈ (first ++ w :: rest).map Overwrite.patch, p.Within code.length := by
      intro p hp
      obtain ⟨v, hv, rfl⟩ := List.mem_map.mp hp
      exact hfits v hv
    refine ⟨hclear, ?_, ?_⟩
    · have hlen : b.offset = code.length := by
        rw [← b.length_image, himage, Patch.length_applyAll hwithin]
      rw [hlen]
      exact Nat.lt_of_lt_of_le hw.2 (hfits w (by simp))
    · have hpatch : Patch.Covers w.patch i := hw
      rw [List.map_append, List.map_cons] at hwithin himage
      rw [himage]
      refine Patch.getElem?_applyAll_last hwithin hpatch ?_
      intro p hp
      obtain ⟨v, hv, rfl⟩ := List.mem_map.mp hp
      exact hrest v hv
  · rintro before e later writes a op b ht - hold hb he hclear hlater
    rw [History.touches_append, not_or] at hlater
    obtain ⟨hclear, hlt, hi⟩ := hold he hclear hlater.1
    obtain ⟨refs, code, hadv⟩ := Advances.perform ht hb
    have hnext := ht.perform hb
    refine ⟨?_, ?_, ?_⟩
    · have hstep := hclear.step ht hnext hadv hlater.2
      rwa [List.append_assoc] at hstep
    · rw [← hnext.length, History.code_append, List.length_append, ht.length]
      exact Nat.lt_add_right _ hlt
    · rw [hclear.image hadv hlater.2 hlt, hi]

end Session

end MachineCode
