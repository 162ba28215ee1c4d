import MachineCode.Proofs.LiveRuns

/-!
Every access is in range. Whatever was done before, and whether it failed or not, the code fits
into its region, all that an assembler keeps lies where it should, and so no operation reads or
writes outside of the bytes that exist.
-/
namespace MachineCode

namespace Session

theorem minCapacity_run (capacity : Nat) (ops : List Operation) :
    ((start capacity).run ops).assembler.minCapacity = capacity :=
  run_induction (P := fun s => s.assembler.minCapacity = capacity) rfl
    fun _ hs hb => (Assembler.perform_grows hb).1.trans hs

theorem lookup_run {s : Session} {t : Target} {offset : Nat} (ht : ∀ name, t ≠ .backward name)
    (h : s.assembler.labels.lookup t = some offset) (more : List Operation) :
    (s.run more).assembler.labels.lookup t = some offset :=
  run_induction (P := fun s => s.assembler.labels.lookup t = some offset) h
    fun _ hs hb => (Assembler.perform_relabels hb).kept t offset ht hs

end Session

namespace Live

structure Secure (capacity : Nat) (x : Live) : Prop where
  /-- Code, references and labels lie where they should. -/
  bounds : x.assembler.InBounds
  /-- Every operation comes to an outcome, so it never reaches for bytes that do not exist. -/
  defined : ∀ op, ∃ result y, (execute op).outcome x = some (result, y)
  /-- A region that the code outgrows is left for one of at least twice the capacity. -/
  grows : ∀ op b, x.assembler.perform op = .ok b → x.assembler.Grows b
  minimum : x.assembler.minCapacity = capacity
  /-- No global or dynamic label is bound again. -/
  bound_once : ∀ more t offset, (∀ name, t ≠ .backward name) →
    x.assembler.labels.lookup t = some offset →
    (x.run more).assembler.labels.lookup t = some offset
  /-- A commit leaves no reference open. -/
  settled : ∀ next b, x.assembler.perform (.commit next) = .ok b →
    b.pending = [] ∧ b.labels.waiting = []

theorem reachable_secure (capacity : Nat) (ops : List Operation) :
    ((start capacity).run ops).assembler = ((Session.start capacity).run ops).assembler ∧
      Secure capacity ((start capacity).run ops) := by
  have hfollows := (follows_start capacity).run ops
  have hbounds : ((start capacity).run ops).assembler.InBounds := hfollows.same ▸ hfollows.bounds
  refine ⟨hfollows.same, hbounds, ?_, ?_, ?_, ?_, ?_⟩
  · intro op
    obtain ⟨y, hy, -⟩ := execute_agrees hbounds hfollows.full op
    exact ⟨_, y, hy⟩
  · intro op b hb
    exact (Assembler.perform_grows hb).2
  · rw [hfollows.same]
    exact Session.minCapacity_run capacity ops
  · intro more t offset ht h
    rw [hfollows.same] at h
    rw [(hfollows.run more).same]
    exact Session.lookup_run ht h more
  · intro next b hb
    obtain ⟨refs, moved, hc⟩ := Assembler.commit_eq_ok hb
    exact ⟨hc.pending, hc.labels ▸ hc.waiting⟩

end Live

end MachineCode
