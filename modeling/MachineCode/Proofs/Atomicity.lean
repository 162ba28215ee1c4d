import MachineCode.Proofs.LiveRuns
import MachineCode.Proofs.Refusals

/-!
Failures leave nothing behind. An operation or edit that fails, wherever it stops, leaves the
assembler or the modifier as it was; a commit reports every reference that stands in its way.
-/
namespace MachineCode

namespace Live

/-- Every operation either does all that it should or fails and leaves the assembler as it was,
wherever it has stopped; so does every edit with the modifier that it works on. A commit that
fails says all that stands in its way, unless the assembler is no longer open. -/
structure FailsCleanly (x : Live) : Prop where
  succeeds : ∀ op b, x.assembler.perform op = .ok b →
    ∃ y, (execute op).outcome x = some (.ok (), y) ∧ y.assembler = b
  fails : ∀ op f, x.assembler.perform op = .error f →
    ∃ y, (execute op).outcome x = some (.error f, y) ∧ y.assembler = x.assembler
  edit : ∀ (m : Modifier) e f, m.apply e = .error f →
    (Modifier.execute e).outcome m = some (.error f, m)
  scratchEdit : ∀ (m : ScratchModifier) e f, m.apply e = .error f →
    (ScratchModifier.execute e).outcome m = some (.error f, m)
  reports : x.assembler.isOpen = true → ∀ next f, x.assembler.perform (.commit next) = .error f →
    x.assembler.Reports next f
  finalized : x.assembler.isOpen = false → ∀ next f, x.assembler.perform (.commit next) = .error f →
    f = .one .finalized

theorem failed_operations_leave_all (capacity : Nat) (ops : List Operation) :
    ((start capacity).run ops).assembler = ((Session.start capacity).run ops).assembler ∧
      FailsCleanly ((start capacity).run ops) := by
  have hfollows := (follows_start capacity).run ops
  have hagrees := execute_agrees (hfollows.same ▸ hfollows.bounds) hfollows.full
  refine ⟨hfollows.same, ?_, ?_, ?_, ?_, ?_, ?_⟩
  · intro op b hb
    obtain ⟨y, hy, -, he⟩ := hagrees op
    rw [hb] at hy he
    exact ⟨y, hy, he⟩
  · intro op f hf
    obtain ⟨y, hy, -, he⟩ := hagrees op
    rw [hf] at hy he
    exact ⟨y, hy, he⟩
  · intro m e f hf
    rw [Modifier.outcome_execute, hf]
    rfl
  · intro m e f hf
    rw [ScratchModifier.outcome_execute, hf]
    rfl
  · intro ho next f hf
    rcases Assembler.commit_eq_error hf with ⟨hclosed, -⟩ | ⟨-, hreports⟩
    · rw [hclosed] at ho
      cases ho
    · exact hreports
  · intro hc next f hf
    rcases Assembler.commit_eq_error hf with ⟨-, rfl⟩ | ⟨hopen, -⟩
    · rfl
    · rw [hc] at hopen
      cases hopen

def farOps : List Operation :=
  [.extend [0x90], .commit 0x1000,
    .append ⟨[0xeb, 0], [⟨.external 0x10000, 0, some (.x86 ⟨0, 1, .relative⟩)⟩]⟩]

-- The commit fails after the jump has been put into the live region, where it is left lying.
example :
    ((start 0).run farOps).slack.take 2 = [0, 0] ∧
    (((start 0).run farOps).step (.commit 0x2000)).slack.take 2 = [0xeb, 0] ∧
    (((start 0).run farOps).step (.commit 0x2000)).assembler =
      ((start 0).run farOps).assembler := by
  decide +kernel

def closedOps : List Operation :=
  [.append ⟨[0xe8, 0, 0, 0, 0], [⟨.global "callee", 0, some (.x86 ⟨0, 4, .relative⟩)⟩]⟩, .close]

/-- A closed assembler turns a commit away without a look at its references. -/
theorem counterexample_closed : ∃ f,
    ((Session.start 4096).run closedOps).assembler.commit 0x1000 = .error f ∧
      ((Session.start 4096).run closedOps).assembler.lost.length = 1 ∧
      ¬ ((Session.start 4096).run closedOps).assembler.Reports 0x1000 f := by
  refine ⟨.one .finalized, ?_, by decide +kernel, fun h => nomatch h⟩
  have hclosed : ((Session.start 4096).run closedOps).assembler.isOpen = false := by decide +kernel
  rw [Assembler.commit, Assembler.whenOpen, hclosed]
  rfl

end Live

end MachineCode
