import MachineCode.Proofs.X86.Search
import MachineCode.Writer

/-!
Operands in the usual orders. They are put into the scratch without a check, at places that the
shape knows, and what comes of them is what comes of the same operands in a list.
-/
namespace MachineCode.X86

variable {inst : Inst}

theorem Shape.length_operands_le (s : Shape) : s.operands.length ≤ 3 := by
  have hconstant : (s.constant?.map (·.operand)).toList.length ≤ 1 := by
    cases s.constant? <;> simp
  have hplaces : s.places.length ≤ 2 := by
    cases s <;> simp [places]
  rw [operands, List.length_append]
  omega

/-- Taken in one by one, the operands fill the scratch as the shape does. -/
theorem fill_ofShape (inst : Inst) (s : Shape) :
    Scratch.fill { inst } (s.operands.map some) = .ok (.ofShape inst s) := by
  cases s with
  | regReg dst src c | regMem dst src c | memReg dst src c => rcases c with _ | _ | _ <;> rfl
  | reg dst c | mem dst c => rcases c with _ | _ | _ <;> rfl

theorem hold_ofShape (hknown : inst.isKnown = true) (s : Shape) :
    Scratch.hold inst (s.operands.map some) = .ok (.ofShape inst s) := by
  have hlength : ¬ 4 < (s.operands.map some).length := by
    have := s.length_operands_le
    rw [List.length_map]
    omega
  unfold Scratch.hold
  dsimp only
  rw [hknown, Bool.not_true, if_neg Bool.false_ne_true, if_neg hlength]
  exact fill_ofShape inst s

theorem findShape_eq (hknown : inst.isKnown = true) (c : Matcher) (s : Shape) :
    c.findShape inst s = c.find inst (s.operands.map some) := by
  unfold Matcher.findShape Matcher.find
  rw [hold_ofShape hknown, ok_bind]

theorem encodeShape_eq (hknown : inst.isKnown = true) (e : Encoder) (s : Shape) :
    e.encodeShape inst s = e.encodeInst 0 inst (s.operands.map some) := by
  unfold Encoder.encodeShape Encoder.encodeInst
  rw [findShape_eq hknown]

/-- An assembler of x86 instructions. Its encoder holds the last match until that is emitted, and
the first error stays until it is cleared. -/
structure InstWriter where
  matcher : Matcher
  held : Option Match := none
  assembler : Assembler := {}
  error? : Option Failure := none
  deriving DecidableEq

namespace InstWriter

def keep (a : InstWriter) : Except Refusal Match → InstWriter × Option Refusal
  | .ok m => ({ a with held := some m }, none)
  | .error r => ({ a with held := none }, some r)

def matchList (a : InstWriter) (inst : Inst) (args : List (Option Operand)) :
    InstWriter × Option Refusal :=
  a.keep (a.matcher.find inst args)

def matchShape (a : InstWriter) (inst : Inst) (s : Shape) : InstWriter × Option Refusal :=
  a.keep (a.matcher.findShape inst s)

def emit (a : InstWriter) (b : UInt8) : InstWriter × Option Failure :=
  match MachineCode.Encoder.ofX86 ((a.held.getD (.unused a.matcher.mode)).emit b) with
  | .error e => ({ a with held := none }, some (.one e))
  | .ok code =>
    match a.assembler.append code with
    | .error f => ({ a with held := none }, some f)
    | .ok assembler => ({ a with held := none, assembler }, none)

def remember : InstWriter × Option Failure → InstWriter × Option Failure
  | (a, failure?) => ({ a with error? := failure? }, failure?)

def encodeInst (a : InstWriter) (b : UInt8) (inst : Inst) (args : List (Option Operand)) :
    InstWriter × Option Failure :=
  match a.matchList inst args with
  | (a, some r) => (a, some (.one (.x86 (r.listForms inst))))
  | (a, none) => a.emit b

def listed (a : InstWriter) (inst : Inst) (args : List (Option Operand)) :
    InstWriter × Option Failure :=
  match a.error? with
  | some f => (a, some f)
  | none => remember (a.encodeInst 0 inst args)

def matched (inst : Inst) : InstWriter × Option Refusal → InstWriter × Option Failure
  | (a, some r) =>
    let f := Failure.one (.x86 (r.listForms inst))
    ({ a with error? := some f }, some f)
  | (a, none) =>
    let (a, failure?) := a.emit 0
    ({ a with error? := failure? }, failure?)

def shaped (a : InstWriter) (inst : Inst) (s : Shape) : InstWriter × Option Failure :=
  match a.error? with
  | some f => (a, some f)
  | none => matched inst (a.matchShape inst s)

def writer (a : InstWriter) : Writer :=
  { encoder := some (.x86 a.matcher), assembler := a.assembler, error? := a.error? }

theorem matchShape_eq (hknown : inst.isKnown = true) (a : InstWriter) (s : Shape) :
    a.matchShape inst s = a.matchList inst (s.operands.map some) := by
  unfold matchShape matchList
  rw [findShape_eq hknown]

/-- One way lets the match fail and then the encoder, the other remembers each failure where it
occurs. -/
theorem matched_eq (a : InstWriter) (inst : Inst) (args : List (Option Operand)) :
    matched inst (a.matchList inst args) = remember (a.encodeInst 0 inst args) := by
  unfold encodeInst
  rcases a.matchList inst args with ⟨b, _ | r⟩
  · rfl
  · rfl

theorem shaped_eq (hknown : inst.isKnown = true) (a : InstWriter) (s : Shape) :
    a.shaped inst s = a.listed inst (s.operands.map some) := by
  unfold shaped listed
  rw [matchShape_eq hknown, matched_eq]

theorem writer_listed (a : InstWriter) (i : Inst) (args : List (Option Operand)) :
    ((a.listed i args).1.writer, (a.listed i args).2) =
      a.writer.inst (MachineCode.Encoder.ofX86 (Encoder.encodeInst a.matcher 0 i args)) := by
  obtain ⟨c, held, assembler, error?⟩ := a
  unfold listed encodeInst matchList Encoder.encodeInst Writer.inst Writer.step
  dsimp only [writer]
  cases error? with
  | some f => rfl
  | none =>
    cases c.find i args with
    | error r => rfl
    | ok m =>
      rw [show (Except.ok m : Except Refusal Match).mapError (·.listForms i) = .ok m from rfl,
        ok_bind]
      dsimp only [keep, emit, Option.getD_some]
      cases MachineCode.Encoder.ofX86 (m.emit 0) with
      | error e => rfl
      | ok code =>
        dsimp only
        cases assembler.append code <;> rfl

end InstWriter

/-- Operands in one of the usual orders, with or without a constant, are matched as the list of
them is, with the same form, sizes and operands or the same refusal. A writer comes to the same
code, references and first error, and an assembler, which either searches and emits in one go or
emits what was matched before, to the same state and failure. -/
theorem shapes_agree_with_lists (hknown : inst.isKnown = true) (c : Matcher) (s : Shape)
    (w : Writer) (a : InstWriter) :
    (c.findShape inst s = c.find inst (s.operands.map some) ∧
      w.inst (MachineCode.Encoder.ofX86 (Encoder.encodeShape c inst s)) =
        w.inst (MachineCode.Encoder.ofX86 (Encoder.encodeInst c 0 inst (s.operands.map some)))) ∧
    a.matchShape inst s = a.matchList inst (s.operands.map some) ∧
    a.shaped inst s = a.listed inst (s.operands.map some) ∧
    ((a.shaped inst s).1.writer, (a.shaped inst s).2) =
      a.writer.inst (MachineCode.Encoder.ofX86 (Encoder.encodeShape a.matcher inst s)) :=
  ⟨⟨findShape_eq hknown c s, by rw [encodeShape_eq hknown]⟩, a.matchShape_eq hknown s,
    a.shaped_eq hknown s, by rw [a.shaped_eq hknown, a.writer_listed, encodeShape_eq hknown]⟩

def storeNumber : Shape := .mem { base := some (.make .legacy 8 3), width := 4 } (some (.imm ⟨5, 4⟩))

def moveNarrow : Shape := .regReg (.make .legacy 1 0) (.make .legacy 8 3) none

def unwritten : InstWriter := { matcher := ⟨.x64, .everything⟩ }

def written : InstWriter := (unwritten.shaped ⟨0x32da02d1⟩ storeNumber).1

def stopped : InstWriter := (written.shaped ⟨0x32da02d1⟩ moveNarrow).1

/-- `mov dword [rbx], 5` is appended either way. A move that no row has becomes the first error,
which the next instruction meets. -/
theorem shapes_agree_with_lists_store :
    (⟨0x32da02d1⟩ : Inst).isKnown = true ∧
      Matcher.findShape ⟨.x64, .everything⟩ ⟨0x32da02d1⟩ storeNumber =
        Matcher.find ⟨.x64, .everything⟩ ⟨0x32da02d1⟩ (storeNumber.operands.map some) ∧
      (∀ w : Writer,
        w.inst (MachineCode.Encoder.ofX86
            (Encoder.encodeShape ⟨.x64, .everything⟩ ⟨0x32da02d1⟩ storeNumber)) =
          w.inst (MachineCode.Encoder.ofX86 (Encoder.encodeInst ⟨.x64, .everything⟩ 0 ⟨0x32da02d1⟩
            (storeNumber.operands.map some)))) ∧
      written.assembler.scratch = [0xc7, 0x03, 0x05, 0x00, 0x00, 0x00] ∧
      unwritten.shaped ⟨0x32da02d1⟩ storeNumber = (written, none) ∧
      unwritten.listed ⟨0x32da02d1⟩ (storeNumber.operands.map some) = (written, none) ∧
      ∃ f : Failure, written.shaped ⟨0x32da02d1⟩ moveNarrow = (stopped, some f) ∧
        written.listed ⟨0x32da02d1⟩ (moveNarrow.operands.map some) = (stopped, some f) ∧
        stopped.shaped ⟨0x32da02d1⟩ storeNumber = (stopped, some f) ∧
        stopped.listed ⟨0x32da02d1⟩ (storeNumber.operands.map some) = (stopped, some f) := by
  have hknown : (⟨0x32da02d1⟩ : Inst).isKnown = true := by decide +kernel
  have hagree := shapes_agree_with_lists hknown ⟨.x64, .everything⟩
  have hstored : unwritten.shaped ⟨0x32da02d1⟩ storeNumber = (written, none) := by decide +kernel
  have hrefused : written.shaped ⟨0x32da02d1⟩ moveNarrow =
      (stopped, some (stopped.error?.getD (.many []))) := by decide +kernel
  have hstays : stopped.shaped ⟨0x32da02d1⟩ storeNumber =
      (stopped, some (stopped.error?.getD (.many []))) := by decide +kernel
  exact ⟨hknown, (hagree storeNumber unwritten.writer unwritten).1.1,
    fun w => (hagree storeNumber w unwritten).1.2, by decide +kernel, hstored,
    (hagree storeNumber unwritten.writer unwritten).2.2.1.symm.trans hstored, _, hrefused,
    (hagree moveNarrow unwritten.writer written).2.2.1.symm.trans hrefused, hstays,
    (hagree storeNumber unwritten.writer stopped).2.2.1.symm.trans hstays⟩

end MachineCode.X86
