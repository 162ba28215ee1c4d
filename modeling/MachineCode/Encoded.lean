import MachineCode.Bytes
import MachineCode.Target

/-!
What an encoder makes of an instruction: its bytes, and the references whose fields are still to
be filled in. Also the ways in which it can refuse, which every instruction set shares.
-/
namespace MachineCode

/-- A use of a target by the bytes that end where the reference is anchored. -/
structure Ref (ρ : Type) where
  target : Target
  addend : Int64
  rel : ρ
  deriving DecidableEq, Repr

structure Encoded (ρ : Type) where
  code : Bytes
  refs : List (Ref ρ)
  deriving DecidableEq, Repr

def Encoded.mapRel {ρ σ : Type} (f : ρ → σ) (e : Encoded ρ) : Encoded σ :=
  ⟨e.code, e.refs.map fun r => ⟨r.target, r.addend, f r.rel⟩⟩

/-- An operand as the caller wrote it: one of the instruction set, or a value of another type,
known by the name of that type. -/
inductive Given (α : Type) where
  | operand (a : α)
  | foreign (type : String)
  deriving DecidableEq, Repr

def Given.all {α : Type} (args : List (Given α)) : Except (Nat × String) (List α) :=
  go 0 args
where
  go (i : Nat) : List (Given α) → Except (Nat × String) (List α)
    | [] => .ok []
    | .foreign type :: _ => .error (i, type)
    | .operand a :: rest => (go (i + 1) rest).map (a :: ·)

theorem Given.eq_map_of_all {α : Type} {given : List (Given α)} {ops : List α}
    (h : Given.all given = .ok ops) : given = ops.map .operand := by
  unfold Given.all at h
  generalize 0 = i at h
  induction given generalizing i ops with
  | nil =>
    cases h
    rfl
  | cons g given ih =>
    cases g with
    | foreign type => cases h
    | operand a =>
      rw [Given.all.go] at h
      cases hrest : Given.all.go (i + 1) given with
      | error e =>
        rw [hrest] at h
        cases h
      | ok rest =>
        rw [hrest] at h
        cases h
        rw [List.map_cons, ← ih _ hrest]

theorem Given.all_map_operand {α : Type} (ops : List α) :
    Given.all (ops.map .operand) = .ok ops := by
  unfold Given.all
  generalize 0 = i
  induction ops generalizing i with
  | nil => rfl
  | cons a ops ih =>
    rw [List.map_cons, Given.all.go, ih]
    rfl

def distinct (xs : List String) : List String :=
  xs.foldl (fun seen x => if seen.contains x then seen else seen ++ [x]) []

inductive EncodeFault where
  /-- The operands fit none of the listed forms of the mnemonic. -/
  | forms (mnemonic : String) (forms : List String)
  | operandMismatch
  | unknownMnemonic
  | immediateOutOfRange
  | invalidRegister
  | misalignedTarget
  | other
  deriving DecidableEq, Repr

/-- The words of a refusal, without those of its occasion. -/
def EncodeFault.message : EncodeFault → String
  | forms mnemonic [] => mnemonic ++ ": no matching instruction encoding"
  | forms mnemonic fs =>
    mnemonic ++ ": no matching instruction encoding; expected one of:\n\t" ++
      String.intercalate "\n\t" fs
  | operandMismatch => "no matching instruction encoding"
  | unknownMnemonic => "unknown mnemonic"
  | immediateOutOfRange => "immediate out of range"
  | invalidRegister => "invalid register"
  | misalignedTarget => "misaligned target"
  | other => ""

end MachineCode
