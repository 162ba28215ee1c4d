import MachineCode.Writer
import MachineCode.Proofs.Bytes
import MachineCode.Proofs.Rewriting
import MachineCode.Proofs.Patching
import MachineCode.Proofs.Session
import MachineCode.Proofs.Effects
import MachineCode.Proofs.Scripts
import MachineCode.Proofs.Histories
import MachineCode.Proofs.Tracking
import MachineCode.Proofs.Upkeep
import MachineCode.Proofs.Images
import MachineCode.Proofs.Relocation
import MachineCode.Proofs.Persistence
import MachineCode.Proofs.Alterations
import MachineCode.Proofs.Regions
import MachineCode.Proofs.Bounds
import MachineCode.Proofs.Execution
import MachineCode.Proofs.Edits
import MachineCode.Proofs.Agreement
import MachineCode.Proofs.LiveRuns
import MachineCode.Proofs.Refusals
import MachineCode.Proofs.Atomicity
import MachineCode.Proofs.Safety
import MachineCode.Proofs.Schedules
import MachineCode.Proofs.Acceptance
import MachineCode.Proofs.Deferral
import MachineCode.Proofs.Lockstep
import MachineCode.Proofs.Unresolvable
import MachineCode.Proofs.Answers
import MachineCode.Proofs.EagerPatching
import MachineCode.Proofs.Lifetimes
import MachineCode.Proofs.Ledgers
import MachineCode.Proofs.Overwriting
import MachineCode.Proofs.AArch64.Lossless
import MachineCode.Proofs.AArch64.StackPointer
import MachineCode.Proofs.AArch64.Moves
import MachineCode.Proofs.AArch64.Bitfields
import MachineCode.Proofs.AArch64.Patterns
import MachineCode.Proofs.AArch64.Addresses
import MachineCode.Proofs.AArch64.Transfers
import MachineCode.Proofs.AArch64.VectorShapes
import MachineCode.Proofs.AArch64.Displacements
import MachineCode.Proofs.Riscv.Profiles
import MachineCode.Proofs.Riscv.Execution
import MachineCode.Proofs.Riscv.StackFrames
import MachineCode.Proofs.Riscv.SplitPairs
import MachineCode.Proofs.X86.Addresses
import MachineCode.Proofs.X86.Frames
import MachineCode.Proofs.X86.AddressBytes
import MachineCode.Proofs.X86.EffectiveAddresses
import MachineCode.Proofs.X86.Families
import MachineCode.Proofs.X86.OperandOrder
import MachineCode.Proofs.X86.Shapes
import MachineCode.Proofs.X86.Modes
import MachineCode.Proofs.X86.WideOperands
import MachineCode.Proofs.X86.Accesses
import MachineCode.Proofs.X86.References
import MachineCode.Proofs.X86.FeatureSets
import MachineCode.Proofs.X86.FieldValues
import MachineCode.Proofs.X86.Immediates
import MachineCode.Proofs.X86.ShortImmediates
import MachineCode.Proofs.X86.Lengths
import MachineCode.Proofs.Alignment
