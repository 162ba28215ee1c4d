import MachineCode.AArch64.Instructions.General

/-!
Loads and stores of one register and of pairs, and exclusive and ordered accesses.
-/
namespace MachineCode.AArch64.Instructions

/-- A load or store of one register. Its addressing forms are derived from the bits of the form
with an unsigned scaled offset. -/
structure Access where
  name : String
  reg : Slot
  scaled : Word
  /-- The logarithm of the access size. -/
  scale : Nat
  /-- The bits of the form that reads from a label. -/
  literal : Option Word := none

def Access.unscaled (a : Access) : Word := a.scaled &&& ~~~(1#32 <<< 24)

/-- The mnemonic that always means the unscaled form. -/
def Access.unscaledName (a : Access) : String :=
  String.ofList (a.name.toList.take 2 ++ 'u' :: a.name.toList.drop 2)

/-- All forms. An offset that is negative or no multiple of the access size falls back to the
unscaled form. -/
def Access.entries (a : Access) : List Entry :=
  let plain : Template := ⟨a.unscaled, [a.reg, .memImm], [rd, rn, simm 12 9 0]⟩
  named a.name
    [⟨a.scaled, [a.reg, .memU12 a.scale], [rd, rn, uimm 10 12 a.scale]⟩,
      ⟨a.unscaled ||| 0xc00, [a.reg, .memPre], [rd, rn, simm 12 9 0]⟩,
      ⟨a.unscaled ||| 0x400, [a.reg, .memPost], [rd, rn, simm 12 9 0]⟩,
      ⟨a.unscaled ||| 0x200800, [a.reg, .memIdx], [rd, rn, .memIndex a.scale]⟩] ++
  (match a.literal with
    | some base => [⟨a.name, ⟨base, [a.reg, .label], [rd, .rel .condBranch]⟩⟩]
    | none => []) ++
  [⟨a.name, plain⟩, ⟨a.unscaledName, plain⟩]

def accesses : List Access :=
  [⟨"ldr", .gpW, 0xb9400000, 2, some 0x18000000⟩,
    ⟨"ldr", .gpX, 0xf9400000, 3, some 0x58000000⟩,
    ⟨"ldr", .fpB, 0x3d400000, 0, none⟩,
    ⟨"ldr", .fpH, 0x7d400000, 1, none⟩,
    ⟨"ldr", .fpS, 0xbd400000, 2, some 0x1c000000⟩,
    ⟨"ldr", .fpD, 0xfd400000, 3, some 0x5c000000⟩,
    ⟨"ldr", .fpQ, 0x3dc00000, 4, some 0x9c000000⟩,
    ⟨"str", .gpW, 0xb9000000, 2, none⟩,
    ⟨"str", .gpX, 0xf9000000, 3, none⟩,
    ⟨"str", .fpB, 0x3d000000, 0, none⟩,
    ⟨"str", .fpH, 0x7d000000, 1, none⟩,
    ⟨"str", .fpS, 0xbd000000, 2, none⟩,
    ⟨"str", .fpD, 0xfd000000, 3, none⟩,
    ⟨"str", .fpQ, 0x3d800000, 4, none⟩,
    ⟨"ldrb", .gpW, 0x39400000, 0, none⟩,
    ⟨"strb", .gpW, 0x39000000, 0, none⟩,
    ⟨"ldrh", .gpW, 0x79400000, 1, none⟩,
    ⟨"strh", .gpW, 0x79000000, 1, none⟩,
    ⟨"ldrsb", .gpW, 0x39c00000, 0, none⟩,
    ⟨"ldrsb", .gpX, 0x39800000, 0, none⟩,
    ⟨"ldrsh", .gpW, 0x79c00000, 1, none⟩,
    ⟨"ldrsh", .gpX, 0x79800000, 1, none⟩,
    ⟨"ldrsw", .gpX, 0xb9800000, 2, some 0x98000000⟩]

def pairForms (name : String) (reg : Slot) (plain pre post : Word) (scale : Nat) : List Entry :=
  named name
    [⟨plain, [reg, reg, .memImm], [rd, ra, rn, simm 15 7 scale]⟩,
      ⟨pre, [reg, reg, .memPre], [rd, ra, rn, simm 15 7 scale]⟩,
      ⟨post, [reg, reg, .memPost], [rd, ra, rn, simm 15 7 scale]⟩]

def pairOf (name : String) (reg : Slot) (base : Word) (scale : Nat) : List Entry :=
  pairForms name reg base (base ||| (1 <<< 23))
    ((base &&& ~~~(1#32 <<< 24)) ||| (1 <<< 23)) scale

def pairs : List Entry :=
  ([(.gpW, 0x29000000, 2), (.gpX, 0xa9000000, 3), (.fpS, 0x2d000000, 2), (.fpD, 0x6d000000, 3),
      (.fpQ, 0xad000000, 4)] : List (Slot × Word × Nat)).flatMap (fun (reg, base, scale) =>
    pairOf "stp" reg base scale ++ pairOf "ldp" reg (base ||| (1 <<< 22)) scale) ++
  pairForms "ldpsw" .gpX 0x69400000 0x69c00000 0x68c00000 2

def bare (name : String) (base32 base64 : Word) : List Entry :=
  named name
    [⟨base32, [.gpW, .memBase], [rd, rn]⟩, ⟨base64, [.gpX, .memBase], [rd, rn]⟩]

def reporting (name : String) (base32 base64 : Word) : List Entry :=
  named name
    [⟨base32, [.gpW, .gpW, .memBase], [rm, rd, rn]⟩, ⟨base64, [.gpW, .gpX, .memBase], [rm, rd, rn]⟩]

def memory : List Entry :=
  accesses.flatMap (·.entries) ++ pairs ++ bare "ldxr" 0x885f7c00 0xc85f7c00 ++
    bare "ldaxr" 0x885ffc00 0xc85ffc00 ++ reporting "stxr" 0x88007c00 0xc8007c00 ++
    reporting "stlxr" 0x8800fc00 0xc800fc00 ++ bare "ldar" 0x88dffc00 0xc8dffc00 ++
    bare "stlr" 0x889ffc00 0xc89ffc00

end MachineCode.AArch64.Instructions
