import MachineCode.AArch64.Instructions.General

/-!
Floating point and vector instructions.
-/
namespace MachineCode.AArch64.Instructions

/-- Both precisions of each form, form by form; the second word is the precision's bit. -/
def bothFloats (name : String) (forms : List (Slot → Word → Template)) : List Entry :=
  forms.flatMap fun f => [⟨name, f .fpS 0⟩, ⟨name, f .fpD (1 <<< 22)⟩]

def floatFamily (rows : List (String × Word)) (shape : Word → Slot → Word → Template) :
    List Entry :=
  rows.flatMap fun (name, base) => bothFloats name [shape base]

def floatMoves : List Entry :=
  bothFloats "fmov"
    [fun r bits => ⟨0x1e204000 ||| bits, [r, r], [rd, rn]⟩,
      fun r bits => ⟨0x1e201000 ||| bits, [r, .fimm], [rd, .float8 13]⟩] ++
  named "fmov"
    [⟨0x1e260000, [.gpW, .fpS], [rd, rn]⟩,
      ⟨0x1e270000, [.fpS, .gpW], [rd, rn]⟩,
      ⟨0x9e660000, [.gpX, .fpD], [rd, rn]⟩,
      ⟨0x9e670000, [.fpD, .gpX], [rd, rn]⟩]

def floatArithmetic : List Entry :=
  floatFamily [("fmul", 0x1e200800), ("fdiv", 0x1e201800), ("fadd", 0x1e202800),
    ("fsub", 0x1e203800), ("fmax", 0x1e204800), ("fmin", 0x1e205800), ("fnmul", 0x1e208800)]
    (fun base r bits => ⟨base ||| bits, [r, r, r], [rd, rn, rm]⟩) ++
  floatFamily [("fabs", 0x1e20c000), ("fneg", 0x1e214000), ("fsqrt", 0x1e21c000),
    ("frintn", 0x1e244000), ("frintm", 0x1e254000), ("frintp", 0x1e24c000),
    ("frintz", 0x1e25c000)]
    (fun base r bits => ⟨base ||| bits, [r, r], [rd, rn]⟩) ++
  ([("fcmp", 0x1e202000), ("fcmpe", 0x1e202010)] : List (String × Word)).flatMap
    (fun (name, base) => bothFloats name
      [fun r bits => ⟨base ||| bits, [r, r], [rn, rm]⟩,
        fun r bits => ⟨base ||| bits ||| 8, [r, .fzero], [rn, .skip]⟩]) ++
  bothFloats "fcsel" [fun r bits => ⟨0x1e200c00 ||| bits, [r, r, r, .cond], [rd, rn, rm, .cond 12]⟩]

def conversions : List Entry :=
  named "fcvt"
    [⟨0x1e22c000, [.fpD, .fpS], [rd, rn]⟩,
      ⟨0x1e624000, [.fpS, .fpD], [rd, rn]⟩,
      ⟨0x1e23c000, [.fpH, .fpS], [rd, rn]⟩,
      ⟨0x1ee24000, [.fpS, .fpH], [rd, rn]⟩,
      ⟨0x1e63c000, [.fpH, .fpD], [rd, rn]⟩,
      ⟨0x1ee2c000, [.fpD, .fpH], [rd, rn]⟩] ++
  ([("scvtf", 0x02, false), ("ucvtf", 0x03, false), ("fcvtzs", 0x18, true), ("fcvtzu", 0x19, true),
      ("fcvtns", 0x00, true), ("fcvtnu", 0x01, true), ("fcvtms", 0x10, true),
      ("fcvtmu", 0x11, true)] : List (String × Word × Bool)).flatMap (fun (name, opcode, toInt) =>
    [width32, width64].flatMap fun g => bothFloats name [fun r bits =>
      ⟨0x1e200000 ||| (opcode <<< 16) ||| g.sf ||| bits, if toInt then [g.reg, r] else [r, g.reg],
        [rd, rn]⟩])

def float : List Entry := floatMoves ++ floatArithmetic ++ conversions

def integerArrangements : List Arrangement := [.b8, .b16, .h4, .h8, .s2, .s4, .d2]
def narrowArrangements : List Arrangement := [.b8, .b16, .h4, .h8, .s2, .s4]
def floatArrangements : List Arrangement := [.s2, .s4, .d2]
def allArrangements : List Arrangement := [.b8, .b16, .h4, .h8, .s2, .s4, .d1, .d2]

def threeVectors (name : String) (base : Word) (arrs : List Arrangement) (size : List Action) :
    Entry :=
  ⟨name, ⟨base, [.vec arrs false, .vec arrs true, .vec arrs true],
    .vecQ 30 :: size ++ [rd, rn, rm]⟩⟩

def twoByteVectors (name : String) (base : Word) : Entry :=
  ⟨name, ⟨base, [.vec bytesOnly false, .vec bytesOnly true], [.vecQ 30, rd, rn]⟩⟩

def vectorArithmetic : List Entry :=
  [threeVectors "add" 0x0e208400 integerArrangements [.vecSize 22],
    threeVectors "sub" 0x2e208400 integerArrangements [.vecSize 22],
    threeVectors "mul" 0x0e209c00 narrowArrangements [.vecSize 22],
    threeVectors "cmeq" 0x2e208c00 integerArrangements [.vecSize 22],
    threeVectors "cmgt" 0x0e203400 integerArrangements [.vecSize 22],
    threeVectors "and" 0x0e201c00 bytesOnly [],
    threeVectors "bic" 0x0e601c00 bytesOnly [],
    threeVectors "orr" 0x0ea01c00 bytesOnly [],
    threeVectors "orn" 0x0ee01c00 bytesOnly [],
    threeVectors "eor" 0x2e201c00 bytesOnly [],
    threeVectors "fadd" 0x0e20d400 floatArrangements [.vecSz 22],
    threeVectors "fsub" 0x0ea0d400 floatArrangements [.vecSz 22],
    threeVectors "fmul" 0x2e20dc00 floatArrangements [.vecSz 22],
    threeVectors "fdiv" 0x2e20fc00 floatArrangements [.vecSz 22],
    twoByteVectors "not" 0x2e205800,
    twoByteVectors "mvn" 0x2e205800,
    twoByteVectors "cnt" 0x0e205800]

def vectorMoves : List Entry :=
  named "dup"
    [⟨0x0e000c00, [.vec narrowArrangements false, .gpW], [.vecQ 30, .vecImm5, rd, rn]⟩,
      ⟨0x4e080c00, [.vec [.d2] false, .gpX], [rd, rn]⟩,
      ⟨0x0e000400, [.vec integerArrangements false, .elem [.b, .h, .s, .d]],
        [.vecQ 30, rd, .elemImm5 5]⟩] ++
  named "ins"
    [⟨0x4e001c00, [elemBHS, .gpW], [.elemImm5 0, rn]⟩,
      ⟨0x4e001c00, [elemD, .gpX], [.elemImm5 0, rn]⟩] ++
  named "umov"
    [⟨0x0e003c00, [.gpW, elemBHS], [rd, .elemImm5 5]⟩,
      ⟨0x4e003c00, [.gpX, elemD], [rd, .elemImm5 5]⟩] ++
  named "smov"
    [⟨0x0e002c00, [.gpW, .elem [.b, .h]], [rd, .elemImm5 5]⟩,
      ⟨0x4e002c00, [.gpX, elemBHS], [rd, .elemImm5 5]⟩] ++
  named "movi"
    [⟨0x0f00e400, [.vec bytesOnly false, .imm], [.vecQ 30, rd, .vectorImm]⟩,
      ⟨0x2f00e400, [.fpD, .imm], [rd, .byteMask]⟩,
      ⟨0x6f00e400, [.vec [.d2] false, .imm], [rd, .byteMask]⟩]

def listForms (name : String) (plain post : Word) : List Entry :=
  named name
    [⟨plain, [.list allArrangements, .memBase], [.vecQ 30, .vecSize 10, .list 0, rn]⟩,
      ⟨post, [.list allArrangements, .memPost], [.vecQ 30, .vecSize 10, .list 0, rn, .listPost]⟩]

def vector : List Entry :=
  vectorArithmetic ++ vectorMoves ++ listForms "ld1" 0x0c400000 0x0cdf0000 ++
    listForms "st1" 0x0c000000 0x0c9f0000

end MachineCode.AArch64.Instructions
