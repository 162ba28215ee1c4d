import MachineCode.AArch64.Template

/-!
Instructions on the general registers: arithmetic, logic, bitfields, shifts, multiplication and
conditional selection, with moves, branches and system instructions.
-/
namespace MachineCode.AArch64.Instructions

def rd : Action := .reg 0
def rn : Action := .reg 5
def rm : Action := .reg 16

/-- The third source of a multiplication, and the second register of a pair. -/
def ra : Action := .reg 10

def uimm (pos bits scale : Nat) : Action :=
  .imm { pieces := [⟨scale, bits, pos⟩], bits := bits + scale, scale }

def simm (pos bits scale : Nat) : Action :=
  .imm { pieces := [⟨scale, bits, pos⟩], bits := bits + scale, signed := true, scale }

def lslOnly : List ModKind := [.lsl]
def shifts : List ModKind := [.lsl, .lsr, .asr]
def shiftsAndRotate : List ModKind := [.lsl, .lsr, .asr, .ror]
def wordExtensions : List ModKind := [.uxtb, .uxth, .uxtw, .sxtb, .sxth, .sxtw]
def fullExtensions : List ModKind := [.lsl, .uxtx, .sxtx]
def allExtensions : List ModKind :=
  [.lsl, .uxtb, .uxth, .uxtw, .uxtx, .sxtb, .sxth, .sxtw, .sxtx]

structure Width where
  reg : Slot
  regOrSp : Slot
  is64 : Bool
  /-- The bit that selects the width. -/
  sf : Word
  /-- The width bit of bitfield instructions. -/
  n : Word
  bits : Nat
  /-- The bits of a shift amount. -/
  shiftBits : Nat

def width32 : Width := ⟨.gpW, .gpWsp, false, 0, 0, 32, 5⟩
def width64 : Width := ⟨.gpX, .gpXsp, true, 1 <<< 31, 1 <<< 22, 64, 6⟩

def both (name : String) (forms : List (Width → Template)) : List Entry :=
  forms.flatMap fun f => [⟨name, f width32⟩, ⟨name, f width64⟩]

def family (rows : List (String × Word)) (shape : Word → Width → Template) : List Entry :=
  rows.flatMap fun (name, base) => both name [shape base]

def named (name : String) (ts : List Template) : List Entry := ts.map (⟨name, ·⟩)

/-- Addition or subtraction with an immediate, a shifted or an extended register. The destination
may be a stack pointer unless the flags are set. -/
def addSub (name : String) (bits : Word) (setFlags : Bool) : List Entry :=
  let bits := bits ||| (if setFlags then 1 <<< 29 else 0)
  let dst (g : Width) := if setFlags then g.reg else g.regOrSp
  both name
    [fun g => ⟨0x11000000 ||| bits ||| g.sf, [dst g, g.regOrSp, .imm, .mod lslOnly true],
        [rd, rn, .addImm]⟩,
      fun g => ⟨0x0b000000 ||| bits ||| g.sf, [g.reg, g.reg, g.reg, .mod shifts true],
        [rd, rn, rm, .shift g.bits]⟩] ++
  named name
    [⟨0x0b200000 ||| bits, [dst width32, .gpWsp, .gpW, .mod allExtensions true],
        [rd, rn, rm, .extend 2]⟩,
      ⟨0x8b200000 ||| bits, [dst width64, .gpXsp, .gpW, .mod wordExtensions false],
        [rd, rn, rm, .extend 2]⟩,
      ⟨0x8b200000 ||| bits, [dst width64, .gpXsp, .gpX, .mod fullExtensions true],
        [rd, rn, rm, .extend 3]⟩]

def compare (name : String) (bits : Word) : List Entry :=
  let bits := bits ||| (1 <<< 29) ||| 31
  both name
    [fun g => ⟨0x11000000 ||| bits ||| g.sf, [g.regOrSp, .imm, .mod lslOnly true], [rn, .addImm]⟩,
      fun g => ⟨0x0b000000 ||| bits ||| g.sf, [g.reg, g.reg, .mod shifts true],
        [rn, rm, .shift g.bits]⟩] ++
  named name
    [⟨0x0b200000 ||| bits, [.gpWsp, .gpW, .mod allExtensions true], [rn, rm, .extend 2]⟩,
      ⟨0x8b200000 ||| bits, [.gpXsp, .gpW, .mod wordExtensions false], [rn, rm, .extend 2]⟩,
      ⟨0x8b200000 ||| bits, [.gpXsp, .gpX, .mod fullExtensions true], [rn, rm, .extend 3]⟩]

def logicalImm (name : String) (opc : Word) (setFlags : Bool) : List Entry :=
  both name [fun g => ⟨0x12000000 ||| (opc <<< 29) ||| g.sf,
    [if setFlags then g.reg else g.regOrSp, g.reg, .imm], [rd, rn, .logical g.is64]⟩]

def logicalReg (name : String) (opc invert : Word) : List Entry :=
  both name [fun g => ⟨0x0a000000 ||| (opc <<< 29) ||| (invert <<< 21) ||| g.sf,
    [g.reg, g.reg, g.reg, .mod shiftsAndRotate true], [rd, rn, rm, .shift g.bits]⟩]

def arithmetic : List Entry :=
  addSub "add" 0 false ++ addSub "adds" 0 true ++ addSub "sub" (1 <<< 30) false ++
  addSub "subs" (1 <<< 30) true ++ compare "cmn" 0 ++ compare "cmp" (1 <<< 30) ++
  family [("neg", 0x4b0003e0), ("negs", 0x6b0003e0)] (fun base g =>
    ⟨base ||| g.sf, [g.reg, g.reg, .mod shifts true], [rd, rm, .shift g.bits]⟩)

def logic : List Entry :=
  logicalImm "and" 0 false ++ logicalReg "and" 0 0 ++ logicalImm "orr" 1 false ++
  logicalReg "orr" 1 0 ++ logicalImm "eor" 2 false ++ logicalReg "eor" 2 0 ++
  logicalImm "ands" 3 true ++ logicalReg "ands" 3 0 ++ logicalReg "bic" 0 1 ++
  logicalReg "orn" 1 1 ++ logicalReg "eon" 2 1 ++ logicalReg "bics" 3 1 ++
  both "tst"
    [fun g => ⟨0x7200001f ||| g.sf, [g.reg, .imm], [rn, .logical g.is64]⟩,
      fun g => ⟨0x6a00001f ||| g.sf, [g.reg, g.reg, .mod shiftsAndRotate true],
        [rn, rm, .shift g.bits]⟩] ++
  both "mvn" [fun g => ⟨0x2a2003e0 ||| g.sf, [g.reg, g.reg, .mod shiftsAndRotate true],
    [rd, rm, .shift g.bits]⟩]

def bitfields : List Entry :=
  family [("sbfm", 0x13000000), ("bfm", 0x33000000), ("ubfm", 0x53000000)] (fun base g =>
    ⟨base ||| g.sf ||| g.n, [g.reg, g.reg, .imm, .imm],
      [rd, rn, uimm 16 g.shiftBits 0, uimm 10 g.shiftBits 0]⟩) ++
  family [("sbfx", 0x13000000), ("bfxil", 0x33000000), ("ubfx", 0x53000000)] (fun base g =>
    ⟨base ||| g.sf ||| g.n, [g.reg, g.reg, .imm, .imm], [rd, rn, .extract g.bits]⟩) ++
  family [("sbfiz", 0x13000000), ("bfi", 0x33000000), ("ubfiz", 0x53000000)] (fun base g =>
    ⟨base ||| g.sf ||| g.n, [g.reg, g.reg, .imm, .imm], [rd, rn, .insert g.bits]⟩) ++
  [⟨"sxtb", ⟨0x13001c00, [.gpW, .gpW], [rd, rn]⟩⟩, ⟨"sxtb", ⟨0x93401c00, [.gpX, .gpW], [rd, rn]⟩⟩,
    ⟨"sxth", ⟨0x13003c00, [.gpW, .gpW], [rd, rn]⟩⟩, ⟨"sxth", ⟨0x93403c00, [.gpX, .gpW], [rd, rn]⟩⟩,
    ⟨"sxtw", ⟨0x93407c00, [.gpX, .gpW], [rd, rn]⟩⟩,
    ⟨"uxtb", ⟨0x53001c00, [.gpW, .gpW], [rd, rn]⟩⟩,
    ⟨"uxth", ⟨0x53003c00, [.gpW, .gpW], [rd, rn]⟩⟩]

def threeRegs (base : Word) (g : Width) : Template :=
  ⟨base ||| g.sf, [g.reg, g.reg, g.reg], [rd, rn, rm]⟩

/-- A right shift by an immediate is a bitfield move up to the highest bit. -/
def rightShift (base : Word) (g : Width) : Template :=
  ⟨base ||| g.sf ||| g.n ||| (g.sf >>> 16), [g.reg, g.reg, .imm], [rd, rn, .shiftRight g.bits]⟩

def shiftEntries : List Entry :=
  both "lsl" [threeRegs 0x1ac02000,
    fun g => ⟨0x53000000 ||| g.sf ||| g.n, [g.reg, g.reg, .imm], [rd, rn, .shiftLeft g.bits]⟩] ++
  both "lslv" [threeRegs 0x1ac02000] ++
  both "lsr" [threeRegs 0x1ac02400, rightShift 0x53007c00] ++
  both "lsrv" [threeRegs 0x1ac02400] ++
  both "asr" [threeRegs 0x1ac02800, rightShift 0x13007c00] ++
  both "asrv" [threeRegs 0x1ac02800] ++
  both "ror" [threeRegs 0x1ac02c00,
    fun g => ⟨0x13800000 ||| g.sf ||| g.n, [g.reg, g.reg, .imm],
      [rd, .peek 16, rn, uimm 10 g.shiftBits 0]⟩] ++
  both "rorv" [threeRegs 0x1ac02c00] ++
  both "extr" [fun g => ⟨0x13800000 ||| g.sf ||| g.n, [g.reg, g.reg, g.reg, .imm],
    [rd, rn, rm, uimm 10 g.shiftBits 0]⟩]

def multiply : List Entry :=
  family [("madd", 0x1b000000), ("msub", 0x1b008000)] (fun base g =>
    ⟨base ||| g.sf, [g.reg, g.reg, g.reg, g.reg], [rd, rn, rm, ra]⟩) ++
  family [("mul", 0x1b007c00), ("mneg", 0x1b00fc00), ("udiv", 0x1ac00800),
    ("sdiv", 0x1ac00c00)] threeRegs ++
  ([("smaddl", 0x9b200000), ("smsubl", 0x9b208000), ("umaddl", 0x9ba00000),
      ("umsubl", 0x9ba08000)] : List (String × Word)).map (fun (name, base) =>
    ⟨name, ⟨base, [.gpX, .gpW, .gpW, .gpX], [rd, rn, rm, ra]⟩⟩) ++
  [⟨"smull", ⟨0x9b207c00, [.gpX, .gpW, .gpW], [rd, rn, rm]⟩⟩,
    ⟨"umull", ⟨0x9ba07c00, [.gpX, .gpW, .gpW], [rd, rn, rm]⟩⟩,
    ⟨"smulh", ⟨0x9b407c00, [.gpX, .gpX, .gpX], [rd, rn, rm]⟩⟩,
    ⟨"umulh", ⟨0x9bc07c00, [.gpX, .gpX, .gpX], [rd, rn, rm]⟩⟩]

def oneSource : List Entry :=
  family [("rbit", 0x5ac00000), ("rev16", 0x5ac00400), ("clz", 0x5ac01000), ("cls", 0x5ac01400)]
    (fun base g => ⟨base ||| g.sf, [g.reg, g.reg], [rd, rn]⟩) ++
  [⟨"rev", ⟨0x5ac00800, [.gpW, .gpW], [rd, rn]⟩⟩, ⟨"rev", ⟨0xdac00c00, [.gpX, .gpX], [rd, rn]⟩⟩,
    ⟨"rev32", ⟨0xdac00800, [.gpX, .gpX], [rd, rn]⟩⟩]

def conditional : List Entry :=
  family [("csel", 0x1a800000), ("csinc", 0x1a800400), ("csinv", 0x5a800000),
    ("csneg", 0x5a800400)] (fun base g =>
      ⟨base ||| g.sf, [g.reg, g.reg, g.reg, .cond], [rd, rn, rm, .cond 12]⟩) ++
  family [("cinc", 0x1a800400), ("cinv", 0x5a800000), ("cneg", 0x5a800400)] (fun base g =>
    ⟨base ||| g.sf, [g.reg, g.reg, .condInv], [rd, .peek 16, rn, .condInv 12]⟩) ++
  family [("cset", 0x1a800400), ("csetm", 0x5a800000)] (fun base g =>
    ⟨base ||| g.sf ||| (31 <<< 16) ||| (31 <<< 5), [g.reg, .condInv], [rd, .condInv 12]⟩) ++
  ([("ccmn", 0x3a400000), ("ccmp", 0x7a400000)] : List (String × Word)).flatMap
    (fun (name, base) => both name
      [fun g => ⟨base ||| 0x800 ||| g.sf, [g.reg, .imm, .imm, .cond],
          [rn, uimm 16 5 0, uimm 0 4 0, .cond 12]⟩,
        fun g => ⟨base ||| g.sf, [g.reg, g.reg, .imm, .cond],
          [rn, rm, uimm 0 4 0, .cond 12]⟩])

def bytesOnly : List Arrangement := [.b8, .b16]
def elemBHS : Slot := .elem [.b, .h, .s]
def elemD : Slot := .elem [.d]

def moves : List Entry :=
  family [("movn", 0x12800000), ("movz", 0x52800000), ("movk", 0x72800000)] (fun base g =>
    ⟨base ||| g.sf, [g.reg, .imm, .mod lslOnly true], [rd, .wide g.is64]⟩) ++
  named "mov"
    [⟨0x2a0003e0, [.gpW, .gpW], [rd, rm]⟩,
      ⟨0x11000000, [.gpWsp, .gpWsp], [rd, rn]⟩,
      ⟨0xaa0003e0, [.gpX, .gpX], [rd, rm]⟩,
      ⟨0x91000000, [.gpXsp, .gpXsp], [rd, rn]⟩,
      ⟨0x52800000, [.gpW, .wideImm false], [rd, .movWide false false]⟩,
      ⟨0x12800000, [.gpW, .wideInvImm false], [rd, .movWide false true]⟩,
      ⟨0x320003e0, [.gpWsp, .logicalImm false], [rd, .logical false]⟩,
      ⟨0xd2800000, [.gpX, .wideImm true], [rd, .movWide true false]⟩,
      ⟨0x92800000, [.gpX, .wideInvImm true], [rd, .movWide true true]⟩,
      ⟨0xb20003e0, [.gpXsp, .logicalImm true], [rd, .logical true]⟩,
      ⟨0x0ea01c00, [.vec bytesOnly false, .vec bytesOnly true], [.vecQ 30, rd, .peek 16, rn]⟩,
      ⟨0x4e001c00, [elemBHS, .gpW], [.elemImm5 0, rn]⟩,
      ⟨0x4e001c00, [elemD, .gpX], [.elemImm5 0, rn]⟩,
      ⟨0x0e003c00, [.gpW, .elem [.s]], [rd, .elemImm5 5]⟩,
      ⟨0x4e003c00, [.gpX, elemD], [rd, .elemImm5 5]⟩] ++
  [⟨"adr", ⟨0x10000000, [.gpX, .label], [rd, .rel .adr]⟩⟩,
    ⟨"adrp", ⟨0x90000000, [.gpX, .label], [rd, .rel .adrp]⟩⟩]

def branches : List Entry :=
  [⟨"b", ⟨0x14000000, [.label], [.rel .branch]⟩⟩,
    ⟨"bl", ⟨0x94000000, [.label], [.rel .branch]⟩⟩,
    ⟨"b.cond", ⟨0x54000000, [.cond, .label], [.cond 0, .rel .condBranch]⟩⟩] ++
  family [("cbz", 0x34000000), ("cbnz", 0x35000000)] (fun base g =>
    ⟨base ||| g.sf, [g.reg, .label], [rd, .rel .condBranch]⟩) ++
  family [("tbz", 0x36000000), ("tbnz", 0x37000000)] (fun base g =>
    ⟨base, [g.reg, .imm, .label], [rd, .testBit g.bits, .rel .testBranch]⟩) ++
  [⟨"br", ⟨0xd61f0000, [.gpX], [rn]⟩⟩,
    ⟨"blr", ⟨0xd63f0000, [.gpX], [rn]⟩⟩,
    ⟨"ret", ⟨0xd65f03c0, [], []⟩⟩,
    ⟨"ret", ⟨0xd65f0000, [.gpX], [rn]⟩⟩]

def system : List Entry :=
  [⟨"nop", ⟨0xd503201f, [], []⟩⟩,
    ⟨"yield", ⟨0xd503203f, [], []⟩⟩,
    ⟨"wfe", ⟨0xd503205f, [], []⟩⟩,
    ⟨"wfi", ⟨0xd503207f, [], []⟩⟩,
    ⟨"sev", ⟨0xd503209f, [], []⟩⟩,
    ⟨"brk", ⟨0xd4200000, [.imm], [uimm 5 16 0]⟩⟩,
    ⟨"hlt", ⟨0xd4400000, [.imm], [uimm 5 16 0]⟩⟩,
    ⟨"svc", ⟨0xd4000001, [.imm], [uimm 5 16 0]⟩⟩,
    ⟨"dmb", ⟨0xd50330bf, [.barrier], [uimm 8 4 0]⟩⟩,
    ⟨"dsb", ⟨0xd503309f, [.barrier], [uimm 8 4 0]⟩⟩,
    ⟨"isb", ⟨0xd5033fdf, [], []⟩⟩,
    ⟨"isb", ⟨0xd50330df, [.barrier], [uimm 8 4 0]⟩⟩,
    ⟨"mrs", ⟨0xd5300000, [.gpX, .sysReg], [rd, uimm 5 15 0]⟩⟩,
    ⟨"msr", ⟨0xd5100000, [.sysReg, .gpX], [uimm 5 15 0, rd]⟩⟩]

def general : List Entry :=
  arithmetic ++ logic ++ bitfields ++ shiftEntries ++ multiply ++ oneSource ++ conditional ++
    moves ++ branches ++ system

end MachineCode.AArch64.Instructions
