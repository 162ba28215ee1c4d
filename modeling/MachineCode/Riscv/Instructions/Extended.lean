import MachineCode.Riscv.Instructions.Integer

/-!
Atomics, floating point, control registers and bit manipulation.
-/
namespace MachineCode.Riscv.Instructions

def ordered (name : String) (base : Word) (slots : List Slot) (xlen : Option Nat)
    (actions : List Action) : List Entry :=
  [("", 0#32), (".aq", 1#32 <<< 26), (".rl", 1#32 <<< 25), (".aqrl", 3#32 <<< 25)].map
    fun (suffix, bits) =>
      ⟨name ++ suffix, (Template.one (base ||| bits) slots actions).gate xlen [.a]⟩

def atomicsOf (suffix : String) (width : Word) (xlen : Option Nat) : List Entry :=
  let base := 0x2f#32 ||| (width <<< 12)
  ([("amoswap", 1), ("amoadd", 0), ("amoxor", 4), ("amoand", 12), ("amoor", 8), ("amomin", 16),
      ("amomax", 20), ("amominu", 24), ("amomaxu", 28)] : List (String × Word)).flatMap
    (fun (name, op) =>
      ordered (name ++ suffix) (base ||| (op <<< 27)) [.x, .x, .addr] xlen [rd, rs2, rs1]) ++
  ordered ("lr" ++ suffix) (base ||| (2 <<< 27)) [.x, .addr] xlen [rd, rs1] ++
  ordered ("sc" ++ suffix) (base ||| (3 <<< 27)) [.x, .x, .addr] xlen [rd, rs2, rs1]

def atomics : List Entry := atomicsOf ".w" 2 none ++ atomicsOf ".d" 3 (some 64)

structure Precision where
  suffix : String
  bits : Word
  extension : Extension
  letter : String
  access : Word
  exact : Bool

def single : Precision := ⟨".s", 0, .f, "w", 2, false⟩

/-- Every 32-bit integer is a double, so those conversions need no rounding mode. -/
def double : Precision := ⟨".d", 1 <<< 25, .d, "d", 3, true⟩

def Precision.entry (p : Precision) (name : String) (xlen : Option Nat) (base : Word)
    (slots : List Slot) (actions : List Action) : Entry :=
  ⟨name, (Template.one (base ||| p.bits) slots actions).gate xlen [p.extension]⟩

def Precision.family (p : Precision) (slots : List Slot) (actions : List Action)
    (rows : List (String × Word)) : List Entry :=
  rows.map fun (name, base) => p.entry (name ++ p.suffix) none base slots actions

def Precision.conversions (p : Precision) : List Entry :=
  ([(".w", none, 0), (".wu", none, 1), (".l", some 64, 2), (".lu", some 64, 3)] :
      List (String × Option Nat × Word)).flatMap fun (type, xlen, sel) =>
    let sel := sel <<< 20
    [p.entry ("fcvt" ++ type ++ p.suffix) xlen (0xc0000053 ||| sel) [.x, .f, .rounding]
        [rd, rs1, .rounding],
      if p.exact && xlen.isNone then
        p.entry ("fcvt" ++ p.suffix ++ type) xlen (0xd0000053 ||| sel) [.f, .x] [rd, rs1]
      else
        p.entry ("fcvt" ++ p.suffix ++ type) xlen (0xd0000053 ||| sel) [.f, .x, .rounding]
          [rd, rs1, .rounding]]

def Precision.all (p : Precision) : List Entry :=
  p.family [.f, .f, .f, .rounding] [rd, rs1, rs2, .rounding]
    [("fadd", 0x00000053), ("fsub", 0x08000053), ("fmul", 0x10000053), ("fdiv", 0x18000053)] ++
  p.family [.f, .f, .rounding] [rd, rs1, .rounding] [("fsqrt", 0x58000053)] ++
  p.family [.f, .f, .f] [rd, rs1, rs2]
    [("fsgnj", 0x20000053), ("fsgnjn", 0x20001053), ("fsgnjx", 0x20002053),
      ("fmin", 0x28000053), ("fmax", 0x28001053)] ++
  p.family [.f, .f] [rd, .peek 15, rs2]
    [("fmv", 0x20000053), ("fneg", 0x20001053), ("fabs", 0x20002053)] ++
  p.family [.x, .f, .f] [rd, rs1, rs2]
    [("feq", 0xa0002053), ("flt", 0xa0001053), ("fle", 0xa0000053)] ++
  p.family [.x, .f] [rd, rs1] [("fclass", 0xe0001053)] ++
  p.family [.f, .f, .f, .f, .rounding] [rd, rs1, rs2, rs3, .rounding]
    [("fmadd", 0x43), ("fmsub", 0x47), ("fnmsub", 0x4b), ("fnmadd", 0x4f)] ++
  p.conversions ++
  load ("fl" ++ p.letter) (0x07#32 ||| (p.access <<< 12)) .f none [p.extension] ++
  store ("fs" ++ p.letter) (0x27#32 ||| (p.access <<< 12)) .f none [p.extension]

def floatMoves : List Entry :=
  [⟨"fcvt.s.d", (Template.one 0x40100053 [.f, .f, .rounding] [rd, rs1, .rounding]).gate none [.d]⟩,
    ⟨"fcvt.d.s", (Template.one 0x42000053 [.f, .f] [rd, rs1]).gate none [.d]⟩,
    ⟨"fmv.x.w", (Template.one 0xe0000053 [.x, .f] [rd, rs1]).gate none [.f]⟩,
    ⟨"fmv.x.s", (Template.one 0xe0000053 [.x, .f] [rd, rs1]).gate none [.f]⟩,
    ⟨"fmv.w.x", (Template.one 0xf0000053 [.f, .x] [rd, rs1]).gate none [.f]⟩,
    ⟨"fmv.s.x", (Template.one 0xf0000053 [.f, .x] [rd, rs1]).gate none [.f]⟩,
    ⟨"fmv.x.d", (Template.one 0xe2000053 [.x, .f] [rd, rs1]).gate (some 64) [.d]⟩,
    ⟨"fmv.d.x", (Template.one 0xf2000053 [.f, .x] [rd, rs1]).gate (some 64) [.d]⟩]

def floatControl : List Entry :=
  ([("frcsr", "fscsr", 3), ("frrm", "fsrm", 2), ("frflags", "fsflags", 1)] :
      List (String × String × Word)).flatMap fun (read, write, number) =>
    let number := number <<< 20
    [⟨read, (Template.one (0x2073 ||| number) [.x] [rd]).gate none [.f]⟩,
      ⟨write, (Template.one (0x1073 ||| number) [.x] [rs1]).gate none [.f]⟩,
      ⟨write, (unary (0x1073 ||| number)).gate none [.f]⟩]

def float : List Entry := single.all ++ double.all ++ floatMoves ++ floatControl

def control (name : String) (t : Template) : Entry := ⟨name, t.gate none [.zicsr]⟩

def controlRegisters : List Entry :=
  ([("csrrw", 0x1073), ("csrrs", 0x2073), ("csrrc", 0x3073)] : List (String × Word)).flatMap
    (fun (name, bits) =>
      [control name (.one bits [.x, .csr, .x] [rd, .imm Field.csr, rs1]),
        control (name ++ "i")
          (.one (bits ||| 0x4000) [.x, .csr, .imm] [rd, .imm Field.csr, .imm Field.zimm])]) ++
  [control "csrr" (.one 0x2073 [.x, .csr] [rd, .imm Field.csr])] ++
  ([("csrw", 0x1073), ("csrs", 0x2073), ("csrc", 0x3073)] : List (String × Word)).flatMap
    (fun (name, bits) =>
      [control name (.one bits [.csr, .x] [.imm Field.csr, rs1]),
        control (name ++ "i")
          (.one (bits ||| 0x4000) [.csr, .imm] [.imm Field.csr, .imm Field.zimm])]) ++
  ([("rdcycle", 0xc00), ("rdtime", 0xc01), ("rdinstret", 0xc02)] : List (String × Word)).flatMap
    (fun (name, number) =>
      [control name (.one (0x2073 ||| (number <<< 20)) [.x] [rd]),
        control (name ++ "h")
          (Template.one (0x2073 ||| ((number ||| 0x80) <<< 20)) [.x] [rd]).rv32])

def addressGeneration : List Entry :=
  family (fun bits => (rtype bits).gate none [.zba])
    [("sh1add", 0x20002033), ("sh2add", 0x20004033), ("sh3add", 0x20006033)] ++
  family (fun bits => (rtype bits).gate (some 64) [.zba])
    [("add.uw", 0x0800003b), ("sh1add.uw", 0x2000203b), ("sh2add.uw", 0x2000403b),
      ("sh3add.uw", 0x2000603b)] ++
  [⟨"slli.uw", (shift 0x0800101b Field.shamt6).gate (some 64) [.zba]⟩,
    ⟨"zext.w", (unary 0x0800003b).gate (some 64) [.zba]⟩]

def bitManipulation : List Entry :=
  family (fun bits => (rtype bits).gate none [.zbb])
    [("andn", 0x40007033), ("orn", 0x40006033), ("xnor", 0x40004033), ("max", 0x0a006033),
      ("maxu", 0x0a007033), ("min", 0x0a004033), ("minu", 0x0a005033), ("rol", 0x60001033),
      ("ror", 0x60005033)] ++
  family (fun bits => (unary bits).gate none [.zbb])
    [("clz", 0x60001013), ("ctz", 0x60101013), ("cpop", 0x60201013), ("sext.b", 0x60401013),
      ("sext.h", 0x60501013), ("orc.b", 0x28705013)] ++
  [⟨"zext.h", (unary 0x08004033).gate (some 32) [.zbb]⟩,
    ⟨"zext.h", (unary 0x0800403b).gate (some 64) [.zbb]⟩,
    ⟨"rev8", (unary 0x69805013).gate (some 32) [.zbb]⟩,
    ⟨"rev8", (unary 0x6b805013).gate (some 64) [.zbb]⟩,
    ⟨"rori", (shift 0x60005013 Field.shamt5).gate (some 32) [.zbb]⟩,
    ⟨"rori", (shift 0x60005013 Field.shamt6).gate (some 64) [.zbb]⟩] ++
  family (fun bits => (unary bits).gate (some 64) [.zbb])
    [("clzw", 0x6000101b), ("ctzw", 0x6010101b), ("cpopw", 0x6020101b)] ++
  family (fun bits => (rtype bits).gate (some 64) [.zbb])
    [("rolw", 0x6000103b), ("rorw", 0x6000503b)] ++
  [⟨"roriw", (shift 0x6000501b Field.shamt5).gate (some 64) [.zbb]⟩]

def extended : List Entry :=
  atomics ++ float ++ controlRegisters ++ addressGeneration ++ bitManipulation

end MachineCode.Riscv.Instructions
