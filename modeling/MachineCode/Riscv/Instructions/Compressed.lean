import MachineCode.Riscv.Instructions.Integer

/-!
Compressed instructions of two bytes, with the small loads and stores and the push and pop
extensions.
-/
namespace MachineCode.Riscv.Instructions

def compact (name : String) (xlen : Option Nat) (es : List Extension) (base : Word)
    (slots : List Slot) (actions : List Action) : Entry :=
  ⟨name, (Template.half base slots actions).gate xlen es⟩

def compactMemory (name : String) (base : Word) (r : Slot) (field : BitField)
    (xlen : Option Nat) (es : List Extension) : Entry :=
  compact name xlen es base [r, .memCompressed] [.regC 2, .regC 7, .imm field]

def quadrant0 : List Entry :=
  [compact "c.addi4spn" none [] 0x0000 [.xCompressed, .sp, .imm] [.regC 2, .skip, .imm Field.c4spn],
    compactMemory "c.fld" 0x2000 .fCompressed Field.cLd none [.d],
    compactMemory "c.lw" 0x4000 .xCompressed Field.cLw none [],
    compactMemory "c.flw" 0x6000 .fCompressed Field.cLw (some 32) [.f],
    compactMemory "c.ld" 0x6000 .xCompressed Field.cLd (some 64) [],
    compactMemory "c.fsd" 0xa000 .fCompressed Field.cLd none [.d],
    compactMemory "c.sw" 0xc000 .xCompressed Field.cLw none [],
    compactMemory "c.fsw" 0xe000 .fCompressed Field.cLw (some 32) [.f],
    compactMemory "c.sd" 0xe000 .xCompressed Field.cLd (some 64) []]

def quadrant1 : List Entry :=
  [compact "c.nop" none [] 0x0001 [] [],
    compact "c.addi" none [] 0x0001 [.xNonzero, .imm] [rd, .imm Field.ciNonzero],
    compact "c.jal" (some 32) [] 0x2001 [.label] [.rel .jc],
    compact "c.addiw" (some 64) [] 0x2001 [.xNonzero, .imm] [rd, .imm Field.ci],
    compact "c.li" none [] 0x4001 [.xNonzero, .imm] [rd, .imm Field.ci],
    compact "c.addi16sp" none [] 0x6101 [.sp, .imm] [.skip, .imm Field.c16sp],
    compact "c.lui" none [] 0x6001 [.xNonzeroNotSp, .imm] [rd, .imm Field.cLui],
    compact "c.srli" (some 32) [] 0x8001 [.xCompressed, .imm] [.regC 7, .imm Field.cShamt5],
    compact "c.srli" (some 64) [] 0x8001 [.xCompressed, .imm] [.regC 7, .imm Field.cShamt6],
    compact "c.srai" (some 32) [] 0x8401 [.xCompressed, .imm] [.regC 7, .imm Field.cShamt5],
    compact "c.srai" (some 64) [] 0x8401 [.xCompressed, .imm] [.regC 7, .imm Field.cShamt6],
    compact "c.andi" none [] 0x8801 [.xCompressed, .imm] [.regC 7, .imm Field.ci]] ++
  ([("c.sub", none, 0x8c01), ("c.xor", none, 0x8c21), ("c.or", none, 0x8c41),
      ("c.and", none, 0x8c61), ("c.subw", some 64, 0x9c01), ("c.addw", some 64, 0x9c21)] :
      List (String × Option Nat × Word)).map
    (fun (name, xlen, base) =>
      compact name xlen [] base [.xCompressed, .xCompressed] [.regC 7, .regC 2]) ++
  [compact "c.j" none [] 0xa001 [.label] [.rel .jc],
    compact "c.beqz" none [] 0xc001 [.xCompressed, .label] [.regC 7, .rel .bc],
    compact "c.bnez" none [] 0xe001 [.xCompressed, .label] [.regC 7, .rel .bc]]

def quadrant2 : List Entry :=
  [compact "c.slli" (some 32) [] 0x0002 [.xNonzero, .imm] [rd, .imm Field.cShamt5],
    compact "c.slli" (some 64) [] 0x0002 [.xNonzero, .imm] [rd, .imm Field.cShamt6],
    compact "c.fldsp" none [.d] 0x2002 [.f, .memSp] [rd, .skip, .imm Field.cLdsp],
    compact "c.lwsp" none [] 0x4002 [.xNonzero, .memSp] [rd, .skip, .imm Field.cLwsp],
    compact "c.flwsp" (some 32) [.f] 0x6002 [.f, .memSp] [rd, .skip, .imm Field.cLwsp],
    compact "c.ldsp" (some 64) [] 0x6002 [.xNonzero, .memSp] [rd, .skip, .imm Field.cLdsp],
    compact "c.jr" none [] 0x8002 [.xNonzero] [rd],
    compact "c.mv" none [] 0x8002 [.xNonzero, .xNonzero] [rd, .reg 2],
    compact "c.ebreak" none [] 0x9002 [] [],
    compact "c.jalr" none [] 0x9002 [.xNonzero] [rd],
    compact "c.add" none [] 0x9002 [.xNonzero, .xNonzero] [rd, .reg 2],
    compact "c.fsdsp" none [.d] 0xa002 [.f, .memSp] [.reg 2, .skip, .imm Field.cSdsp],
    compact "c.swsp" none [] 0xc002 [.x, .memSp] [.reg 2, .skip, .imm Field.cSwsp],
    compact "c.fswsp" (some 32) [.f] 0xe002 [.f, .memSp] [.reg 2, .skip, .imm Field.cSwsp],
    compact "c.sdsp" (some 64) [] 0xe002 [.x, .memSp] [.reg 2, .skip, .imm Field.cSdsp]]

def codeSize : List Entry :=
  [compactMemory "c.lbu" 0x8000 .xCompressed Field.cLbu none [.zcb],
    compactMemory "c.lhu" 0x8400 .xCompressed Field.cLh none [.zcb],
    compactMemory "c.lh" 0x8440 .xCompressed Field.cLh none [.zcb],
    compactMemory "c.sb" 0x8800 .xCompressed Field.cLbu none [.zcb],
    compactMemory "c.sh" 0x8c00 .xCompressed Field.cLh none [.zcb],
    compact "c.zext.b" none [.zcb] 0x9c61 [.xCompressed] [.regC 7],
    compact "c.sext.b" none [.zcb, .zbb] 0x9c65 [.xCompressed] [.regC 7],
    compact "c.zext.h" none [.zcb, .zbb] 0x9c69 [.xCompressed] [.regC 7],
    compact "c.sext.h" none [.zcb, .zbb] 0x9c6d [.xCompressed] [.regC 7],
    compact "c.zext.w" (some 64) [.zcb, .zba] 0x9c71 [.xCompressed] [.regC 7],
    compact "c.not" none [.zcb] 0x9c75 [.xCompressed] [.regC 7],
    compact "c.mul" none [.zcb, .m] 0x9c41 [.xCompressed, .xCompressed] [.regC 7, .regC 2]]

def pushPop : List Entry :=
  [compact "cm.push" none [.zcmp] 0xb802 [.regList, .imm] [.regList, .stackAdj true],
    compact "cm.pop" none [.zcmp] 0xba02 [.regList, .imm] [.regList, .stackAdj false],
    compact "cm.popretz" none [.zcmp] 0xbc02 [.regList, .imm] [.regList, .stackAdj false],
    compact "cm.popret" none [.zcmp] 0xbe02 [.regList, .imm] [.regList, .stackAdj false],
    compact "cm.mvsa01" none [.zcmp] 0xac22 [.saved, .saved] [.saved 7 false, .saved 2 true],
    compact "cm.mva01s" none [.zcmp] 0xac62 [.saved, .saved] [.saved 7 false, .saved 2 false]]

def compressed : List Entry := quadrant0 ++ quadrant1 ++ quadrant2 ++ codeSize ++ pushPop

end MachineCode.Riscv.Instructions
