import MachineCode.Riscv.Template

/-!
The base integer instructions, their pseudo-instructions, and multiplication and division.
-/
namespace MachineCode.Riscv.Instructions

def rd : Action := .reg 7

def rs1 : Action := .reg 15

def rs2 : Action := .reg 20

def rs3 : Action := .reg 27

def second (a : Action) : Step := ⟨a, 1⟩

def first (a : Action) : Step := ⟨a, 0⟩

def rtype (base : Word) : Template := .one base [.x, .x, .x] [rd, rs1, rs2]

def unary (base : Word) : Template := .one base [.x, .x] [rd, rs1]

def itype (base : Word) : Template := .one base [.x, .x, .imm] [rd, rs1, .imm Field.i]

def shift (base : Word) (field : BitField) : Template :=
  .one base [.x, .x, .imm] [rd, rs1, .imm field]

def family (shape : Word → Template) (rows : List (String × Word)) : List Entry :=
  rows.map fun (name, bits) => ⟨name, shape bits⟩

def viaDestination (base : Word) : Template :=
  .pair 0x17 base [.xNonzero, .label]
    [first (.peek 7), second (.peek 7), second rs1, first (.rel .split32)]

/-- The forms of a load: from a register's distance, from a low part, and from a label. An integer
load computes the label's address in its destination, a floating point load in a scratch
register. -/
def load (name : String) (base : Word) (dst : Slot) (xlen : Option Nat)
    (es : List Extension) : List Entry :=
  let far := if dst == .x then viaDestination base
    else .pair 0x17 base [dst, .label, .xNonzero]
      [second rd, first (.rel .split32), first (.peek 7), second rs1]
  [Template.one base [dst, .mem] [rd, rs1, .imm Field.i],
    Template.one base [dst, .labelMem] [rd, rs1, .rel .lo12], far].map
    fun t => ⟨name, t.gate xlen es⟩

def store (name : String) (base : Word) (src : Slot) (xlen : Option Nat)
    (es : List Extension) : List Entry :=
  [Template.one base [src, .mem] [rs2, rs1, .imm Field.s],
    Template.one base [src, .labelMem] [rs2, rs1, .rel .lo12s],
    Template.pair 0x17 base [src, .label, .xNonzero]
      [second rs2, first (.rel .split32s), first (.peek 7), second rs1]].map
    fun t => ⟨name, t.gate xlen es⟩

def shiftImm (name : String) (base : Word) : List Entry :=
  [⟨name, (shift base Field.shamt5).rv32⟩, ⟨name, (shift base Field.shamt6).rv64⟩]

def branch (bits : Word) (slots : List Slot) (regs : List Action) : Template :=
  .one (0x63#32 ||| (bits <<< 12)) slots (regs ++ [.rel .b])

def jumps : List Entry :=
  [⟨"lui", .one 0x37 [.x, .imm] [rd, .upper]⟩,
    ⟨"auipc", .one 0x17 [.x, .imm] [rd, .upper]⟩,
    ⟨"auipc", .one 0x17 [.x, .label] [rd, .rel .hi20]⟩,
    ⟨"jal", .one 0x6f [.x, .label] [rd, .rel .j]⟩,
    ⟨"jal", .one 0xef [.label] [.rel .j]⟩,
    ⟨"jalr", .one 0xe7 [.x] [rs1]⟩,
    ⟨"jalr", .one 0x67 [.x, .mem] [rd, rs1, .imm Field.i]⟩,
    ⟨"jalr", itype 0x67⟩]

def branches : List Entry :=
  family (branch · [.x, .x, .label] [rs1, rs2])
    [("beq", 0), ("bne", 1), ("blt", 4), ("bge", 5), ("bltu", 6), ("bgeu", 7)]

def memory : List Entry :=
  load "lb" 0x03 .x none [] ++ load "lh" 0x1003 .x none [] ++ load "lw" 0x2003 .x none [] ++
  load "ld" 0x3003 .x (some 64) [] ++ load "lbu" 0x4003 .x none [] ++
  load "lhu" 0x5003 .x none [] ++ load "lwu" 0x6003 .x (some 64) [] ++
  store "sb" 0x23 .x none [] ++ store "sh" 0x1023 .x none [] ++
  store "sw" 0x2023 .x none [] ++ store "sd" 0x3023 .x (some 64) []

def arithmetic : List Entry :=
  family itype
    [("addi", 0x13), ("slti", 0x2013), ("sltiu", 0x3013), ("xori", 0x4013), ("ori", 0x6013),
      ("andi", 0x7013)] ++
  shiftImm "slli" 0x1013 ++ shiftImm "srli" 0x5013 ++ shiftImm "srai" 0x40005013 ++
  family rtype
    [("add", 0x33), ("sub", 0x40000033), ("sll", 0x1033), ("slt", 0x2033), ("sltu", 0x3033),
      ("xor", 0x4033), ("srl", 0x5033), ("sra", 0x40005033), ("or", 0x6033), ("and", 0x7033)] ++
  [⟨"addiw", (itype 0x1b).rv64⟩] ++
  family (fun bits => (shift bits Field.shamt5).rv64)
    [("slliw", 0x101b), ("srliw", 0x501b), ("sraiw", 0x4000501b)] ++
  family (fun bits => (rtype bits).rv64)
    [("addw", 0x3b), ("subw", 0x4000003b), ("sllw", 0x103b), ("srlw", 0x503b),
      ("sraw", 0x4000503b)]

def system : List Entry :=
  [⟨"fence", .one 0x0f [.fence, .fence] [.fence 24, .fence 20]⟩,
    ⟨"fence.tso", .one 0x8330000f [] []⟩,
    ⟨"fence.i", (Template.one 0x100f [] []).gate none [.zifencei]⟩,
    ⟨"pause", .one 0x0100000f [] []⟩,
    ⟨"ecall", .one 0x73 [] []⟩,
    ⟨"ebreak", .one 0x100073 [] []⟩]

def pseudoArithmetic : List Entry :=
  [⟨"nop", .one 0x13 [] []⟩,
    ⟨"mv", unary 0x13⟩,
    ⟨"not", unary 0xfff04013⟩,
    ⟨"neg", .one 0x40000033 [.x, .x] [rd, rs2]⟩,
    ⟨"negw", (Template.one 0x4000003b [.x, .x] [rd, rs2]).rv64⟩,
    ⟨"sext.w", (unary 0x1b).rv64⟩,
    ⟨"seqz", unary 0x00103013⟩,
    ⟨"snez", .one 0x3033 [.x, .x] [rd, rs2]⟩,
    ⟨"sltz", unary 0x2033⟩,
    ⟨"sgtz", .one 0x2033 [.x, .x] [rd, rs2]⟩]

def pseudoBranches : List Entry :=
  family (branch · [.x, .label] [rs1]) [("beqz", 0), ("bnez", 1), ("bgez", 5), ("bltz", 4)] ++
  family (branch · [.x, .label] [rs2]) [("blez", 5), ("bgtz", 4)] ++
  family (branch · [.x, .x, .label] [rs2, rs1])
    [("bgt", 4), ("ble", 5), ("bgtu", 6), ("bleu", 7)]

def pseudoJumps : List Entry :=
  [⟨"j", .one 0x6f [.label] [.rel .j]⟩,
    ⟨"jr", .one 0x67 [.x] [rs1]⟩,
    ⟨"ret", .one 0x8067 [] []⟩,
    ⟨"call", .pair 0x97 0x80e7 [.label] [first (.rel .split32)]⟩,
    ⟨"call", viaDestination 0x67⟩,
    ⟨"tail", .pair 0x317 0x30067 [.label] [first (.rel .split32)]⟩,
    ⟨"jump", .pair 0x17 0x67 [.label, .xNonzero]
      [first (.rel .split32), first (.peek 7), second rs1]⟩,
    ⟨"la", viaDestination 0x13⟩,
    ⟨"lla", viaDestination 0x13⟩]

def multiply : List Entry :=
  family (fun bits => (rtype bits).gate none [.m])
    [("mul", 0x02000033), ("mulh", 0x02001033), ("mulhsu", 0x02002033), ("mulhu", 0x02003033),
      ("div", 0x02004033), ("divu", 0x02005033), ("rem", 0x02006033), ("remu", 0x02007033)] ++
  family (fun bits => (rtype bits).gate (some 64) [.m])
    [("mulw", 0x0200003b), ("divw", 0x0200403b), ("divuw", 0x0200503b), ("remw", 0x0200603b),
      ("remuw", 0x0200703b)]

def integer : List Entry :=
  jumps ++ branches ++ memory ++ arithmetic ++ system ++ pseudoArithmetic ++ pseudoBranches ++
    pseudoJumps ++ multiply

end MachineCode.Riscv.Instructions
