import MachineCode.X86.Form

/-!
Instructions from F2XM1 to LZCNT in the order of their names, one list for each initial.
-/
namespace MachineCode.X86.Instructions

def namesF : List Family := [
  ⟨"F2XM1", [
    ⟨[0xd9, 0xf0], [], [.fpu], none, []⟩]⟩,
  ⟨"FABS", [
    ⟨[0xd9, 0xe1], [], [.fpu], none, []⟩]⟩,
  ⟨"FADD", [
    ⟨[0xde, 0xc1], [], [.fpu], none, []⟩,
    ⟨[0xd8, 0xc0], [.shortArg], [.fpu], none, [.Xp, .fp]⟩,
    ⟨[0xd8, 0xc0], [.shortArg], [.fpu], none, [.fp]⟩,
    ⟨[0xdc, 0xc0], [.shortArg], [.fpu], none, [.fp, .Xp]⟩,
    ⟨[0xdc, 0xc0], [.shortArg], [.fpu], none, [.fp, .Xp]⟩,
    ⟨[0xd8], [.exactSize], [.fpu], some 0, [.md]⟩,
    ⟨[0xdc], [.exactSize], [.fpu], some 0, [.mq]⟩]⟩,
  ⟨"FADDP", [
    ⟨[0xde, 0xc1], [], [.fpu], none, []⟩,
    ⟨[0xde, 0xc0], [.shortArg], [.fpu], none, [.fp]⟩,
    ⟨[0xde, 0xc0], [.shortArg], [.fpu], none, [.fp, .Xp]⟩]⟩,
  ⟨"FBLD", [
    ⟨[0xdf], [], [.fpu], some 4, [.mn]⟩]⟩,
  ⟨"FBSTP", [
    ⟨[0xdf], [], [.fpu], some 6, [.mn]⟩]⟩,
  ⟨"FCHS", [
    ⟨[0xd9, 0xe0], [], [.fpu], none, []⟩]⟩,
  ⟨"FCLEX", [
    ⟨[0x9b, 0xdb, 0xe2], [], [.fpu], none, []⟩]⟩,
  ⟨"FCMOVB", [
    ⟨[0xda, 0xc1], [], [.fpu], none, []⟩,
    ⟨[0xda, 0xc0], [.shortArg], [.fpu], none, [.Xp, .fp]⟩,
    ⟨[0xda, 0xc0], [.shortArg], [.fpu], none, [.fp]⟩]⟩,
  ⟨"FCMOVBE", [
    ⟨[0xda, 0xd1], [], [.fpu], none, []⟩,
    ⟨[0xda, 0xd0], [.shortArg], [.fpu], none, [.Xp, .fp]⟩,
    ⟨[0xda, 0xd0], [.shortArg], [.fpu], none, [.fp]⟩]⟩,
  ⟨"FCMOVE", [
    ⟨[0xda, 0xc9], [], [.fpu], none, []⟩,
    ⟨[0xda, 0xc8], [.shortArg], [.fpu], none, [.Xp, .fp]⟩,
    ⟨[0xda, 0xc8], [.shortArg], [.fpu], none, [.fp]⟩]⟩,
  ⟨"FCMOVNB", [
    ⟨[0xdb, 0xc1], [], [.fpu], none, []⟩,
    ⟨[0xdb, 0xc0], [.shortArg], [.fpu], none, [.Xp, .fp]⟩,
    ⟨[0xdb, 0xc0], [.shortArg], [.fpu], none, [.fp]⟩]⟩,
  ⟨"FCMOVNBE", [
    ⟨[0xdb, 0xd1], [], [.fpu], none, []⟩,
    ⟨[0xdb, 0xd0], [.shortArg], [.fpu], none, [.Xp, .fp]⟩,
    ⟨[0xdb, 0xd0], [.shortArg], [.fpu], none, [.fp]⟩]⟩,
  ⟨"FCMOVNE", [
    ⟨[0xdb, 0xc9], [], [.fpu], none, []⟩,
    ⟨[0xdb, 0xc8], [.shortArg], [.fpu], none, [.Xp, .fp]⟩,
    ⟨[0xdb, 0xc8], [.shortArg], [.fpu], none, [.fp]⟩]⟩,
  ⟨"FCMOVNU", [
    ⟨[0xdb, 0xd9], [], [.fpu], none, []⟩,
    ⟨[0xdb, 0xd8], [.shortArg], [.fpu], none, [.Xp, .fp]⟩,
    ⟨[0xdb, 0xd8], [.shortArg], [.fpu], none, [.fp]⟩]⟩,
  ⟨"FCMOVU", [
    ⟨[0xda, 0xd9], [], [.fpu], none, []⟩,
    ⟨[0xda, 0xd8], [.shortArg], [.fpu], none, [.Xp, .fp]⟩,
    ⟨[0xda, 0xd8], [.shortArg], [.fpu], none, [.fp]⟩]⟩,
  ⟨"FCOM", [
    ⟨[0xd8, 0xd1], [], [.fpu], none, []⟩,
    ⟨[0xd8, 0xd0], [.shortArg], [.fpu], none, [.Xp, .fp]⟩,
    ⟨[0xd8, 0xd0], [.shortArg], [.fpu], none, [.fp]⟩,
    ⟨[0xd8], [.exactSize], [.fpu], some 2, [.md]⟩,
    ⟨[0xdc], [.exactSize], [.fpu], some 2, [.mq]⟩]⟩,
  ⟨"FCOMI", [
    ⟨[0xdb, 0xf1], [], [.fpu], none, []⟩,
    ⟨[0xdb, 0xf0], [.shortArg], [.fpu], none, [.Xp, .fp]⟩,
    ⟨[0xdb, 0xf0], [.shortArg], [.fpu], none, [.fp]⟩]⟩,
  ⟨"FCOMIP", [
    ⟨[0xdf, 0xf1], [], [.fpu], none, []⟩,
    ⟨[0xdf, 0xf0], [.shortArg], [.fpu], none, [.Xp, .fp]⟩,
    ⟨[0xdf, 0xf0], [.shortArg], [.fpu], none, [.fp]⟩]⟩,
  ⟨"FCOMP", [
    ⟨[0xd8, 0xd9], [], [.fpu], none, []⟩,
    ⟨[0xd8, 0xd8], [.shortArg], [.fpu], none, [.Xp, .fp]⟩,
    ⟨[0xd8, 0xd8], [.shortArg], [.fpu], none, [.fp]⟩,
    ⟨[0xd8], [.exactSize], [.fpu], some 3, [.md]⟩,
    ⟨[0xdc], [.exactSize], [.fpu], some 3, [.mq]⟩]⟩,
  ⟨"FCOMPP", [
    ⟨[0xde, 0xd9], [], [.fpu], none, []⟩]⟩,
  ⟨"FCOS", [
    ⟨[0xd9, 0xff], [], [.fpu], none, []⟩]⟩,
  ⟨"FDECSTP", [
    ⟨[0xd9, 0xf6], [], [.fpu], none, []⟩]⟩,
  ⟨"FDISI", [
    ⟨[0x9b, 0xdb, 0xe1], [], [.fpu], none, []⟩]⟩,
  ⟨"FDIV", [
    ⟨[0xde, 0xf9], [], [.fpu], none, []⟩,
    ⟨[0xd8, 0xf0], [.shortArg], [.fpu], none, [.Xp, .fp]⟩,
    ⟨[0xd8, 0xf0], [.shortArg], [.fpu], none, [.fp]⟩,
    ⟨[0xdc, 0xf8], [.shortArg], [.fpu], none, [.fp, .Xp]⟩,
    ⟨[0xdc, 0xf8], [.shortArg], [.fpu], none, [.fp, .Xp]⟩,
    ⟨[0xd8], [.exactSize], [.fpu], some 6, [.md]⟩,
    ⟨[0xdc], [.exactSize], [.fpu], some 6, [.mq]⟩]⟩,
  ⟨"FDIVP", [
    ⟨[0xde, 0xf9], [], [.fpu], none, []⟩,
    ⟨[0xde, 0xf8], [.shortArg], [.fpu], none, [.fp]⟩,
    ⟨[0xde, 0xf8], [.shortArg], [.fpu], none, [.fp, .Xp]⟩]⟩,
  ⟨"FDIVR", [
    ⟨[0xde, 0xf1], [], [.fpu], none, []⟩,
    ⟨[0xd8, 0xf8], [.shortArg], [.fpu], none, [.Xp, .fp]⟩,
    ⟨[0xd8, 0xf8], [.shortArg], [.fpu], none, [.fp]⟩,
    ⟨[0xdc, 0xf0], [.shortArg], [.fpu], none, [.fp, .Xp]⟩,
    ⟨[0xdc, 0xf0], [.shortArg], [.fpu], none, [.fp, .Xp]⟩,
    ⟨[0xd8], [.exactSize], [.fpu], some 7, [.md]⟩,
    ⟨[0xdc], [.exactSize], [.fpu], some 7, [.mq]⟩]⟩,
  ⟨"FDIVRP", [
    ⟨[0xde, 0xf1], [], [.fpu], none, []⟩,
    ⟨[0xde, 0xf0], [.shortArg], [.fpu], none, [.fp]⟩,
    ⟨[0xde, 0xf0], [.shortArg], [.fpu], none, [.fp, .Xp]⟩]⟩,
  ⟨"FEMMS", [
    ⟨[0x0f, 0x0e], [], [.tdnow], none, []⟩]⟩,
  ⟨"FENI", [
    ⟨[0x9b, 0xdb, 0xe0], [], [.fpu], none, []⟩]⟩,
  ⟨"FFREE", [
    ⟨[0xdd, 0xc1], [], [.fpu], none, []⟩,
    ⟨[0xdd, 0xc0], [.shortArg], [.fpu], none, [.fp]⟩]⟩,
  ⟨"FIADD", [
    ⟨[0xda], [.exactSize], [.fpu], some 0, [.md]⟩,
    ⟨[0xde], [], [.fpu], some 0, [.mw]⟩]⟩,
  ⟨"FICOM", [
    ⟨[0xda], [.exactSize], [.fpu], some 2, [.md]⟩,
    ⟨[0xde], [], [.fpu], some 2, [.mw]⟩]⟩,
  ⟨"FICOMP", [
    ⟨[0xda], [.exactSize], [.fpu], some 3, [.md]⟩,
    ⟨[0xde], [], [.fpu], some 3, [.mw]⟩]⟩,
  ⟨"FIDIV", [
    ⟨[0xda], [.exactSize], [.fpu], some 6, [.md]⟩,
    ⟨[0xde], [], [.fpu], some 6, [.mw]⟩]⟩,
  ⟨"FIDIVR", [
    ⟨[0xda], [.exactSize], [.fpu], some 7, [.md]⟩,
    ⟨[0xde], [], [.fpu], some 7, [.mw]⟩]⟩,
  ⟨"FILD", [
    ⟨[0xdb], [.exactSize], [.fpu], some 0, [.md]⟩,
    ⟨[0xdf], [.exactSize], [.fpu], some 5, [.mq]⟩,
    ⟨[0xdf], [], [.fpu], some 0, [.mw]⟩]⟩,
  ⟨"FIMUL", [
    ⟨[0xda], [.exactSize], [.fpu], some 1, [.md]⟩,
    ⟨[0xde], [], [.fpu], some 1, [.mw]⟩]⟩,
  ⟨"FINCSTP", [
    ⟨[0xd9, 0xf7], [], [.fpu], none, []⟩]⟩,
  ⟨"FINIT", [
    ⟨[0x9b, 0xdb, 0xe3], [], [.fpu], none, []⟩]⟩,
  ⟨"FIST", [
    ⟨[0xdb], [.exactSize], [.fpu], some 2, [.md]⟩,
    ⟨[0xdf], [], [.fpu], some 2, [.mw]⟩]⟩,
  ⟨"FISTP", [
    ⟨[0xdb], [.exactSize], [.fpu], some 3, [.md]⟩,
    ⟨[0xdf], [.exactSize], [.fpu], some 7, [.mq]⟩,
    ⟨[0xdf], [], [.fpu], some 3, [.mw]⟩]⟩,
  ⟨"FISTTP", [
    ⟨[0xdb], [.exactSize], [.fpu], some 1, [.md]⟩,
    ⟨[0xdd], [.exactSize], [.fpu], some 1, [.mq]⟩,
    ⟨[0xdf], [], [.fpu], some 1, [.mw]⟩]⟩,
  ⟨"FISUB", [
    ⟨[0xda], [.exactSize], [.fpu], some 4, [.md]⟩,
    ⟨[0xde], [], [.fpu], some 4, [.mw]⟩]⟩,
  ⟨"FISUBR", [
    ⟨[0xda], [.exactSize], [.fpu], some 5, [.md]⟩,
    ⟨[0xde], [], [.fpu], some 5, [.mw]⟩]⟩,
  ⟨"FLD", [
    ⟨[0xd9, 0xc1], [], [.fpu], none, []⟩,
    ⟨[0xd9, 0xc0], [.shortArg], [.fpu], none, [.fp]⟩,
    ⟨[0xd9], [.exactSize], [.fpu], some 0, [.md]⟩,
    ⟨[0xdb], [.exactSize], [.fpu], some 5, [.mp]⟩,
    ⟨[0xdd], [.exactSize], [.fpu], some 0, [.mq]⟩]⟩,
  ⟨"FLD1", [
    ⟨[0xd9, 0xe8], [], [.fpu], none, []⟩]⟩,
  ⟨"FLDCW", [
    ⟨[0xd9], [], [.fpu], some 5, [.mw]⟩]⟩,
  ⟨"FLDENV", [
    ⟨[0xd9], [], [.fpu], some 4, [.mn]⟩]⟩,
  ⟨"FLDL2E", [
    ⟨[0xd9, 0xea], [], [.fpu], none, []⟩]⟩,
  ⟨"FLDL2T", [
    ⟨[0xd9, 0xe9], [], [.fpu], none, []⟩]⟩,
  ⟨"FLDLG2", [
    ⟨[0xd9, 0xec], [], [.fpu], none, []⟩]⟩,
  ⟨"FLDLN2", [
    ⟨[0xd9, 0xed], [], [.fpu], none, []⟩]⟩,
  ⟨"FLDPI", [
    ⟨[0xd9, 0xeb], [], [.fpu], none, []⟩]⟩,
  ⟨"FLDZ", [
    ⟨[0xd9, 0xee], [], [.fpu], none, []⟩]⟩,
  ⟨"FMUL", [
    ⟨[0xde, 0xc9], [], [.fpu], none, []⟩,
    ⟨[0xd8, 0xc8], [.shortArg], [.fpu], none, [.Xp, .fp]⟩,
    ⟨[0xd8, 0xc8], [.shortArg], [.fpu], none, [.fp]⟩,
    ⟨[0xdc, 0xc8], [.shortArg], [.fpu], none, [.fp, .Xp]⟩,
    ⟨[0xdc, 0xc8], [.shortArg], [.fpu], none, [.fp, .Xp]⟩,
    ⟨[0xd8], [.exactSize], [.fpu], some 1, [.md]⟩,
    ⟨[0xdc], [.exactSize], [.fpu], some 1, [.mq]⟩]⟩,
  ⟨"FMULP", [
    ⟨[0xde, 0xc9], [], [.fpu], none, []⟩,
    ⟨[0xde, 0xc8], [.shortArg], [.fpu], none, [.fp]⟩,
    ⟨[0xde, 0xc8], [.shortArg], [.fpu], none, [.fp, .Xp]⟩]⟩,
  ⟨"FNCLEX", [
    ⟨[0xdb, 0xe2], [], [.fpu], none, []⟩]⟩,
  ⟨"FNDISI", [
    ⟨[0xdb, 0xe1], [], [.fpu], none, []⟩]⟩,
  ⟨"FNENI", [
    ⟨[0xdb, 0xe0], [], [.fpu], none, []⟩]⟩,
  ⟨"FNINIT", [
    ⟨[0xdb, 0xe3], [], [.fpu], none, []⟩]⟩,
  ⟨"FNOP", [
    ⟨[0xd9, 0xd0], [], [.fpu], none, []⟩]⟩,
  ⟨"FNSAVE", [
    ⟨[0xdd], [], [.fpu], some 6, [.mn]⟩]⟩,
  ⟨"FNSTCW", [
    ⟨[0xd9], [], [.fpu], some 7, [.mw]⟩]⟩,
  ⟨"FNSTENV", [
    ⟨[0xd9], [], [.fpu], some 6, [.mn]⟩]⟩,
  ⟨"FNSTSW", [
    ⟨[0xdf, 0xe0], [], [.fpu], none, [.Aw]⟩,
    ⟨[0xdd], [], [.fpu], some 7, [.mw]⟩]⟩,
  ⟨"FPATAN", [
    ⟨[0xd9, 0xf3], [], [.fpu], none, []⟩]⟩,
  ⟨"FPREM", [
    ⟨[0xd9, 0xf8], [], [.fpu], none, []⟩]⟩,
  ⟨"FPREM1", [
    ⟨[0xd9, 0xf5], [], [.fpu], none, []⟩]⟩,
  ⟨"FPTAN", [
    ⟨[0xd9, 0xf2], [], [.fpu], none, []⟩]⟩,
  ⟨"FRNDINT", [
    ⟨[0xd9, 0xfc], [], [.fpu], none, []⟩]⟩,
  ⟨"FRSTOR", [
    ⟨[0xdd], [], [.fpu], some 4, [.mn]⟩]⟩,
  ⟨"FSAVE", [
    ⟨[0x9b, 0xdd], [], [.fpu], some 6, [.mn]⟩]⟩,
  ⟨"FSCALE", [
    ⟨[0xd9, 0xfd], [], [.fpu], none, []⟩]⟩,
  ⟨"FSETPM", [
    ⟨[0xdb, 0xe4], [], [.fpu], none, []⟩]⟩,
  ⟨"FSIN", [
    ⟨[0xd9, 0xfe], [], [.fpu], none, []⟩]⟩,
  ⟨"FSINCOS", [
    ⟨[0xd9, 0xfb], [], [.fpu], none, []⟩]⟩,
  ⟨"FSQRT", [
    ⟨[0xd9, 0xfa], [], [.fpu], none, []⟩]⟩,
  ⟨"FST", [
    ⟨[0xdd, 0xd1], [], [.fpu], none, []⟩,
    ⟨[0xdd, 0xd0], [.shortArg], [.fpu], none, [.fp]⟩,
    ⟨[0xd9], [.exactSize], [.fpu], some 2, [.md]⟩,
    ⟨[0xdd], [.exactSize], [.fpu], some 2, [.mq]⟩]⟩,
  ⟨"FSTCW", [
    ⟨[0x9b, 0xd9], [], [.fpu], some 7, [.mw]⟩]⟩,
  ⟨"FSTENV", [
    ⟨[0x9b, 0xd9], [], [.fpu], some 6, [.mn]⟩]⟩,
  ⟨"FSTP", [
    ⟨[0xdd, 0xd9], [], [.fpu], none, []⟩,
    ⟨[0xdd, 0xd8], [.shortArg], [.fpu], none, [.fp]⟩,
    ⟨[0xd9], [.exactSize], [.fpu], some 3, [.md]⟩,
    ⟨[0xdb], [.exactSize], [.fpu], some 7, [.mp]⟩,
    ⟨[0xdd], [.exactSize], [.fpu], some 3, [.mq]⟩]⟩,
  ⟨"FSTSW", [
    ⟨[0x9b, 0xdf, 0xe0], [], [.fpu], none, [.Aw]⟩,
    ⟨[0x9b, 0xdd], [], [.fpu], some 7, [.mw]⟩]⟩,
  ⟨"FSUB", [
    ⟨[0xde, 0xe9], [], [.fpu], none, []⟩,
    ⟨[0xd8, 0xe0], [.shortArg], [.fpu], none, [.Xp, .fp]⟩,
    ⟨[0xd8, 0xe0], [.shortArg], [.fpu], none, [.fp]⟩,
    ⟨[0xdc, 0xe8], [.shortArg], [.fpu], none, [.fp, .Xp]⟩,
    ⟨[0xdc, 0xe8], [.shortArg], [.fpu], none, [.fp, .Xp]⟩,
    ⟨[0xd8], [.exactSize], [.fpu], some 4, [.md]⟩,
    ⟨[0xdc], [.exactSize], [.fpu], some 4, [.mq]⟩]⟩,
  ⟨"FSUBP", [
    ⟨[0xde, 0xe9], [], [.fpu], none, []⟩,
    ⟨[0xde, 0xe8], [.shortArg], [.fpu], none, [.fp]⟩,
    ⟨[0xde, 0xe8], [.shortArg], [.fpu], none, [.fp, .Xp]⟩]⟩,
  ⟨"FSUBR", [
    ⟨[0xde, 0xe1], [], [.fpu], none, []⟩,
    ⟨[0xd8, 0xe8], [.shortArg], [.fpu], none, [.Xp, .fp]⟩,
    ⟨[0xd8, 0xe8], [.shortArg], [.fpu], none, [.fp]⟩,
    ⟨[0xdc, 0xe0], [.shortArg], [.fpu], none, [.fp, .Xp]⟩,
    ⟨[0xdc, 0xe0], [.shortArg], [.fpu], none, [.fp, .Xp]⟩,
    ⟨[0xd8], [.exactSize], [.fpu], some 5, [.md]⟩,
    ⟨[0xdc], [.exactSize], [.fpu], some 5, [.mq]⟩]⟩,
  ⟨"FSUBRP", [
    ⟨[0xde, 0xe1], [], [.fpu], none, []⟩,
    ⟨[0xde, 0xe0], [.shortArg], [.fpu], none, [.fp]⟩,
    ⟨[0xde, 0xe0], [.shortArg], [.fpu], none, [.fp, .Xp]⟩]⟩,
  ⟨"FTST", [
    ⟨[0xd9, 0xe4], [], [.fpu], none, []⟩]⟩,
  ⟨"FUCOM", [
    ⟨[0xdd, 0xe1], [], [.fpu], none, []⟩,
    ⟨[0xdd, 0xe0], [.shortArg], [.fpu], none, [.Xp, .fp]⟩,
    ⟨[0xdd, 0xe0], [.shortArg], [.fpu], none, [.fp]⟩]⟩,
  ⟨"FUCOMI", [
    ⟨[0xdb, 0xe9], [], [.fpu], none, []⟩,
    ⟨[0xdb, 0xe8], [.shortArg], [.fpu], none, [.Xp, .fp]⟩,
    ⟨[0xdb, 0xe8], [.shortArg], [.fpu], none, [.fp]⟩]⟩,
  ⟨"FUCOMIP", [
    ⟨[0xdf, 0xe9], [], [.fpu], none, []⟩,
    ⟨[0xdf, 0xe8], [.shortArg], [.fpu], none, [.Xp, .fp]⟩,
    ⟨[0xdf, 0xe8], [.shortArg], [.fpu], none, [.fp]⟩]⟩,
  ⟨"FUCOMP", [
    ⟨[0xdd, 0xe9], [], [.fpu], none, []⟩,
    ⟨[0xdd, 0xe8], [.shortArg], [.fpu], none, [.Xp, .fp]⟩,
    ⟨[0xdd, 0xe8], [.shortArg], [.fpu], none, [.fp]⟩]⟩,
  ⟨"FUCOMPP", [
    ⟨[0xda, 0xe9], [], [.fpu], none, []⟩]⟩,
  ⟨"FWAIT", [
    ⟨[0x9b], [], [], none, []⟩]⟩,
  ⟨"FXAM", [
    ⟨[0xd9, 0xe5], [], [.fpu], none, []⟩]⟩,
  ⟨"FXCH", [
    ⟨[0xd9, 0xc9], [], [.fpu], none, []⟩,
    ⟨[0xd9, 0xc8], [.shortArg], [.fpu], none, [.Xp, .fp]⟩,
    ⟨[0xd9, 0xc8], [.shortArg], [.fpu], none, [.fp]⟩,
    ⟨[0xd9, 0xc8], [.shortArg], [.fpu], none, [.fp, .Xp]⟩]⟩,
  ⟨"FXRSTOR", [
    ⟨[0x0f, 0xae], [], [.sse, .fpu], some 1, [.mn]⟩]⟩,
  ⟨"FXRSTOR64", [
    ⟨[0x0f, 0xae], [.withRexW], [.fpu, .sse], some 1, [.mn]⟩]⟩,
  ⟨"FXSAVE", [
    ⟨[0x0f, 0xae], [], [.fpu, .sse], some 0, [.mn]⟩]⟩,
  ⟨"FXSAVE64", [
    ⟨[0x0f, 0xae], [.withRexW], [.sse, .fpu], some 0, [.mn]⟩]⟩,
  ⟨"FXTRACT", [
    ⟨[0xd9, 0xf4], [], [.fpu], none, []⟩]⟩,
  ⟨"FYL2X", [
    ⟨[0xd9, 0xf1], [], [.fpu], none, []⟩]⟩,
  ⟨"FYL2XP1", [
    ⟨[0xd9, 0xf9], [], [.fpu], none, []⟩]⟩]

def namesG : List Family := [
  ⟨"GETSEC", [
    ⟨[0x0f, 0x37], [], [], none, []⟩]⟩]

def namesH : List Family := [
  ⟨"HADDPD", [
    ⟨[0x0f, 0x7c], [.pref66], [.sse3], none, [.yo, .wo]⟩]⟩,
  ⟨"HADDPS", [
    ⟨[0x0f, 0x7c], [.prefF2], [.sse3], none, [.yo, .wo]⟩]⟩,
  ⟨"HLT", [
    ⟨[0xf4], [], [], none, []⟩]⟩,
  ⟨"HSUBPD", [
    ⟨[0x0f, 0x7d], [.pref66], [.sse3], none, [.yo, .wo]⟩]⟩,
  ⟨"HSUBPS", [
    ⟨[0x0f, 0x7d], [.prefF2], [.sse3], none, [.yo, .wo]⟩]⟩]

def namesI : List Family := [
  ⟨"ICEBP", [
    ⟨[0xf1], [], [], none, []⟩]⟩,
  ⟨"IDIV", [
    ⟨[0xf6], [], [], some 7, [.vb]⟩,
    ⟨[0xf7], [.autoSize], [], some 7, [.va]⟩]⟩,
  ⟨"IMUL", [
    ⟨[0xf7], [.autoSize], [], some 5, [.va]⟩,
    ⟨[0xf6], [], [], some 5, [.vb]⟩,
    ⟨[0x0f, 0xaf], [.autoSize], [], none, [.ra, .va]⟩,
    ⟨[0x6b], [.autoSize, .exactSize], [], none, [.ra, .va, .ib]⟩,
    ⟨[0x69], [.autoSize], [], none, [.ra, .va, .ia]⟩]⟩,
  ⟨"IN", [
    ⟨[0xe4], [], [], none, [.Ab, .ib]⟩,
    ⟨[0xe5], [.wordSize], [], none, [.Aw, .ib]⟩,
    ⟨[0xe5], [], [], none, [.Ad, .ib]⟩,
    ⟨[0xec], [], [], none, [.Ab, .Cw]⟩,
    ⟨[0xed], [.wordSize], [], none, [.Aw, .Cw]⟩,
    ⟨[0xed], [], [], none, [.Ad, .Cw]⟩]⟩,
  ⟨"INC", [
    ⟨[0xfe], [.lock], [], some 0, [.mb]⟩,
    ⟨[0xfe], [], [], some 0, [.rb]⟩,
    ⟨[0xff], [.autoSize, .lock], [], some 0, [.ma]⟩,
    ⟨[0x40], [.x86Only, .shortArg], [], some 0, [.ra]⟩,
    ⟨[0xff], [.autoSize], [], some 0, [.ra]⟩]⟩,
  ⟨"INSB", [
    ⟨[0x6c], [.rep], [], none, []⟩]⟩,
  ⟨"INSD", [
    ⟨[0x6d], [.rep], [], none, []⟩]⟩,
  ⟨"INSERTPS", [
    ⟨[0x0f, 0x3a, 0x21], [.pref66], [.sse41], none, [.yo, .md, .ib]⟩,
    ⟨[0x0f, 0x3a, 0x21], [.pref66], [.sse41], none, [.yo, .yo, .ib]⟩]⟩,
  ⟨"INSERTQ", [
    ⟨[0x0f, 0x79], [.prefF2], [.sse4a, .amd], none, [.yo, .yo]⟩,
    ⟨[0x0f, 0x78], [.prefF2], [.amd, .sse4a], none, [.yo, .yo, .ib, .ib]⟩]⟩,
  ⟨"INSW", [
    ⟨[0x6d], [.wordSize, .rep], [], none, []⟩]⟩,
  ⟨"INT", [
    ⟨[0xcd], [], [], none, [.ib]⟩]⟩,
  ⟨"INT01", [
    ⟨[0xf1], [], [], none, []⟩]⟩,
  ⟨"INT03", [
    ⟨[0xcc], [], [], none, []⟩]⟩,
  ⟨"INT1", [
    ⟨[0xf1], [], [], none, []⟩]⟩,
  ⟨"INT3", [
    ⟨[0xcc], [], [], none, []⟩]⟩,
  ⟨"INTO", [
    ⟨[0xce], [.x86Only], [], none, []⟩]⟩,
  ⟨"INVD", [
    ⟨[0x0f, 0x08], [], [], none, []⟩]⟩,
  ⟨"INVEPT", [
    ⟨[0x0f, 0x38, 0x80], [.pref66], [.vmx], none, [.rq, .mo]⟩]⟩,
  ⟨"INVLPG", [
    ⟨[0x0f, 0x01], [], [], some 7, [.mn]⟩]⟩,
  ⟨"INVLPGA", [
    ⟨[0x0f, 0x01, 0xdf], [], [.amd], none, []⟩,
    ⟨[0x0f, 0x01, 0xdf], [], [.amd], none, [.Aq, .Bd]⟩]⟩,
  ⟨"INVPCID", [
    ⟨[0x0f, 0x38, 0x82], [.pref66], [.invpcid], none, [.rq, .mo]⟩]⟩,
  ⟨"INVVPID", [
    ⟨[0x0f, 0x38, 0x81], [.pref66], [.vmx], none, [.rq, .mo]⟩]⟩,
  ⟨"IRET", [
    ⟨[0xcf], [], [], none, []⟩]⟩,
  ⟨"IRETD", [
    ⟨[0xcf], [], [], none, []⟩]⟩,
  ⟨"IRETQ", [
    ⟨[0xcf], [.withRexW], [], none, []⟩]⟩,
  ⟨"IRETW", [
    ⟨[0xcf], [.wordSize], [], none, []⟩]⟩]

def namesJ : List Family := [
  ⟨"JA", [
    ⟨[0x77], [.exactSize], [], none, [.ob]⟩,
    ⟨[0x0f, 0x87], [], [], none, [.od]⟩]⟩,
  ⟨"JAE", [
    ⟨[0x73], [.exactSize], [], none, [.ob]⟩,
    ⟨[0x0f, 0x83], [], [], none, [.od]⟩]⟩,
  ⟨"JB", [
    ⟨[0x72], [.exactSize], [], none, [.ob]⟩,
    ⟨[0x0f, 0x82], [], [], none, [.od]⟩]⟩,
  ⟨"JBE", [
    ⟨[0x76], [.exactSize], [], none, [.ob]⟩,
    ⟨[0x0f, 0x86], [], [], none, [.od]⟩]⟩,
  ⟨"JC", [
    ⟨[0x72], [.exactSize], [], none, [.ob]⟩,
    ⟨[0x0f, 0x82], [], [], none, [.od]⟩]⟩,
  ⟨"JE", [
    ⟨[0x74], [.exactSize], [], none, [.ob]⟩,
    ⟨[0x0f, 0x84], [], [], none, [.od]⟩]⟩,
  ⟨"JECXZ", [
    ⟨[0xe3], [.pref67], [], none, [.ob]⟩]⟩,
  ⟨"JG", [
    ⟨[0x7f], [.exactSize], [], none, [.ob]⟩,
    ⟨[0x0f, 0x8f], [], [], none, [.od]⟩]⟩,
  ⟨"JGE", [
    ⟨[0x7d], [.exactSize], [], none, [.ob]⟩,
    ⟨[0x0f, 0x8d], [], [], none, [.od]⟩]⟩,
  ⟨"JL", [
    ⟨[0x7c], [.exactSize], [], none, [.ob]⟩,
    ⟨[0x0f, 0x8c], [], [], none, [.od]⟩]⟩,
  ⟨"JLE", [
    ⟨[0x7e], [.exactSize], [], none, [.ob]⟩,
    ⟨[0x0f, 0x8e], [], [], none, [.od]⟩]⟩,
  ⟨"JMP", [
    ⟨[0x9a], [.x86Only, .wordSize, .exactSize], [], none, [.iw, .iw]⟩,
    ⟨[0xea], [.x86Only], [], none, [.id, .iw]⟩,
    ⟨[0xff], [.x86Only, .exactSize], [], some 5, [.mf]⟩,
    ⟨[0xeb], [.exactSize], [], none, [.ob]⟩,
    ⟨[0xe9], [], [], none, [.od]⟩,
    ⟨[0xff], [.autoNo32], [], some 4, [.va]⟩]⟩,
  ⟨"JMPF", [
    ⟨[0x9a], [.x86Only, .wordSize, .exactSize], [], none, [.iw, .iw]⟩,
    ⟨[0xea], [.x86Only], [], none, [.id, .iw]⟩,
    ⟨[0xff], [.x86Only, .wordSize, .exactSize], [], some 5, [.md]⟩,
    ⟨[0xff], [.x86Only], [], some 5, [.mf]⟩]⟩,
  ⟨"JNA", [
    ⟨[0x76], [.exactSize], [], none, [.ob]⟩,
    ⟨[0x0f, 0x86], [], [], none, [.od]⟩]⟩,
  ⟨"JNAE", [
    ⟨[0x72], [.exactSize], [], none, [.ob]⟩,
    ⟨[0x0f, 0x82], [], [], none, [.od]⟩]⟩,
  ⟨"JNB", [
    ⟨[0x73], [.exactSize], [], none, [.ob]⟩,
    ⟨[0x0f, 0x83], [], [], none, [.od]⟩]⟩,
  ⟨"JNBE", [
    ⟨[0x77], [.exactSize], [], none, [.ob]⟩,
    ⟨[0x0f, 0x87], [], [], none, [.od]⟩]⟩,
  ⟨"JNC", [
    ⟨[0x73], [.exactSize], [], none, [.ob]⟩,
    ⟨[0x0f, 0x83], [], [], none, [.od]⟩]⟩,
  ⟨"JNE", [
    ⟨[0x75], [.exactSize], [], none, [.ob]⟩,
    ⟨[0x0f, 0x85], [], [], none, [.od]⟩]⟩,
  ⟨"JNG", [
    ⟨[0x7e], [.exactSize], [], none, [.ob]⟩,
    ⟨[0x0f, 0x8e], [], [], none, [.od]⟩]⟩,
  ⟨"JNGE", [
    ⟨[0x7c], [.exactSize], [], none, [.ob]⟩,
    ⟨[0x0f, 0x8c], [], [], none, [.od]⟩]⟩,
  ⟨"JNL", [
    ⟨[0x7d], [.exactSize], [], none, [.ob]⟩,
    ⟨[0x0f, 0x8d], [], [], none, [.od]⟩]⟩,
  ⟨"JNLE", [
    ⟨[0x7f], [.exactSize], [], none, [.ob]⟩,
    ⟨[0x0f, 0x8f], [], [], none, [.od]⟩]⟩,
  ⟨"JNO", [
    ⟨[0x71], [.exactSize], [], none, [.ob]⟩,
    ⟨[0x0f, 0x81], [], [], none, [.od]⟩]⟩,
  ⟨"JNP", [
    ⟨[0x7b], [.exactSize], [], none, [.ob]⟩,
    ⟨[0x0f, 0x8b], [], [], none, [.od]⟩]⟩,
  ⟨"JNS", [
    ⟨[0x79], [.exactSize], [], none, [.ob]⟩,
    ⟨[0x0f, 0x89], [], [], none, [.od]⟩]⟩,
  ⟨"JNZ", [
    ⟨[0x75], [.exactSize], [], none, [.ob]⟩,
    ⟨[0x0f, 0x85], [], [], none, [.od]⟩]⟩,
  ⟨"JO", [
    ⟨[0x70], [.exactSize], [], none, [.ob]⟩,
    ⟨[0x0f, 0x80], [], [], none, [.od]⟩]⟩,
  ⟨"JP", [
    ⟨[0x7a], [.exactSize], [], none, [.ob]⟩,
    ⟨[0x0f, 0x8a], [], [], none, [.od]⟩]⟩,
  ⟨"JPE", [
    ⟨[0x7a], [.exactSize], [], none, [.ob]⟩,
    ⟨[0x0f, 0x8a], [], [], none, [.od]⟩]⟩,
  ⟨"JPO", [
    ⟨[0x7b], [.exactSize], [], none, [.ob]⟩,
    ⟨[0x0f, 0x8b], [], [], none, [.od]⟩]⟩,
  ⟨"JRCXZ", [
    ⟨[0xe3], [], [], none, [.ob]⟩]⟩,
  ⟨"JS", [
    ⟨[0x78], [.exactSize], [], none, [.ob]⟩,
    ⟨[0x0f, 0x88], [], [], none, [.od]⟩]⟩,
  ⟨"JZ", [
    ⟨[0x74], [.exactSize], [], none, [.ob]⟩,
    ⟨[0x0f, 0x84], [], [], none, [.od]⟩]⟩]

def namesL : List Family := [
  ⟨"LAHF", [
    ⟨[0x9f], [], [], none, []⟩]⟩,
  ⟨"LAR", [
    ⟨[0x0f, 0x02], [.autoSize], [], none, [.ra, .mw]⟩,
    ⟨[0x0f, 0x02], [.autoSize], [], none, [.ra, .ra]⟩]⟩,
  ⟨"LDDQU", [
    ⟨[0x0f, 0xf0], [.prefF2], [.sse3], none, [.yo, .mo]⟩]⟩,
  ⟨"LDMXCSR", [
    ⟨[0x0f, 0xae], [], [.sse], some 2, [.md]⟩]⟩,
  ⟨"LDS", [
    ⟨[0xc5], [.autoSize, .x86Only], [], none, [.ra, .mn]⟩]⟩,
  ⟨"LEA", [
    ⟨[0x8d], [.autoSize], [], none, [.ra, .mn]⟩]⟩,
  ⟨"LEAVE", [
    ⟨[0xc9], [], [], none, []⟩]⟩,
  ⟨"LES", [
    ⟨[0xc4], [.autoSize, .x86Only], [], none, [.ra, .mn]⟩]⟩,
  ⟨"LFENCE", [
    ⟨[0x0f, 0xae, 0xe8], [], [.amd], none, []⟩]⟩,
  ⟨"LFS", [
    ⟨[0x0f, 0xb4], [.autoSize], [], none, [.ra, .mn]⟩]⟩,
  ⟨"LGDT", [
    ⟨[0x0f, 0x01], [], [], some 2, [.mn]⟩]⟩,
  ⟨"LGS", [
    ⟨[0x0f, 0xb5], [.autoSize], [], none, [.ra, .mn]⟩]⟩,
  ⟨"LIDT", [
    ⟨[0x0f, 0x01], [], [], some 3, [.mn]⟩]⟩,
  ⟨"LLDT", [
    ⟨[0x0f, 0x00], [], [], some 2, [.mn]⟩,
    ⟨[0x0f, 0x00], [], [], some 2, [.rw]⟩]⟩,
  ⟨"LLWPCB", [
    ⟨[0x09, 0x12], [.xop, .autoRexW], [.amd], some 0, [.ra]⟩]⟩,
  ⟨"LMSW", [
    ⟨[0x0f, 0x01], [], [], some 6, [.mn]⟩,
    ⟨[0x0f, 0x01], [], [], some 6, [.rw]⟩]⟩,
  ⟨"LODSB", [
    ⟨[0xac], [.rep], [], none, []⟩]⟩,
  ⟨"LODSD", [
    ⟨[0xad], [.rep], [], none, []⟩]⟩,
  ⟨"LODSQ", [
    ⟨[0xad], [.withRexW, .rep], [], none, []⟩]⟩,
  ⟨"LODSW", [
    ⟨[0xad], [.wordSize, .rep], [], none, []⟩]⟩,
  ⟨"LOOP", [
    ⟨[0xe2], [], [], none, [.ob]⟩]⟩,
  ⟨"LOOPE", [
    ⟨[0xe1], [], [], none, [.ob]⟩]⟩,
  ⟨"LOOPNE", [
    ⟨[0xe0], [], [], none, [.ob]⟩]⟩,
  ⟨"LOOPNZ", [
    ⟨[0xe0], [], [], none, [.ob]⟩]⟩,
  ⟨"LOOPZ", [
    ⟨[0xe1], [], [], none, [.ob]⟩]⟩,
  ⟨"LSL", [
    ⟨[0x0f, 0x03], [.autoSize], [], none, [.ra, .mw]⟩,
    ⟨[0x0f, 0x03], [.autoSize], [], none, [.ra, .ra]⟩]⟩,
  ⟨"LSS", [
    ⟨[0x0f, 0xb2], [.autoSize], [], none, [.ra, .mn]⟩]⟩,
  ⟨"LTR", [
    ⟨[0x0f, 0x00], [], [], some 3, [.mn]⟩,
    ⟨[0x0f, 0x00], [], [], some 3, [.rw]⟩]⟩,
  ⟨"LWPINS", [
    ⟨[0x10, 0x12], [.xop, .autoRexW, .encVM], [.amd], some 0, [.ra, .va, .id]⟩]⟩,
  ⟨"LWPVAL", [
    ⟨[0x10, 0x12], [.xop, .autoRexW, .encVM], [.amd], some 1, [.ra, .va, .id]⟩]⟩,
  ⟨"LZCNT", [
    ⟨[0x0f, 0xbd], [.autoSize, .prefF3], [.amd], none, [.ra, .va]⟩]⟩]

def fToL : List Family :=
  namesF ++ namesG ++ namesH ++ namesI ++ namesJ ++ namesL

end MachineCode.X86.Instructions
