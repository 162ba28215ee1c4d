import MachineCode.X86.Form

/-!
Instructions from SAHF to UNPCKLPS in the order of their names, one list for each initial.
-/
namespace MachineCode.X86.Instructions

def namesS : List Family := [
  ⟨"SAHF", [
    ⟨[0x9e], [], [], none, []⟩]⟩,
  ⟨"SAL", [
    ⟨[0xd2], [], [], some 4, [.vb, .Bb]⟩,
    ⟨[0xc0], [], [], some 4, [.vb, .ib]⟩,
    ⟨[0xd3], [.autoSize], [], some 4, [.va, .Bb]⟩,
    ⟨[0xc1], [.autoSize], [], some 4, [.va, .ib]⟩]⟩,
  ⟨"SAR", [
    ⟨[0xd2], [], [], some 7, [.vb, .Bb]⟩,
    ⟨[0xc0], [], [], some 7, [.vb, .ib]⟩,
    ⟨[0xd3], [.autoSize], [], some 7, [.va, .Bb]⟩,
    ⟨[0xc1], [.autoSize], [], some 7, [.va, .ib]⟩]⟩,
  ⟨"SARX", [
    ⟨[0x02, 0xf7], [.vex, .autoRexW, .encMR, .prefF3], [.bmi2], none, [.ra, .va, .ra]⟩]⟩,
  ⟨"SBB", [
    ⟨[0x1c], [], [], none, [.Ab, .ib]⟩,
    ⟨[0x80], [.lock], [], some 3, [.mb, .ib]⟩,
    ⟨[0x18], [.lock, .encMR], [], none, [.mb, .rb]⟩,
    ⟨[0x80], [], [], some 3, [.rb, .ib]⟩,
    ⟨[0x18], [.encMR], [], none, [.rb, .rb]⟩,
    ⟨[0x1a], [], [], none, [.rb, .vb]⟩,
    ⟨[0x83], [.autoSize, .exactSize], [], some 3, [.ra, .ib]⟩,
    ⟨[0x1d], [.autoSize], [], none, [.Aa, .ia]⟩,
    ⟨[0x81], [.autoSize, .lock], [], some 3, [.ma, .ia]⟩,
    ⟨[0x83], [.autoSize, .lock], [], some 3, [.ma, .ib]⟩,
    ⟨[0x19], [.autoSize, .lock, .encMR], [], none, [.ma, .ra]⟩,
    ⟨[0x81], [.autoSize], [], some 3, [.ra, .ia]⟩,
    ⟨[0x19], [.autoSize, .encMR], [], none, [.ra, .ra]⟩,
    ⟨[0x1b], [.autoSize], [], none, [.ra, .va]⟩]⟩,
  ⟨"SCASB", [
    ⟨[0xae], [.repe], [], none, []⟩]⟩,
  ⟨"SCASD", [
    ⟨[0xaf], [.repe], [], none, []⟩]⟩,
  ⟨"SCASQ", [
    ⟨[0xaf], [.repe, .withRexW], [], none, []⟩]⟩,
  ⟨"SCASW", [
    ⟨[0xaf], [.repe, .wordSize], [], none, []⟩]⟩,
  ⟨"SETA", [
    ⟨[0x0f, 0x97], [], [], some 0, [.vb]⟩]⟩,
  ⟨"SETAE", [
    ⟨[0x0f, 0x93], [], [], some 0, [.vb]⟩]⟩,
  ⟨"SETB", [
    ⟨[0x0f, 0x92], [], [], some 0, [.vb]⟩]⟩,
  ⟨"SETBE", [
    ⟨[0x0f, 0x96], [], [], some 0, [.vb]⟩]⟩,
  ⟨"SETC", [
    ⟨[0x0f, 0x92], [], [], some 0, [.vb]⟩]⟩,
  ⟨"SETE", [
    ⟨[0x0f, 0x94], [], [], some 0, [.vb]⟩]⟩,
  ⟨"SETG", [
    ⟨[0x0f, 0x9f], [], [], some 0, [.vb]⟩]⟩,
  ⟨"SETGE", [
    ⟨[0x0f, 0x9d], [], [], some 0, [.vb]⟩]⟩,
  ⟨"SETL", [
    ⟨[0x0f, 0x9c], [], [], some 0, [.vb]⟩]⟩,
  ⟨"SETLE", [
    ⟨[0x0f, 0x9e], [], [], some 0, [.vb]⟩]⟩,
  ⟨"SETNA", [
    ⟨[0x0f, 0x96], [], [], some 0, [.vb]⟩]⟩,
  ⟨"SETNAE", [
    ⟨[0x0f, 0x92], [], [], some 0, [.vb]⟩]⟩,
  ⟨"SETNB", [
    ⟨[0x0f, 0x93], [], [], some 0, [.vb]⟩]⟩,
  ⟨"SETNBE", [
    ⟨[0x0f, 0x97], [], [], some 0, [.vb]⟩]⟩,
  ⟨"SETNC", [
    ⟨[0x0f, 0x93], [], [], some 0, [.vb]⟩]⟩,
  ⟨"SETNE", [
    ⟨[0x0f, 0x95], [], [], some 0, [.vb]⟩]⟩,
  ⟨"SETNG", [
    ⟨[0x0f, 0x9e], [], [], some 0, [.vb]⟩]⟩,
  ⟨"SETNGE", [
    ⟨[0x0f, 0x9c], [], [], some 0, [.vb]⟩]⟩,
  ⟨"SETNL", [
    ⟨[0x0f, 0x9d], [], [], some 0, [.vb]⟩]⟩,
  ⟨"SETNLE", [
    ⟨[0x0f, 0x9f], [], [], some 0, [.vb]⟩]⟩,
  ⟨"SETNO", [
    ⟨[0x0f, 0x91], [], [], some 0, [.vb]⟩]⟩,
  ⟨"SETNP", [
    ⟨[0x0f, 0x9b], [], [], some 0, [.vb]⟩]⟩,
  ⟨"SETNS", [
    ⟨[0x0f, 0x99], [], [], some 0, [.vb]⟩]⟩,
  ⟨"SETNZ", [
    ⟨[0x0f, 0x95], [], [], some 0, [.vb]⟩]⟩,
  ⟨"SETO", [
    ⟨[0x0f, 0x90], [], [], some 0, [.vb]⟩]⟩,
  ⟨"SETP", [
    ⟨[0x0f, 0x9a], [], [], some 0, [.vb]⟩]⟩,
  ⟨"SETPE", [
    ⟨[0x0f, 0x9a], [], [], some 0, [.vb]⟩]⟩,
  ⟨"SETPO", [
    ⟨[0x0f, 0x9b], [], [], some 0, [.vb]⟩]⟩,
  ⟨"SETS", [
    ⟨[0x0f, 0x98], [], [], some 0, [.vb]⟩]⟩,
  ⟨"SETZ", [
    ⟨[0x0f, 0x94], [], [], some 0, [.vb]⟩]⟩,
  ⟨"SFENCE", [
    ⟨[0x0f, 0xae, 0xf8], [], [.amd], none, []⟩]⟩,
  ⟨"SGDT", [
    ⟨[0x0f, 0x01], [], [], some 0, [.mn]⟩]⟩,
  ⟨"SHA1MSG1", [
    ⟨[0x0f, 0x38, 0xc9], [], [.sha], none, [.yo, .wo]⟩]⟩,
  ⟨"SHA1MSG2", [
    ⟨[0x0f, 0x38, 0xca], [], [.sha], none, [.yo, .wo]⟩]⟩,
  ⟨"SHA1NEXTE", [
    ⟨[0x0f, 0x38, 0xc8], [], [.sha], none, [.yo, .wo]⟩]⟩,
  ⟨"SHA1RNDS4", [
    ⟨[0x0f, 0x3a, 0xcc], [], [.sha], none, [.yo, .wo, .ib]⟩]⟩,
  ⟨"SHA256MSG1", [
    ⟨[0x0f, 0x38, 0xcc], [], [.sha], none, [.yo, .wo]⟩]⟩,
  ⟨"SHA256MSG2", [
    ⟨[0x0f, 0x38, 0xcd], [], [.sha], none, [.yo, .wo]⟩]⟩,
  ⟨"SHA256RNDS2", [
    ⟨[0x0f, 0x38, 0xcb], [], [.sha], none, [.yo, .wo]⟩]⟩,
  ⟨"SHL", [
    ⟨[0xd2], [], [], some 4, [.vb, .Bb]⟩,
    ⟨[0xc0], [], [], some 4, [.vb, .ib]⟩,
    ⟨[0xd3], [.autoSize], [], some 4, [.va, .Bb]⟩,
    ⟨[0xc1], [.autoSize], [], some 4, [.va, .ib]⟩]⟩,
  ⟨"SHLD", [
    ⟨[0x0f, 0xa5], [.autoSize, .encMR], [], none, [.va, .ra, .Bb]⟩,
    ⟨[0x0f, 0xa4], [.autoSize, .encMR], [], none, [.va, .ra, .ib]⟩]⟩,
  ⟨"SHLX", [
    ⟨[0x02, 0xf7], [.vex, .autoRexW, .encMR, .pref66], [.bmi2], none, [.ra, .va, .ra]⟩]⟩,
  ⟨"SHR", [
    ⟨[0xd2], [], [], some 5, [.vb, .Bb]⟩,
    ⟨[0xc0], [], [], some 5, [.vb, .ib]⟩,
    ⟨[0xd3], [.autoSize], [], some 5, [.va, .Bb]⟩,
    ⟨[0xc1], [.autoSize], [], some 5, [.va, .ib]⟩]⟩,
  ⟨"SHRD", [
    ⟨[0x0f, 0xad], [.autoSize, .encMR], [], none, [.va, .ra, .Bb]⟩,
    ⟨[0x0f, 0xac], [.autoSize, .encMR], [], none, [.va, .ra, .ib]⟩]⟩,
  ⟨"SHRX", [
    ⟨[0x02, 0xf7], [.vex, .autoRexW, .encMR, .prefF2], [.bmi2], none, [.ra, .va, .ra]⟩]⟩,
  ⟨"SHUFPD", [
    ⟨[0x0f, 0xc6], [.pref66], [.sse2], none, [.yo, .wo, .ib]⟩]⟩,
  ⟨"SHUFPS", [
    ⟨[0x0f, 0xc6], [], [.sse], none, [.yo, .wo, .ib]⟩]⟩,
  ⟨"SIDT", [
    ⟨[0x0f, 0x01], [], [], some 1, [.mn]⟩]⟩,
  ⟨"SKINIT", [
    ⟨[0x0f, 0x01, 0xde], [], [], none, []⟩]⟩,
  ⟨"SLDT", [
    ⟨[0x0f, 0x00], [], [], some 0, [.mn]⟩,
    ⟨[0x0f, 0x00], [.autoSize], [], some 0, [.ra]⟩]⟩,
  ⟨"SLWPCB", [
    ⟨[0x09, 0x12], [.xop, .autoRexW], [.amd], some 1, [.ra]⟩]⟩,
  ⟨"SMINT", [
    ⟨[0x0f, 0x38], [], [.cyrix], none, []⟩]⟩,
  ⟨"SMSW", [
    ⟨[0x0f, 0x01], [], [], some 4, [.mn]⟩,
    ⟨[0x0f, 0x01], [.autoSize], [], some 4, [.ra]⟩]⟩,
  ⟨"SQRTPD", [
    ⟨[0x0f, 0x51], [.pref66], [.sse2], none, [.yo, .wo]⟩]⟩,
  ⟨"SQRTPS", [
    ⟨[0x0f, 0x51], [], [.sse], none, [.yo, .wo]⟩]⟩,
  ⟨"SQRTSD", [
    ⟨[0x0f, 0x51], [.prefF2], [.sse2], none, [.yo, .mq]⟩,
    ⟨[0x0f, 0x51], [.prefF2], [.sse2], none, [.yo, .yo]⟩]⟩,
  ⟨"SQRTSS", [
    ⟨[0x0f, 0x51], [.prefF3], [.sse], none, [.yo, .md]⟩,
    ⟨[0x0f, 0x51], [.prefF3], [.sse], none, [.yo, .yo]⟩]⟩,
  ⟨"STAC", [
    ⟨[0x0f, 0x01, 0xcb], [], [], none, []⟩]⟩,
  ⟨"STC", [
    ⟨[0xf9], [], [], none, []⟩]⟩,
  ⟨"STD", [
    ⟨[0xfd], [], [], none, []⟩]⟩,
  ⟨"STGI", [
    ⟨[0x0f, 0x01, 0xdc], [], [.vmx, .amd], none, []⟩]⟩,
  ⟨"STI", [
    ⟨[0xfb], [], [], none, []⟩]⟩,
  ⟨"STMXCSR", [
    ⟨[0x0f, 0xae], [], [.sse], some 3, [.md]⟩]⟩,
  ⟨"STOSB", [
    ⟨[0xaa], [.rep], [], none, []⟩]⟩,
  ⟨"STOSD", [
    ⟨[0xab], [.rep], [], none, []⟩]⟩,
  ⟨"STOSQ", [
    ⟨[0xab], [.withRexW, .rep], [], none, []⟩]⟩,
  ⟨"STOSW", [
    ⟨[0xab], [.wordSize, .rep], [], none, []⟩]⟩,
  ⟨"STR", [
    ⟨[0x0f, 0x00], [], [], some 1, [.mn]⟩,
    ⟨[0x0f, 0x00], [.autoSize], [], some 1, [.ra]⟩]⟩,
  ⟨"SUB", [
    ⟨[0x2c], [], [], none, [.Ab, .ib]⟩,
    ⟨[0x80], [.lock], [], some 5, [.mb, .ib]⟩,
    ⟨[0x28], [.lock, .encMR], [], none, [.mb, .rb]⟩,
    ⟨[0x80], [], [], some 5, [.rb, .ib]⟩,
    ⟨[0x28], [.encMR], [], none, [.rb, .rb]⟩,
    ⟨[0x2a], [], [], none, [.rb, .vb]⟩,
    ⟨[0x83], [.autoSize, .exactSize], [], some 5, [.ra, .ib]⟩,
    ⟨[0x2d], [.autoSize], [], none, [.Aa, .ia]⟩,
    ⟨[0x81], [.autoSize, .lock], [], some 5, [.ma, .ia]⟩,
    ⟨[0x83], [.autoSize, .lock], [], some 5, [.ma, .ib]⟩,
    ⟨[0x29], [.autoSize, .lock, .encMR], [], none, [.ma, .ra]⟩,
    ⟨[0x81], [.autoSize], [], some 5, [.ra, .ia]⟩,
    ⟨[0x29], [.autoSize, .encMR], [], none, [.ra, .ra]⟩,
    ⟨[0x2b], [.autoSize], [], none, [.ra, .va]⟩]⟩,
  ⟨"SUBPD", [
    ⟨[0x0f, 0x5c], [.pref66], [.sse2], none, [.yo, .wo]⟩]⟩,
  ⟨"SUBPS", [
    ⟨[0x0f, 0x5c], [], [.sse], none, [.yo, .wo]⟩]⟩,
  ⟨"SUBSD", [
    ⟨[0x0f, 0x5c], [.prefF2], [.sse2], none, [.yo, .mq]⟩,
    ⟨[0x0f, 0x5c], [.prefF2], [.sse2], none, [.yo, .yo]⟩]⟩,
  ⟨"SUBSS", [
    ⟨[0x0f, 0x5c], [.prefF3], [.sse], none, [.yo, .md]⟩,
    ⟨[0x0f, 0x5c], [.prefF3], [.sse], none, [.yo, .yo]⟩]⟩,
  ⟨"SVDC", [
    ⟨[0x0f, 0x78], [.encMR, .exactSize], [.cyrix], none, [.mp, .sw]⟩]⟩,
  ⟨"SVLDT", [
    ⟨[0x0f, 0x7a], [.exactSize], [.cyrix], some 0, [.mp]⟩]⟩,
  ⟨"SVTS", [
    ⟨[0x0f, 0x7c], [.exactSize], [.cyrix], some 0, [.mp]⟩]⟩,
  ⟨"SWAPGS", [
    ⟨[0x0f, 0x01, 0xf8], [], [], none, []⟩]⟩,
  ⟨"SYSCALL", [
    ⟨[0x0f, 0x05], [], [.amd], none, []⟩]⟩,
  ⟨"SYSENTER", [
    ⟨[0x0f, 0x34], [.x86Only], [], none, []⟩]⟩,
  ⟨"SYSEXIT", [
    ⟨[0x0f, 0x35], [.x86Only], [], none, []⟩]⟩,
  ⟨"SYSRET", [
    ⟨[0x0f, 0x07], [], [.amd], none, []⟩]⟩]

def namesT : List Family := [
  ⟨"T1MSKC", [
    ⟨[0x09, 0x01], [.xop, .autoRexW, .encVM], [.tbm], some 7, [.ra, .va]⟩]⟩,
  ⟨"TEST", [
    ⟨[0xa8], [], [], none, [.Ab, .ib]⟩,
    ⟨[0x84], [], [], none, [.rb, .mb]⟩,
    ⟨[0xf6], [], [], some 0, [.vb, .ib]⟩,
    ⟨[0x84], [.encMR], [], none, [.vb, .rb]⟩,
    ⟨[0xa9], [.autoSize], [], none, [.Aa, .ia]⟩,
    ⟨[0x85], [.autoSize], [], none, [.ra, .ma]⟩,
    ⟨[0xf7], [.autoSize], [], some 0, [.va, .ia]⟩,
    ⟨[0x85], [.autoSize, .encMR], [], none, [.va, .ra]⟩]⟩,
  ⟨"TZCNT", [
    ⟨[0x0f, 0xbc], [.autoSize, .prefF3], [.bmi1], none, [.ra, .va]⟩]⟩,
  ⟨"TZMSK", [
    ⟨[0x09, 0x01], [.xop, .autoRexW, .encVM], [.tbm], some 4, [.ra, .va]⟩]⟩]

def namesU : List Family := [
  ⟨"UCOMISD", [
    ⟨[0x0f, 0x2e], [.pref66], [.sse2], none, [.yo, .mq]⟩,
    ⟨[0x0f, 0x2e], [.pref66], [.sse2], none, [.yo, .yo]⟩]⟩,
  ⟨"UCOMISS", [
    ⟨[0x0f, 0x2e], [], [.sse], none, [.yo, .md]⟩,
    ⟨[0x0f, 0x2e], [], [.sse], none, [.yo, .yo]⟩]⟩,
  ⟨"UD2", [
    ⟨[0x0f, 0x0b], [], [], none, []⟩]⟩,
  ⟨"UD2A", [
    ⟨[0x0f, 0x0b], [], [], none, []⟩]⟩,
  ⟨"UNPCKHPD", [
    ⟨[0x0f, 0x15], [.pref66], [.sse2], none, [.yo, .wo]⟩]⟩,
  ⟨"UNPCKHPS", [
    ⟨[0x0f, 0x15], [], [.sse], none, [.yo, .wo]⟩]⟩,
  ⟨"UNPCKLPD", [
    ⟨[0x0f, 0x14], [.pref66], [.sse2], none, [.yo, .wo]⟩]⟩,
  ⟨"UNPCKLPS", [
    ⟨[0x0f, 0x14], [], [.sse], none, [.yo, .wo]⟩]⟩]

def sToU : List Family :=
  namesS ++ namesT ++ namesU

end MachineCode.X86.Instructions
