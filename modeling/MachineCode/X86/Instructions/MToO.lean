import MachineCode.X86.Form

/-!
Instructions from MASKMOVDQU to OUTSW in the order of their names, one list for each initial.
-/
namespace MachineCode.X86.Instructions

def namesM : List Family := [
  ⟨"MASKMOVDQU", [
    ⟨[0x0f, 0xf7], [.pref66], [.sse2], none, [.yo, .yo]⟩]⟩,
  ⟨"MASKMOVQ", [
    ⟨[0x0f, 0xf7], [], [.mmx], none, [.xq, .xq]⟩]⟩,
  ⟨"MAXPD", [
    ⟨[0x0f, 0x5f], [.pref66], [.sse2], none, [.yo, .wo]⟩]⟩,
  ⟨"MAXPS", [
    ⟨[0x0f, 0x5f], [], [.sse], none, [.yo, .wo]⟩]⟩,
  ⟨"MAXSD", [
    ⟨[0x0f, 0x5f], [.prefF2], [.sse2], none, [.yo, .mq]⟩,
    ⟨[0x0f, 0x5f], [.prefF2], [.sse2], none, [.yo, .yo]⟩]⟩,
  ⟨"MAXSS", [
    ⟨[0x0f, 0x5f], [.prefF3], [.sse], none, [.yo, .md]⟩,
    ⟨[0x0f, 0x5f], [.prefF3], [.sse], none, [.yo, .yo]⟩]⟩,
  ⟨"MFENCE", [
    ⟨[0x0f, 0xae, 0xf0], [], [.amd], none, []⟩]⟩,
  ⟨"MINPD", [
    ⟨[0x0f, 0x5d], [.pref66], [.sse2], none, [.yo, .wo]⟩]⟩,
  ⟨"MINPS", [
    ⟨[0x0f, 0x5d], [], [.sse], none, [.yo, .wo]⟩]⟩,
  ⟨"MINSD", [
    ⟨[0x0f, 0x5d], [.prefF2], [.sse2], none, [.yo, .mq]⟩,
    ⟨[0x0f, 0x5d], [.prefF2], [.sse2], none, [.yo, .yo]⟩]⟩,
  ⟨"MINSS", [
    ⟨[0x0f, 0x5d], [.prefF3], [.sse], none, [.yo, .md]⟩,
    ⟨[0x0f, 0x5d], [.prefF3], [.sse], none, [.yo, .yo]⟩]⟩,
  ⟨"MONITOR", [
    ⟨[0x0f, 0x01, 0xc8], [], [], none, []⟩,
    ⟨[0x0f, 0x01, 0xc8], [], [], none, [.Aq, .Bd, .Cd]⟩]⟩,
  ⟨"MONITORX", [
    ⟨[0x0f, 0x01, 0xfa], [], [.amd], none, []⟩,
    ⟨[0x0f, 0x01, 0xfa], [], [.amd], none, [.Aa, .Bd, .Cd]⟩]⟩,
  ⟨"MONTMUL", [
    ⟨[0x0f, 0xa6, 0xc0], [.prefF3], [.cyrix], none, []⟩]⟩,
  ⟨"MOV", [
    ⟨[0x89], [.autoSize], [], none, [.va, .ra]⟩,
    ⟨[0x88], [], [], none, [.vb, .rb]⟩,
    ⟨[0x8b], [.autoSize], [], none, [.ra, .va]⟩,
    ⟨[0x8a], [], [], none, [.rb, .vb]⟩,
    ⟨[0x8c], [.autoSize], [], none, [.ra, .sw]⟩,
    ⟨[0x8c], [], [], none, [.mw, .sw]⟩,
    ⟨[0x8c], [], [], none, [.sw, .mw]⟩,
    ⟨[0x8c], [], [], none, [.sw, .rw]⟩,
    ⟨[0xb0], [.shortArg], [], none, [.rb, .ib]⟩,
    ⟨[0xb8], [.wordSize, .shortArg], [], none, [.rw, .iw]⟩,
    ⟨[0xb8], [.shortArg], [], none, [.rd, .id]⟩,
    ⟨[0xc7], [.autoSize], [], some 0, [.va, .ia]⟩,
    ⟨[0xc6], [], [], some 0, [.vb, .ib]⟩,
    ⟨[0xb8], [.withRexW, .shortArg], [], none, [.rq, .iq]⟩,
    ⟨[0x0f, 0x22], [], [], none, [.cd, .rd]⟩,
    ⟨[0x0f, 0x22], [], [], none, [.cq, .rq]⟩,
    ⟨[0x0f, 0x20], [], [], none, [.rd, .cd]⟩,
    ⟨[0x0f, 0x20], [], [], none, [.rq, .cq]⟩,
    ⟨[0x0f, 0x22], [.prefF0], [], some 0, [.Wd, .rd]⟩,
    ⟨[0x0f, 0x22], [.prefF0], [], some 0, [.Wq, .rq]⟩,
    ⟨[0x0f, 0x22], [.prefF0], [], some 0, [.rd, .Wd]⟩,
    ⟨[0x0f, 0x22], [.prefF0], [], some 0, [.rq, .Wq]⟩,
    ⟨[0x0f, 0x23], [], [], none, [.dd, .rd]⟩,
    ⟨[0x0f, 0x23], [], [], none, [.dq, .rq]⟩,
    ⟨[0x0f, 0x21], [], [], none, [.rd, .dd]⟩,
    ⟨[0x0f, 0x21], [], [], none, [.rq, .dq]⟩]⟩,
  ⟨"MOVABS", [
    ⟨[0xa0], [], [], none, [.Ab, .iq]⟩,
    ⟨[0xa1], [.wordSize], [], none, [.Aw, .iq]⟩,
    ⟨[0xa1], [], [], none, [.Ad, .iq]⟩,
    ⟨[0xa1], [.withRexW], [], none, [.Aq, .iq]⟩,
    ⟨[0xa2], [], [], none, [.iq, .Ab]⟩,
    ⟨[0xa3], [.wordSize], [], none, [.iq, .Aw]⟩,
    ⟨[0xa3], [], [], none, [.iq, .Ad]⟩,
    ⟨[0xa3], [.withRexW], [], none, [.iq, .Aq]⟩]⟩,
  ⟨"MOVAPD", [
    ⟨[0x0f, 0x29], [.encMR, .pref66], [.sse2], none, [.mo, .yo]⟩,
    ⟨[0x0f, 0x28], [.pref66], [.sse2], none, [.yo, .mo]⟩,
    ⟨[0x0f, 0x28], [.pref66], [.sse2], none, [.yo, .yo]⟩,
    ⟨[0x0f, 0x29], [.encMR, .pref66], [.sse2], none, [.yo, .yo]⟩]⟩,
  ⟨"MOVAPS", [
    ⟨[0x0f, 0x28], [], [.sse], none, [.yo, .wo]⟩,
    ⟨[0x0f, 0x29], [.encMR], [.sse], none, [.wo, .yo]⟩]⟩,
  ⟨"MOVBE", [
    ⟨[0x0f, 0x38, 0xf1], [.autoSize, .encMR], [], none, [.ma, .ra]⟩,
    ⟨[0x0f, 0x38, 0xf0], [.autoSize], [], none, [.ra, .ma]⟩]⟩,
  ⟨"MOVD", [
    ⟨[0x0f, 0x7e], [.encMR, .pref66], [.sse2], none, [.md, .yo]⟩,
    ⟨[0x0f, 0x6e], [], [.mmx], none, [.xq, .vd]⟩,
    ⟨[0x0f, 0x6e], [.withRexW], [.mmx], none, [.xq, .vq]⟩,
    ⟨[0x0f, 0x6e], [.pref66], [.sse2], none, [.yo, .md]⟩,
    ⟨[0x0f, 0x6e], [.pref66], [.sse2], none, [.yo, .vd]⟩,
    ⟨[0x0f, 0x7e], [.encMR], [.mmx], none, [.vd, .xq]⟩,
    ⟨[0x0f, 0x7e], [.encMR, .pref66], [.sse2], none, [.vd, .yo]⟩,
    ⟨[0x0f, 0x7e], [.withRexW, .encMR], [.mmx], none, [.vq, .xq]⟩]⟩,
  ⟨"MOVDDUP", [
    ⟨[0x0f, 0x12], [.prefF2], [.sse3], none, [.yo, .mq]⟩,
    ⟨[0x0f, 0x12], [.prefF2], [.sse3], none, [.yo, .yo]⟩]⟩,
  ⟨"MOVDQ2Q", [
    ⟨[0x0f, 0xd6], [.prefF2], [.sse2], none, [.xq, .yo]⟩]⟩,
  ⟨"MOVDQA", [
    ⟨[0x0f, 0x7f], [.encMR, .pref66], [.sse2], none, [.mo, .yo]⟩,
    ⟨[0x0f, 0x6f], [.pref66], [.sse2], none, [.yo, .mo]⟩,
    ⟨[0x0f, 0x6f], [.pref66], [.sse2], none, [.yo, .yo]⟩,
    ⟨[0x0f, 0x7f], [.encMR, .pref66], [.sse2], none, [.yo, .yo]⟩]⟩,
  ⟨"MOVDQU", [
    ⟨[0x0f, 0x7f], [.encMR, .prefF3], [.sse2], none, [.mo, .yo]⟩,
    ⟨[0x0f, 0x6f], [.prefF3], [.sse2], none, [.yo, .mo]⟩,
    ⟨[0x0f, 0x6f], [.prefF3], [.sse2], none, [.yo, .yo]⟩,
    ⟨[0x0f, 0x7f], [.encMR, .prefF3], [.sse2], none, [.yo, .yo]⟩]⟩,
  ⟨"MOVHLPS", [
    ⟨[0x0f, 0x12], [], [.sse], none, [.yo, .yo]⟩]⟩,
  ⟨"MOVHPD", [
    ⟨[0x0f, 0x17], [.encMR, .pref66], [.sse2], none, [.mn, .yo]⟩,
    ⟨[0x0f, 0x16], [.pref66], [.sse2], none, [.yo, .mn]⟩]⟩,
  ⟨"MOVHPS", [
    ⟨[0x0f, 0x17], [.encMR], [.sse], none, [.mq, .yo]⟩,
    ⟨[0x0f, 0x16], [], [.sse], none, [.yo, .mq]⟩]⟩,
  ⟨"MOVLHPS", [
    ⟨[0x0f, 0x16], [], [.sse], none, [.yo, .yo]⟩]⟩,
  ⟨"MOVLPD", [
    ⟨[0x0f, 0x13], [.encMR, .pref66], [.sse2], none, [.mq, .yo]⟩,
    ⟨[0x0f, 0x12], [.pref66], [.sse2], none, [.yo, .mq]⟩]⟩,
  ⟨"MOVLPS", [
    ⟨[0x0f, 0x13], [.encMR], [.sse], none, [.mq, .yo]⟩,
    ⟨[0x0f, 0x12], [], [.sse], none, [.yo, .mq]⟩]⟩,
  ⟨"MOVMSKPD", [
    ⟨[0x0f, 0x50], [.pref66], [.sse2], none, [.rd, .yo]⟩,
    ⟨[0x0f, 0x50], [.withRexW, .pref66], [.sse2], none, [.rq, .yo]⟩]⟩,
  ⟨"MOVMSKPS", [
    ⟨[0x0f, 0x50], [], [.sse], none, [.rd, .yo]⟩,
    ⟨[0x0f, 0x50], [.withRexW], [.sse], none, [.rq, .yo]⟩]⟩,
  ⟨"MOVNTDQ", [
    ⟨[0x0f, 0xe7], [.encMR, .pref66], [.sse2], none, [.mo, .yo]⟩]⟩,
  ⟨"MOVNTDQA", [
    ⟨[0x0f, 0x38, 0x2a], [.pref66], [.sse41], none, [.yo, .mo]⟩]⟩,
  ⟨"MOVNTI", [
    ⟨[0x0f, 0xc3], [.encMR], [], none, [.md, .rd]⟩,
    ⟨[0x0f, 0xc3], [.withRexW, .encMR], [], none, [.mq, .rq]⟩]⟩,
  ⟨"MOVNTPD", [
    ⟨[0x0f, 0x2b], [.encMR, .pref66], [.sse2], none, [.mo, .yo]⟩]⟩,
  ⟨"MOVNTPS", [
    ⟨[0x0f, 0x2b], [.encMR], [.sse], none, [.mo, .yo]⟩]⟩,
  ⟨"MOVNTQ", [
    ⟨[0x0f, 0xe7], [.encMR], [.mmx], none, [.mq, .xq]⟩]⟩,
  ⟨"MOVNTSD", [
    ⟨[0x0f, 0x2b], [.encMR, .prefF2], [.amd, .sse4a], none, [.mq, .yo]⟩]⟩,
  ⟨"MOVNTSS", [
    ⟨[0x0f, 0x2b], [.encMR, .prefF3], [.sse4a, .amd], none, [.md, .yo]⟩]⟩,
  ⟨"MOVQ", [
    ⟨[0x0f, 0xd6], [.encMR, .pref66], [.sse2], none, [.mq, .yo]⟩,
    ⟨[0x0f, 0x6f], [], [.mmx], none, [.xq, .uq]⟩,
    ⟨[0x0f, 0x6e], [.withRexW], [.mmx], none, [.xq, .vq]⟩,
    ⟨[0x0f, 0x7e], [.prefF3], [.sse2], none, [.yo, .mq]⟩,
    ⟨[0x0f, 0x6e], [.withRexW, .pref66], [.sse2], none, [.yo, .vq]⟩,
    ⟨[0x0f, 0x7e], [.prefF3], [.sse2], none, [.yo, .yo]⟩,
    ⟨[0x0f, 0xd6], [.encMR, .pref66], [.sse2], none, [.yo, .yo]⟩,
    ⟨[0x0f, 0x7f], [.encMR], [.mmx], none, [.uq, .xq]⟩,
    ⟨[0x0f, 0x7e], [.withRexW, .encMR], [.mmx], none, [.vq, .xq]⟩,
    ⟨[0x0f, 0x7e], [.withRexW, .encMR, .pref66], [.sse2], none, [.vq, .yo]⟩]⟩,
  ⟨"MOVQ2DQ", [
    ⟨[0x0f, 0xd6], [.prefF3], [.sse2], none, [.yo, .xq]⟩]⟩,
  ⟨"MOVSB", [
    ⟨[0xa4], [.rep], [], none, []⟩]⟩,
  ⟨"MOVSD", [
    ⟨[0xa5], [.rep], [], none, []⟩,
    ⟨[0x0f, 0x11], [.encMR, .prefF2], [.sse2], none, [.mq, .yo]⟩,
    ⟨[0x0f, 0x10], [.prefF2], [.sse2], none, [.yo, .mq]⟩,
    ⟨[0x0f, 0x10], [.prefF2], [.sse2], none, [.yo, .yo]⟩,
    ⟨[0x0f, 0x11], [.encMR, .prefF2], [.sse2], none, [.yo, .yo]⟩]⟩,
  ⟨"MOVSHDUP", [
    ⟨[0x0f, 0x16], [.prefF3], [.sse3], none, [.yo, .mq]⟩,
    ⟨[0x0f, 0x16], [.prefF3], [.sse3], none, [.yo, .yo]⟩]⟩,
  ⟨"MOVSLDUP", [
    ⟨[0x0f, 0x12], [.prefF3], [.sse3], none, [.yo, .mq]⟩,
    ⟨[0x0f, 0x12], [.prefF3], [.sse3], none, [.yo, .yo]⟩]⟩,
  ⟨"MOVSQ", [
    ⟨[0xa5], [.withRexW, .rep], [], none, []⟩]⟩,
  ⟨"MOVSS", [
    ⟨[0x0f, 0x11], [.encMR, .prefF3], [.sse], none, [.md, .yo]⟩,
    ⟨[0x0f, 0x10], [.prefF3], [.sse], none, [.yo, .md]⟩,
    ⟨[0x0f, 0x10], [.prefF3], [.sse], none, [.yo, .yo]⟩]⟩,
  ⟨"MOVSW", [
    ⟨[0xa5], [.wordSize, .rep], [], none, []⟩]⟩,
  ⟨"MOVSX", [
    ⟨[0x63], [.withRexW], [], none, [.rq, .vd]⟩,
    ⟨[0x0f, 0xbe], [.wordSize], [], none, [.rw, .mb]⟩,
    ⟨[0x0f, 0xbe], [.autoSize], [], none, [.ra, .vb]⟩,
    ⟨[0x0f, 0xbf], [.autoRexW, .exactSize], [], none, [.ra, .vw]⟩]⟩,
  ⟨"MOVSXD", [
    ⟨[0x63], [.withRexW], [], none, [.rq, .vd]⟩]⟩,
  ⟨"MOVUPD", [
    ⟨[0x0f, 0x11], [.encMR, .pref66], [.sse2], none, [.mo, .yo]⟩,
    ⟨[0x0f, 0x10], [.pref66], [.sse2], none, [.yo, .mo]⟩,
    ⟨[0x0f, 0x10], [.pref66], [.sse2], none, [.yo, .yo]⟩,
    ⟨[0x0f, 0x11], [.encMR, .pref66], [.sse2], none, [.yo, .yo]⟩]⟩,
  ⟨"MOVUPS", [
    ⟨[0x0f, 0x10], [], [.sse], none, [.yo, .wo]⟩,
    ⟨[0x0f, 0x11], [.encMR], [.sse], none, [.wo, .yo]⟩]⟩,
  ⟨"MOVZX", [
    ⟨[0x0f, 0xb6], [.wordSize], [], none, [.rw, .mb]⟩,
    ⟨[0x0f, 0xb6], [.autoSize], [], none, [.ra, .vb]⟩,
    ⟨[0x0f, 0xb7], [.autoRexW, .exactSize], [], none, [.ra, .vw]⟩]⟩,
  ⟨"MPSADBW", [
    ⟨[0x0f, 0x3a, 0x42], [.pref66], [.sse41], none, [.yo, .mq, .ib]⟩,
    ⟨[0x0f, 0x3a, 0x42], [.pref66], [.sse41], none, [.yo, .yo, .ib]⟩]⟩,
  ⟨"MUL", [
    ⟨[0xf6], [], [], some 4, [.vb]⟩,
    ⟨[0xf7], [.autoSize], [], some 4, [.va]⟩]⟩,
  ⟨"MULPD", [
    ⟨[0x0f, 0x59], [.pref66], [.sse2], none, [.yo, .wo]⟩]⟩,
  ⟨"MULPS", [
    ⟨[0x0f, 0x59], [], [.sse], none, [.yo, .wo]⟩]⟩,
  ⟨"MULSD", [
    ⟨[0x0f, 0x59], [.prefF2], [.sse2], none, [.yo, .mq]⟩,
    ⟨[0x0f, 0x59], [.prefF2], [.sse2], none, [.yo, .yo]⟩]⟩,
  ⟨"MULSS", [
    ⟨[0x0f, 0x59], [.prefF3], [.sse], none, [.yo, .md]⟩,
    ⟨[0x0f, 0x59], [.prefF3], [.sse], none, [.yo, .yo]⟩]⟩,
  ⟨"MULX", [
    ⟨[0x02, 0xf6], [.vex, .autoRexW, .prefF2], [.bmi2], none, [.ra, .ra, .va]⟩]⟩,
  ⟨"MWAIT", [
    ⟨[0x0f, 0x01, 0xc9], [], [], none, []⟩,
    ⟨[0x0f, 0x01, 0xc9], [], [], none, [.Ad, .Bd]⟩]⟩,
  ⟨"MWAITX", [
    ⟨[0x0f, 0x01, 0xfb], [], [.amd], none, []⟩,
    ⟨[0x0f, 0x01, 0xfb], [], [.amd], none, [.Ad, .Bd]⟩]⟩]

def namesN : List Family := [
  ⟨"NEG", [
    ⟨[0xf6], [.lock], [], some 3, [.mb]⟩,
    ⟨[0xf6], [], [], some 3, [.rb]⟩,
    ⟨[0xf7], [.autoSize, .lock], [], some 3, [.ma]⟩,
    ⟨[0xf7], [.autoSize], [], some 3, [.ra]⟩]⟩,
  ⟨"NOP", [
    ⟨[0x90], [], [], none, []⟩,
    ⟨[0x0f, 0x1f], [.autoSize], [], some 0, [.va]⟩]⟩,
  ⟨"NOT", [
    ⟨[0xf6], [.lock], [], some 2, [.mb]⟩,
    ⟨[0xf6], [], [], some 2, [.rb]⟩,
    ⟨[0xf7], [.autoSize, .lock], [], some 2, [.ma]⟩,
    ⟨[0xf7], [.autoSize], [], some 2, [.ra]⟩]⟩]

def namesO : List Family := [
  ⟨"OR", [
    ⟨[0x0c], [], [], none, [.Ab, .ib]⟩,
    ⟨[0x80], [.lock], [], some 1, [.mb, .ib]⟩,
    ⟨[0x08], [.lock, .encMR], [], none, [.mb, .rb]⟩,
    ⟨[0x80], [], [], some 1, [.rb, .ib]⟩,
    ⟨[0x08], [.encMR], [], none, [.rb, .rb]⟩,
    ⟨[0x0a], [], [], none, [.rb, .vb]⟩,
    ⟨[0x83], [.autoSize, .exactSize], [], some 1, [.ra, .ib]⟩,
    ⟨[0x0d], [.autoSize], [], none, [.Aa, .ia]⟩,
    ⟨[0x81], [.autoSize, .lock], [], some 1, [.ma, .ia]⟩,
    ⟨[0x83], [.autoSize, .lock], [], some 1, [.ma, .ib]⟩,
    ⟨[0x09], [.autoSize, .lock, .encMR], [], none, [.ma, .ra]⟩,
    ⟨[0x81], [.autoSize], [], some 1, [.ra, .ia]⟩,
    ⟨[0x09], [.autoSize, .encMR], [], none, [.ra, .ra]⟩,
    ⟨[0x0b], [.autoSize], [], none, [.ra, .va]⟩]⟩,
  ⟨"ORPD", [
    ⟨[0x0f, 0x56], [.pref66], [.sse2], none, [.yo, .wo]⟩]⟩,
  ⟨"ORPS", [
    ⟨[0x0f, 0x56], [], [.sse], none, [.yo, .wo]⟩]⟩,
  ⟨"OUT", [
    ⟨[0xe6], [], [], none, [.ib, .Ab]⟩,
    ⟨[0xe7], [], [], none, [.ib, .Aw]⟩,
    ⟨[0xe7], [], [], none, [.ib, .Ad]⟩,
    ⟨[0xee], [], [], none, [.Cw, .Ab]⟩,
    ⟨[0xef], [.wordSize], [], none, [.Cw, .Aw]⟩,
    ⟨[0xef], [], [], none, [.Cw, .Ad]⟩]⟩,
  ⟨"OUTSB", [
    ⟨[0x6e], [.rep], [], none, []⟩]⟩,
  ⟨"OUTSD", [
    ⟨[0x6f], [.rep], [], none, []⟩]⟩,
  ⟨"OUTSW", [
    ⟨[0x6f], [.wordSize, .rep], [], none, []⟩]⟩]

def mToO : List Family :=
  namesM ++ namesN ++ namesO

end MachineCode.X86.Instructions
