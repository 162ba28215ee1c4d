import MachineCode.X86.Form

/-!
Instructions from PABSB to RSTS in the order of their names, one list for each initial.
-/
namespace MachineCode.X86.Instructions

def namesP : List Family := [
  ⟨"PABSB", [
    ⟨[0x0f, 0x38, 0x1c], [], [.mmx, .ssse3], none, [.xq, .uq]⟩,
    ⟨[0x0f, 0x38, 0x1c], [.pref66], [.ssse3], none, [.yo, .mq]⟩,
    ⟨[0x0f, 0x38, 0x1c], [.pref66], [.ssse3], none, [.yo, .yo]⟩]⟩,
  ⟨"PABSD", [
    ⟨[0x0f, 0x38, 0x1e], [], [.mmx, .ssse3], none, [.xq, .uq]⟩,
    ⟨[0x0f, 0x38, 0x1e], [.pref66], [.ssse3], none, [.yo, .mq]⟩,
    ⟨[0x0f, 0x38, 0x1e], [.pref66], [.ssse3], none, [.yo, .yo]⟩]⟩,
  ⟨"PABSW", [
    ⟨[0x0f, 0x38, 0x1d], [], [.ssse3, .mmx], none, [.xq, .uq]⟩,
    ⟨[0x0f, 0x38, 0x1d], [.pref66], [.ssse3], none, [.yo, .mq]⟩,
    ⟨[0x0f, 0x38, 0x1d], [.pref66], [.ssse3], none, [.yo, .yo]⟩]⟩,
  ⟨"PACKSSDW", [
    ⟨[0x0f, 0x6b], [], [.mmx], none, [.xq, .uq]⟩,
    ⟨[0x0f, 0x6b], [.pref66], [.sse2], none, [.yo, .wo]⟩]⟩,
  ⟨"PACKSSWB", [
    ⟨[0x0f, 0x63], [], [.mmx], none, [.xq, .uq]⟩,
    ⟨[0x0f, 0x63], [.pref66], [.sse2], none, [.yo, .wo]⟩]⟩,
  ⟨"PACKUSDW", [
    ⟨[0x0f, 0x38, 0x2b], [.pref66], [.sse41], none, [.yo, .mq]⟩,
    ⟨[0x0f, 0x38, 0x2b], [.pref66], [.sse41], none, [.yo, .yo]⟩]⟩,
  ⟨"PACKUSWB", [
    ⟨[0x0f, 0x67], [], [.mmx], none, [.xq, .uq]⟩,
    ⟨[0x0f, 0x67], [.pref66], [.sse2], none, [.yo, .wo]⟩]⟩,
  ⟨"PADDB", [
    ⟨[0x0f, 0xfc], [], [.mmx], none, [.xq, .uq]⟩,
    ⟨[0x0f, 0xfc], [.pref66], [.sse2], none, [.yo, .wo]⟩]⟩,
  ⟨"PADDD", [
    ⟨[0x0f, 0xfe], [], [.mmx], none, [.xq, .uq]⟩,
    ⟨[0x0f, 0xfe], [.pref66], [.sse2], none, [.yo, .wo]⟩]⟩,
  ⟨"PADDQ", [
    ⟨[0x0f, 0xd4], [], [.mmx], none, [.xq, .uq]⟩,
    ⟨[0x0f, 0xd4], [.pref66], [.sse2], none, [.yo, .wo]⟩]⟩,
  ⟨"PADDSB", [
    ⟨[0x0f, 0xec], [], [.mmx], none, [.xq, .uq]⟩,
    ⟨[0x0f, 0xec], [.pref66], [.sse2], none, [.yo, .wo]⟩]⟩,
  ⟨"PADDSIW", [
    ⟨[0x0f, 0x51], [], [.mmx, .cyrix], none, [.xq, .uq]⟩]⟩,
  ⟨"PADDSW", [
    ⟨[0x0f, 0xed], [], [.mmx], none, [.xq, .uq]⟩,
    ⟨[0x0f, 0xed], [.pref66], [.sse2], none, [.yo, .wo]⟩]⟩,
  ⟨"PADDUSB", [
    ⟨[0x0f, 0xdc], [], [.mmx], none, [.xq, .uq]⟩,
    ⟨[0x0f, 0xdc], [.pref66], [.sse2], none, [.yo, .wo]⟩]⟩,
  ⟨"PADDUSW", [
    ⟨[0x0f, 0xdd], [], [.mmx], none, [.xq, .uq]⟩,
    ⟨[0x0f, 0xdd], [.pref66], [.sse2], none, [.yo, .wo]⟩]⟩,
  ⟨"PADDW", [
    ⟨[0x0f, 0xfd], [], [.mmx], none, [.xq, .uq]⟩,
    ⟨[0x0f, 0xfd], [.pref66], [.sse2], none, [.yo, .wo]⟩]⟩,
  ⟨"PALIGNR", [
    ⟨[0x0f, 0x3a, 0x0f], [], [.ssse3, .mmx], none, [.xq, .uq, .ib]⟩,
    ⟨[0x0f, 0x3a, 0x0f], [.pref66], [.ssse3], none, [.yo, .mq, .ib]⟩,
    ⟨[0x0f, 0x3a, 0x0f], [.pref66], [.ssse3], none, [.yo, .yo, .ib]⟩]⟩,
  ⟨"PAND", [
    ⟨[0x0f, 0xdb], [], [.mmx], none, [.xq, .uq]⟩,
    ⟨[0x0f, 0xdb], [.pref66], [.sse2], none, [.yo, .wo]⟩]⟩,
  ⟨"PANDN", [
    ⟨[0x0f, 0xdf], [], [.mmx], none, [.xq, .uq]⟩,
    ⟨[0x0f, 0xdf], [.pref66], [.sse2], none, [.yo, .wo]⟩]⟩,
  ⟨"PAUSE", [
    ⟨[0x90], [.prefF3], [], none, []⟩]⟩,
  ⟨"PAVEB", [
    ⟨[0x0f, 0x50], [], [.mmx, .cyrix], none, [.xq, .uq]⟩]⟩,
  ⟨"PAVGB", [
    ⟨[0x0f, 0xe0], [], [.mmx], none, [.xq, .uq]⟩,
    ⟨[0x0f, 0xe0], [.pref66], [.sse2], none, [.yo, .wo]⟩]⟩,
  ⟨"PAVGUSB", [
    ⟨[0x0f, 0x0f, 0xbf], [.immOp], [.tdnow], none, [.xq, .uq]⟩]⟩,
  ⟨"PAVGW", [
    ⟨[0x0f, 0xe3], [], [.mmx], none, [.xq, .uq]⟩,
    ⟨[0x0f, 0xe3], [.pref66], [.sse2], none, [.yo, .wo]⟩]⟩,
  ⟨"PBLENDVB", [
    ⟨[0x0f, 0x38, 0x10], [.pref66], [.sse41], none, [.yo, .mq]⟩,
    ⟨[0x0f, 0x38, 0x10], [.pref66], [.sse41], none, [.yo, .yo]⟩]⟩,
  ⟨"PBLENDW", [
    ⟨[0x0f, 0x3a, 0x0e], [.pref66], [.sse41], none, [.yo, .mq, .ib]⟩,
    ⟨[0x0f, 0x3a, 0x0e], [.pref66], [.sse41], none, [.yo, .yo, .ib]⟩]⟩,
  ⟨"PCLMULHQHQDQ", [
    ⟨[0x0f, 0x3a, 0x44, 0x11], [.immOp, .pref66], [.sse], none, [.yo, .wo]⟩]⟩,
  ⟨"PCLMULHQLQDQ", [
    ⟨[0x0f, 0x3a, 0x44, 0x01], [.pref66, .immOp], [.sse], none, [.yo, .wo]⟩]⟩,
  ⟨"PCLMULLQHQDQ", [
    ⟨[0x0f, 0x3a, 0x44, 0x10], [.pref66, .immOp], [.sse], none, [.yo, .wo]⟩]⟩,
  ⟨"PCLMULLQLQDQ", [
    ⟨[0x0f, 0x3a, 0x44, 0x00], [.pref66, .immOp], [.sse], none, [.yo, .wo]⟩]⟩,
  ⟨"PCLMULQDQ", [
    ⟨[0x0f, 0x3a, 0x44], [.pref66], [.sse], none, [.yo, .wo, .ib]⟩]⟩,
  ⟨"PCMPEQB", [
    ⟨[0x0f, 0x74], [], [.mmx], none, [.xq, .uq]⟩,
    ⟨[0x0f, 0x74], [.pref66], [.sse2], none, [.yo, .wo]⟩]⟩,
  ⟨"PCMPEQD", [
    ⟨[0x0f, 0x76], [], [.mmx], none, [.xq, .uq]⟩,
    ⟨[0x0f, 0x76], [.pref66], [.sse2], none, [.yo, .wo]⟩]⟩,
  ⟨"PCMPEQQ", [
    ⟨[0x0f, 0x38, 0x29], [.pref66], [.sse41], none, [.yo, .mq]⟩,
    ⟨[0x0f, 0x38, 0x29], [.pref66], [.sse41], none, [.yo, .yo]⟩]⟩,
  ⟨"PCMPEQW", [
    ⟨[0x0f, 0x75], [], [.mmx], none, [.xq, .uq]⟩,
    ⟨[0x0f, 0x75], [.pref66], [.sse2], none, [.yo, .wo]⟩]⟩,
  ⟨"PCMPESTRI", [
    ⟨[0x0f, 0x3a, 0x61], [.pref66], [.sse42], none, [.yo, .mq, .ib]⟩,
    ⟨[0x0f, 0x3a, 0x61], [.pref66], [.sse42], none, [.yo, .yo, .ib]⟩]⟩,
  ⟨"PCMPESTRM", [
    ⟨[0x0f, 0x3a, 0x60], [.pref66], [.sse42], none, [.yo, .mq, .ib]⟩,
    ⟨[0x0f, 0x3a, 0x60], [.pref66], [.sse42], none, [.yo, .yo, .ib]⟩]⟩,
  ⟨"PCMPGTB", [
    ⟨[0x0f, 0x64], [], [.mmx], none, [.xq, .uq]⟩,
    ⟨[0x0f, 0x64], [.pref66], [.sse2], none, [.yo, .wo]⟩]⟩,
  ⟨"PCMPGTD", [
    ⟨[0x0f, 0x66], [], [.mmx], none, [.xq, .uq]⟩,
    ⟨[0x0f, 0x66], [.pref66], [.sse2], none, [.yo, .wo]⟩]⟩,
  ⟨"PCMPGTQ", [
    ⟨[0x0f, 0x38, 0x37], [.pref66], [.sse42], none, [.yo, .mq]⟩,
    ⟨[0x0f, 0x38, 0x37], [.pref66], [.sse42], none, [.yo, .yo]⟩]⟩,
  ⟨"PCMPGTW", [
    ⟨[0x0f, 0x65], [], [.mmx], none, [.xq, .uq]⟩,
    ⟨[0x0f, 0x65], [.pref66], [.sse2], none, [.yo, .wo]⟩]⟩,
  ⟨"PCMPISTRI", [
    ⟨[0x0f, 0x3a, 0x63], [.pref66], [.sse42], none, [.yo, .mq, .ib]⟩,
    ⟨[0x0f, 0x3a, 0x63], [.pref66], [.sse42], none, [.yo, .yo, .ib]⟩]⟩,
  ⟨"PCMPISTRM", [
    ⟨[0x0f, 0x3a, 0x62], [.pref66], [.sse42], none, [.yo, .mq, .ib]⟩,
    ⟨[0x0f, 0x3a, 0x62], [.pref66], [.sse42], none, [.yo, .yo, .ib]⟩]⟩,
  ⟨"PDEP", [
    ⟨[0x02, 0xf5], [.vex, .autoRexW, .prefF2], [.bmi2], none, [.ra, .ra, .va]⟩]⟩,
  ⟨"PDISTIB", [
    ⟨[0x0f, 0x54], [], [.mmx, .cyrix], none, [.xq, .mq]⟩]⟩,
  ⟨"PEXT", [
    ⟨[0x02, 0xf5], [.vex, .autoRexW, .prefF3], [.bmi2], none, [.ra, .ra, .va]⟩]⟩,
  ⟨"PEXTRB", [
    ⟨[0x0f, 0x3a, 0x14], [.encMR, .pref66], [.sse41], none, [.mb, .yo, .ib]⟩,
    ⟨[0x0f, 0x3a, 0x14], [.encMR, .pref66], [.sse41], none, [.rd, .yo, .ib]⟩,
    ⟨[0x0f, 0x3a, 0x14], [.withRexW, .encMR, .pref66], [.sse41], none, [.rq, .yo, .ib]⟩]⟩,
  ⟨"PEXTRD", [
    ⟨[0x0f, 0x3a, 0x16], [.encMR, .pref66], [.sse41], none, [.vd, .yo, .ib]⟩]⟩,
  ⟨"PEXTRQ", [
    ⟨[0x0f, 0x3a, 0x16], [.withRexW, .encMR, .pref66], [.sse41], none, [.vq, .yo, .ib]⟩]⟩,
  ⟨"PEXTRW", [
    ⟨[0x0f, 0x3a, 0x15], [.encMR, .pref66], [.sse41], none, [.mw, .yo, .ib]⟩,
    ⟨[0x0f, 0xc5], [], [.mmx], none, [.rd, .xq, .ib]⟩,
    ⟨[0x0f, 0xc5], [.pref66], [.sse2], none, [.rd, .yo, .ib]⟩,
    ⟨[0x0f, 0x3a, 0x15], [.encMR, .pref66], [.sse41], none, [.rd, .yo, .ib]⟩,
    ⟨[0x0f, 0x3a, 0x15], [.withRexW, .encMR, .pref66], [.sse41], none, [.rq, .yo, .ib]⟩]⟩,
  ⟨"PF2ID", [
    ⟨[0x0f, 0x0f, 0x1d], [.immOp], [.tdnow], none, [.xq, .uq]⟩]⟩,
  ⟨"PF2IW", [
    ⟨[0x0f, 0x0f, 0x1c], [.immOp], [.tdnow], none, [.xq, .uq]⟩]⟩,
  ⟨"PFACC", [
    ⟨[0x0f, 0x0f, 0xae], [.immOp], [.tdnow], none, [.xq, .uq]⟩]⟩,
  ⟨"PFADD", [
    ⟨[0x0f, 0x0f, 0x9e], [.immOp], [.tdnow], none, [.xq, .uq]⟩]⟩,
  ⟨"PFCMPEQ", [
    ⟨[0x0f, 0x0f, 0xb0], [.immOp], [.tdnow], none, [.xq, .uq]⟩]⟩,
  ⟨"PFCMPGE", [
    ⟨[0x0f, 0x0f, 0x90], [.immOp], [.tdnow], none, [.xq, .uq]⟩]⟩,
  ⟨"PFCMPGT", [
    ⟨[0x0f, 0x0f, 0xa0], [.immOp], [.tdnow], none, [.xq, .uq]⟩]⟩,
  ⟨"PFMAX", [
    ⟨[0x0f, 0x0f, 0xa4], [.immOp], [.tdnow], none, [.xq, .uq]⟩]⟩,
  ⟨"PFMIN", [
    ⟨[0x0f, 0x0f, 0x94], [.immOp], [.tdnow], none, [.xq, .uq]⟩]⟩,
  ⟨"PFMUL", [
    ⟨[0x0f, 0x0f, 0xb4], [.immOp], [.tdnow], none, [.xq, .uq]⟩]⟩,
  ⟨"PFNACC", [
    ⟨[0x0f, 0x0f, 0x8a], [.immOp], [.tdnow], none, [.xq, .uq]⟩]⟩,
  ⟨"PFPNACC", [
    ⟨[0x0f, 0x0f, 0x8e], [.immOp], [.tdnow], none, [.xq, .uq]⟩]⟩,
  ⟨"PFRCP", [
    ⟨[0x0f, 0x0f, 0x96], [.immOp], [.tdnow], none, [.xq, .uq]⟩]⟩,
  ⟨"PFRCPIT1", [
    ⟨[0x0f, 0x0f, 0xa6], [.immOp], [.tdnow], none, [.xq, .uq]⟩]⟩,
  ⟨"PFRCPIT2", [
    ⟨[0x0f, 0x0f, 0xb6], [.immOp], [.tdnow], none, [.xq, .uq]⟩]⟩,
  ⟨"PFRCPV", [
    ⟨[0x0f, 0x0f, 0x86], [.immOp], [.tdnow, .cyrix], none, [.xq, .uq]⟩]⟩,
  ⟨"PFRSQIT1", [
    ⟨[0x0f, 0x0f, 0xa7], [.immOp], [.tdnow], none, [.xq, .uq]⟩]⟩,
  ⟨"PFRSQRT", [
    ⟨[0x0f, 0x0f, 0x97], [.immOp], [.tdnow], none, [.xq, .uq]⟩]⟩,
  ⟨"PFRSQRTV", [
    ⟨[0x0f, 0x0f, 0x87], [.immOp], [.cyrix, .tdnow], none, [.xq, .uq]⟩]⟩,
  ⟨"PFSUB", [
    ⟨[0x0f, 0x0f, 0x9a], [.immOp], [.tdnow], none, [.xq, .uq]⟩]⟩,
  ⟨"PFSUBR", [
    ⟨[0x0f, 0x0f, 0xaa], [.immOp], [.tdnow], none, [.xq, .uq]⟩]⟩,
  ⟨"PHADDD", [
    ⟨[0x0f, 0x38, 0x02], [], [.mmx, .ssse3], none, [.xq, .uq]⟩,
    ⟨[0x0f, 0x38, 0x02], [.pref66], [.ssse3], none, [.yo, .mq]⟩,
    ⟨[0x0f, 0x38, 0x02], [.pref66], [.ssse3], none, [.yo, .yo]⟩]⟩,
  ⟨"PHADDSW", [
    ⟨[0x0f, 0x38, 0x03], [], [.mmx, .ssse3], none, [.xq, .uq]⟩,
    ⟨[0x0f, 0x38, 0x03], [.pref66], [.ssse3], none, [.yo, .mq]⟩,
    ⟨[0x0f, 0x38, 0x03], [.pref66], [.ssse3], none, [.yo, .yo]⟩]⟩,
  ⟨"PHADDW", [
    ⟨[0x0f, 0x38, 0x01], [], [.mmx, .ssse3], none, [.xq, .uq]⟩,
    ⟨[0x0f, 0x38, 0x01], [.pref66], [.ssse3], none, [.yo, .mq]⟩,
    ⟨[0x0f, 0x38, 0x01], [.pref66], [.ssse3], none, [.yo, .yo]⟩]⟩,
  ⟨"PHMINPOSUW", [
    ⟨[0x0f, 0x38, 0x41], [.pref66], [.sse41], none, [.yo, .mq]⟩,
    ⟨[0x0f, 0x38, 0x41], [.pref66], [.sse41], none, [.yo, .yo]⟩]⟩,
  ⟨"PHSUBD", [
    ⟨[0x0f, 0x38, 0x06], [], [.ssse3, .mmx], none, [.xq, .uq]⟩,
    ⟨[0x0f, 0x38, 0x06], [.pref66], [.ssse3], none, [.yo, .mq]⟩,
    ⟨[0x0f, 0x38, 0x06], [.pref66], [.ssse3], none, [.yo, .yo]⟩]⟩,
  ⟨"PHSUBSW", [
    ⟨[0x0f, 0x38, 0x07], [], [.ssse3, .mmx], none, [.xq, .uq]⟩,
    ⟨[0x0f, 0x38, 0x07], [.pref66], [.ssse3], none, [.yo, .mq]⟩,
    ⟨[0x0f, 0x38, 0x07], [.pref66], [.ssse3], none, [.yo, .yo]⟩]⟩,
  ⟨"PHSUBW", [
    ⟨[0x0f, 0x38, 0x05], [], [.ssse3, .mmx], none, [.xq, .uq]⟩,
    ⟨[0x0f, 0x38, 0x05], [.pref66], [.ssse3], none, [.yo, .mq]⟩,
    ⟨[0x0f, 0x38, 0x05], [.pref66], [.ssse3], none, [.yo, .yo]⟩]⟩,
  ⟨"PI2FD", [
    ⟨[0x0f, 0x0f, 0x0d], [.immOp], [.tdnow], none, [.xq, .uq]⟩]⟩,
  ⟨"PI2FW", [
    ⟨[0x0f, 0x0f, 0x0c], [.immOp], [.tdnow], none, [.xq, .uq]⟩]⟩,
  ⟨"PINSRB", [
    ⟨[0x0f, 0x3a, 0x20], [.pref66], [.sse41], none, [.yo, .mn, .ib]⟩,
    ⟨[0x0f, 0x3a, 0x20], [.pref66], [.sse41], none, [.yo, .rd, .ib]⟩,
    ⟨[0x0f, 0x3a, 0x20], [.pref66], [.sse41], none, [.yo, .vb, .ib]⟩]⟩,
  ⟨"PINSRD", [
    ⟨[0x0f, 0x3a, 0x22], [.pref66], [.sse41], none, [.yo, .mn, .ib]⟩,
    ⟨[0x0f, 0x3a, 0x22], [.pref66], [.sse41], none, [.yo, .vd, .ib]⟩]⟩,
  ⟨"PINSRQ", [
    ⟨[0x0f, 0x3a, 0x22], [.withRexW, .pref66], [.sse41], none, [.yo, .mn, .ib]⟩,
    ⟨[0x0f, 0x3a, 0x22], [.withRexW, .pref66], [.sse41], none, [.yo, .vq, .ib]⟩]⟩,
  ⟨"PINSRW", [
    ⟨[0x0f, 0xc4], [], [.mmx], none, [.xq, .mn, .ib]⟩,
    ⟨[0x0f, 0xc4], [], [.mmx], none, [.xq, .rd, .ib]⟩,
    ⟨[0x0f, 0xc4], [], [.mmx], none, [.xq, .vw, .ib]⟩,
    ⟨[0x0f, 0xc4], [.pref66], [.sse2], none, [.yo, .mn, .ib]⟩,
    ⟨[0x0f, 0xc4], [.pref66], [.sse2], none, [.yo, .mw, .ib]⟩,
    ⟨[0x0f, 0xc4], [.pref66], [.sse2], none, [.yo, .rd, .ib]⟩,
    ⟨[0x0f, 0xc4], [.pref66], [.sse2], none, [.yo, .rw, .ib]⟩]⟩,
  ⟨"PMACHRIW", [
    ⟨[0x0f, 0x5e], [], [.mmx, .cyrix], none, [.xq, .mq]⟩]⟩,
  ⟨"PMADDUBSW", [
    ⟨[0x0f, 0x38, 0x04], [], [.mmx, .ssse3], none, [.xq, .uq]⟩,
    ⟨[0x0f, 0x38, 0x04], [.pref66], [.ssse3], none, [.yo, .mq]⟩,
    ⟨[0x0f, 0x38, 0x04], [.pref66], [.ssse3], none, [.yo, .yo]⟩]⟩,
  ⟨"PMADDWD", [
    ⟨[0x0f, 0xf5], [], [.mmx], none, [.xq, .uq]⟩,
    ⟨[0x0f, 0xf5], [.pref66], [.sse2], none, [.yo, .wo]⟩]⟩,
  ⟨"PMAGW", [
    ⟨[0x0f, 0x52], [], [.cyrix, .mmx], none, [.xq, .uq]⟩]⟩,
  ⟨"PMAXSB", [
    ⟨[0x0f, 0x38, 0x3c], [.pref66], [.sse41], none, [.yo, .mq]⟩,
    ⟨[0x0f, 0x38, 0x3c], [.pref66], [.sse41], none, [.yo, .yo]⟩]⟩,
  ⟨"PMAXSD", [
    ⟨[0x0f, 0x38, 0x3d], [.pref66], [.sse41], none, [.yo, .mq]⟩,
    ⟨[0x0f, 0x38, 0x3d], [.pref66], [.sse41], none, [.yo, .yo]⟩]⟩,
  ⟨"PMAXSW", [
    ⟨[0x0f, 0xee], [], [.mmx], none, [.xq, .uq]⟩,
    ⟨[0x0f, 0xee], [.pref66], [.sse2], none, [.yo, .wo]⟩]⟩,
  ⟨"PMAXUB", [
    ⟨[0x0f, 0xde], [], [.mmx], none, [.xq, .uq]⟩,
    ⟨[0x0f, 0xde], [.pref66], [.sse2], none, [.yo, .wo]⟩]⟩,
  ⟨"PMAXUD", [
    ⟨[0x0f, 0x38, 0x3f], [.pref66], [.sse41], none, [.yo, .mq]⟩,
    ⟨[0x0f, 0x38, 0x3f], [.pref66], [.sse41], none, [.yo, .yo]⟩]⟩,
  ⟨"PMAXUW", [
    ⟨[0x0f, 0x38, 0x3e], [.pref66], [.sse41], none, [.yo, .mq]⟩,
    ⟨[0x0f, 0x38, 0x3e], [.pref66], [.sse41], none, [.yo, .yo]⟩]⟩,
  ⟨"PMINSB", [
    ⟨[0x0f, 0x38, 0x38], [.pref66], [.sse41], none, [.yo, .mq]⟩,
    ⟨[0x0f, 0x38, 0x38], [.pref66], [.sse41], none, [.yo, .yo]⟩]⟩,
  ⟨"PMINSD", [
    ⟨[0x0f, 0x38, 0x39], [.pref66], [.sse41], none, [.yo, .mq]⟩,
    ⟨[0x0f, 0x38, 0x39], [.pref66], [.sse41], none, [.yo, .yo]⟩]⟩,
  ⟨"PMINSW", [
    ⟨[0x0f, 0xea], [], [.mmx], none, [.xq, .uq]⟩,
    ⟨[0x0f, 0xea], [.pref66], [.sse2], none, [.yo, .wo]⟩]⟩,
  ⟨"PMINUB", [
    ⟨[0x0f, 0xda], [], [.mmx], none, [.xq, .uq]⟩,
    ⟨[0x0f, 0xda], [.pref66], [.sse2], none, [.yo, .wo]⟩]⟩,
  ⟨"PMINUD", [
    ⟨[0x0f, 0x38, 0x3b], [.pref66], [.sse41], none, [.yo, .mq]⟩,
    ⟨[0x0f, 0x38, 0x3b], [.pref66], [.sse41], none, [.yo, .yo]⟩]⟩,
  ⟨"PMINUW", [
    ⟨[0x0f, 0x38, 0x3a], [.pref66], [.sse41], none, [.yo, .mq]⟩,
    ⟨[0x0f, 0x38, 0x3a], [.pref66], [.sse41], none, [.yo, .yo]⟩]⟩,
  ⟨"PMOVMSKB", [
    ⟨[0x0f, 0xd7], [], [.mmx], none, [.rd, .xq]⟩,
    ⟨[0x0f, 0xd7], [.pref66], [.sse2], none, [.rd, .yo]⟩]⟩,
  ⟨"PMOVSXBD", [
    ⟨[0x0f, 0x38, 0x21], [.pref66], [.sse41], none, [.yo, .md]⟩,
    ⟨[0x0f, 0x38, 0x21], [.pref66], [.sse41], none, [.yo, .yo]⟩]⟩,
  ⟨"PMOVSXBQ", [
    ⟨[0x0f, 0x38, 0x22], [.pref66], [.sse41], none, [.yo, .mw]⟩,
    ⟨[0x0f, 0x38, 0x22], [.pref66], [.sse41], none, [.yo, .yo]⟩]⟩,
  ⟨"PMOVSXBW", [
    ⟨[0x0f, 0x38, 0x20], [.pref66], [.sse41], none, [.yo, .mq]⟩,
    ⟨[0x0f, 0x38, 0x20], [.pref66], [.sse41], none, [.yo, .yo]⟩]⟩,
  ⟨"PMOVSXDQ", [
    ⟨[0x0f, 0x38, 0x25], [.pref66], [.sse41], none, [.yo, .mq]⟩,
    ⟨[0x0f, 0x38, 0x25], [.pref66], [.sse41], none, [.yo, .yo]⟩]⟩,
  ⟨"PMOVSXWD", [
    ⟨[0x0f, 0x38, 0x23], [.pref66], [.sse41], none, [.yo, .mq]⟩,
    ⟨[0x0f, 0x38, 0x23], [.pref66], [.sse41], none, [.yo, .yo]⟩]⟩,
  ⟨"PMOVSXWQ", [
    ⟨[0x0f, 0x38, 0x24], [.pref66], [.sse41], none, [.yo, .md]⟩,
    ⟨[0x0f, 0x38, 0x24], [.pref66], [.sse41], none, [.yo, .yo]⟩]⟩,
  ⟨"PMOVZXBD", [
    ⟨[0x0f, 0x38, 0x31], [.pref66], [.sse41], none, [.yo, .md]⟩,
    ⟨[0x0f, 0x38, 0x31], [.pref66], [.sse41], none, [.yo, .yo]⟩]⟩,
  ⟨"PMOVZXBQ", [
    ⟨[0x0f, 0x38, 0x32], [.pref66], [.sse41], none, [.yo, .mw]⟩,
    ⟨[0x0f, 0x38, 0x32], [.pref66], [.sse41], none, [.yo, .yo]⟩]⟩,
  ⟨"PMOVZXBW", [
    ⟨[0x0f, 0x38, 0x30], [.pref66], [.sse41], none, [.yo, .mq]⟩,
    ⟨[0x0f, 0x38, 0x30], [.pref66], [.sse41], none, [.yo, .yo]⟩]⟩,
  ⟨"PMOVZXDQ", [
    ⟨[0x0f, 0x38, 0x35], [.pref66], [.sse41], none, [.yo, .mq]⟩,
    ⟨[0x0f, 0x38, 0x35], [.pref66], [.sse41], none, [.yo, .yo]⟩]⟩,
  ⟨"PMOVZXWD", [
    ⟨[0x0f, 0x38, 0x33], [.pref66], [.sse41], none, [.yo, .mq]⟩,
    ⟨[0x0f, 0x38, 0x33], [.pref66], [.sse41], none, [.yo, .yo]⟩]⟩,
  ⟨"PMOVZXWQ", [
    ⟨[0x0f, 0x38, 0x34], [.pref66], [.sse41], none, [.yo, .md]⟩,
    ⟨[0x0f, 0x38, 0x34], [.pref66], [.sse41], none, [.yo, .yo]⟩]⟩,
  ⟨"PMULDQ", [
    ⟨[0x0f, 0x38, 0x28], [.pref66], [.sse41], none, [.yo, .mq]⟩,
    ⟨[0x0f, 0x38, 0x28], [.pref66], [.sse41], none, [.yo, .yo]⟩]⟩,
  ⟨"PMULHRIW", [
    ⟨[0x0f, 0x5d], [], [.cyrix, .mmx], none, [.xq, .uq]⟩]⟩,
  ⟨"PMULHRSW", [
    ⟨[0x0f, 0x38, 0x0b], [], [.mmx, .ssse3], none, [.xq, .uq]⟩,
    ⟨[0x0f, 0x38, 0x0b], [.pref66], [.ssse3], none, [.yo, .mq]⟩,
    ⟨[0x0f, 0x38, 0x0b], [.pref66], [.ssse3], none, [.yo, .yo]⟩]⟩,
  ⟨"PMULHRWA", [
    ⟨[0x0f, 0x0f, 0xb7], [.immOp], [.tdnow], none, [.xq, .uq]⟩]⟩,
  ⟨"PMULHRWC", [
    ⟨[0x0f, 0x59], [], [.mmx, .cyrix], none, [.xq, .uq]⟩]⟩,
  ⟨"PMULHUW", [
    ⟨[0x0f, 0xe4], [], [.mmx], none, [.xq, .uq]⟩,
    ⟨[0x0f, 0xe4], [.pref66], [.sse2], none, [.yo, .wo]⟩]⟩,
  ⟨"PMULHW", [
    ⟨[0x0f, 0xe5], [], [.mmx], none, [.xq, .uq]⟩,
    ⟨[0x0f, 0xe5], [.pref66], [.sse2], none, [.yo, .wo]⟩]⟩,
  ⟨"PMULLD", [
    ⟨[0x0f, 0x38, 0x40], [.pref66], [.sse41], none, [.yo, .mq]⟩,
    ⟨[0x0f, 0x38, 0x40], [.pref66], [.sse41], none, [.yo, .yo]⟩]⟩,
  ⟨"PMULLW", [
    ⟨[0x0f, 0xd5], [], [.mmx], none, [.xq, .uq]⟩,
    ⟨[0x0f, 0xd5], [.pref66], [.sse2], none, [.yo, .wo]⟩]⟩,
  ⟨"PMULUDQ", [
    ⟨[0x0f, 0xf4], [], [.sse2], none, [.xq, .uq]⟩,
    ⟨[0x0f, 0xf4], [.pref66], [.sse2], none, [.yo, .wo]⟩]⟩,
  ⟨"PMVGEZB", [
    ⟨[0x0f, 0x5c], [], [.cyrix, .mmx], none, [.xq, .mq]⟩]⟩,
  ⟨"PMVLZB", [
    ⟨[0x0f, 0x5b], [], [.cyrix, .mmx], none, [.xq, .mq]⟩]⟩,
  ⟨"PMVNZB", [
    ⟨[0x0f, 0x5a], [], [.cyrix, .mmx], none, [.xq, .mq]⟩]⟩,
  ⟨"PMVZB", [
    ⟨[0x0f, 0x58], [], [.mmx, .cyrix], none, [.xq, .mq]⟩]⟩,
  ⟨"POP", [
    ⟨[0x07], [.x86Only], [], none, [.Qw]⟩,
    ⟨[0x17], [.x86Only], [], none, [.Sw]⟩,
    ⟨[0x1f], [.x86Only], [], none, [.Tw]⟩,
    ⟨[0x0f, 0xa1], [], [], none, [.Uw]⟩,
    ⟨[0x0f, 0xa9], [], [], none, [.Vw]⟩,
    ⟨[0x58], [.autoNo32, .shortArg], [], none, [.ra]⟩,
    ⟨[0x8f], [.autoNo32], [], some 0, [.va]⟩]⟩,
  ⟨"POPA", [
    ⟨[0x61], [.x86Only, .wordSize], [], none, []⟩]⟩,
  ⟨"POPAD", [
    ⟨[0x61], [.x86Only], [], none, []⟩]⟩,
  ⟨"POPCNT", [
    ⟨[0x0f, 0xb8], [.autoSize, .prefF3], [], none, [.ra, .va]⟩]⟩,
  ⟨"POPF", [
    ⟨[0x9d], [], [], none, []⟩]⟩,
  ⟨"POPFQ", [
    ⟨[0x9d], [], [], none, []⟩]⟩,
  ⟨"POPFW", [
    ⟨[0x9d], [.wordSize], [], none, []⟩]⟩,
  ⟨"POR", [
    ⟨[0x0f, 0xeb], [], [.mmx], none, [.xq, .uq]⟩,
    ⟨[0x0f, 0xeb], [.pref66], [.sse2], none, [.yo, .wo]⟩]⟩,
  ⟨"PREFETCH", [
    ⟨[0x0f, 0x0d], [], [.tdnow], some 0, [.mq]⟩]⟩,
  ⟨"PREFETCHNTA", [
    ⟨[0x0f, 0x18], [], [], some 0, [.mb]⟩]⟩,
  ⟨"PREFETCHT0", [
    ⟨[0x0f, 0x18], [], [], some 1, [.mb]⟩]⟩,
  ⟨"PREFETCHT1", [
    ⟨[0x0f, 0x18], [], [], some 2, [.mb]⟩]⟩,
  ⟨"PREFETCHT2", [
    ⟨[0x0f, 0x18], [], [], some 3, [.mb]⟩]⟩,
  ⟨"PREFETCHW", [
    ⟨[0x0f, 0x0d], [], [.tdnow], some 1, [.mq]⟩]⟩,
  ⟨"PREFETCHWT1", [
    ⟨[0x0f, 0x0d], [], [.prefetchwt1], some 2, [.mb]⟩]⟩,
  ⟨"PSADBW", [
    ⟨[0x0f, 0xf6], [], [.mmx], none, [.xq, .uq]⟩,
    ⟨[0x0f, 0xf6], [.pref66], [.sse2], none, [.yo, .wo]⟩]⟩,
  ⟨"PSHUFB", [
    ⟨[0x0f, 0x38, 0x00], [], [.ssse3, .mmx], none, [.xq, .uq]⟩,
    ⟨[0x0f, 0x38, 0x00], [.pref66], [.ssse3], none, [.yo, .mq]⟩,
    ⟨[0x0f, 0x38, 0x00], [.pref66], [.ssse3], none, [.yo, .yo]⟩]⟩,
  ⟨"PSHUFD", [
    ⟨[0x0f, 0x70], [.pref66], [.sse2], none, [.yo, .wo, .ib]⟩]⟩,
  ⟨"PSHUFHW", [
    ⟨[0x0f, 0x70], [.prefF3], [.sse2], none, [.yo, .wo, .ib]⟩]⟩,
  ⟨"PSHUFLW", [
    ⟨[0x0f, 0x70], [.prefF2], [.sse2], none, [.yo, .wo, .ib]⟩]⟩,
  ⟨"PSHUFW", [
    ⟨[0x0f, 0x70], [], [.mmx], none, [.xq, .uq, .ib]⟩]⟩,
  ⟨"PSIGNB", [
    ⟨[0x0f, 0x38, 0x08], [], [.mmx, .ssse3], none, [.xq, .uq]⟩,
    ⟨[0x0f, 0x38, 0x08], [.pref66], [.ssse3], none, [.yo, .mq]⟩,
    ⟨[0x0f, 0x38, 0x08], [.pref66], [.ssse3], none, [.yo, .yo]⟩]⟩,
  ⟨"PSIGND", [
    ⟨[0x0f, 0x38, 0x0a], [], [.ssse3, .mmx], none, [.xq, .uq]⟩,
    ⟨[0x0f, 0x38, 0x0a], [.pref66], [.ssse3], none, [.yo, .mq]⟩,
    ⟨[0x0f, 0x38, 0x0a], [.pref66], [.ssse3], none, [.yo, .yo]⟩]⟩,
  ⟨"PSIGNW", [
    ⟨[0x0f, 0x38, 0x09], [], [.mmx, .ssse3], none, [.xq, .uq]⟩,
    ⟨[0x0f, 0x38, 0x09], [.pref66], [.ssse3], none, [.yo, .mq]⟩,
    ⟨[0x0f, 0x38, 0x09], [.pref66], [.ssse3], none, [.yo, .yo]⟩]⟩,
  ⟨"PSLLD", [
    ⟨[0x0f, 0x72], [], [.mmx], some 6, [.xq, .ib]⟩,
    ⟨[0x0f, 0xf2], [], [.mmx], none, [.xq, .uq]⟩,
    ⟨[0x0f, 0x72], [.pref66], [.sse2], some 6, [.yo, .ib]⟩,
    ⟨[0x0f, 0xf2], [.pref66], [.sse2], none, [.yo, .wo]⟩]⟩,
  ⟨"PSLLDQ", [
    ⟨[0x0f, 0x73], [.pref66], [.sse2], some 7, [.yo, .ib]⟩]⟩,
  ⟨"PSLLQ", [
    ⟨[0x0f, 0x73], [], [.mmx], some 6, [.xq, .ib]⟩,
    ⟨[0x0f, 0xf3], [], [.mmx], none, [.xq, .uq]⟩,
    ⟨[0x0f, 0x73], [.pref66], [.sse2], some 6, [.yo, .ib]⟩,
    ⟨[0x0f, 0xf3], [.pref66], [.sse2], none, [.yo, .wo]⟩]⟩,
  ⟨"PSLLW", [
    ⟨[0x0f, 0x71], [], [.mmx], some 6, [.xq, .ib]⟩,
    ⟨[0x0f, 0xf1], [], [.mmx], none, [.xq, .uq]⟩,
    ⟨[0x0f, 0x71], [.pref66], [.sse2], some 6, [.yo, .ib]⟩,
    ⟨[0x0f, 0xf1], [.pref66], [.sse2], none, [.yo, .wo]⟩]⟩,
  ⟨"PSRAD", [
    ⟨[0x0f, 0x72], [], [.mmx], some 4, [.xq, .ib]⟩,
    ⟨[0x0f, 0xe2], [], [.mmx], none, [.xq, .uq]⟩,
    ⟨[0x0f, 0x72], [.pref66], [.sse2], some 4, [.yo, .ib]⟩,
    ⟨[0x0f, 0xe2], [.pref66], [.sse2], none, [.yo, .wo]⟩]⟩,
  ⟨"PSRAW", [
    ⟨[0x0f, 0x71], [], [.mmx], some 4, [.xq, .ib]⟩,
    ⟨[0x0f, 0xe1], [], [.mmx], none, [.xq, .uq]⟩,
    ⟨[0x0f, 0x71], [.pref66], [.sse2], some 4, [.yo, .ib]⟩,
    ⟨[0x0f, 0xe1], [.pref66], [.sse2], none, [.yo, .wo]⟩]⟩,
  ⟨"PSRLD", [
    ⟨[0x0f, 0x72], [], [.mmx], some 2, [.xq, .ib]⟩,
    ⟨[0x0f, 0xd2], [], [.mmx], none, [.xq, .uq]⟩,
    ⟨[0x0f, 0x72], [.pref66], [.sse2], some 2, [.yo, .ib]⟩,
    ⟨[0x0f, 0xd2], [.pref66], [.sse2], none, [.yo, .wo]⟩]⟩,
  ⟨"PSRLDQ", [
    ⟨[0x0f, 0x73], [.pref66], [.sse2], some 3, [.yo, .ib]⟩]⟩,
  ⟨"PSRLQ", [
    ⟨[0x0f, 0x73], [], [.mmx], some 2, [.xq, .ib]⟩,
    ⟨[0x0f, 0xd3], [], [.mmx], none, [.xq, .uq]⟩,
    ⟨[0x0f, 0x73], [.pref66], [.sse2], some 2, [.yo, .ib]⟩,
    ⟨[0x0f, 0xd3], [.pref66], [.sse2], none, [.yo, .wo]⟩]⟩,
  ⟨"PSRLW", [
    ⟨[0x0f, 0x71], [], [.mmx], some 2, [.xq, .ib]⟩,
    ⟨[0x0f, 0xd1], [], [.mmx], none, [.xq, .uq]⟩,
    ⟨[0x0f, 0x71], [.pref66], [.sse2], some 2, [.yo, .ib]⟩,
    ⟨[0x0f, 0xd1], [.pref66], [.sse2], none, [.yo, .wo]⟩]⟩,
  ⟨"PSUBB", [
    ⟨[0x0f, 0xf8], [], [.mmx], none, [.xq, .uq]⟩,
    ⟨[0x0f, 0xf8], [.pref66], [.sse2], none, [.yo, .wo]⟩]⟩,
  ⟨"PSUBD", [
    ⟨[0x0f, 0xfa], [], [.mmx], none, [.xq, .uq]⟩,
    ⟨[0x0f, 0xfa], [.pref66], [.sse2], none, [.yo, .wo]⟩]⟩,
  ⟨"PSUBQ", [
    ⟨[0x0f, 0xfb], [], [.sse2], none, [.xq, .uq]⟩,
    ⟨[0x0f, 0xfb], [.pref66], [.sse2], none, [.yo, .wo]⟩]⟩,
  ⟨"PSUBSB", [
    ⟨[0x0f, 0xe8], [], [.mmx], none, [.xq, .uq]⟩,
    ⟨[0x0f, 0xe8], [.pref66], [.sse2], none, [.yo, .wo]⟩]⟩,
  ⟨"PSUBSIW", [
    ⟨[0x0f, 0x55], [], [.cyrix, .mmx], none, [.xq, .uq]⟩]⟩,
  ⟨"PSUBSW", [
    ⟨[0x0f, 0xe9], [], [.mmx], none, [.xq, .uq]⟩,
    ⟨[0x0f, 0xe9], [.pref66], [.sse2], none, [.yo, .wo]⟩]⟩,
  ⟨"PSUBUSB", [
    ⟨[0x0f, 0xd8], [], [.mmx], none, [.xq, .uq]⟩,
    ⟨[0x0f, 0xd8], [.pref66], [.sse2], none, [.yo, .wo]⟩]⟩,
  ⟨"PSUBUSW", [
    ⟨[0x0f, 0xd9], [], [.mmx], none, [.xq, .uq]⟩,
    ⟨[0x0f, 0xd9], [.pref66], [.sse2], none, [.yo, .wo]⟩]⟩,
  ⟨"PSUBW", [
    ⟨[0x0f, 0xf9], [], [.mmx], none, [.xq, .uq]⟩,
    ⟨[0x0f, 0xf9], [.pref66], [.sse2], none, [.yo, .wo]⟩]⟩,
  ⟨"PSWAPD", [
    ⟨[0x0f, 0x0f, 0xbb], [.immOp], [.tdnow], none, [.xq, .uq]⟩]⟩,
  ⟨"PTEST", [
    ⟨[0x0f, 0x38, 0x17], [.pref66], [.sse41], none, [.yo, .mq]⟩,
    ⟨[0x0f, 0x38, 0x17], [.pref66], [.sse41], none, [.yo, .yo]⟩]⟩,
  ⟨"PUNPCKHBW", [
    ⟨[0x0f, 0x68], [], [.mmx], none, [.xq, .uq]⟩,
    ⟨[0x0f, 0x68], [.pref66], [.sse2], none, [.yo, .wo]⟩]⟩,
  ⟨"PUNPCKHDQ", [
    ⟨[0x0f, 0x6a], [], [.mmx], none, [.xq, .uq]⟩,
    ⟨[0x0f, 0x6a], [.pref66], [.sse2], none, [.yo, .wo]⟩]⟩,
  ⟨"PUNPCKHQDQ", [
    ⟨[0x0f, 0x6d], [.pref66], [.sse2], none, [.yo, .wo]⟩]⟩,
  ⟨"PUNPCKHWD", [
    ⟨[0x0f, 0x69], [], [.mmx], none, [.xq, .uq]⟩,
    ⟨[0x0f, 0x69], [.pref66], [.sse2], none, [.yo, .wo]⟩]⟩,
  ⟨"PUNPCKLBW", [
    ⟨[0x0f, 0x60], [], [.mmx], none, [.xq, .uq]⟩,
    ⟨[0x0f, 0x60], [.pref66], [.sse2], none, [.yo, .wo]⟩]⟩,
  ⟨"PUNPCKLDQ", [
    ⟨[0x0f, 0x62], [], [.mmx], none, [.xq, .uq]⟩,
    ⟨[0x0f, 0x62], [.pref66], [.sse2], none, [.yo, .wo]⟩]⟩,
  ⟨"PUNPCKLQDQ", [
    ⟨[0x0f, 0x6c], [.pref66], [.sse2], none, [.yo, .wo]⟩]⟩,
  ⟨"PUNPCKLWD", [
    ⟨[0x0f, 0x61], [], [.mmx], none, [.xq, .uq]⟩,
    ⟨[0x0f, 0x61], [.pref66], [.sse2], none, [.yo, .wo]⟩]⟩,
  ⟨"PUSH", [
    ⟨[0x06], [.x86Only], [], none, [.Qw]⟩,
    ⟨[0x0e], [.x86Only], [], none, [.Rw]⟩,
    ⟨[0x16], [.x86Only], [], none, [.Sw]⟩,
    ⟨[0x1e], [.x86Only], [], none, [.Tw]⟩,
    ⟨[0x0f, 0xa0], [], [], none, [.Uw]⟩,
    ⟨[0x0f, 0xa8], [], [], none, [.Vw]⟩,
    ⟨[0x6a], [.exactSize], [], none, [.ib]⟩,
    ⟨[0x68], [.exactSize, .wordSize], [], none, [.iw]⟩,
    ⟨[0x68], [], [], none, [.id]⟩,
    ⟨[0x50], [.autoNo32, .shortArg], [], none, [.ra]⟩,
    ⟨[0xff], [.autoNo32], [], some 6, [.va]⟩]⟩,
  ⟨"PUSHA", [
    ⟨[0x60], [.x86Only, .wordSize], [], none, []⟩]⟩,
  ⟨"PUSHAD", [
    ⟨[0x60], [.x86Only], [], none, []⟩]⟩,
  ⟨"PUSHF", [
    ⟨[0x9c], [], [], none, []⟩]⟩,
  ⟨"PUSHFQ", [
    ⟨[0x9c], [], [], none, []⟩]⟩,
  ⟨"PUSHFW", [
    ⟨[0x9c], [.wordSize], [], none, []⟩]⟩,
  ⟨"PXOR", [
    ⟨[0x0f, 0xef], [], [.mmx], none, [.xq, .uq]⟩,
    ⟨[0x0f, 0xef], [.pref66], [.sse2], none, [.yo, .wo]⟩]⟩]

def namesR : List Family := [
  ⟨"RCL", [
    ⟨[0xd2], [], [], some 2, [.vb, .Bb]⟩,
    ⟨[0xc0], [], [], some 2, [.vb, .ib]⟩,
    ⟨[0xd3], [.autoSize], [], some 2, [.va, .Bb]⟩,
    ⟨[0xc1], [.autoSize], [], some 2, [.va, .ib]⟩]⟩,
  ⟨"RCPPS", [
    ⟨[0x0f, 0x53], [], [.sse], none, [.yo, .wo]⟩]⟩,
  ⟨"RCPSS", [
    ⟨[0x0f, 0x53], [.prefF3], [.sse], none, [.yo, .md]⟩,
    ⟨[0x0f, 0x53], [.prefF3], [.sse], none, [.yo, .yo]⟩]⟩,
  ⟨"RCR", [
    ⟨[0xd2], [], [], some 3, [.vb, .Bb]⟩,
    ⟨[0xc0], [], [], some 3, [.vb, .ib]⟩,
    ⟨[0xd3], [.autoSize], [], some 3, [.va, .Bb]⟩,
    ⟨[0xc1], [.autoSize], [], some 3, [.va, .ib]⟩]⟩,
  ⟨"RDFSBASE", [
    ⟨[0x0f, 0xae], [.prefF3], [], some 0, [.rd]⟩,
    ⟨[0x0f, 0xae], [.withRexW, .prefF3], [], some 0, [.rq]⟩]⟩,
  ⟨"RDGSBASE", [
    ⟨[0x0f, 0xae], [.prefF3], [], some 1, [.rd]⟩,
    ⟨[0x0f, 0xae], [.withRexW, .prefF3], [], some 1, [.rq]⟩]⟩,
  ⟨"RDM", [
    ⟨[0x0f, 0x3a], [], [.cyrix], none, []⟩]⟩,
  ⟨"RDMSR", [
    ⟨[0x0f, 0x32], [], [], none, []⟩]⟩,
  ⟨"RDPID", [
    ⟨[0x0f, 0xc7], [.prefF3], [], some 7, [.rq]⟩]⟩,
  ⟨"RDPKRU", [
    ⟨[0x0f, 0x01, 0xee], [], [], none, []⟩]⟩,
  ⟨"RDPMC", [
    ⟨[0x0f, 0x33], [], [], none, []⟩]⟩,
  ⟨"RDRAND", [
    ⟨[0x0f, 0xc7], [.withRexW], [], some 6, [.rq]⟩]⟩,
  ⟨"RDSEED", [
    ⟨[0x0f, 0xc7], [.withRexW], [], some 7, [.rq]⟩]⟩,
  ⟨"RDSHR", [
    ⟨[0x0f, 0x36], [], [.cyrix], some 0, [.vd]⟩]⟩,
  ⟨"RDTSC", [
    ⟨[0x0f, 0x31], [], [], none, []⟩]⟩,
  ⟨"RDTSCP", [
    ⟨[0x0f, 0x01, 0xf9], [], [], none, []⟩]⟩,
  ⟨"RET", [
    ⟨[0xc3], [], [], none, []⟩,
    ⟨[0xc2], [], [], none, [.iw]⟩]⟩,
  ⟨"RETF", [
    ⟨[0xcb], [], [], none, []⟩,
    ⟨[0xca], [], [], none, [.iw]⟩]⟩,
  ⟨"RETN", [
    ⟨[0xc3], [], [], none, []⟩,
    ⟨[0xc2], [], [], none, [.iw]⟩]⟩,
  ⟨"ROL", [
    ⟨[0xd2], [], [], some 0, [.vb, .Bb]⟩,
    ⟨[0xc0], [], [], some 0, [.vb, .ib]⟩,
    ⟨[0xd3], [.autoSize], [], some 0, [.va, .Bb]⟩,
    ⟨[0xc1], [.autoSize], [], some 0, [.va, .ib]⟩]⟩,
  ⟨"ROR", [
    ⟨[0xd2], [], [], some 1, [.vb, .Bb]⟩,
    ⟨[0xc0], [], [], some 1, [.vb, .ib]⟩,
    ⟨[0xd3], [.autoSize], [], some 1, [.va, .Bb]⟩,
    ⟨[0xc1], [.autoSize], [], some 1, [.va, .ib]⟩]⟩,
  ⟨"RORX", [
    ⟨[0x03, 0xf0], [.vex, .autoRexW, .prefF2], [.bmi2], none, [.ra, .va, .ib]⟩]⟩,
  ⟨"ROUNDPD", [
    ⟨[0x0f, 0x3a, 0x09], [.pref66], [.sse41], none, [.yo, .mq, .ib]⟩,
    ⟨[0x0f, 0x3a, 0x09], [.pref66], [.sse41], none, [.yo, .yo, .ib]⟩]⟩,
  ⟨"ROUNDPS", [
    ⟨[0x0f, 0x3a, 0x08], [.pref66], [.sse41], none, [.yo, .mq, .ib]⟩,
    ⟨[0x0f, 0x3a, 0x08], [.pref66], [.sse41], none, [.yo, .yo, .ib]⟩]⟩,
  ⟨"ROUNDSD", [
    ⟨[0x0f, 0x3a, 0x0b], [.pref66], [.sse41], none, [.yo, .mq, .ib]⟩,
    ⟨[0x0f, 0x3a, 0x0b], [.pref66], [.sse41], none, [.yo, .yo, .ib]⟩]⟩,
  ⟨"ROUNDSS", [
    ⟨[0x0f, 0x3a, 0x0a], [.pref66], [.sse41], none, [.yo, .mq, .ib]⟩,
    ⟨[0x0f, 0x3a, 0x0a], [.pref66], [.sse41], none, [.yo, .yo, .ib]⟩]⟩,
  ⟨"RSDC", [
    ⟨[0x0f, 0x79], [.exactSize], [.cyrix], none, [.sw, .mp]⟩]⟩,
  ⟨"RSLDT", [
    ⟨[0x0f, 0x7b], [.exactSize], [.cyrix], some 0, [.mp]⟩]⟩,
  ⟨"RSM", [
    ⟨[0x0f, 0xaa], [], [], none, []⟩]⟩,
  ⟨"RSQRTPS", [
    ⟨[0x0f, 0x52], [], [.sse], none, [.yo, .wo]⟩]⟩,
  ⟨"RSQRTSS", [
    ⟨[0x0f, 0x52], [.prefF3], [.sse], none, [.yo, .md]⟩,
    ⟨[0x0f, 0x52], [.prefF3], [.sse], none, [.yo, .yo]⟩]⟩,
  ⟨"RSTS", [
    ⟨[0x0f, 0x7d], [.exactSize], [.cyrix], some 0, [.mp]⟩]⟩]

def pToR : List Family :=
  namesP ++ namesR

end MachineCode.X86.Instructions
