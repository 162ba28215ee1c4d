import MachineCode.X86.Form

/-!
Instructions from AAA to EXTRQ in the order of their names, one list for each initial.
-/
namespace MachineCode.X86.Instructions

def namesA : List Family := [
  ⟨"AAA", [
    ⟨[0x37], [.x86Only], [], none, []⟩]⟩,
  ⟨"AAD", [
    ⟨[0xd5, 0x0a], [.x86Only], [], none, []⟩]⟩,
  ⟨"AAM", [
    ⟨[0xd4, 0x0a], [.x86Only], [], none, []⟩]⟩,
  ⟨"AAS", [
    ⟨[0x3f], [.x86Only], [], none, []⟩]⟩,
  ⟨"ADC", [
    ⟨[0x14], [], [], none, [.Ab, .ib]⟩,
    ⟨[0x80], [.lock], [], some 2, [.mb, .ib]⟩,
    ⟨[0x10], [.lock, .encMR], [], none, [.mb, .rb]⟩,
    ⟨[0x80], [], [], some 2, [.rb, .ib]⟩,
    ⟨[0x10], [.encMR], [], none, [.rb, .rb]⟩,
    ⟨[0x12], [], [], none, [.rb, .vb]⟩,
    ⟨[0x83], [.autoSize, .exactSize], [], some 2, [.ra, .ib]⟩,
    ⟨[0x15], [.autoSize], [], none, [.Aa, .ia]⟩,
    ⟨[0x81], [.autoSize, .lock], [], some 2, [.ma, .ia]⟩,
    ⟨[0x83], [.autoSize, .lock], [], some 2, [.ma, .ib]⟩,
    ⟨[0x11], [.autoSize, .lock, .encMR], [], none, [.ma, .ra]⟩,
    ⟨[0x81], [.autoSize], [], some 2, [.ra, .ia]⟩,
    ⟨[0x11], [.autoSize, .encMR], [], none, [.ra, .ra]⟩,
    ⟨[0x13], [.autoSize], [], none, [.ra, .va]⟩]⟩,
  ⟨"ADCX", [
    ⟨[0x0f, 0x38, 0xf6], [.withRexW, .pref66], [], none, [.rq, .vq]⟩]⟩,
  ⟨"ADD", [
    ⟨[0x04], [], [], none, [.Ab, .ib]⟩,
    ⟨[0x80], [.lock], [], some 0, [.mb, .ib]⟩,
    ⟨[0x00], [.lock, .encMR], [], none, [.mb, .rb]⟩,
    ⟨[0x80], [], [], some 0, [.rb, .ib]⟩,
    ⟨[0x00], [.encMR], [], none, [.rb, .rb]⟩,
    ⟨[0x02], [], [], none, [.rb, .vb]⟩,
    ⟨[0x83], [.autoSize, .exactSize], [], some 0, [.ra, .ib]⟩,
    ⟨[0x05], [.autoSize], [], none, [.Aa, .ia]⟩,
    ⟨[0x81], [.autoSize, .lock], [], some 0, [.ma, .ia]⟩,
    ⟨[0x83], [.autoSize, .lock], [], some 0, [.ma, .ib]⟩,
    ⟨[0x01], [.autoSize, .lock, .encMR], [], none, [.ma, .ra]⟩,
    ⟨[0x81], [.autoSize], [], some 0, [.ra, .ia]⟩,
    ⟨[0x01], [.autoSize, .encMR], [], none, [.ra, .ra]⟩,
    ⟨[0x03], [.autoSize], [], none, [.ra, .va]⟩]⟩,
  ⟨"ADDPD", [
    ⟨[0x0f, 0x58], [.pref66], [.sse2], none, [.yo, .wo]⟩]⟩,
  ⟨"ADDPS", [
    ⟨[0x0f, 0x58], [], [.sse], none, [.yo, .wo]⟩]⟩,
  ⟨"ADDSD", [
    ⟨[0x0f, 0x58], [.prefF2], [.sse2], none, [.yo, .mq]⟩,
    ⟨[0x0f, 0x58], [.prefF2], [.sse2], none, [.yo, .yo]⟩]⟩,
  ⟨"ADDSS", [
    ⟨[0x0f, 0x58], [.prefF3], [.sse], none, [.yo, .md]⟩,
    ⟨[0x0f, 0x58], [.prefF3], [.sse], none, [.yo, .yo]⟩]⟩,
  ⟨"ADDSUBPD", [
    ⟨[0x0f, 0xd0], [.pref66], [.sse3], none, [.yo, .wo]⟩]⟩,
  ⟨"ADDSUBPS", [
    ⟨[0x0f, 0xd0], [.prefF2], [.sse3], none, [.yo, .wo]⟩]⟩,
  ⟨"ADOX", [
    ⟨[0x0f, 0x38, 0xf6], [.withRexW, .prefF3], [], none, [.rq, .vq]⟩]⟩,
  ⟨"AESDEC", [
    ⟨[0x0f, 0x38, 0xde], [.pref66], [.sse], none, [.yo, .wo]⟩]⟩,
  ⟨"AESDECLAST", [
    ⟨[0x0f, 0x38, 0xdf], [.pref66], [.sse], none, [.yo, .wo]⟩]⟩,
  ⟨"AESENC", [
    ⟨[0x0f, 0x38, 0xdc], [.pref66], [.sse], none, [.yo, .wo]⟩]⟩,
  ⟨"AESENCLAST", [
    ⟨[0x0f, 0x38, 0xdd], [.pref66], [.sse], none, [.yo, .wo]⟩]⟩,
  ⟨"AESIMC", [
    ⟨[0x0f, 0x38, 0xdb], [.pref66], [.sse], none, [.yo, .wo]⟩]⟩,
  ⟨"AESKEYGENASSIST", [
    ⟨[0x0f, 0x3a, 0xdf], [.pref66], [.sse], none, [.yo, .wo, .ib]⟩]⟩,
  ⟨"AND", [
    ⟨[0x24], [], [], none, [.Ab, .ib]⟩,
    ⟨[0x80], [.lock], [], some 4, [.mb, .ib]⟩,
    ⟨[0x20], [.lock, .encMR], [], none, [.mb, .rb]⟩,
    ⟨[0x80], [], [], some 4, [.rb, .ib]⟩,
    ⟨[0x20], [.encMR], [], none, [.rb, .rb]⟩,
    ⟨[0x22], [], [], none, [.rb, .vb]⟩,
    ⟨[0x83], [.autoSize, .exactSize], [], some 4, [.ra, .ib]⟩,
    ⟨[0x25], [.autoSize], [], none, [.Aa, .ia]⟩,
    ⟨[0x81], [.autoSize, .lock], [], some 4, [.ma, .ia]⟩,
    ⟨[0x83], [.autoSize, .lock], [], some 4, [.ma, .ib]⟩,
    ⟨[0x21], [.autoSize, .lock, .encMR], [], none, [.ma, .ra]⟩,
    ⟨[0x81], [.autoSize], [], some 4, [.ra, .ia]⟩,
    ⟨[0x21], [.autoSize, .encMR], [], none, [.ra, .ra]⟩,
    ⟨[0x23], [.autoSize], [], none, [.ra, .va]⟩]⟩,
  ⟨"ANDN", [
    ⟨[0x02, 0xf2], [.vex, .autoRexW], [.bmi1], none, [.ra, .ra, .va]⟩]⟩,
  ⟨"ANDNPD", [
    ⟨[0x0f, 0x55], [.pref66], [.sse2], none, [.yo, .wo]⟩]⟩,
  ⟨"ANDNPS", [
    ⟨[0x0f, 0x55], [], [.sse], none, [.yo, .wo]⟩]⟩,
  ⟨"ANDPD", [
    ⟨[0x0f, 0x54], [.pref66], [.sse2], none, [.yo, .wo]⟩]⟩,
  ⟨"ANDPS", [
    ⟨[0x0f, 0x54], [], [.sse], none, [.yo, .wo]⟩]⟩,
  ⟨"ARPL", [
    ⟨[0x63], [.x86Only], [], none, [.vw, .rw]⟩]⟩]

def namesB : List Family := [
  ⟨"BEXTR", [
    ⟨[0x10, 0x10], [.xop, .autoRexW], [.tbm], none, [.ra, .va, .id]⟩,
    ⟨[0x02, 0xf7], [.vex, .autoRexW, .encMR], [.bmi1], none, [.ra, .va, .ra]⟩]⟩,
  ⟨"BLCFILL", [
    ⟨[0x09, 0x01], [.xop, .autoRexW, .encVM], [.tbm], some 1, [.ra, .va]⟩]⟩,
  ⟨"BLCI", [
    ⟨[0x09, 0x02], [.xop, .autoRexW, .encVM], [.tbm], some 6, [.ra, .va]⟩]⟩,
  ⟨"BLCIC", [
    ⟨[0x09, 0x01], [.xop, .autoRexW, .encVM], [.tbm], some 5, [.ra, .va]⟩]⟩,
  ⟨"BLCMSK", [
    ⟨[0x09, 0x02], [.xop, .autoRexW, .encVM], [.tbm], some 1, [.ra, .va]⟩]⟩,
  ⟨"BLCS", [
    ⟨[0x09, 0x01], [.xop, .autoRexW, .encVM], [.tbm], some 3, [.ra, .va]⟩]⟩,
  ⟨"BLENDPD", [
    ⟨[0x0f, 0x3a, 0x0d], [.pref66], [.sse41], none, [.yo, .mq, .ib]⟩,
    ⟨[0x0f, 0x3a, 0x0d], [.pref66], [.sse41], none, [.yo, .yo, .ib]⟩]⟩,
  ⟨"BLENDPS", [
    ⟨[0x0f, 0x3a, 0x0c], [.pref66], [.sse41], none, [.yo, .mq, .ib]⟩,
    ⟨[0x0f, 0x3a, 0x0c], [.pref66], [.sse41], none, [.yo, .yo, .ib]⟩]⟩,
  ⟨"BLENDVPD", [
    ⟨[0x0f, 0x38, 0x15], [.pref66], [.sse41], none, [.yo, .mq]⟩,
    ⟨[0x0f, 0x38, 0x15], [.pref66], [.sse41], none, [.yo, .yo]⟩]⟩,
  ⟨"BLENDVPS", [
    ⟨[0x0f, 0x38, 0x14], [.pref66], [.sse41], none, [.yo, .mq]⟩,
    ⟨[0x0f, 0x38, 0x14], [.pref66], [.sse41], none, [.yo, .yo]⟩]⟩,
  ⟨"BLSFILL", [
    ⟨[0x09, 0x01], [.xop, .autoRexW, .encVM], [.tbm], some 2, [.ra, .va]⟩]⟩,
  ⟨"BLSI", [
    ⟨[0x02, 0xf3], [.vex, .autoRexW, .encVM], [.bmi1], some 3, [.ra, .va]⟩]⟩,
  ⟨"BLSIC", [
    ⟨[0x09, 0x01], [.xop, .autoRexW, .encVM], [.tbm], some 6, [.ra, .va]⟩]⟩,
  ⟨"BLSMSK", [
    ⟨[0x02, 0xf3], [.vex, .autoRexW, .encVM], [.bmi1], some 2, [.ra, .va]⟩]⟩,
  ⟨"BLSR", [
    ⟨[0x02, 0xf3], [.vex, .autoRexW, .encVM], [.bmi1], some 1, [.ra, .va]⟩]⟩,
  ⟨"BNDCL", [
    ⟨[0x0f, 0x1a], [.prefF3], [.mpx], none, [.bo, .mn]⟩,
    ⟨[0x0f, 0x1a], [.prefF3], [.mpx], none, [.bo, .rq]⟩]⟩,
  ⟨"BNDCN", [
    ⟨[0x0f, 0x1b], [.prefF2], [.mpx], none, [.bo, .mn]⟩,
    ⟨[0x0f, 0x1b], [.prefF2], [.mpx], none, [.bo, .rq]⟩]⟩,
  ⟨"BNDCU", [
    ⟨[0x0f, 0x1a], [.prefF2], [.mpx], none, [.bo, .mn]⟩,
    ⟨[0x0f, 0x1a], [.prefF2], [.mpx], none, [.bo, .rq]⟩]⟩,
  ⟨"BNDLDX", [
    ⟨[0x0f, 0x1a], [.encMIB], [.mpx], none, [.bo, .mn]⟩]⟩,
  ⟨"BNDMK", [
    ⟨[0x0f, 0x1b], [.encMIB, .prefF3], [.mpx], none, [.bo, .mn]⟩]⟩,
  ⟨"BNDMOV", [
    ⟨[0x0f, 0x1a], [.pref66], [.mpx], none, [.bo, .bo]⟩,
    ⟨[0x0f, 0x1b], [.encMR, .pref66], [.mpx], none, [.bo, .bo]⟩,
    ⟨[0x0f, 0x1a], [.pref66], [.mpx], none, [.bo, .mn]⟩,
    ⟨[0x0f, 0x1b], [.encMR, .pref66], [.mpx], none, [.mn, .bo]⟩]⟩,
  ⟨"BNDSTX", [
    ⟨[0x0f, 0x1b], [.encMR, .encMIB], [.mpx], none, [.mn, .bo]⟩]⟩,
  ⟨"BOUND", [
    ⟨[0x62], [.autoSize, .x86Only], [], none, [.ra, .mn]⟩]⟩,
  ⟨"BSF", [
    ⟨[0x0f, 0xbc], [.autoSize], [], none, [.ra, .va]⟩]⟩,
  ⟨"BSR", [
    ⟨[0x0f, 0xbd], [.autoSize], [], none, [.ra, .va]⟩]⟩,
  ⟨"BSWAP", [
    ⟨[0x0f, 0xc8], [.autoRexW, .shortArg], [], none, [.ra]⟩]⟩,
  ⟨"BT", [
    ⟨[0x0f, 0xba], [.autoSize], [], some 4, [.va, .ib]⟩,
    ⟨[0x0f, 0xa3], [.autoSize, .encMR], [], none, [.va, .ra]⟩]⟩,
  ⟨"BTC", [
    ⟨[0x0f, 0xba], [.autoSize, .exactSize], [], some 7, [.ra, .ib]⟩,
    ⟨[0x0f, 0xba], [.autoSize, .lock], [], some 7, [.ma, .ib]⟩,
    ⟨[0x0f, 0xbb], [.autoSize, .lock, .encMR], [], none, [.ma, .ra]⟩,
    ⟨[0x0f, 0xbb], [.autoSize, .encMR], [], none, [.ra, .ra]⟩]⟩,
  ⟨"BTR", [
    ⟨[0x0f, 0xba], [.autoSize, .exactSize], [], some 6, [.ra, .ib]⟩,
    ⟨[0x0f, 0xba], [.autoSize, .lock], [], some 6, [.ma, .ib]⟩,
    ⟨[0x0f, 0xb3], [.autoSize, .lock, .encMR], [], none, [.ma, .ra]⟩,
    ⟨[0x0f, 0xb3], [.autoSize, .encMR], [], none, [.ra, .ra]⟩]⟩,
  ⟨"BTS", [
    ⟨[0x0f, 0xba], [.autoSize, .exactSize], [], some 5, [.ra, .ib]⟩,
    ⟨[0x0f, 0xba], [.autoSize, .lock], [], some 5, [.ma, .ib]⟩,
    ⟨[0x0f, 0xab], [.autoSize, .lock, .encMR], [], none, [.ma, .ra]⟩,
    ⟨[0x0f, 0xab], [.autoSize, .encMR], [], none, [.ra, .ra]⟩]⟩,
  ⟨"BZHI", [
    ⟨[0x02, 0xf5], [.vex, .autoRexW, .encMR], [.bmi2], none, [.ra, .va, .ra]⟩]⟩]

def namesC : List Family := [
  ⟨"CALL", [
    ⟨[0x9a], [.x86Only, .wordSize, .exactSize], [], none, [.iw, .iw]⟩,
    ⟨[0x9a], [.x86Only], [], none, [.id, .iw]⟩,
    ⟨[0xff], [.x86Only, .exactSize], [], some 3, [.mf]⟩,
    ⟨[0xe8], [], [], none, [.od]⟩,
    ⟨[0xff], [.autoNo32], [], some 2, [.va]⟩]⟩,
  ⟨"CALLF", [
    ⟨[0x9a], [.x86Only, .wordSize, .exactSize], [], none, [.iw, .iw]⟩,
    ⟨[0x9a], [.x86Only], [], none, [.id, .iw]⟩,
    ⟨[0xff], [.x86Only, .wordSize, .exactSize], [], some 3, [.md]⟩,
    ⟨[0xff], [.x86Only], [], some 3, [.mf]⟩]⟩,
  ⟨"CBW", [
    ⟨[0x98], [.wordSize], [], none, []⟩]⟩,
  ⟨"CDQ", [
    ⟨[0x99], [], [], none, []⟩]⟩,
  ⟨"CDQE", [
    ⟨[0x98], [.withRexW], [], none, []⟩]⟩,
  ⟨"CLAC", [
    ⟨[0x0f, 0x01, 0xca], [], [], none, []⟩]⟩,
  ⟨"CLC", [
    ⟨[0xf8], [], [], none, []⟩]⟩,
  ⟨"CLD", [
    ⟨[0xfc], [], [], none, []⟩]⟩,
  ⟨"CLFLUSH", [
    ⟨[0x0f, 0xae], [], [.sse2], some 7, [.mb]⟩]⟩,
  ⟨"CLGI", [
    ⟨[0x0f, 0x01, 0xdd], [], [.vmx, .amd], none, []⟩]⟩,
  ⟨"CLI", [
    ⟨[0xfa], [], [], none, []⟩]⟩,
  ⟨"CLTS", [
    ⟨[0x0f, 0x06], [], [], none, []⟩]⟩,
  ⟨"CLZERO", [
    ⟨[0x0f, 0x01, 0xfc], [], [.amd], none, []⟩]⟩,
  ⟨"CMC", [
    ⟨[0xf5], [], [], none, []⟩]⟩,
  ⟨"CMOVA", [
    ⟨[0x0f, 0x47], [.autoSize], [], none, [.ra, .va]⟩]⟩,
  ⟨"CMOVAE", [
    ⟨[0x0f, 0x43], [.autoSize], [], none, [.ra, .va]⟩]⟩,
  ⟨"CMOVB", [
    ⟨[0x0f, 0x42], [.autoSize], [], none, [.ra, .va]⟩]⟩,
  ⟨"CMOVBE", [
    ⟨[0x0f, 0x46], [.autoSize], [], none, [.ra, .va]⟩]⟩,
  ⟨"CMOVC", [
    ⟨[0x0f, 0x42], [.autoSize], [], none, [.ra, .va]⟩]⟩,
  ⟨"CMOVE", [
    ⟨[0x0f, 0x44], [.autoSize], [], none, [.ra, .va]⟩]⟩,
  ⟨"CMOVG", [
    ⟨[0x0f, 0x4f], [.autoSize], [], none, [.ra, .va]⟩]⟩,
  ⟨"CMOVGE", [
    ⟨[0x0f, 0x4d], [.autoSize], [], none, [.ra, .va]⟩]⟩,
  ⟨"CMOVL", [
    ⟨[0x0f, 0x4c], [.autoSize], [], none, [.ra, .va]⟩]⟩,
  ⟨"CMOVLE", [
    ⟨[0x0f, 0x4e], [.autoSize], [], none, [.ra, .va]⟩]⟩,
  ⟨"CMOVNA", [
    ⟨[0x0f, 0x46], [.autoSize], [], none, [.ra, .va]⟩]⟩,
  ⟨"CMOVNAE", [
    ⟨[0x0f, 0x42], [.autoSize], [], none, [.ra, .va]⟩]⟩,
  ⟨"CMOVNB", [
    ⟨[0x0f, 0x43], [.autoSize], [], none, [.ra, .va]⟩]⟩,
  ⟨"CMOVNBE", [
    ⟨[0x0f, 0x47], [.autoSize], [], none, [.ra, .va]⟩]⟩,
  ⟨"CMOVNC", [
    ⟨[0x0f, 0x43], [.autoSize], [], none, [.ra, .va]⟩]⟩,
  ⟨"CMOVNE", [
    ⟨[0x0f, 0x45], [.autoSize], [], none, [.ra, .va]⟩]⟩,
  ⟨"CMOVNG", [
    ⟨[0x0f, 0x4e], [.autoSize], [], none, [.ra, .va]⟩]⟩,
  ⟨"CMOVNGE", [
    ⟨[0x0f, 0x4c], [.autoSize], [], none, [.ra, .va]⟩]⟩,
  ⟨"CMOVNL", [
    ⟨[0x0f, 0x4d], [.autoSize], [], none, [.ra, .va]⟩]⟩,
  ⟨"CMOVNLE", [
    ⟨[0x0f, 0x4f], [.autoSize], [], none, [.ra, .va]⟩]⟩,
  ⟨"CMOVNO", [
    ⟨[0x0f, 0x41], [.autoSize], [], none, [.ra, .va]⟩]⟩,
  ⟨"CMOVNP", [
    ⟨[0x0f, 0x4b], [.autoSize], [], none, [.ra, .va]⟩]⟩,
  ⟨"CMOVNS", [
    ⟨[0x0f, 0x49], [.autoSize], [], none, [.ra, .va]⟩]⟩,
  ⟨"CMOVNZ", [
    ⟨[0x0f, 0x45], [.autoSize], [], none, [.ra, .va]⟩]⟩,
  ⟨"CMOVO", [
    ⟨[0x0f, 0x40], [.autoSize], [], none, [.ra, .va]⟩]⟩,
  ⟨"CMOVP", [
    ⟨[0x0f, 0x4a], [.autoSize], [], none, [.ra, .va]⟩]⟩,
  ⟨"CMOVPE", [
    ⟨[0x0f, 0x4a], [.autoSize], [], none, [.ra, .va]⟩]⟩,
  ⟨"CMOVPO", [
    ⟨[0x0f, 0x4b], [.autoSize], [], none, [.ra, .va]⟩]⟩,
  ⟨"CMOVS", [
    ⟨[0x0f, 0x48], [.autoSize], [], none, [.ra, .va]⟩]⟩,
  ⟨"CMOVZ", [
    ⟨[0x0f, 0x44], [.autoSize], [], none, [.ra, .va]⟩]⟩,
  ⟨"CMP", [
    ⟨[0x3c], [], [], none, [.Ab, .ib]⟩,
    ⟨[0x3a], [], [], none, [.rb, .vb]⟩,
    ⟨[0x80], [], [], some 7, [.vb, .ib]⟩,
    ⟨[0x38], [.encMR], [], none, [.vb, .rb]⟩,
    ⟨[0x3d], [.autoSize], [], none, [.Aa, .ia]⟩,
    ⟨[0x3b], [.autoSize], [], none, [.ra, .va]⟩,
    ⟨[0x81], [.autoSize], [], some 7, [.va, .ia]⟩,
    ⟨[0x83], [.autoSize], [], some 7, [.va, .ib]⟩,
    ⟨[0x39], [.autoSize, .encMR], [], none, [.va, .ra]⟩]⟩,
  ⟨"CMPEQPD", [
    ⟨[0x0f, 0xc2, 0x00], [.pref66, .immOp], [.sse2], none, [.yo, .wo]⟩]⟩,
  ⟨"CMPEQPS", [
    ⟨[0x0f, 0xc2, 0x00], [.immOp], [.sse], none, [.yo, .wo]⟩]⟩,
  ⟨"CMPEQSD", [
    ⟨[0x0f, 0xc2, 0x00], [.prefF2, .immOp], [.sse2], none, [.yo, .mq]⟩,
    ⟨[0x0f, 0xc2, 0x00], [.prefF2, .immOp], [.sse2], none, [.yo, .yo]⟩]⟩,
  ⟨"CMPEQSS", [
    ⟨[0x0f, 0xc2, 0x00], [.prefF3, .immOp], [.sse], none, [.yo, .md]⟩,
    ⟨[0x0f, 0xc2, 0x00], [.prefF3, .immOp], [.sse], none, [.yo, .yo]⟩]⟩,
  ⟨"CMPLEPD", [
    ⟨[0x0f, 0xc2, 0x02], [.immOp, .pref66], [.sse2], none, [.yo, .wo]⟩]⟩,
  ⟨"CMPLEPS", [
    ⟨[0x0f, 0xc2, 0x02], [.immOp], [.sse], none, [.yo, .wo]⟩]⟩,
  ⟨"CMPLESD", [
    ⟨[0x0f, 0xc2, 0x02], [.prefF2, .immOp], [.sse2], none, [.yo, .mq]⟩,
    ⟨[0x0f, 0xc2, 0x02], [.prefF2, .immOp], [.sse2], none, [.yo, .yo]⟩]⟩,
  ⟨"CMPLESS", [
    ⟨[0x0f, 0xc2, 0x02], [.prefF3, .immOp], [.sse], none, [.yo, .md]⟩,
    ⟨[0x0f, 0xc2, 0x02], [.prefF3, .immOp], [.sse], none, [.yo, .yo]⟩]⟩,
  ⟨"CMPLTPD", [
    ⟨[0x0f, 0xc2, 0x01], [.immOp, .pref66], [.sse2], none, [.yo, .wo]⟩]⟩,
  ⟨"CMPLTPS", [
    ⟨[0x0f, 0xc2, 0x01], [.immOp], [.sse], none, [.yo, .wo]⟩]⟩,
  ⟨"CMPLTSD", [
    ⟨[0x0f, 0xc2, 0x01], [.prefF2, .immOp], [.sse2], none, [.yo, .mq]⟩,
    ⟨[0x0f, 0xc2, 0x01], [.prefF2, .immOp], [.sse2], none, [.yo, .yo]⟩]⟩,
  ⟨"CMPLTSS", [
    ⟨[0x0f, 0xc2, 0x01], [.immOp, .prefF3], [.sse], none, [.yo, .md]⟩,
    ⟨[0x0f, 0xc2, 0x01], [.immOp, .prefF3], [.sse], none, [.yo, .yo]⟩]⟩,
  ⟨"CMPNEQPD", [
    ⟨[0x0f, 0xc2, 0x04], [.pref66, .immOp], [.sse2], none, [.yo, .wo]⟩]⟩,
  ⟨"CMPNEQPS", [
    ⟨[0x0f, 0xc2, 0x04], [.immOp], [.sse], none, [.yo, .wo]⟩]⟩,
  ⟨"CMPNEQSD", [
    ⟨[0x0f, 0xc2, 0x04], [.prefF2, .immOp], [.sse2], none, [.yo, .mq]⟩,
    ⟨[0x0f, 0xc2, 0x04], [.prefF2, .immOp], [.sse2], none, [.yo, .yo]⟩]⟩,
  ⟨"CMPNEQSS", [
    ⟨[0x0f, 0xc2, 0x04], [.immOp, .prefF3], [.sse], none, [.yo, .md]⟩,
    ⟨[0x0f, 0xc2, 0x04], [.immOp, .prefF3], [.sse], none, [.yo, .yo]⟩]⟩,
  ⟨"CMPNLEPD", [
    ⟨[0x0f, 0xc2, 0x06], [.immOp, .pref66], [.sse2], none, [.yo, .wo]⟩]⟩,
  ⟨"CMPNLEPS", [
    ⟨[0x0f, 0xc2, 0x06], [.immOp], [.sse], none, [.yo, .wo]⟩]⟩,
  ⟨"CMPNLESD", [
    ⟨[0x0f, 0xc2, 0x06], [.prefF2, .immOp], [.sse2], none, [.yo, .mq]⟩,
    ⟨[0x0f, 0xc2, 0x06], [.prefF2, .immOp], [.sse2], none, [.yo, .yo]⟩]⟩,
  ⟨"CMPNLESS", [
    ⟨[0x0f, 0xc2, 0x06], [.immOp, .prefF3], [.sse], none, [.yo, .md]⟩,
    ⟨[0x0f, 0xc2, 0x06], [.immOp, .prefF3], [.sse], none, [.yo, .yo]⟩]⟩,
  ⟨"CMPNLTPD", [
    ⟨[0x0f, 0xc2, 0x05], [.pref66, .immOp], [.sse2], none, [.yo, .wo]⟩]⟩,
  ⟨"CMPNLTPS", [
    ⟨[0x0f, 0xc2, 0x05], [.immOp], [.sse], none, [.yo, .wo]⟩]⟩,
  ⟨"CMPNLTSD", [
    ⟨[0x0f, 0xc2, 0x05], [.immOp, .prefF2], [.sse2], none, [.yo, .mq]⟩,
    ⟨[0x0f, 0xc2, 0x05], [.immOp, .prefF2], [.sse2], none, [.yo, .yo]⟩]⟩,
  ⟨"CMPNLTSS", [
    ⟨[0x0f, 0xc2, 0x05], [.prefF3, .immOp], [.sse], none, [.yo, .md]⟩,
    ⟨[0x0f, 0xc2, 0x05], [.prefF3, .immOp], [.sse], none, [.yo, .yo]⟩]⟩,
  ⟨"CMPORDPD", [
    ⟨[0x0f, 0xc2, 0x07], [.immOp, .pref66], [.sse2], none, [.yo, .wo]⟩]⟩,
  ⟨"CMPORDPS", [
    ⟨[0x0f, 0xc2, 0x07], [.immOp], [.sse], none, [.yo, .wo]⟩]⟩,
  ⟨"CMPORDSD", [
    ⟨[0x0f, 0xc2, 0x07], [.prefF2, .immOp], [.sse2], none, [.yo, .mq]⟩,
    ⟨[0x0f, 0xc2, 0x07], [.prefF2, .immOp], [.sse2], none, [.yo, .yo]⟩]⟩,
  ⟨"CMPORDSS", [
    ⟨[0x0f, 0xc2, 0x07], [.immOp, .prefF3], [.sse], none, [.yo, .md]⟩,
    ⟨[0x0f, 0xc2, 0x07], [.immOp, .prefF3], [.sse], none, [.yo, .yo]⟩]⟩,
  ⟨"CMPPD", [
    ⟨[0x0f, 0xc2], [.pref66], [.sse2], none, [.yo, .wo, .ib]⟩]⟩,
  ⟨"CMPPS", [
    ⟨[0x0f, 0xc2], [], [.sse], none, [.yo, .mn, .ib]⟩,
    ⟨[0x0f, 0xc2], [], [.sse], none, [.yo, .yo, .ib]⟩]⟩,
  ⟨"CMPSB", [
    ⟨[0xa6], [.repe], [], none, []⟩]⟩,
  ⟨"CMPSD", [
    ⟨[0xa7], [.repe], [], none, []⟩,
    ⟨[0x0f, 0xc2], [.prefF2], [.sse2], none, [.yo, .wo, .ib]⟩]⟩,
  ⟨"CMPSQ", [
    ⟨[0xa7], [.repe, .withRexW], [], none, []⟩]⟩,
  ⟨"CMPSS", [
    ⟨[0x0f, 0xc2], [.prefF3], [.sse], none, [.yo, .mn, .ib]⟩,
    ⟨[0x0f, 0xc2], [.prefF3], [.sse], none, [.yo, .yo, .ib]⟩]⟩,
  ⟨"CMPSW", [
    ⟨[0xa7], [.repe, .wordSize], [], none, []⟩]⟩,
  ⟨"CMPUNORDPD", [
    ⟨[0x0f, 0xc2, 0x03], [.pref66, .immOp], [.sse2], none, [.yo, .wo]⟩]⟩,
  ⟨"CMPUNORDPS", [
    ⟨[0x0f, 0xc2, 0x03], [.immOp], [.sse], none, [.yo, .wo]⟩]⟩,
  ⟨"CMPUNORDSD", [
    ⟨[0x0f, 0xc2, 0x03], [.prefF2, .immOp], [.sse2], none, [.yo, .mq]⟩,
    ⟨[0x0f, 0xc2, 0x03], [.prefF2, .immOp], [.sse2], none, [.yo, .yo]⟩]⟩,
  ⟨"CMPUNORDSS", [
    ⟨[0x0f, 0xc2, 0x03], [.prefF3, .immOp], [.sse], none, [.yo, .md]⟩,
    ⟨[0x0f, 0xc2, 0x03], [.prefF3, .immOp], [.sse], none, [.yo, .yo]⟩]⟩,
  ⟨"CMPXCHG", [
    ⟨[0x0f, 0xb0], [.lock, .encMR], [], none, [.mb, .rb]⟩,
    ⟨[0x0f, 0xb0], [.encMR], [], none, [.rb, .rb]⟩,
    ⟨[0x0f, 0xb1], [.autoSize, .lock, .encMR], [], none, [.ma, .ra]⟩,
    ⟨[0x0f, 0xb1], [.autoSize, .encMR], [], none, [.ra, .ra]⟩]⟩,
  ⟨"CMPXCHG16B", [
    ⟨[0x0f, 0xc7], [.lock, .withRexW], [], some 1, [.mo]⟩]⟩,
  ⟨"CMPXCHG8B", [
    ⟨[0x0f, 0xc7], [.lock], [], some 1, [.mq]⟩]⟩,
  ⟨"COMISD", [
    ⟨[0x0f, 0x2f], [.pref66], [.sse2], none, [.yo, .mq]⟩,
    ⟨[0x0f, 0x2f], [.pref66], [.sse2], none, [.yo, .yo]⟩]⟩,
  ⟨"COMISS", [
    ⟨[0x0f, 0x2f], [], [.sse], none, [.yo, .md]⟩,
    ⟨[0x0f, 0x2f], [], [.sse], none, [.yo, .yo]⟩]⟩,
  ⟨"CPU_READ", [
    ⟨[0x0f, 0x3d], [], [.cyrix], none, []⟩]⟩,
  ⟨"CPU_WRITE", [
    ⟨[0x0f, 0x3c], [], [.cyrix], none, []⟩]⟩,
  ⟨"CPUID", [
    ⟨[0x0f, 0xa2], [], [], none, []⟩]⟩,
  ⟨"CQO", [
    ⟨[0x99], [.withRexW], [], none, []⟩]⟩,
  ⟨"CRC32", [
    ⟨[0x0f, 0x38, 0xf0], [.autoRexW, .prefF2, .exactSize], [], none, [.ra, .vb]⟩,
    ⟨[0x0f, 0x38, 0xf1], [.wordSize, .prefF2, .exactSize], [], none, [.rd, .vw]⟩,
    ⟨[0x0f, 0x38, 0xf1], [.autoRexW, .prefF2, .exactSize], [], none, [.ra, .va]⟩]⟩,
  ⟨"CVTDQ2PD", [
    ⟨[0x0f, 0xe6], [.prefF3], [.sse2], none, [.yo, .mq]⟩,
    ⟨[0x0f, 0xe6], [.prefF3], [.sse2], none, [.yo, .yo]⟩]⟩,
  ⟨"CVTDQ2PS", [
    ⟨[0x0f, 0x5b], [], [.sse2], none, [.yo, .wo]⟩]⟩,
  ⟨"CVTPD2DQ", [
    ⟨[0x0f, 0xe6], [.prefF2], [.sse2], none, [.yo, .wo]⟩]⟩,
  ⟨"CVTPD2PI", [
    ⟨[0x0f, 0x2d], [.pref66], [.sse2], none, [.xq, .wo]⟩]⟩,
  ⟨"CVTPD2PS", [
    ⟨[0x0f, 0x5a], [.pref66], [.sse2], none, [.yo, .wo]⟩]⟩,
  ⟨"CVTPI2PD", [
    ⟨[0x0f, 0x2a], [.pref66], [.sse2], none, [.yo, .uq]⟩]⟩,
  ⟨"CVTPI2PS", [
    ⟨[0x0f, 0x2a], [], [.mmx, .sse], none, [.yo, .uq]⟩]⟩,
  ⟨"CVTPS2DQ", [
    ⟨[0x0f, 0x5b], [.pref66], [.sse2], none, [.yo, .wo]⟩]⟩,
  ⟨"CVTPS2PD", [
    ⟨[0x0f, 0x5a], [], [.sse2], none, [.yo, .mq]⟩,
    ⟨[0x0f, 0x5a], [], [.sse2], none, [.yo, .yo]⟩]⟩,
  ⟨"CVTPS2PI", [
    ⟨[0x0f, 0x2d], [], [.sse, .mmx], none, [.xq, .mq]⟩,
    ⟨[0x0f, 0x2d], [], [.sse, .mmx], none, [.xq, .yo]⟩]⟩,
  ⟨"CVTSD2SI", [
    ⟨[0x0f, 0x2d], [.prefF2], [.sse2], none, [.rd, .mq]⟩,
    ⟨[0x0f, 0x2d], [.prefF2], [.sse2], none, [.rd, .yo]⟩,
    ⟨[0x0f, 0x2d], [.withRexW, .prefF2], [.sse2], none, [.rq, .mq]⟩,
    ⟨[0x0f, 0x2d], [.withRexW, .prefF2], [.sse2], none, [.rq, .yo]⟩]⟩,
  ⟨"CVTSD2SS", [
    ⟨[0x0f, 0x5a], [.prefF2], [.sse2], none, [.yo, .mq]⟩,
    ⟨[0x0f, 0x5a], [.prefF2], [.sse2], none, [.yo, .yo]⟩]⟩,
  ⟨"CVTSI2SD", [
    ⟨[0x0f, 0x2a], [.prefF2], [.sse2], none, [.yo, .vd]⟩,
    ⟨[0x0f, 0x2a], [.withRexW, .prefF2], [.sse2], none, [.yo, .vq]⟩]⟩,
  ⟨"CVTSI2SS", [
    ⟨[0x0f, 0x2a], [.prefF3], [.sse], none, [.yo, .vd]⟩,
    ⟨[0x0f, 0x2a], [.withRexW, .prefF3], [.sse], none, [.yo, .vq]⟩]⟩,
  ⟨"CVTSS2SD", [
    ⟨[0x0f, 0x5a], [.prefF3], [.sse2], none, [.yo, .md]⟩,
    ⟨[0x0f, 0x5a], [.prefF3], [.sse2], none, [.yo, .yo]⟩]⟩,
  ⟨"CVTSS2SI", [
    ⟨[0x0f, 0x2d], [.prefF3], [.sse], none, [.rd, .md]⟩,
    ⟨[0x0f, 0x2d], [.prefF3], [.sse], none, [.rd, .yo]⟩,
    ⟨[0x0f, 0x2d], [.withRexW, .prefF3], [.sse], none, [.rq, .md]⟩,
    ⟨[0x0f, 0x2d], [.withRexW, .prefF3], [.sse], none, [.rq, .yo]⟩]⟩,
  ⟨"CVTTPD2DQ", [
    ⟨[0x0f, 0xe6], [.pref66], [.sse2], none, [.yo, .wo]⟩]⟩,
  ⟨"CVTTPD2PI", [
    ⟨[0x0f, 0x2c], [.pref66], [.sse2], none, [.xq, .wo]⟩]⟩,
  ⟨"CVTTPS2DQ", [
    ⟨[0x0f, 0x5b], [.prefF3], [.sse2], none, [.yo, .wo]⟩]⟩,
  ⟨"CVTTPS2PI", [
    ⟨[0x0f, 0x2c], [], [.sse, .mmx], none, [.xq, .mq]⟩,
    ⟨[0x0f, 0x2c], [], [.sse, .mmx], none, [.xq, .yo]⟩]⟩,
  ⟨"CVTTSD2SI", [
    ⟨[0x0f, 0x2c], [.prefF2], [.sse2], none, [.rd, .mq]⟩,
    ⟨[0x0f, 0x2c], [.prefF2], [.sse2], none, [.rd, .yo]⟩,
    ⟨[0x0f, 0x2c], [.withRexW, .prefF2], [.sse2], none, [.rq, .mq]⟩,
    ⟨[0x0f, 0x2c], [.withRexW, .prefF2], [.sse2], none, [.rq, .yo]⟩]⟩,
  ⟨"CVTTSS2SI", [
    ⟨[0x0f, 0x2c], [.prefF3], [.sse], none, [.rd, .md]⟩,
    ⟨[0x0f, 0x2c], [.prefF3], [.sse], none, [.rd, .yo]⟩,
    ⟨[0x0f, 0x2c], [.withRexW, .prefF3], [.sse], none, [.rq, .md]⟩,
    ⟨[0x0f, 0x2c], [.withRexW, .prefF3], [.sse], none, [.rq, .yo]⟩]⟩,
  ⟨"CWD", [
    ⟨[0x99], [.wordSize], [], none, []⟩]⟩,
  ⟨"CWDE", [
    ⟨[0x98], [], [], none, []⟩]⟩]

def namesD : List Family := [
  ⟨"DAA", [
    ⟨[0x27], [.x86Only], [], none, []⟩]⟩,
  ⟨"DAS", [
    ⟨[0x2f], [.x86Only], [], none, []⟩]⟩,
  ⟨"DEC", [
    ⟨[0xfe], [.lock], [], some 1, [.mb]⟩,
    ⟨[0xfe], [], [], some 1, [.rb]⟩,
    ⟨[0xff], [.autoSize, .lock], [], some 1, [.ma]⟩,
    ⟨[0x48], [.x86Only, .shortArg], [], some 0, [.ra]⟩,
    ⟨[0xff], [.autoSize], [], some 1, [.ra]⟩]⟩,
  ⟨"DIV", [
    ⟨[0xf6], [], [], some 6, [.vb]⟩,
    ⟨[0xf7], [.autoSize], [], some 6, [.va]⟩]⟩,
  ⟨"DIVPD", [
    ⟨[0x0f, 0x5e], [.pref66], [.sse2], none, [.yo, .wo]⟩]⟩,
  ⟨"DIVPS", [
    ⟨[0x0f, 0x5e], [], [.sse], none, [.yo, .wo]⟩]⟩,
  ⟨"DIVSD", [
    ⟨[0x0f, 0x5e], [.prefF2], [.sse2], none, [.yo, .mq]⟩,
    ⟨[0x0f, 0x5e], [.prefF2], [.sse2], none, [.yo, .yo]⟩]⟩,
  ⟨"DIVSS", [
    ⟨[0x0f, 0x5e], [.prefF3], [.sse], none, [.yo, .md]⟩,
    ⟨[0x0f, 0x5e], [.prefF3], [.sse], none, [.yo, .yo]⟩]⟩,
  ⟨"DMINT", [
    ⟨[0x0f, 0x39], [], [.cyrix], none, []⟩]⟩,
  ⟨"DPPD", [
    ⟨[0x0f, 0x3a, 0x41], [.pref66], [.sse41], none, [.yo, .mq, .ib]⟩,
    ⟨[0x0f, 0x3a, 0x41], [.pref66], [.sse41], none, [.yo, .yo, .ib]⟩]⟩,
  ⟨"DPPS", [
    ⟨[0x0f, 0x3a, 0x40], [.pref66], [.sse41], none, [.yo, .mq, .ib]⟩,
    ⟨[0x0f, 0x3a, 0x40], [.pref66], [.sse41], none, [.yo, .yo, .ib]⟩]⟩]

def namesE : List Family := [
  ⟨"EMMS", [
    ⟨[0x0f, 0x77], [], [.mmx], none, []⟩]⟩,
  ⟨"ENTER", [
    ⟨[0xc8], [], [], none, [.iw, .ib]⟩]⟩,
  ⟨"EXTRACTPS", [
    ⟨[0x0f, 0x3a, 0x17], [.withRexW, .encMR, .pref66], [.sse41], none, [.rq, .yo, .ib]⟩,
    ⟨[0x0f, 0x3a, 0x17], [.encMR, .pref66], [.sse41], none, [.vd, .yo, .ib]⟩]⟩,
  ⟨"EXTRQ", [
    ⟨[0x0f, 0x78], [.pref66], [.sse4a, .amd], some 0, [.yo, .ib, .ib]⟩,
    ⟨[0x0f, 0x79], [.pref66], [.sse4a, .amd], none, [.yo, .yo]⟩]⟩]

def aToE : List Family :=
  namesA ++ namesB ++ namesC ++ namesD ++ namesE

end MachineCode.X86.Instructions
