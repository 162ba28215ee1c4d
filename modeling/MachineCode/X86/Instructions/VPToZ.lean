import MachineCode.X86.Form

/-!
Instructions from VPABSB to XTEST in the order of their names, one list for each initial.
-/
namespace MachineCode.X86.Instructions

def namesVP : List Family := [
  ⟨"VPABSB", [
    ⟨[0x02, 0x1c], [.vex, .autoVexL, .pref66], [.avx], none, [.ya, .wa]⟩]⟩,
  ⟨"VPABSD", [
    ⟨[0x02, 0x1e], [.vex, .autoVexL, .pref66], [.avx], none, [.ya, .wa]⟩]⟩,
  ⟨"VPABSW", [
    ⟨[0x02, 0x1d], [.vex, .autoVexL, .pref66], [.avx], none, [.ya, .wa]⟩]⟩,
  ⟨"VPACKSSDW", [
    ⟨[0x01, 0x6b], [.vex, .autoVexL, .pref66], [.avx], none, [.ya, .ya, .wa]⟩]⟩,
  ⟨"VPACKSSWB", [
    ⟨[0x01, 0x63], [.vex, .autoVexL, .pref66], [.avx], none, [.ya, .ya, .wa]⟩]⟩,
  ⟨"VPACKUSDW", [
    ⟨[0x02, 0x2b], [.vex, .autoVexL, .pref66], [.avx], none, [.ya, .ya, .wa]⟩]⟩,
  ⟨"VPACKUSWB", [
    ⟨[0x01, 0x67], [.vex, .autoVexL, .pref66], [.avx], none, [.ya, .ya, .wa]⟩]⟩,
  ⟨"VPADDB", [
    ⟨[0x01, 0xfc], [.vex, .autoVexL, .pref66], [.avx], none, [.ya, .ya, .wa]⟩]⟩,
  ⟨"VPADDD", [
    ⟨[0x01, 0xfe], [.vex, .autoVexL, .pref66], [.avx], none, [.ya, .ya, .wa]⟩]⟩,
  ⟨"VPADDQ", [
    ⟨[0x01, 0xd4], [.vex, .autoVexL, .pref66], [.avx], none, [.ya, .ya, .wa]⟩]⟩,
  ⟨"VPADDSB", [
    ⟨[0x01, 0xec], [.vex, .autoVexL, .pref66], [.avx], none, [.ya, .ya, .wa]⟩]⟩,
  ⟨"VPADDSW", [
    ⟨[0x01, 0xed], [.vex, .autoVexL, .pref66], [.avx], none, [.ya, .ya, .wa]⟩]⟩,
  ⟨"VPADDUSB", [
    ⟨[0x01, 0xdc], [.vex, .autoVexL, .pref66], [.avx], none, [.ya, .ya, .wa]⟩]⟩,
  ⟨"VPADDUSW", [
    ⟨[0x01, 0xdd], [.vex, .autoVexL, .pref66], [.avx], none, [.ya, .ya, .wa]⟩]⟩,
  ⟨"VPADDW", [
    ⟨[0x01, 0xfd], [.vex, .autoVexL, .pref66], [.avx], none, [.ya, .ya, .wa]⟩]⟩,
  ⟨"VPALIGNR", [
    ⟨[0x03, 0x0f], [.vex, .autoVexL, .encMR, .pref66], [.avx], none, [.ya, .ya, .wa, .ib]⟩]⟩,
  ⟨"VPAND", [
    ⟨[0x01, 0xdb], [.vex, .autoVexL, .pref66], [.avx], none, [.ya, .ya, .wa]⟩]⟩,
  ⟨"VPANDN", [
    ⟨[0x01, 0xdf], [.vex, .autoVexL, .pref66], [.avx], none, [.ya, .ya, .wa]⟩]⟩,
  ⟨"VPAVGB", [
    ⟨[0x01, 0xe0], [.vex, .autoVexL, .pref66], [.avx], none, [.ya, .ya, .wa]⟩]⟩,
  ⟨"VPAVGW", [
    ⟨[0x01, 0xe3], [.vex, .autoVexL, .pref66], [.avx], none, [.ya, .ya, .wa]⟩]⟩,
  ⟨"VPBLENDD", [
    ⟨[0x03, 0x02], [.vex, .autoVexL, .encMR, .pref66], [.avx2], none, [.ya, .ya, .wa, .ib]⟩]⟩,
  ⟨"VPBLENDVB", [
    ⟨[0x03, 0x4c], [.vex, .autoVexL, .pref66], [.avx], none, [.ya, .ya, .wa, .ya]⟩]⟩,
  ⟨"VPBLENDW", [
    ⟨[0x03, 0x0e], [.vex, .autoVexL, .encMR, .pref66], [.avx], none, [.ya, .ya, .wa, .ib]⟩]⟩,
  ⟨"VPBROADCASTB", [
    ⟨[0x02, 0x78], [.vex, .autoVexL, .pref66], [.avx2], none, [.ya, .mb]⟩,
    ⟨[0x02, 0x78], [.vex, .autoVexL, .pref66], [.avx2], none, [.ya, .yo]⟩]⟩,
  ⟨"VPBROADCASTD", [
    ⟨[0x02, 0x58], [.vex, .autoVexL, .pref66], [.avx2], none, [.ya, .md]⟩,
    ⟨[0x02, 0x58], [.vex, .autoVexL, .pref66], [.avx2], none, [.ya, .yo]⟩]⟩,
  ⟨"VPBROADCASTQ", [
    ⟨[0x02, 0x59], [.vex, .withVexL, .pref66], [.avx2], none, [.yh, .mq]⟩,
    ⟨[0x02, 0x59], [.vex, .pref66], [.avx2], none, [.yo, .mq]⟩,
    ⟨[0x02, 0x59], [.vex, .autoVexL, .pref66], [.avx2], none, [.ya, .yo]⟩]⟩,
  ⟨"VPBROADCASTW", [
    ⟨[0x02, 0x79], [.vex, .autoVexL, .pref66], [.avx2], none, [.ya, .mw]⟩,
    ⟨[0x02, 0x79], [.vex, .autoVexL, .pref66], [.avx2], none, [.ya, .yo]⟩]⟩,
  ⟨"VPCLMULHQHQDQ", [
    ⟨[0x03, 0x44, 0x11], [.vex, .pref66, .immOp], [.avx], none, [.yo, .yo, .wo]⟩]⟩,
  ⟨"VPCLMULHQLQDQ", [
    ⟨[0x03, 0x44, 0x01], [.vex, .immOp, .pref66], [.avx], none, [.yo, .yo, .wo]⟩]⟩,
  ⟨"VPCLMULLQHQDQ", [
    ⟨[0x03, 0x44, 0x10], [.vex, .immOp, .pref66], [.avx], none, [.yo, .yo, .wo]⟩]⟩,
  ⟨"VPCLMULLQLQDQ", [
    ⟨[0x03, 0x44, 0x00], [.vex, .immOp, .pref66], [.avx], none, [.yo, .yo, .wo]⟩]⟩,
  ⟨"VPCLMULQDQ", [
    ⟨[0x03, 0x44], [.vex, .pref66], [.avx], none, [.yo, .yo, .wo, .ib]⟩]⟩,
  ⟨"VPCMOV", [
    ⟨[0x08, 0xa2], [.xop, .autoVexL], [.sse5, .amd], none, [.ya, .ya, .wa, .ya]⟩,
    ⟨[0x08, 0xa2], [.xop, .autoVexL], [.amd, .sse5], none, [.ya, .ya, .ya, .wa]⟩]⟩,
  ⟨"VPCMPEQB", [
    ⟨[0x01, 0x74], [.vex, .autoVexL, .pref66], [.avx], none, [.ya, .ya, .wa]⟩]⟩,
  ⟨"VPCMPEQD", [
    ⟨[0x01, 0x76], [.vex, .autoVexL, .pref66], [.avx], none, [.ya, .ya, .wa]⟩]⟩,
  ⟨"VPCMPEQQ", [
    ⟨[0x02, 0x29], [.vex, .autoVexL, .pref66], [.avx], none, [.ya, .ya, .wa]⟩]⟩,
  ⟨"VPCMPEQW", [
    ⟨[0x01, 0x75], [.vex, .autoVexL, .pref66], [.avx], none, [.ya, .ya, .wa]⟩]⟩,
  ⟨"VPCMPESTRI", [
    ⟨[0x03, 0x61], [.vex, .pref66], [.avx], none, [.yo, .wo, .ib]⟩]⟩,
  ⟨"VPCMPESTRM", [
    ⟨[0x03, 0x60], [.vex, .pref66], [.avx], none, [.yo, .wo, .ib]⟩]⟩,
  ⟨"VPCMPGTB", [
    ⟨[0x01, 0x64], [.vex, .autoVexL, .pref66], [.avx], none, [.ya, .ya, .wa]⟩]⟩,
  ⟨"VPCMPGTD", [
    ⟨[0x01, 0x66], [.vex, .autoVexL, .pref66], [.avx], none, [.ya, .ya, .wa]⟩]⟩,
  ⟨"VPCMPGTQ", [
    ⟨[0x02, 0x37], [.vex, .autoVexL, .pref66], [.avx], none, [.ya, .ya, .wa]⟩]⟩,
  ⟨"VPCMPGTW", [
    ⟨[0x01, 0x65], [.vex, .autoVexL, .pref66], [.avx], none, [.ya, .ya, .wa]⟩]⟩,
  ⟨"VPCMPISTRI", [
    ⟨[0x03, 0x63], [.vex, .pref66], [.avx], none, [.yo, .wo, .ib]⟩]⟩,
  ⟨"VPCMPISTRM", [
    ⟨[0x03, 0x62], [.vex, .pref66], [.avx], none, [.yo, .wo, .ib]⟩]⟩,
  ⟨"VPCOMB", [
    ⟨[0x08, 0xcc], [.xop], [.amd, .sse5], none, [.yo, .yo, .wo, .ib]⟩]⟩,
  ⟨"VPCOMD", [
    ⟨[0x08, 0xce], [.xop], [.amd, .sse5], none, [.yo, .yo, .wo, .ib]⟩]⟩,
  ⟨"VPCOMQ", [
    ⟨[0x08, 0xcf], [.xop], [.sse5, .amd], none, [.yo, .yo, .wo, .ib]⟩]⟩,
  ⟨"VPCOMUB", [
    ⟨[0x08, 0xec], [.xop], [.amd, .sse5], none, [.yo, .yo, .wo, .ib]⟩]⟩,
  ⟨"VPCOMUD", [
    ⟨[0x08, 0xee], [.xop], [.sse5, .amd], none, [.yo, .yo, .wo, .ib]⟩]⟩,
  ⟨"VPCOMUQ", [
    ⟨[0x08, 0xef], [.xop], [.amd, .sse5], none, [.yo, .yo, .wo, .ib]⟩]⟩,
  ⟨"VPCOMUW", [
    ⟨[0x08, 0xed], [.xop], [.sse5, .amd], none, [.yo, .yo, .wo, .ib]⟩]⟩,
  ⟨"VPCOMW", [
    ⟨[0x08, 0xcd], [.xop], [.amd, .sse5], none, [.yo, .yo, .wo, .ib]⟩]⟩,
  ⟨"VPERM2F128", [
    ⟨[0x03, 0x06], [.withVexL, .vex, .pref66], [.avx], none, [.yh, .yh, .wh, .ib]⟩]⟩,
  ⟨"VPERM2I128", [
    ⟨[0x03, 0x46], [.withVexL, .vex, .pref66], [.avx2], none, [.yh, .yh, .wh, .ib]⟩]⟩,
  ⟨"VPERMD", [
    ⟨[0x02, 0x36], [.withVexL, .vex, .pref66], [.avx2], none, [.yh, .yh, .wh]⟩]⟩,
  ⟨"VPERMILPD", [
    ⟨[0x02, 0x0d], [.vex, .autoVexL, .pref66], [.avx], none, [.ya, .ya, .wa]⟩,
    ⟨[0x03, 0x05], [.vex, .autoVexL, .pref66], [.avx], none, [.ya, .wa, .ib]⟩]⟩,
  ⟨"VPERMILPS", [
    ⟨[0x02, 0x0c], [.vex, .autoVexL, .pref66], [.avx], none, [.ya, .ya, .wa]⟩,
    ⟨[0x03, 0x04], [.vex, .autoVexL, .pref66], [.avx], none, [.ya, .wa, .ib]⟩]⟩,
  ⟨"VPERMPD", [
    ⟨[0x03, 0x01], [.withVexL, .withRexW, .vex, .pref66], [.avx2], none, [.yh, .wh, .ib]⟩]⟩,
  ⟨"VPERMPS", [
    ⟨[0x02, 0x16], [.withVexL, .vex, .pref66], [.avx2], none, [.yh, .yh, .wh]⟩]⟩,
  ⟨"VPERMQ", [
    ⟨[0x03, 0x00], [.withVexL, .withRexW, .vex, .pref66], [.avx2], none, [.yh, .wh, .ib]⟩]⟩,
  ⟨"VPEXTRB", [
    ⟨[0x03, 0x14], [.vex, .encMR, .pref66], [.avx], none, [.mb, .yo, .ib]⟩,
    ⟨[0x03, 0x14], [.vex, .encMR, .pref66], [.avx], none, [.rd, .yo, .ib]⟩,
    ⟨[0x03, 0x14], [.vex, .encMR, .pref66], [.avx], none, [.rq, .yo, .ib]⟩]⟩,
  ⟨"VPEXTRD", [
    ⟨[0x03, 0x16], [.vex, .encMR, .pref66], [.avx], none, [.rq, .yo, .ib]⟩,
    ⟨[0x03, 0x16], [.vex, .encMR, .pref66], [.avx], none, [.vd, .yo, .ib]⟩]⟩,
  ⟨"VPEXTRQ", [
    ⟨[0x03, 0x16], [.withRexW, .vex, .encMR, .pref66], [.avx], none, [.vq, .yo, .ib]⟩]⟩,
  ⟨"VPEXTRW", [
    ⟨[0x03, 0x15], [.vex, .encMR, .pref66], [.avx], none, [.mw, .yo, .ib]⟩,
    ⟨[0x01, 0xc5], [.vex, .pref66], [.avx], none, [.rd, .yo, .ib]⟩,
    ⟨[0x03, 0x15], [.vex, .encMR, .pref66], [.avx], none, [.rd, .yo, .ib]⟩,
    ⟨[0x01, 0xc5], [.vex, .pref66], [.avx], none, [.rq, .yo, .ib]⟩,
    ⟨[0x03, 0x15], [.vex, .encMR, .pref66], [.avx], none, [.rq, .yo, .ib]⟩]⟩,
  ⟨"VPGATHERDD", [
    ⟨[0x02, 0x90], [.vex, .autoVexL, .encMR, .pref66], [.avx2], none, [.ya, .ka, .ya]⟩]⟩,
  ⟨"VPGATHERDQ", [
    ⟨[0x02, 0x90], [.vex, .autoVexL, .encMR, .pref66], [.avx2], none, [.ya, .lo, .ya]⟩]⟩,
  ⟨"VPGATHERQD", [
    ⟨[0x02, 0x91], [.vex, .autoVexL, .encMR, .pref66], [.avx2], none, [.yo, .ka, .yo]⟩]⟩,
  ⟨"VPGATHERQQ", [
    ⟨[0x02, 0x91], [.vex, .autoVexL, .encMR, .pref66], [.avx2], none, [.ya, .la, .ya]⟩]⟩,
  ⟨"VPHADDBD", [
    ⟨[0x09, 0xc2], [.xop], [.sse5, .amd], none, [.yo, .wo]⟩]⟩,
  ⟨"VPHADDBQ", [
    ⟨[0x09, 0xc3], [.xop], [.sse5, .amd], none, [.yo, .wo]⟩]⟩,
  ⟨"VPHADDBW", [
    ⟨[0x09, 0xc1], [.xop], [.sse5, .amd], none, [.yo, .wo]⟩]⟩,
  ⟨"VPHADDD", [
    ⟨[0x02, 0x02], [.vex, .autoVexL, .pref66], [.avx], none, [.ya, .ya, .wa]⟩]⟩,
  ⟨"VPHADDDQ", [
    ⟨[0x09, 0xcb], [.xop], [.sse5, .amd], none, [.yo, .wo]⟩]⟩,
  ⟨"VPHADDSW", [
    ⟨[0x02, 0x03], [.vex, .autoVexL, .pref66], [.avx], none, [.ya, .ya, .wa]⟩]⟩,
  ⟨"VPHADDUBD", [
    ⟨[0x09, 0xd2], [.xop], [.sse5, .amd], none, [.yo, .wo]⟩]⟩,
  ⟨"VPHADDUBQ", [
    ⟨[0x09, 0xd3], [.xop], [.amd, .sse5], none, [.yo, .wo]⟩]⟩,
  ⟨"VPHADDUBW", [
    ⟨[0x09, 0xd1], [.xop], [.sse5, .amd], none, [.yo, .wo]⟩]⟩,
  ⟨"VPHADDUDQ", [
    ⟨[0x09, 0xdb], [.xop], [.amd, .sse5], none, [.yo, .wo]⟩]⟩,
  ⟨"VPHADDUWD", [
    ⟨[0x09, 0xd6], [.xop], [.amd, .sse5], none, [.yo, .wo]⟩]⟩,
  ⟨"VPHADDUWQ", [
    ⟨[0x09, 0xd7], [.xop], [.amd, .sse5], none, [.yo, .wo]⟩]⟩,
  ⟨"VPHADDW", [
    ⟨[0x02, 0x01], [.vex, .autoVexL, .pref66], [.avx], none, [.ya, .ya, .wa]⟩]⟩,
  ⟨"VPHADDWD", [
    ⟨[0x09, 0xc6], [.xop], [.amd, .sse5], none, [.yo, .wo]⟩]⟩,
  ⟨"VPHADDWQ", [
    ⟨[0x09, 0xc7], [.xop], [.amd, .sse5], none, [.yo, .wo]⟩]⟩,
  ⟨"VPHMINPOSUW", [
    ⟨[0x02, 0x41], [.vex, .pref66], [.avx], none, [.yo, .wo]⟩]⟩,
  ⟨"VPHSUBBW", [
    ⟨[0x09, 0xe1], [.xop], [.sse5, .amd], none, [.yo, .wo]⟩]⟩,
  ⟨"VPHSUBD", [
    ⟨[0x02, 0x06], [.vex, .autoVexL, .pref66], [.avx], none, [.ya, .ya, .wa]⟩]⟩,
  ⟨"VPHSUBDQ", [
    ⟨[0x09, 0xe3], [.xop], [.sse5, .amd], none, [.yo, .wo]⟩]⟩,
  ⟨"VPHSUBSW", [
    ⟨[0x02, 0x07], [.vex, .autoVexL, .pref66], [.avx], none, [.ya, .ya, .wa]⟩]⟩,
  ⟨"VPHSUBW", [
    ⟨[0x02, 0x05], [.vex, .autoVexL, .pref66], [.avx], none, [.ya, .ya, .wa]⟩]⟩,
  ⟨"VPHSUBWD", [
    ⟨[0x09, 0xe2], [.xop], [.sse5, .amd], none, [.yo, .wo]⟩]⟩,
  ⟨"VPINSRB", [
    ⟨[0x03, 0x20], [.vex, .pref66], [.avx], none, [.yo, .yo, .rd, .ib]⟩,
    ⟨[0x03, 0x20], [.vex, .pref66], [.avx], none, [.yo, .yo, .vb, .ib]⟩]⟩,
  ⟨"VPINSRD", [
    ⟨[0x03, 0x22], [.vex, .pref66], [.avx], none, [.yo, .yo, .vd, .ib]⟩]⟩,
  ⟨"VPINSRQ", [
    ⟨[0x03, 0x22], [.vex, .withRexW, .pref66], [.avx], none, [.yo, .yo, .vq, .ib]⟩]⟩,
  ⟨"VPINSRW", [
    ⟨[0x01, 0xc4], [.vex, .pref66], [.avx], none, [.yo, .yo, .rd, .ib]⟩,
    ⟨[0x01, 0xc4], [.vex, .pref66], [.avx], none, [.yo, .yo, .vw, .ib]⟩]⟩,
  ⟨"VPMACSDD", [
    ⟨[0x08, 0x9e], [.xop], [.amd, .sse5], none, [.yo, .yo, .wo, .yo]⟩]⟩,
  ⟨"VPMACSDQH", [
    ⟨[0x08, 0x9f], [.xop], [.sse5, .amd], none, [.yo, .yo, .wo, .yo]⟩]⟩,
  ⟨"VPMACSDQL", [
    ⟨[0x08, 0x97], [.xop], [.amd, .sse5], none, [.yo, .yo, .wo, .yo]⟩]⟩,
  ⟨"VPMACSSDD", [
    ⟨[0x08, 0x8e], [.xop], [.sse5, .amd], none, [.yo, .yo, .wo, .yo]⟩]⟩,
  ⟨"VPMACSSDQH", [
    ⟨[0x08, 0x8f], [.xop], [.amd, .sse5], none, [.yo, .yo, .wo, .yo]⟩]⟩,
  ⟨"VPMACSSDQL", [
    ⟨[0x08, 0x87], [.xop], [.sse5, .amd], none, [.yo, .yo, .wo, .yo]⟩]⟩,
  ⟨"VPMACSSWD", [
    ⟨[0x08, 0x86], [.xop], [.amd, .sse5], none, [.yo, .yo, .wo, .yo]⟩]⟩,
  ⟨"VPMACSSWW", [
    ⟨[0x08, 0x85], [.xop], [.amd, .sse5], none, [.yo, .yo, .wo, .yo]⟩]⟩,
  ⟨"VPMACSWD", [
    ⟨[0x08, 0x96], [.xop], [.sse5, .amd], none, [.yo, .yo, .wo, .yo]⟩]⟩,
  ⟨"VPMACSWW", [
    ⟨[0x08, 0x95], [.xop], [.amd, .sse5], none, [.yo, .yo, .wo, .yo]⟩]⟩,
  ⟨"VPMADCSSWD", [
    ⟨[0x08, 0xa6], [.xop], [.sse5, .amd], none, [.yo, .yo, .wo, .yo]⟩]⟩,
  ⟨"VPMADCSWD", [
    ⟨[0x08, 0xb6], [.xop], [.amd, .sse5], none, [.yo, .yo, .wo, .yo]⟩]⟩,
  ⟨"VPMADDUBSW", [
    ⟨[0x02, 0x04], [.vex, .autoVexL, .pref66], [.avx], none, [.ya, .ya, .wa]⟩]⟩,
  ⟨"VPMADDWD", [
    ⟨[0x01, 0xf5], [.vex, .autoVexL, .pref66], [.avx], none, [.ya, .ya, .wa]⟩]⟩,
  ⟨"VPMASKMOVD", [
    ⟨[0x02, 0x8e], [.vex, .autoVexL, .encVM, .pref66], [.avx2], none, [.ma, .ya, .ya]⟩,
    ⟨[0x02, 0x8c], [.vex, .autoVexL, .pref66], [.avx2], none, [.ya, .ya, .ma]⟩]⟩,
  ⟨"VPMASKMOVQ", [
    ⟨[0x02, 0x8e], [.vex, .autoVexL, .encVM, .pref66], [.avx2], none, [.ma, .ya, .ya]⟩,
    ⟨[0x02, 0x8c], [.vex, .autoVexL, .pref66], [.avx2], none, [.ya, .ya, .ma]⟩]⟩,
  ⟨"VPMAXSB", [
    ⟨[0x02, 0x3c], [.vex, .autoVexL, .pref66], [.avx], none, [.ya, .ya, .wa]⟩]⟩,
  ⟨"VPMAXSD", [
    ⟨[0x02, 0x3d], [.vex, .autoVexL, .pref66], [.avx], none, [.ya, .ya, .wa]⟩]⟩,
  ⟨"VPMAXSW", [
    ⟨[0x01, 0xee], [.vex, .autoVexL, .pref66], [.avx], none, [.ya, .ya, .wa]⟩]⟩,
  ⟨"VPMAXUB", [
    ⟨[0x01, 0xde], [.vex, .autoVexL, .pref66], [.avx], none, [.ya, .ya, .wa]⟩]⟩,
  ⟨"VPMAXUD", [
    ⟨[0x02, 0x3f], [.vex, .autoVexL, .pref66], [.avx], none, [.ya, .ya, .wa]⟩]⟩,
  ⟨"VPMAXUW", [
    ⟨[0x02, 0x3e], [.vex, .autoVexL, .pref66], [.avx], none, [.ya, .ya, .wa]⟩]⟩,
  ⟨"VPMINSB", [
    ⟨[0x02, 0x38], [.vex, .autoVexL, .pref66], [.avx], none, [.ya, .ya, .wa]⟩]⟩,
  ⟨"VPMINSD", [
    ⟨[0x02, 0x39], [.vex, .autoVexL, .pref66], [.avx], none, [.ya, .ya, .wa]⟩]⟩,
  ⟨"VPMINSW", [
    ⟨[0x01, 0xea], [.vex, .autoVexL, .pref66], [.avx], none, [.ya, .ya, .wa]⟩]⟩,
  ⟨"VPMINUB", [
    ⟨[0x01, 0xda], [.vex, .autoVexL, .pref66], [.avx], none, [.ya, .ya, .wa]⟩]⟩,
  ⟨"VPMINUD", [
    ⟨[0x02, 0x3b], [.vex, .autoVexL, .pref66], [.avx], none, [.ya, .ya, .wa]⟩]⟩,
  ⟨"VPMINUW", [
    ⟨[0x02, 0x3a], [.vex, .autoVexL, .pref66], [.avx], none, [.ya, .ya, .wa]⟩]⟩,
  ⟨"VPMOVMSKB", [
    ⟨[0x01, 0xd7], [.vex, .pref66], [.avx], none, [.ra, .ya]⟩]⟩,
  ⟨"VPMOVSXBD", [
    ⟨[0x02, 0x21], [.vex, .pref66], [.avx], none, [.yo, .md]⟩,
    ⟨[0x02, 0x21], [.vex, .autoVexL, .pref66], [.avx], none, [.ya, .yo]⟩]⟩,
  ⟨"VPMOVSXBQ", [
    ⟨[0x02, 0x22], [.vex, .autoVexL, .pref66], [.avx], none, [.ya, .mw]⟩,
    ⟨[0x02, 0x22], [.vex, .autoVexL, .pref66], [.avx], none, [.ya, .yo]⟩]⟩,
  ⟨"VPMOVSXBW", [
    ⟨[0x02, 0x20], [.vex, .pref66], [.avx], none, [.yo, .mq]⟩,
    ⟨[0x02, 0x20], [.vex, .autoVexL, .pref66], [.avx], none, [.ya, .wo]⟩]⟩,
  ⟨"VPMOVSXDQ", [
    ⟨[0x02, 0x25], [.vex, .pref66], [.avx], none, [.yo, .mq]⟩,
    ⟨[0x02, 0x25], [.vex, .autoVexL, .pref66], [.avx], none, [.ya, .wo]⟩]⟩,
  ⟨"VPMOVSXWD", [
    ⟨[0x02, 0x23], [.vex, .pref66], [.avx], none, [.yo, .mq]⟩,
    ⟨[0x02, 0x23], [.vex, .autoVexL, .pref66], [.avx], none, [.ya, .wo]⟩]⟩,
  ⟨"VPMOVSXWQ", [
    ⟨[0x02, 0x24], [.vex, .pref66], [.avx], none, [.yo, .md]⟩,
    ⟨[0x02, 0x24], [.vex, .autoVexL, .pref66], [.avx], none, [.ya, .yo]⟩]⟩,
  ⟨"VPMOVZXBD", [
    ⟨[0x02, 0x31], [.vex, .pref66], [.avx], none, [.yo, .md]⟩,
    ⟨[0x02, 0x31], [.vex, .autoVexL, .pref66], [.avx], none, [.ya, .yo]⟩]⟩,
  ⟨"VPMOVZXBQ", [
    ⟨[0x02, 0x32], [.vex, .autoVexL, .pref66], [.avx], none, [.ya, .mw]⟩,
    ⟨[0x02, 0x32], [.vex, .autoVexL, .pref66], [.avx], none, [.ya, .yo]⟩]⟩,
  ⟨"VPMOVZXBW", [
    ⟨[0x02, 0x30], [.vex, .pref66], [.avx], none, [.yo, .mq]⟩,
    ⟨[0x02, 0x30], [.vex, .autoVexL, .pref66], [.avx], none, [.ya, .wo]⟩]⟩,
  ⟨"VPMOVZXDQ", [
    ⟨[0x02, 0x35], [.vex, .pref66], [.avx], none, [.yo, .mq]⟩,
    ⟨[0x02, 0x35], [.vex, .autoVexL, .pref66], [.avx], none, [.ya, .wo]⟩]⟩,
  ⟨"VPMOVZXWD", [
    ⟨[0x02, 0x33], [.vex, .pref66], [.avx], none, [.yo, .mq]⟩,
    ⟨[0x02, 0x33], [.vex, .autoVexL, .pref66], [.avx], none, [.ya, .wo]⟩]⟩,
  ⟨"VPMOVZXWQ", [
    ⟨[0x02, 0x34], [.vex, .pref66], [.avx], none, [.yo, .md]⟩,
    ⟨[0x02, 0x34], [.vex, .autoVexL, .pref66], [.avx], none, [.ya, .yo]⟩]⟩,
  ⟨"VPMULDQ", [
    ⟨[0x02, 0x28], [.vex, .autoVexL, .pref66], [.avx], none, [.ya, .ya, .wa]⟩]⟩,
  ⟨"VPMULHRSW", [
    ⟨[0x02, 0x0b], [.vex, .autoVexL, .pref66], [.avx], none, [.ya, .ya, .wa]⟩]⟩,
  ⟨"VPMULHUW", [
    ⟨[0x01, 0xe4], [.vex, .autoVexL, .pref66], [.avx], none, [.ya, .ya, .wa]⟩]⟩,
  ⟨"VPMULHW", [
    ⟨[0x01, 0xe5], [.vex, .autoVexL, .pref66], [.avx], none, [.ya, .ya, .wa]⟩]⟩,
  ⟨"VPMULLD", [
    ⟨[0x02, 0x40], [.vex, .autoVexL, .pref66], [.avx], none, [.ya, .ya, .wa]⟩]⟩,
  ⟨"VPMULLW", [
    ⟨[0x01, 0xd5], [.vex, .autoVexL, .pref66], [.avx], none, [.ya, .ya, .wa]⟩]⟩,
  ⟨"VPMULUDQ", [
    ⟨[0x01, 0xf4], [.vex, .autoVexL, .pref66], [.avx], none, [.ya, .ya, .wa]⟩]⟩,
  ⟨"VPOR", [
    ⟨[0x01, 0xeb], [.vex, .autoVexL, .pref66], [.avx], none, [.ya, .ya, .wa]⟩]⟩,
  ⟨"VPPERM", [
    ⟨[0x08, 0xa3], [.xop], [.amd, .sse5], none, [.yo, .yo, .wo, .yo]⟩,
    ⟨[0x08, 0xa3], [.withRexW, .xop], [.sse5, .amd], none, [.yo, .yo, .yo, .wo]⟩]⟩,
  ⟨"VPROTB", [
    ⟨[0x08, 0xc0], [.xop], [.sse5, .amd], none, [.yo, .wo, .ib]⟩,
    ⟨[0x09, 0x90], [.xop, .encMR], [.amd, .sse5], none, [.yo, .wo, .yo]⟩,
    ⟨[0x09, 0x90], [.withRexW, .xop], [.sse5, .amd], none, [.yo, .yo, .wo]⟩]⟩,
  ⟨"VPROTD", [
    ⟨[0x08, 0xc2], [.xop], [.amd, .sse5], none, [.yo, .wo, .ib]⟩,
    ⟨[0x09, 0x92], [.xop, .encMR], [.amd, .sse5], none, [.yo, .wo, .yo]⟩,
    ⟨[0x09, 0x92], [.withRexW, .xop], [.sse5, .amd], none, [.yo, .yo, .wo]⟩]⟩,
  ⟨"VPROTQ", [
    ⟨[0x08, 0xc3], [.xop], [.amd, .sse5], none, [.yo, .wo, .ib]⟩,
    ⟨[0x09, 0x93], [.xop, .encMR], [.amd, .sse5], none, [.yo, .wo, .yo]⟩,
    ⟨[0x09, 0x93], [.withRexW, .xop], [.sse5, .amd], none, [.yo, .yo, .wo]⟩]⟩,
  ⟨"VPROTW", [
    ⟨[0x08, 0xc1], [.xop], [.amd, .sse5], none, [.yo, .wo, .ib]⟩,
    ⟨[0x09, 0x91], [.xop, .encMR], [.sse5, .amd], none, [.yo, .wo, .yo]⟩,
    ⟨[0x09, 0x91], [.withRexW, .xop], [.amd, .sse5], none, [.yo, .yo, .wo]⟩]⟩,
  ⟨"VPSADBW", [
    ⟨[0x01, 0xf6], [.vex, .autoVexL, .pref66], [.avx], none, [.ya, .ya, .wa]⟩]⟩,
  ⟨"VPSHAB", [
    ⟨[0x09, 0x98], [.xop, .encMR], [.amd, .sse5], none, [.yo, .wo, .yo]⟩,
    ⟨[0x09, 0x98], [.withRexW, .xop], [.sse5, .amd], none, [.yo, .yo, .wo]⟩]⟩,
  ⟨"VPSHAD", [
    ⟨[0x09, 0x9a], [.xop, .encMR], [.sse5, .amd], none, [.yo, .wo, .yo]⟩,
    ⟨[0x09, 0x9a], [.withRexW, .xop], [.amd, .sse5], none, [.yo, .yo, .wo]⟩]⟩,
  ⟨"VPSHAQ", [
    ⟨[0x09, 0x9b], [.xop, .encMR], [.sse5, .amd], none, [.yo, .wo, .yo]⟩,
    ⟨[0x09, 0x9b], [.withRexW, .xop], [.sse5, .amd], none, [.yo, .yo, .wo]⟩]⟩,
  ⟨"VPSHAW", [
    ⟨[0x09, 0x99], [.xop, .encMR], [.amd, .sse5], none, [.yo, .wo, .yo]⟩,
    ⟨[0x09, 0x99], [.withRexW, .xop], [.sse5, .amd], none, [.yo, .yo, .wo]⟩]⟩,
  ⟨"VPSHLB", [
    ⟨[0x09, 0x94], [.xop, .encMR], [.amd, .sse5], none, [.yo, .wo, .yo]⟩,
    ⟨[0x09, 0x94], [.withRexW, .xop], [.amd, .sse5], none, [.yo, .yo, .wo]⟩]⟩,
  ⟨"VPSHLD", [
    ⟨[0x09, 0x96], [.xop, .encMR], [.sse5, .amd], none, [.yo, .wo, .yo]⟩,
    ⟨[0x09, 0x96], [.withRexW, .xop], [.sse5, .amd], none, [.yo, .yo, .wo]⟩]⟩,
  ⟨"VPSHLQ", [
    ⟨[0x09, 0x97], [.xop, .encMR], [.amd, .sse5], none, [.yo, .wo, .yo]⟩,
    ⟨[0x09, 0x97], [.withRexW, .xop], [.amd, .sse5], none, [.yo, .yo, .wo]⟩]⟩,
  ⟨"VPSHLW", [
    ⟨[0x09, 0x95], [.xop, .encMR], [.amd, .sse5], none, [.yo, .wo, .yo]⟩,
    ⟨[0x09, 0x95], [.withRexW, .xop], [.sse5, .amd], none, [.yo, .yo, .wo]⟩]⟩,
  ⟨"VPSHUFB", [
    ⟨[0x02, 0x00], [.vex, .autoVexL, .pref66], [.avx], none, [.ya, .ya, .wa]⟩]⟩,
  ⟨"VPSHUFD", [
    ⟨[0x01, 0x70], [.vex, .autoVexL, .pref66], [.avx], none, [.ya, .wa, .ib]⟩]⟩,
  ⟨"VPSHUFHW", [
    ⟨[0x01, 0x70], [.vex, .autoVexL, .prefF3], [.avx], none, [.ya, .wa, .ib]⟩]⟩,
  ⟨"VPSHUFLW", [
    ⟨[0x01, 0x70], [.vex, .autoVexL, .prefF2], [.avx], none, [.ya, .wa, .ib]⟩]⟩,
  ⟨"VPSIGNB", [
    ⟨[0x02, 0x08], [.vex, .autoVexL, .pref66], [.avx], none, [.ya, .ya, .wa]⟩]⟩,
  ⟨"VPSIGND", [
    ⟨[0x02, 0x0a], [.vex, .autoVexL, .pref66], [.avx], none, [.ya, .ya, .wa]⟩]⟩,
  ⟨"VPSIGNW", [
    ⟨[0x02, 0x09], [.vex, .autoVexL, .pref66], [.avx], none, [.ya, .ya, .wa]⟩]⟩,
  ⟨"VPSLLD", [
    ⟨[0x01, 0x72], [.vex, .autoVexL, .encVM, .pref66], [.avx], some 6, [.ya, .ya, .ib]⟩,
    ⟨[0x01, 0xf2], [.vex, .autoVexL, .pref66], [.avx], none, [.ya, .ya, .wo]⟩]⟩,
  ⟨"VPSLLDQ", [
    ⟨[0x01, 0x73], [.vex, .autoVexL, .encVM, .pref66], [.avx], some 7, [.ya, .ya, .ib]⟩]⟩,
  ⟨"VPSLLQ", [
    ⟨[0x01, 0x73], [.vex, .autoVexL, .encVM, .pref66], [.avx], some 6, [.ya, .ya, .ib]⟩,
    ⟨[0x01, 0xf3], [.vex, .autoVexL, .pref66], [.avx], none, [.ya, .ya, .wo]⟩]⟩,
  ⟨"VPSLLVD", [
    ⟨[0x02, 0x47], [.vex, .autoVexL, .pref66], [.avx2], none, [.ya, .ya, .wa]⟩]⟩,
  ⟨"VPSLLVQ", [
    ⟨[0x02, 0x47], [.vex, .autoVexL, .withRexW, .pref66], [.avx2], none, [.ya, .ya, .wa]⟩]⟩,
  ⟨"VPSLLW", [
    ⟨[0x01, 0x71], [.vex, .autoVexL, .encVM, .pref66], [.avx], some 6, [.ya, .ya, .ib]⟩,
    ⟨[0x01, 0xf1], [.vex, .autoVexL, .pref66], [.avx], none, [.ya, .ya, .wo]⟩]⟩,
  ⟨"VPSRAD", [
    ⟨[0x01, 0x72], [.vex, .autoVexL, .encVM, .pref66], [.avx], some 4, [.ya, .ya, .ib]⟩,
    ⟨[0x01, 0xe2], [.vex, .autoVexL, .pref66], [.avx], none, [.ya, .ya, .wo]⟩]⟩,
  ⟨"VPSRAVD", [
    ⟨[0x02, 0x46], [.vex, .autoVexL, .pref66], [.avx2], none, [.ya, .ya, .wa]⟩]⟩,
  ⟨"VPSRAW", [
    ⟨[0x01, 0x71], [.vex, .autoVexL, .encVM, .pref66], [.avx], some 4, [.ya, .ya, .ib]⟩,
    ⟨[0x01, 0xe1], [.vex, .autoVexL, .pref66], [.avx], none, [.ya, .ya, .wo]⟩]⟩,
  ⟨"VPSRLD", [
    ⟨[0x01, 0x72], [.vex, .autoVexL, .encVM, .pref66], [.avx], some 2, [.ya, .ya, .ib]⟩,
    ⟨[0x01, 0xd2], [.vex, .autoVexL, .pref66], [.avx], none, [.ya, .ya, .wo]⟩]⟩,
  ⟨"VPSRLDQ", [
    ⟨[0x01, 0x73], [.vex, .autoVexL, .encVM, .pref66], [.avx], some 3, [.ya, .ya, .ib]⟩]⟩,
  ⟨"VPSRLQ", [
    ⟨[0x01, 0x73], [.vex, .encVM, .pref66], [.avx], some 2, [.ya, .ya, .ib]⟩,
    ⟨[0x01, 0xd3], [.vex, .autoVexL, .pref66], [.avx], none, [.ya, .ya, .wo]⟩]⟩,
  ⟨"VPSRLVD", [
    ⟨[0x02, 0x45], [.vex, .autoVexL, .pref66], [.avx2], none, [.ya, .ya, .wa]⟩]⟩,
  ⟨"VPSRLVQ", [
    ⟨[0x02, 0x45], [.vex, .autoVexL, .withRexW, .pref66], [.avx2], none, [.ya, .ya, .wa]⟩]⟩,
  ⟨"VPSRLW", [
    ⟨[0x01, 0x71], [.vex, .autoVexL, .encVM, .pref66], [.avx], some 2, [.ya, .ya, .ib]⟩,
    ⟨[0x01, 0xd1], [.vex, .autoVexL, .pref66], [.avx], none, [.ya, .ya, .wo]⟩]⟩,
  ⟨"VPSUBB", [
    ⟨[0x01, 0xf8], [.vex, .autoVexL, .pref66], [.avx], none, [.ya, .ya, .wa]⟩]⟩,
  ⟨"VPSUBD", [
    ⟨[0x01, 0xfa], [.vex, .autoVexL, .pref66], [.avx], none, [.ya, .ya, .wa]⟩]⟩,
  ⟨"VPSUBQ", [
    ⟨[0x01, 0xfb], [.vex, .autoVexL, .pref66], [.avx], none, [.ya, .ya, .wa]⟩]⟩,
  ⟨"VPSUBSB", [
    ⟨[0x01, 0xe8], [.vex, .autoVexL, .pref66], [.avx], none, [.ya, .ya, .wa]⟩]⟩,
  ⟨"VPSUBSW", [
    ⟨[0x01, 0xe9], [.vex, .autoVexL, .pref66], [.avx], none, [.ya, .ya, .wa]⟩]⟩,
  ⟨"VPSUBUSB", [
    ⟨[0x01, 0xd8], [.vex, .autoVexL, .pref66], [.avx], none, [.ya, .ya, .wa]⟩]⟩,
  ⟨"VPSUBUSW", [
    ⟨[0x01, 0xd9], [.vex, .autoVexL, .pref66], [.avx], none, [.ya, .ya, .wa]⟩]⟩,
  ⟨"VPSUBW", [
    ⟨[0x01, 0xf9], [.vex, .autoVexL, .pref66], [.avx], none, [.ya, .ya, .wa]⟩]⟩,
  ⟨"VPTEST", [
    ⟨[0x02, 0x17], [.vex, .autoVexL, .pref66], [.avx], none, [.ya, .wa]⟩]⟩,
  ⟨"VPUNPCKHBW", [
    ⟨[0x01, 0x68], [.vex, .autoVexL, .pref66], [.avx], none, [.ya, .ya, .wa]⟩]⟩,
  ⟨"VPUNPCKHDQ", [
    ⟨[0x01, 0x6a], [.vex, .autoVexL, .pref66], [.avx], none, [.ya, .ya, .wa]⟩]⟩,
  ⟨"VPUNPCKHQDQ", [
    ⟨[0x01, 0x6d], [.vex, .autoVexL, .pref66], [.avx], none, [.ya, .ya, .wa]⟩]⟩,
  ⟨"VPUNPCKHWD", [
    ⟨[0x01, 0x69], [.vex, .autoVexL, .pref66], [.avx], none, [.ya, .ya, .wa]⟩]⟩,
  ⟨"VPUNPCKLBW", [
    ⟨[0x01, 0x60], [.vex, .autoVexL, .pref66], [.avx], none, [.ya, .ya, .wa]⟩]⟩,
  ⟨"VPUNPCKLDQ", [
    ⟨[0x01, 0x62], [.vex, .autoVexL, .pref66], [.avx], none, [.ya, .ya, .wa]⟩]⟩,
  ⟨"VPUNPCKLQDQ", [
    ⟨[0x01, 0x6c], [.vex, .autoVexL, .pref66], [.avx], none, [.ya, .ya, .wa]⟩]⟩,
  ⟨"VPUNPCKLWD", [
    ⟨[0x01, 0x61], [.vex, .autoVexL, .pref66], [.avx], none, [.ya, .ya, .wa]⟩]⟩,
  ⟨"VPXOR", [
    ⟨[0x01, 0xef], [.vex, .autoVexL, .pref66], [.avx], none, [.ya, .ya, .wa]⟩]⟩]

def namesVR : List Family := [
  ⟨"VRCPPS", [
    ⟨[0x01, 0x53], [.vex, .autoVexL], [.avx], none, [.ya, .wa]⟩]⟩,
  ⟨"VRCPSS", [
    ⟨[0x01, 0x53], [.vex, .prefF3], [.avx], none, [.yo, .yo, .md]⟩,
    ⟨[0x01, 0x53], [.vex, .prefF3], [.avx], none, [.yo, .yo, .yo]⟩]⟩,
  ⟨"VROUNDPD", [
    ⟨[0x03, 0x09], [.vex, .autoVexL, .pref66], [.avx], none, [.ya, .wa, .ib]⟩]⟩,
  ⟨"VROUNDPS", [
    ⟨[0x03, 0x08], [.vex, .autoVexL, .pref66], [.avx], none, [.ya, .wa, .ib]⟩]⟩,
  ⟨"VROUNDSD", [
    ⟨[0x03, 0x0b], [.vex, .pref66], [.avx], none, [.yo, .yo, .mq, .ib]⟩,
    ⟨[0x03, 0x0b], [.vex, .pref66], [.avx], none, [.yo, .yo, .yo, .ib]⟩]⟩,
  ⟨"VROUNDSS", [
    ⟨[0x03, 0x0a], [.vex, .pref66], [.avx], none, [.yo, .yo, .md, .ib]⟩,
    ⟨[0x03, 0x0a], [.vex, .pref66], [.avx], none, [.yo, .yo, .yo, .ib]⟩]⟩,
  ⟨"VRSQRTPS", [
    ⟨[0x01, 0x52], [.vex, .autoVexL], [.avx], none, [.ya, .wa]⟩]⟩,
  ⟨"VRSQRTSS", [
    ⟨[0x01, 0x52], [.vex, .prefF3], [.avx], none, [.yo, .yo, .md]⟩,
    ⟨[0x01, 0x52], [.vex, .prefF3], [.avx], none, [.yo, .yo, .yo]⟩]⟩]

def namesVS : List Family := [
  ⟨"VSHUFPD", [
    ⟨[0x01, 0xc6], [.vex, .autoVexL, .encMR, .pref66], [.avx], none, [.ya, .ya, .wa, .ib]⟩]⟩,
  ⟨"VSHUFPS", [
    ⟨[0x01, 0xc6], [.vex, .autoVexL, .encMR], [.avx], none, [.ya, .ya, .wa, .ib]⟩]⟩,
  ⟨"VSQRTPD", [
    ⟨[0x01, 0x51], [.vex, .autoVexL, .pref66], [.avx], none, [.ya, .wa]⟩]⟩,
  ⟨"VSQRTPS", [
    ⟨[0x01, 0x51], [.vex, .autoVexL], [.avx], none, [.ya, .wa]⟩]⟩,
  ⟨"VSQRTSD", [
    ⟨[0x01, 0x51], [.vex, .prefF2], [.avx], none, [.yo, .yo, .mq]⟩,
    ⟨[0x01, 0x51], [.vex, .prefF2], [.avx], none, [.yo, .yo, .yo]⟩]⟩,
  ⟨"VSQRTSS", [
    ⟨[0x01, 0x51], [.vex, .prefF3], [.avx], none, [.yo, .yo, .md]⟩,
    ⟨[0x01, 0x51], [.vex, .prefF3], [.avx], none, [.yo, .yo, .yo]⟩]⟩,
  ⟨"VSTMXCSR", [
    ⟨[0x01, 0xae], [.vex], [.avx], some 3, [.md]⟩]⟩,
  ⟨"VSUBPD", [
    ⟨[0x01, 0x5c], [.vex, .autoVexL, .pref66], [.avx], none, [.ya, .ya, .wa]⟩]⟩,
  ⟨"VSUBPS", [
    ⟨[0x01, 0x5c], [.vex, .autoVexL], [.avx], none, [.ya, .ya, .wa]⟩]⟩,
  ⟨"VSUBSD", [
    ⟨[0x01, 0x5c], [.vex, .prefF2], [.avx], none, [.yo, .yo, .mq]⟩,
    ⟨[0x01, 0x5c], [.vex, .prefF2], [.avx], none, [.yo, .yo, .yo]⟩]⟩,
  ⟨"VSUBSS", [
    ⟨[0x01, 0x5c], [.vex, .prefF3], [.avx], none, [.yo, .yo, .md]⟩,
    ⟨[0x01, 0x5c], [.vex, .prefF3], [.avx], none, [.yo, .yo, .yo]⟩]⟩]

def namesVT : List Family := [
  ⟨"VTESTPD", [
    ⟨[0x02, 0x0f], [.vex, .autoVexL, .pref66], [.avx], none, [.ya, .wa]⟩]⟩,
  ⟨"VTESTPS", [
    ⟨[0x02, 0x0e], [.vex, .autoVexL, .pref66], [.avx], none, [.ya, .wa]⟩]⟩]

def namesVU : List Family := [
  ⟨"VUCOMISD", [
    ⟨[0x01, 0x2e], [.vex, .pref66], [.avx], none, [.yo, .mq]⟩,
    ⟨[0x01, 0x2e], [.vex, .pref66], [.avx], none, [.yo, .yo]⟩]⟩,
  ⟨"VUCOMISS", [
    ⟨[0x01, 0x2e], [.vex], [.avx], none, [.yo, .md]⟩,
    ⟨[0x01, 0x2e], [.vex], [.avx], none, [.yo, .yo]⟩]⟩,
  ⟨"VUNPCKHPD", [
    ⟨[0x01, 0x15], [.vex, .autoVexL, .pref66], [.avx], none, [.ya, .ya, .wa]⟩]⟩,
  ⟨"VUNPCKHPS", [
    ⟨[0x01, 0x15], [.vex, .autoVexL], [.avx], none, [.ya, .ya, .wa]⟩]⟩,
  ⟨"VUNPCKLPD", [
    ⟨[0x01, 0x14], [.vex, .autoVexL, .pref66], [.avx], none, [.ya, .ya, .wa]⟩]⟩,
  ⟨"VUNPCKLPS", [
    ⟨[0x01, 0x14], [.vex, .autoVexL], [.avx], none, [.ya, .ya, .wa]⟩]⟩]

def namesVX : List Family := [
  ⟨"VXORPD", [
    ⟨[0x01, 0x57], [.vex, .autoVexL, .pref66], [.avx], none, [.ya, .ya, .wa]⟩]⟩,
  ⟨"VXORPS", [
    ⟨[0x01, 0x57], [.vex, .autoVexL], [.avx], none, [.ya, .ya, .wa]⟩]⟩]

def namesVZ : List Family := [
  ⟨"VZEROALL", [
    ⟨[0x01, 0x77], [.withVexL, .vex], [.avx], none, []⟩]⟩,
  ⟨"VZEROUPPER", [
    ⟨[0x01, 0x77], [.vex], [.avx], none, []⟩]⟩]

def namesW : List Family := [
  ⟨"WBINVD", [
    ⟨[0x0f, 0x09], [], [], none, []⟩]⟩,
  ⟨"WRFSBASE", [
    ⟨[0x0f, 0xae], [.prefF3], [], some 2, [.rd]⟩,
    ⟨[0x0f, 0xae], [.withRexW, .prefF3], [], some 2, [.rq]⟩]⟩,
  ⟨"WRGSBASE", [
    ⟨[0x0f, 0xae], [.prefF3], [], some 3, [.rd]⟩,
    ⟨[0x0f, 0xae], [.withRexW, .prefF3], [], some 3, [.rq]⟩]⟩,
  ⟨"WRMSR", [
    ⟨[0x0f, 0x30], [], [], none, []⟩]⟩,
  ⟨"WRPKRU", [
    ⟨[0x0f, 0x01, 0xef], [], [], none, []⟩]⟩,
  ⟨"WRSHR", [
    ⟨[0x0f, 0x37], [], [.cyrix], some 0, [.vd]⟩]⟩]

def namesX : List Family := [
  ⟨"XABORT", [
    ⟨[0xc6, 0xf8], [], [.rtm], none, [.ib]⟩]⟩,
  ⟨"XADD", [
    ⟨[0x0f, 0xc0], [.lock, .encMR], [], none, [.mb, .rb]⟩,
    ⟨[0x0f, 0xc0], [.encMR], [], none, [.rb, .rb]⟩,
    ⟨[0x0f, 0xc1], [.autoSize, .lock, .encMR], [], none, [.ma, .ra]⟩,
    ⟨[0x0f, 0xc1], [.autoSize, .encMR], [], none, [.ra, .ra]⟩]⟩,
  ⟨"XBEGIN", [
    ⟨[0xc7, 0xf8], [], [.rtm], none, [.od]⟩]⟩,
  ⟨"XCHG", [
    ⟨[0x86], [.lock, .encMR], [], none, [.mb, .rb]⟩,
    ⟨[0x86], [.lock], [], none, [.rb, .mb]⟩,
    ⟨[0x86], [], [], none, [.rb, .rb]⟩,
    ⟨[0x86], [.encMR], [], none, [.rb, .rb]⟩,
    ⟨[0x90], [.autoSize, .shortArg], [], none, [.Aa, .ra]⟩,
    ⟨[0x87], [.autoSize, .encMR], [], none, [.ma, .ra]⟩,
    ⟨[0x90], [.autoSize, .shortArg], [], none, [.ra, .Aa]⟩,
    ⟨[0x87], [.autoSize], [], none, [.ra, .ma]⟩,
    ⟨[0x87], [.autoSize], [], none, [.ra, .ra]⟩,
    ⟨[0x87], [.autoSize, .encMR], [], none, [.ra, .ra]⟩]⟩,
  ⟨"XCRYPTCBC", [
    ⟨[0x0f, 0xa7, 0xd0], [.prefF3], [.cyrix], none, []⟩]⟩,
  ⟨"XCRYPTCFB", [
    ⟨[0x0f, 0xa7, 0xe0], [.prefF3], [.cyrix], none, []⟩]⟩,
  ⟨"XCRYPTCTR", [
    ⟨[0x0f, 0xa7, 0xd8], [.prefF3], [.cyrix], none, []⟩]⟩,
  ⟨"XCRYPTECB", [
    ⟨[0x0f, 0xa7, 0xc8], [.prefF3], [.cyrix], none, []⟩]⟩,
  ⟨"XCRYPTOFB", [
    ⟨[0x0f, 0xa7, 0xe8], [.prefF3], [.cyrix], none, []⟩]⟩,
  ⟨"XEND", [
    ⟨[0x0f, 0x01, 0xd5], [], [.rtm], none, []⟩]⟩,
  ⟨"XGETBV", [
    ⟨[0x0f, 0x01, 0xd0], [], [], none, []⟩]⟩,
  ⟨"XLAT", [
    ⟨[0xd7], [], [], none, []⟩]⟩,
  ⟨"XLATB", [
    ⟨[0xd7], [], [], none, []⟩]⟩,
  ⟨"XOR", [
    ⟨[0x34], [], [], none, [.Ab, .ib]⟩,
    ⟨[0x80], [.lock], [], some 6, [.mb, .ib]⟩,
    ⟨[0x30], [.lock, .encMR], [], none, [.mb, .rb]⟩,
    ⟨[0x80], [], [], some 6, [.rb, .ib]⟩,
    ⟨[0x30], [.encMR], [], none, [.rb, .rb]⟩,
    ⟨[0x32], [], [], none, [.rb, .vb]⟩,
    ⟨[0x83], [.autoSize, .exactSize], [], some 6, [.ra, .ib]⟩,
    ⟨[0x35], [.autoSize], [], none, [.Aa, .ia]⟩,
    ⟨[0x81], [.autoSize, .lock], [], some 6, [.ma, .ia]⟩,
    ⟨[0x83], [.autoSize, .lock], [], some 6, [.ma, .ib]⟩,
    ⟨[0x31], [.autoSize, .lock, .encMR], [], none, [.ma, .ra]⟩,
    ⟨[0x81], [.autoSize], [], some 6, [.ra, .ia]⟩,
    ⟨[0x31], [.autoSize, .encMR], [], none, [.ra, .ra]⟩,
    ⟨[0x33], [.autoSize], [], none, [.ra, .va]⟩]⟩,
  ⟨"XORPD", [
    ⟨[0x0f, 0x57], [.pref66], [.sse2], none, [.yo, .wo]⟩]⟩,
  ⟨"XORPS", [
    ⟨[0x0f, 0x57], [], [.sse], none, [.yo, .wo]⟩]⟩,
  ⟨"XRSTOR", [
    ⟨[0x0f, 0xae], [], [], some 5, [.mn]⟩]⟩,
  ⟨"XRSTOR64", [
    ⟨[0x0f, 0xae], [.withRexW], [], some 5, [.mn]⟩]⟩,
  ⟨"XRSTORS64", [
    ⟨[0x0f, 0xc7], [.withRexW], [], some 3, [.mn]⟩]⟩,
  ⟨"XSAVE", [
    ⟨[0x0f, 0xae], [], [], some 4, [.mn]⟩]⟩,
  ⟨"XSAVE64", [
    ⟨[0x0f, 0xae], [.withRexW], [], some 4, [.mn]⟩]⟩,
  ⟨"XSAVEC64", [
    ⟨[0x0f, 0xc7], [.withRexW], [], some 4, [.mn]⟩]⟩,
  ⟨"XSAVEOPT64", [
    ⟨[0x0f, 0xae], [.withRexW], [], some 6, [.mn]⟩]⟩,
  ⟨"XSAVES64", [
    ⟨[0x0f, 0xc7], [.withRexW], [], some 5, [.mn]⟩]⟩,
  ⟨"XSETBV", [
    ⟨[0x0f, 0x01, 0xd1], [], [], none, []⟩]⟩,
  ⟨"XSHA1", [
    ⟨[0x0f, 0xa6, 0xc8], [.prefF3], [.cyrix], none, []⟩]⟩,
  ⟨"XSHA256", [
    ⟨[0x0f, 0xa6, 0xd0], [.prefF3], [.cyrix], none, []⟩]⟩,
  ⟨"XSTORE", [
    ⟨[0x0f, 0xa7, 0xc0], [], [.cyrix], none, []⟩]⟩,
  ⟨"XTEST", [
    ⟨[0x0f, 0x01, 0xd6], [], [.rtm], none, []⟩]⟩]

def vpToZ : List Family :=
  namesVP ++ namesVR ++ namesVS ++ namesVT ++ namesVU ++ namesVX ++ namesVZ ++ namesW ++ namesX

end MachineCode.X86.Instructions
