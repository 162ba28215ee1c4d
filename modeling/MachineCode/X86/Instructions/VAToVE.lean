import MachineCode.X86.Form

/-!
Instructions from VADDPD to VEXTRACTPS in the order of their names, one list for each initial.
-/
namespace MachineCode.X86.Instructions

def namesVA : List Family := [
  ⟨"VADDPD", [
    ⟨[0x01, 0x58], [.vex, .autoVexL, .pref66], [.avx], none, [.ya, .ya, .wa]⟩]⟩,
  ⟨"VADDPS", [
    ⟨[0x01, 0x58], [.vex, .autoVexL], [.avx], none, [.ya, .ya, .wa]⟩]⟩,
  ⟨"VADDSD", [
    ⟨[0x01, 0x58], [.vex, .prefF2], [.avx], none, [.yo, .yo, .mq]⟩,
    ⟨[0x01, 0x58], [.vex, .prefF2], [.avx], none, [.yo, .yo, .yo]⟩]⟩,
  ⟨"VADDSS", [
    ⟨[0x01, 0x58], [.vex, .prefF3], [.avx], none, [.yo, .yo, .md]⟩,
    ⟨[0x01, 0x58], [.vex, .prefF3], [.avx], none, [.yo, .yo, .yo]⟩]⟩,
  ⟨"VADDSUBPD", [
    ⟨[0x01, 0xd0], [.vex, .autoVexL, .pref66], [.avx], none, [.ya, .ya, .wa]⟩]⟩,
  ⟨"VADDSUBPS", [
    ⟨[0x01, 0xd0], [.vex, .autoVexL, .prefF2], [.avx], none, [.ya, .ya, .wa]⟩]⟩,
  ⟨"VAESDEC", [
    ⟨[0x02, 0xde], [.vex, .pref66], [.avx], none, [.yo, .yo, .wo]⟩]⟩,
  ⟨"VAESDECLAST", [
    ⟨[0x02, 0xdf], [.vex, .pref66], [.avx], none, [.yo, .yo, .wo]⟩]⟩,
  ⟨"VAESENC", [
    ⟨[0x02, 0xdc], [.vex, .pref66], [.avx], none, [.yo, .yo, .wo]⟩]⟩,
  ⟨"VAESENCLAST", [
    ⟨[0x02, 0xdd], [.vex, .pref66], [.avx], none, [.yo, .yo, .wo]⟩]⟩,
  ⟨"VAESIMC", [
    ⟨[0x02, 0xdb], [.vex, .pref66], [.avx], none, [.yo, .wo]⟩]⟩,
  ⟨"VAESKEYGENASSIST", [
    ⟨[0x03, 0xdf], [.vex, .pref66], [.avx], none, [.yo, .wo, .ib]⟩]⟩,
  ⟨"VANDNPD", [
    ⟨[0x01, 0x55], [.vex, .autoVexL, .pref66], [.avx], none, [.ya, .ya, .wa]⟩]⟩,
  ⟨"VANDNPS", [
    ⟨[0x01, 0x55], [.vex, .autoVexL], [.avx], none, [.ya, .ya, .wa]⟩]⟩,
  ⟨"VANDPD", [
    ⟨[0x01, 0x54], [.vex, .autoVexL, .pref66], [.avx], none, [.ya, .ya, .wa]⟩]⟩,
  ⟨"VANDPS", [
    ⟨[0x01, 0x54], [.vex, .autoVexL], [.avx], none, [.ya, .ya, .wa]⟩]⟩]

def namesVB : List Family := [
  ⟨"VBLENDPD", [
    ⟨[0x03, 0x0d], [.vex, .autoVexL, .encMR, .pref66], [.avx], none, [.ya, .ya, .wa, .ib]⟩]⟩,
  ⟨"VBLENDPS", [
    ⟨[0x03, 0x0c], [.vex, .autoVexL, .encMR, .pref66], [.avx], none, [.ya, .ya, .wa, .ib]⟩]⟩,
  ⟨"VBLENDVPD", [
    ⟨[0x03, 0x4b], [.vex, .autoVexL, .pref66], [.avx], none, [.ya, .ya, .wa, .ya]⟩]⟩,
  ⟨"VBLENDVPS", [
    ⟨[0x03, 0x4a], [.vex, .autoVexL, .pref66], [.avx], none, [.ya, .ya, .wa, .ya]⟩]⟩,
  ⟨"VBROADCASTF128", [
    ⟨[0x02, 0x1a], [.withVexL, .vex, .pref66], [.avx], none, [.yh, .mo]⟩]⟩,
  ⟨"VBROADCASTI128", [
    ⟨[0x02, 0x5a], [.withVexL, .vex, .pref66], [.avx2], none, [.yh, .mo]⟩]⟩,
  ⟨"VBROADCASTSD", [
    ⟨[0x02, 0x19], [.vex, .withVexL, .pref66], [.avx], none, [.yh, .mq]⟩,
    ⟨[0x02, 0x19], [.vex, .withVexL, .pref66], [.avx], none, [.yh, .yo]⟩]⟩,
  ⟨"VBROADCASTSS", [
    ⟨[0x02, 0x18], [.vex, .pref66], [.avx], none, [.ya, .md]⟩,
    ⟨[0x02, 0x18], [.vex, .autoVexL, .pref66], [.avx], none, [.ya, .yo]⟩]⟩]

def namesVC : List Family := [
  ⟨"VCMPEQ_OSPD", [
    ⟨[0x01, 0xc2, 0x10], [.vex, .pref66, .immOp], [.avx], none, [.ya, .ya, .wa]⟩,
    ⟨[0x01, 0xc2, 0x10], [.vex, .immOp, .pref66], [.avx], none, [.yo, .yo, .wo]⟩]⟩,
  ⟨"VCMPEQ_OSPS", [
    ⟨[0x01, 0xc2, 0x10], [.vex, .autoVexL, .immOp], [.avx], none, [.ya, .ya, .wa]⟩]⟩,
  ⟨"VCMPEQ_OSSD", [
    ⟨[0x01, 0xc2, 0x10], [.vex, .immOp, .prefF2], [.avx], none, [.yo, .yo, .mq]⟩,
    ⟨[0x01, 0xc2, 0x10], [.vex, .immOp, .prefF2], [.avx], none, [.yo, .yo, .yo]⟩]⟩,
  ⟨"VCMPEQ_OSSS", [
    ⟨[0x01, 0xc2, 0x10], [.vex, .prefF3, .immOp], [.avx], none, [.yo, .yo, .mq]⟩,
    ⟨[0x01, 0xc2, 0x10], [.vex, .prefF3, .immOp], [.avx], none, [.yo, .yo, .yo]⟩]⟩,
  ⟨"VCMPEQ_UQPD", [
    ⟨[0x01, 0xc2, 0x08], [.withVexL, .vex, .immOp, .pref66], [.avx], none, [.yh, .yh, .wh]⟩,
    ⟨[0x01, 0xc2, 0x08], [.vex, .pref66, .immOp], [.avx], none, [.yo, .yo, .wo]⟩]⟩,
  ⟨"VCMPEQ_UQPS", [
    ⟨[0x01, 0xc2, 0x08], [.vex, .autoVexL, .immOp], [.avx], none, [.ya, .ya, .wa]⟩]⟩,
  ⟨"VCMPEQ_UQSD", [
    ⟨[0x01, 0xc2, 0x08], [.vex, .prefF2, .immOp], [.avx], none, [.yo, .yo, .mq]⟩,
    ⟨[0x01, 0xc2, 0x08], [.vex, .prefF2, .immOp], [.avx], none, [.yo, .yo, .yo]⟩]⟩,
  ⟨"VCMPEQ_UQSS", [
    ⟨[0x01, 0xc2, 0x08], [.vex, .immOp, .prefF3], [.avx], none, [.yo, .yo, .mq]⟩,
    ⟨[0x01, 0xc2, 0x08], [.vex, .immOp, .prefF3], [.avx], none, [.yo, .yo, .yo]⟩]⟩,
  ⟨"VCMPEQ_USPD", [
    ⟨[0x01, 0xc2, 0x18], [.withVexL, .vex, .immOp, .pref66], [.avx], none, [.yh, .yh, .wh]⟩,
    ⟨[0x01, 0xc2, 0x18], [.vex, .pref66, .immOp], [.avx], none, [.yo, .yo, .wo]⟩]⟩,
  ⟨"VCMPEQ_USPS", [
    ⟨[0x01, 0xc2, 0x18], [.vex, .autoVexL, .immOp], [.avx], none, [.ya, .ya, .wa]⟩]⟩,
  ⟨"VCMPEQ_USSD", [
    ⟨[0x01, 0xc2, 0x18], [.vex, .prefF2, .immOp], [.avx], none, [.yo, .yo, .mq]⟩,
    ⟨[0x01, 0xc2, 0x18], [.vex, .prefF2, .immOp], [.avx], none, [.yo, .yo, .yo]⟩]⟩,
  ⟨"VCMPEQ_USSS", [
    ⟨[0x01, 0xc2, 0x18], [.vex, .immOp, .prefF3], [.avx], none, [.yo, .yo, .mq]⟩,
    ⟨[0x01, 0xc2, 0x18], [.vex, .immOp, .prefF3], [.avx], none, [.yo, .yo, .yo]⟩]⟩,
  ⟨"VCMPEQPD", [
    ⟨[0x01, 0xc2, 0x00], [.vex, .autoVexL, .immOp, .pref66], [.avx], none, [.ya, .ya, .wa]⟩]⟩,
  ⟨"VCMPEQPS", [
    ⟨[0x01, 0xc2, 0x00], [.vex, .autoVexL, .immOp], [.avx], none, [.ya, .ya, .wa]⟩]⟩,
  ⟨"VCMPEQSD", [
    ⟨[0x01, 0xc2, 0x00], [.vex, .prefF2, .immOp], [.avx], none, [.yo, .yo, .mq]⟩,
    ⟨[0x01, 0xc2, 0x00], [.vex, .prefF2, .immOp], [.avx], none, [.yo, .yo, .yo]⟩]⟩,
  ⟨"VCMPEQSS", [
    ⟨[0x01, 0xc2, 0x00], [.vex, .immOp, .prefF3], [.avx], none, [.yo, .yo, .mq]⟩,
    ⟨[0x01, 0xc2, 0x00], [.vex, .immOp, .prefF3], [.avx], none, [.yo, .yo, .yo]⟩]⟩,
  ⟨"VCMPFALSE_OQPD", [
    ⟨[0x01, 0xc2, 0x0b], [.vex, .autoVexL, .immOp, .pref66], [.avx], none, [.ya, .ya, .wa]⟩]⟩,
  ⟨"VCMPFALSE_OQPS", [
    ⟨[0x01, 0xc2, 0x0b], [.vex, .autoVexL, .immOp], [.avx], none, [.ya, .ya, .wa]⟩]⟩,
  ⟨"VCMPFALSE_OQSD", [
    ⟨[0x01, 0xc2, 0x0b], [.vex, .immOp, .prefF2], [.avx], none, [.yo, .yo, .mq]⟩,
    ⟨[0x01, 0xc2, 0x0b], [.vex, .immOp, .prefF2], [.avx], none, [.yo, .yo, .yo]⟩]⟩,
  ⟨"VCMPFALSE_OQSS", [
    ⟨[0x01, 0xc2, 0x0b], [.vex, .immOp, .prefF3], [.avx], none, [.yo, .yo, .mq]⟩,
    ⟨[0x01, 0xc2, 0x0b], [.vex, .immOp, .prefF3], [.avx], none, [.yo, .yo, .yo]⟩]⟩,
  ⟨"VCMPFALSE_OSPD", [
    ⟨[0x01, 0xc2, 0x1b], [.vex, .autoVexL, .pref66, .immOp], [.avx], none, [.ya, .ya, .wa]⟩]⟩,
  ⟨"VCMPFALSE_OSPS", [
    ⟨[0x01, 0xc2, 0x1b], [.vex, .autoVexL, .immOp], [.avx], none, [.ya, .ya, .wa]⟩]⟩,
  ⟨"VCMPFALSE_OSSD", [
    ⟨[0x01, 0xc2, 0x1b], [.vex, .prefF2, .immOp], [.avx], none, [.yo, .yo, .mq]⟩,
    ⟨[0x01, 0xc2, 0x1b], [.vex, .prefF2, .immOp], [.avx], none, [.yo, .yo, .yo]⟩]⟩,
  ⟨"VCMPFALSE_OSSS", [
    ⟨[0x01, 0xc2, 0x1b], [.vex, .prefF3, .immOp], [.avx], none, [.yo, .yo, .mq]⟩,
    ⟨[0x01, 0xc2, 0x1b], [.vex, .prefF3, .immOp], [.avx], none, [.yo, .yo, .yo]⟩]⟩,
  ⟨"VCMPFALSEPD", [
    ⟨[0x01, 0xc2, 0x0b], [.withVexL, .vex, .pref66, .immOp], [.avx], none, [.yh, .yh, .wh]⟩,
    ⟨[0x01, 0xc2, 0x0b], [.vex, .immOp, .pref66], [.avx], none, [.yo, .yo, .wo]⟩]⟩,
  ⟨"VCMPFALSEPS", [
    ⟨[0x01, 0xc2, 0x0b], [.vex, .autoVexL, .immOp], [.avx], none, [.ya, .ya, .wa]⟩]⟩,
  ⟨"VCMPFALSESD", [
    ⟨[0x01, 0xc2, 0x0b], [.vex, .immOp, .prefF2], [.avx], none, [.yo, .yo, .mq]⟩,
    ⟨[0x01, 0xc2, 0x0b], [.vex, .immOp, .prefF2], [.avx], none, [.yo, .yo, .yo]⟩]⟩,
  ⟨"VCMPFALSESS", [
    ⟨[0x01, 0xc2, 0x0b], [.vex, .immOp, .prefF3], [.avx], none, [.yo, .yo, .mq]⟩,
    ⟨[0x01, 0xc2, 0x0b], [.vex, .immOp, .prefF3], [.avx], none, [.yo, .yo, .yo]⟩]⟩,
  ⟨"VCMPGE_OQPD", [
    ⟨[0x01, 0xc2, 0x1d], [.withVexL, .vex, .pref66, .immOp], [.avx], none, [.yh, .yh, .wh]⟩,
    ⟨[0x01, 0xc2, 0x1d], [.vex, .immOp, .pref66], [.avx], none, [.yo, .yo, .wo]⟩]⟩,
  ⟨"VCMPGE_OQPS", [
    ⟨[0x01, 0xc2, 0x1d], [.vex, .autoVexL, .immOp], [.avx], none, [.ya, .ya, .wa]⟩]⟩,
  ⟨"VCMPGE_OQSD", [
    ⟨[0x01, 0xc2, 0x1d], [.vex, .immOp, .prefF2], [.avx], none, [.yo, .yo, .mq]⟩,
    ⟨[0x01, 0xc2, 0x1d], [.vex, .immOp, .prefF2], [.avx], none, [.yo, .yo, .yo]⟩]⟩,
  ⟨"VCMPGE_OQSS", [
    ⟨[0x01, 0xc2, 0x1d], [.vex, .immOp, .prefF3], [.avx], none, [.yo, .yo, .mq]⟩,
    ⟨[0x01, 0xc2, 0x1d], [.vex, .immOp, .prefF3], [.avx], none, [.yo, .yo, .yo]⟩]⟩,
  ⟨"VCMPGE_OSPD", [
    ⟨[0x01, 0xc2, 0x0d], [.vex, .autoVexL, .pref66, .immOp], [.avx], none, [.ya, .ya, .wa]⟩]⟩,
  ⟨"VCMPGE_OSPS", [
    ⟨[0x01, 0xc2, 0x0d], [.vex, .autoVexL, .immOp], [.avx], none, [.ya, .ya, .wa]⟩]⟩,
  ⟨"VCMPGE_OSSD", [
    ⟨[0x01, 0xc2, 0x0d], [.vex, .prefF2, .immOp], [.avx], none, [.yo, .yo, .mq]⟩,
    ⟨[0x01, 0xc2, 0x0d], [.vex, .prefF2, .immOp], [.avx], none, [.yo, .yo, .yo]⟩]⟩,
  ⟨"VCMPGE_OSSS", [
    ⟨[0x01, 0xc2, 0x0d], [.vex, .immOp, .prefF3], [.avx], none, [.yo, .yo, .mq]⟩,
    ⟨[0x01, 0xc2, 0x0d], [.vex, .immOp, .prefF3], [.avx], none, [.yo, .yo, .yo]⟩]⟩,
  ⟨"VCMPGEPD", [
    ⟨[0x01, 0xc2, 0x0d], [.vex, .autoVexL, .immOp, .pref66], [.avx], none, [.ya, .ya, .wa]⟩]⟩,
  ⟨"VCMPGEPS", [
    ⟨[0x01, 0xc2, 0x0d], [.vex, .autoVexL, .immOp], [.avx], none, [.ya, .ya, .wa]⟩]⟩,
  ⟨"VCMPGESD", [
    ⟨[0x01, 0xc2, 0x0d], [.vex, .immOp, .prefF2], [.avx], none, [.yo, .yo, .mq]⟩,
    ⟨[0x01, 0xc2, 0x0d], [.vex, .immOp, .prefF2], [.avx], none, [.yo, .yo, .yo]⟩]⟩,
  ⟨"VCMPGESS", [
    ⟨[0x01, 0xc2, 0x0d], [.vex, .immOp, .prefF3], [.avx], none, [.yo, .yo, .mq]⟩,
    ⟨[0x01, 0xc2, 0x0d], [.vex, .immOp, .prefF3], [.avx], none, [.yo, .yo, .yo]⟩]⟩,
  ⟨"VCMPGT_OQPD", [
    ⟨[0x01, 0xc2, 0x1e], [.vex, .autoVexL, .immOp, .pref66], [.avx], none, [.ya, .ya, .wa]⟩]⟩,
  ⟨"VCMPGT_OQPS", [
    ⟨[0x01, 0xc2, 0x1e], [.vex, .autoVexL, .immOp], [.avx], none, [.ya, .ya, .wa]⟩]⟩,
  ⟨"VCMPGT_OQSD", [
    ⟨[0x01, 0xc2, 0x1e], [.vex, .prefF2, .immOp], [.avx], none, [.yo, .yo, .mq]⟩,
    ⟨[0x01, 0xc2, 0x1e], [.vex, .prefF2, .immOp], [.avx], none, [.yo, .yo, .yo]⟩]⟩,
  ⟨"VCMPGT_OQSS", [
    ⟨[0x01, 0xc2, 0x1e], [.vex, .prefF3, .immOp], [.avx], none, [.yo, .yo, .mq]⟩,
    ⟨[0x01, 0xc2, 0x1e], [.vex, .prefF3, .immOp], [.avx], none, [.yo, .yo, .yo]⟩]⟩,
  ⟨"VCMPGT_OSPD", [
    ⟨[0x01, 0xc2, 0x0e], [.vex, .autoVexL, .immOp, .pref66], [.avx], none, [.ya, .ya, .wa]⟩]⟩,
  ⟨"VCMPGT_OSPS", [
    ⟨[0x01, 0xc2, 0x0e], [.vex, .autoVexL, .immOp], [.avx], none, [.ya, .ya, .wa]⟩]⟩,
  ⟨"VCMPGT_OSSD", [
    ⟨[0x01, 0xc2, 0x0e], [.vex, .prefF2, .immOp], [.avx], none, [.yo, .yo, .mq]⟩,
    ⟨[0x01, 0xc2, 0x0e], [.vex, .prefF2, .immOp], [.avx], none, [.yo, .yo, .yo]⟩]⟩,
  ⟨"VCMPGT_OSSS", [
    ⟨[0x01, 0xc2, 0x0e], [.vex, .prefF3, .immOp], [.avx], none, [.yo, .yo, .mq]⟩,
    ⟨[0x01, 0xc2, 0x0e], [.vex, .prefF3, .immOp], [.avx], none, [.yo, .yo, .yo]⟩]⟩,
  ⟨"VCMPGTPD", [
    ⟨[0x01, 0xc2, 0x0e], [.withVexL, .vex, .pref66, .immOp], [.avx], none, [.yh, .yh, .wh]⟩,
    ⟨[0x01, 0xc2, 0x0e], [.vex, .immOp, .pref66], [.avx], none, [.yo, .yo, .wo]⟩]⟩,
  ⟨"VCMPGTPS", [
    ⟨[0x01, 0xc2, 0x0e], [.vex, .autoVexL, .immOp], [.avx], none, [.ya, .ya, .wa]⟩]⟩,
  ⟨"VCMPGTSD", [
    ⟨[0x01, 0xc2, 0x0e], [.vex, .immOp, .prefF2], [.avx], none, [.yo, .yo, .mq]⟩,
    ⟨[0x01, 0xc2, 0x0e], [.vex, .immOp, .prefF2], [.avx], none, [.yo, .yo, .yo]⟩]⟩,
  ⟨"VCMPGTSS", [
    ⟨[0x01, 0xc2, 0x0e], [.vex, .immOp, .prefF3], [.avx], none, [.yo, .yo, .mq]⟩,
    ⟨[0x01, 0xc2, 0x0e], [.vex, .immOp, .prefF3], [.avx], none, [.yo, .yo, .yo]⟩]⟩,
  ⟨"VCMPLE_OQPD", [
    ⟨[0x01, 0xc2, 0x12], [.withVexL, .vex, .immOp, .pref66], [.avx], none, [.yh, .yh, .wh]⟩,
    ⟨[0x01, 0xc2, 0x12], [.vex, .pref66, .immOp], [.avx], none, [.yo, .yo, .wo]⟩]⟩,
  ⟨"VCMPLE_OQPS", [
    ⟨[0x01, 0xc2, 0x12], [.vex, .autoVexL, .immOp], [.avx], none, [.ya, .ya, .wa]⟩]⟩,
  ⟨"VCMPLE_OQSD", [
    ⟨[0x01, 0xc2, 0x12], [.vex, .immOp, .prefF2], [.avx], none, [.yo, .yo, .mq]⟩,
    ⟨[0x01, 0xc2, 0x12], [.vex, .immOp, .prefF2], [.avx], none, [.yo, .yo, .yo]⟩]⟩,
  ⟨"VCMPLE_OQSS", [
    ⟨[0x01, 0xc2, 0x12], [.vex, .prefF3, .immOp], [.avx], none, [.yo, .yo, .mq]⟩,
    ⟨[0x01, 0xc2, 0x12], [.vex, .prefF3, .immOp], [.avx], none, [.yo, .yo, .yo]⟩]⟩,
  ⟨"VCMPLE_OSPD", [
    ⟨[0x01, 0xc2, 0x02], [.vex, .autoVexL, .immOp, .pref66], [.avx], none, [.ya, .ya, .wa]⟩]⟩,
  ⟨"VCMPLE_OSPS", [
    ⟨[0x01, 0xc2, 0x02], [.vex, .autoVexL, .immOp], [.avx], none, [.ya, .ya, .wa]⟩]⟩,
  ⟨"VCMPLE_OSSD", [
    ⟨[0x01, 0xc2, 0x02], [.vex, .prefF2, .immOp], [.avx], none, [.yo, .yo, .mq]⟩,
    ⟨[0x01, 0xc2, 0x02], [.vex, .prefF2, .immOp], [.avx], none, [.yo, .yo, .yo]⟩]⟩,
  ⟨"VCMPLE_OSSS", [
    ⟨[0x01, 0xc2, 0x02], [.vex, .immOp, .prefF3], [.avx], none, [.yo, .yo, .mq]⟩,
    ⟨[0x01, 0xc2, 0x02], [.vex, .immOp, .prefF3], [.avx], none, [.yo, .yo, .yo]⟩]⟩,
  ⟨"VCMPLEPD", [
    ⟨[0x01, 0xc2, 0x02], [.withVexL, .vex, .immOp, .pref66], [.avx], none, [.yh, .yh, .wh]⟩,
    ⟨[0x01, 0xc2, 0x02], [.vex, .pref66, .immOp], [.avx], none, [.yo, .yo, .wo]⟩]⟩,
  ⟨"VCMPLEPS", [
    ⟨[0x01, 0xc2, 0x02], [.vex, .autoVexL, .immOp], [.avx], none, [.ya, .ya, .wa]⟩]⟩,
  ⟨"VCMPLESD", [
    ⟨[0x01, 0xc2, 0x02], [.vex, .prefF2, .immOp], [.avx], none, [.yo, .yo, .mq]⟩,
    ⟨[0x01, 0xc2, 0x02], [.vex, .prefF2, .immOp], [.avx], none, [.yo, .yo, .yo]⟩]⟩,
  ⟨"VCMPLESS", [
    ⟨[0x01, 0xc2, 0x02], [.vex, .immOp, .prefF3], [.avx], none, [.yo, .yo, .mq]⟩,
    ⟨[0x01, 0xc2, 0x02], [.vex, .immOp, .prefF3], [.avx], none, [.yo, .yo, .yo]⟩]⟩,
  ⟨"VCMPLT_OQPD", [
    ⟨[0x01, 0xc2, 0x11], [.vex, .autoVexL, .pref66, .immOp], [.avx], none, [.ya, .ya, .wa]⟩]⟩,
  ⟨"VCMPLT_OQPS", [
    ⟨[0x01, 0xc2, 0x11], [.vex, .autoVexL, .immOp], [.avx], none, [.ya, .ya, .wa]⟩]⟩,
  ⟨"VCMPLT_OQSD", [
    ⟨[0x01, 0xc2, 0x11], [.vex, .immOp, .prefF2], [.avx], none, [.yo, .yo, .mq]⟩,
    ⟨[0x01, 0xc2, 0x11], [.vex, .immOp, .prefF2], [.avx], none, [.yo, .yo, .yo]⟩]⟩,
  ⟨"VCMPLT_OQSS", [
    ⟨[0x01, 0xc2, 0x11], [.vex, .prefF3, .immOp], [.avx], none, [.yo, .yo, .mq]⟩,
    ⟨[0x01, 0xc2, 0x11], [.vex, .prefF3, .immOp], [.avx], none, [.yo, .yo, .yo]⟩]⟩,
  ⟨"VCMPLT_OSPD", [
    ⟨[0x01, 0xc2, 0x01], [.withVexL, .vex, .immOp, .pref66], [.avx], none, [.yh, .yh, .wh]⟩,
    ⟨[0x01, 0xc2, 0x01], [.vex, .pref66, .immOp], [.avx], none, [.yo, .yo, .wo]⟩]⟩,
  ⟨"VCMPLT_OSPS", [
    ⟨[0x01, 0xc2, 0x01], [.vex, .autoVexL, .immOp], [.avx], none, [.ya, .ya, .wa]⟩]⟩,
  ⟨"VCMPLT_OSSD", [
    ⟨[0x01, 0xc2, 0x01], [.vex, .prefF2, .immOp], [.avx], none, [.yo, .yo, .mq]⟩,
    ⟨[0x01, 0xc2, 0x01], [.vex, .prefF2, .immOp], [.avx], none, [.yo, .yo, .yo]⟩]⟩,
  ⟨"VCMPLT_OSSS", [
    ⟨[0x01, 0xc2, 0x01], [.vex, .prefF3, .immOp], [.avx], none, [.yo, .yo, .mq]⟩,
    ⟨[0x01, 0xc2, 0x01], [.vex, .prefF3, .immOp], [.avx], none, [.yo, .yo, .yo]⟩]⟩,
  ⟨"VCMPLTPD", [
    ⟨[0x01, 0xc2, 0x01], [.withVexL, .vex, .immOp, .pref66], [.avx], none, [.yh, .yh, .wh]⟩,
    ⟨[0x01, 0xc2, 0x01], [.vex, .pref66, .immOp], [.avx], none, [.yo, .yo, .wo]⟩]⟩,
  ⟨"VCMPLTPS", [
    ⟨[0x01, 0xc2, 0x01], [.vex, .autoVexL, .immOp], [.avx], none, [.ya, .ya, .wa]⟩]⟩,
  ⟨"VCMPLTSD", [
    ⟨[0x01, 0xc2, 0x01], [.vex, .prefF2, .immOp], [.avx], none, [.yo, .yo, .mq]⟩,
    ⟨[0x01, 0xc2, 0x01], [.vex, .prefF2, .immOp], [.avx], none, [.yo, .yo, .yo]⟩]⟩,
  ⟨"VCMPLTSS", [
    ⟨[0x01, 0xc2, 0x01], [.vex, .immOp, .prefF3], [.avx], none, [.yo, .yo, .mq]⟩,
    ⟨[0x01, 0xc2, 0x01], [.vex, .immOp, .prefF3], [.avx], none, [.yo, .yo, .yo]⟩]⟩,
  ⟨"VCMPNEQ_OQPD", [
    ⟨[0x01, 0xc2, 0x0c], [.withVexL, .vex, .immOp, .pref66], [.avx], none, [.yh, .yh, .wh]⟩,
    ⟨[0x01, 0xc2, 0x0c], [.vex, .pref66, .immOp], [.avx], none, [.yo, .yo, .wo]⟩]⟩,
  ⟨"VCMPNEQ_OQPS", [
    ⟨[0x01, 0xc2, 0x0c], [.vex, .autoVexL, .immOp], [.avx], none, [.ya, .ya, .wa]⟩]⟩,
  ⟨"VCMPNEQ_OQSD", [
    ⟨[0x01, 0xc2, 0x0c], [.vex, .immOp, .prefF2], [.avx], none, [.yo, .yo, .mq]⟩,
    ⟨[0x01, 0xc2, 0x0c], [.vex, .immOp, .prefF2], [.avx], none, [.yo, .yo, .yo]⟩]⟩,
  ⟨"VCMPNEQ_OQSS", [
    ⟨[0x01, 0xc2, 0x0c], [.vex, .prefF3, .immOp], [.avx], none, [.yo, .yo, .mq]⟩,
    ⟨[0x01, 0xc2, 0x0c], [.vex, .prefF3, .immOp], [.avx], none, [.yo, .yo, .yo]⟩]⟩,
  ⟨"VCMPNEQ_OSPD", [
    ⟨[0x01, 0xc2, 0x1c], [.withVexL, .vex, .pref66, .immOp], [.avx], none, [.yh, .yh, .wh]⟩,
    ⟨[0x01, 0xc2, 0x1c], [.vex, .immOp, .pref66], [.avx], none, [.yo, .yo, .wo]⟩]⟩,
  ⟨"VCMPNEQ_OSPS", [
    ⟨[0x01, 0xc2, 0x1c], [.vex, .autoVexL, .immOp], [.avx], none, [.ya, .ya, .wa]⟩]⟩,
  ⟨"VCMPNEQ_OSSD", [
    ⟨[0x01, 0xc2, 0x1c], [.vex, .prefF2, .immOp], [.avx], none, [.yo, .yo, .mq]⟩,
    ⟨[0x01, 0xc2, 0x1c], [.vex, .prefF2, .immOp], [.avx], none, [.yo, .yo, .yo]⟩]⟩,
  ⟨"VCMPNEQ_OSSS", [
    ⟨[0x01, 0xc2, 0x1c], [.vex, .immOp, .prefF3], [.avx], none, [.yo, .yo, .mq]⟩,
    ⟨[0x01, 0xc2, 0x1c], [.vex, .immOp, .prefF3], [.avx], none, [.yo, .yo, .yo]⟩]⟩,
  ⟨"VCMPNEQ_UQPD", [
    ⟨[0x01, 0xc2, 0x04], [.vex, .autoVexL, .pref66, .immOp], [.avx], none, [.ya, .ya, .wa]⟩]⟩,
  ⟨"VCMPNEQ_UQPS", [
    ⟨[0x01, 0xc2, 0x04], [.vex, .autoVexL, .immOp], [.avx], none, [.ya, .ya, .wa]⟩]⟩,
  ⟨"VCMPNEQ_UQSD", [
    ⟨[0x01, 0xc2, 0x04], [.vex, .immOp, .prefF2], [.avx], none, [.yo, .yo, .mq]⟩,
    ⟨[0x01, 0xc2, 0x04], [.vex, .immOp, .prefF2], [.avx], none, [.yo, .yo, .yo]⟩]⟩,
  ⟨"VCMPNEQ_UQSS", [
    ⟨[0x01, 0xc2, 0x04], [.vex, .immOp, .prefF3], [.avx], none, [.yo, .yo, .mq]⟩,
    ⟨[0x01, 0xc2, 0x04], [.vex, .immOp, .prefF3], [.avx], none, [.yo, .yo, .yo]⟩]⟩,
  ⟨"VCMPNEQ_USPD", [
    ⟨[0x01, 0xc2, 0x14], [.withVexL, .vex, .immOp, .pref66], [.avx], none, [.yh, .yh, .wh]⟩,
    ⟨[0x01, 0xc2, 0x14], [.vex, .pref66, .immOp], [.avx], none, [.yo, .yo, .wo]⟩]⟩,
  ⟨"VCMPNEQ_USPS", [
    ⟨[0x01, 0xc2, 0x14], [.vex, .autoVexL, .immOp], [.avx], none, [.ya, .ya, .wa]⟩]⟩,
  ⟨"VCMPNEQ_USSD", [
    ⟨[0x01, 0xc2, 0x14], [.vex, .immOp, .prefF2], [.avx], none, [.yo, .yo, .mq]⟩,
    ⟨[0x01, 0xc2, 0x14], [.vex, .immOp, .prefF2], [.avx], none, [.yo, .yo, .yo]⟩]⟩,
  ⟨"VCMPNEQ_USSS", [
    ⟨[0x01, 0xc2, 0x14], [.vex, .immOp, .prefF3], [.avx], none, [.yo, .yo, .mq]⟩,
    ⟨[0x01, 0xc2, 0x14], [.vex, .immOp, .prefF3], [.avx], none, [.yo, .yo, .yo]⟩]⟩,
  ⟨"VCMPNEQPD", [
    ⟨[0x01, 0xc2, 0x04], [.withVexL, .vex, .pref66, .immOp], [.avx], none, [.yh, .yh, .wh]⟩,
    ⟨[0x01, 0xc2, 0x04], [.vex, .immOp, .pref66], [.avx], none, [.yo, .yo, .wo]⟩]⟩,
  ⟨"VCMPNEQPS", [
    ⟨[0x01, 0xc2, 0x04], [.vex, .autoVexL, .immOp], [.avx], none, [.ya, .ya, .wa]⟩]⟩,
  ⟨"VCMPNEQSD", [
    ⟨[0x01, 0xc2, 0x04], [.vex, .prefF2, .immOp], [.avx], none, [.yo, .yo, .mq]⟩,
    ⟨[0x01, 0xc2, 0x04], [.vex, .prefF2, .immOp], [.avx], none, [.yo, .yo, .yo]⟩]⟩,
  ⟨"VCMPNEQSS", [
    ⟨[0x01, 0xc2, 0x04], [.vex, .prefF3, .immOp], [.avx], none, [.yo, .yo, .mq]⟩,
    ⟨[0x01, 0xc2, 0x04], [.vex, .prefF3, .immOp], [.avx], none, [.yo, .yo, .yo]⟩]⟩,
  ⟨"VCMPNGE_UQPD", [
    ⟨[0x01, 0xc2, 0x19], [.vex, .autoVexL, .pref66, .immOp], [.avx], none, [.ya, .ya, .wa]⟩]⟩,
  ⟨"VCMPNGE_UQPS", [
    ⟨[0x01, 0xc2, 0x19], [.vex, .autoVexL, .immOp], [.avx], none, [.ya, .ya, .wa]⟩]⟩,
  ⟨"VCMPNGE_UQSD", [
    ⟨[0x01, 0xc2, 0x19], [.vex, .prefF2, .immOp], [.avx], none, [.yo, .yo, .mq]⟩,
    ⟨[0x01, 0xc2, 0x19], [.vex, .prefF2, .immOp], [.avx], none, [.yo, .yo, .yo]⟩]⟩,
  ⟨"VCMPNGE_UQSS", [
    ⟨[0x01, 0xc2, 0x19], [.vex, .immOp, .prefF3], [.avx], none, [.yo, .yo, .mq]⟩,
    ⟨[0x01, 0xc2, 0x19], [.vex, .immOp, .prefF3], [.avx], none, [.yo, .yo, .yo]⟩]⟩,
  ⟨"VCMPNGE_USPD", [
    ⟨[0x01, 0xc2, 0x09], [.vex, .autoVexL, .immOp, .pref66], [.avx], none, [.ya, .ya, .wa]⟩]⟩,
  ⟨"VCMPNGE_USPS", [
    ⟨[0x01, 0xc2, 0x09], [.vex, .autoVexL, .immOp], [.avx], none, [.ya, .ya, .wa]⟩]⟩,
  ⟨"VCMPNGE_USSD", [
    ⟨[0x01, 0xc2, 0x09], [.vex, .prefF2, .immOp], [.avx], none, [.yo, .yo, .mq]⟩,
    ⟨[0x01, 0xc2, 0x09], [.vex, .prefF2, .immOp], [.avx], none, [.yo, .yo, .yo]⟩]⟩,
  ⟨"VCMPNGE_USSS", [
    ⟨[0x01, 0xc2, 0x09], [.vex, .prefF3, .immOp], [.avx], none, [.yo, .yo, .mq]⟩,
    ⟨[0x01, 0xc2, 0x09], [.vex, .prefF3, .immOp], [.avx], none, [.yo, .yo, .yo]⟩]⟩,
  ⟨"VCMPNGEPD", [
    ⟨[0x01, 0xc2, 0x09], [.withVexL, .vex, .pref66, .immOp], [.avx], none, [.yh, .yh, .wh]⟩,
    ⟨[0x01, 0xc2, 0x09], [.vex, .immOp, .pref66], [.avx], none, [.yo, .yo, .wo]⟩]⟩,
  ⟨"VCMPNGEPS", [
    ⟨[0x01, 0xc2, 0x09], [.vex, .autoVexL, .immOp], [.avx], none, [.ya, .ya, .wa]⟩]⟩,
  ⟨"VCMPNGESD", [
    ⟨[0x01, 0xc2, 0x09], [.vex, .immOp, .prefF2], [.avx], none, [.yo, .yo, .mq]⟩,
    ⟨[0x01, 0xc2, 0x09], [.vex, .immOp, .prefF2], [.avx], none, [.yo, .yo, .yo]⟩]⟩,
  ⟨"VCMPNGESS", [
    ⟨[0x01, 0xc2, 0x09], [.vex, .immOp, .prefF3], [.avx], none, [.yo, .yo, .mq]⟩,
    ⟨[0x01, 0xc2, 0x09], [.vex, .immOp, .prefF3], [.avx], none, [.yo, .yo, .yo]⟩]⟩,
  ⟨"VCMPNGT_UQPD", [
    ⟨[0x01, 0xc2, 0x1a], [.vex, .autoVexL, .pref66, .immOp], [.avx], none, [.ya, .ya, .wa]⟩]⟩,
  ⟨"VCMPNGT_UQPS", [
    ⟨[0x01, 0xc2, 0x1a], [.vex, .autoVexL, .immOp], [.avx], none, [.ya, .ya, .wa]⟩]⟩,
  ⟨"VCMPNGT_UQSD", [
    ⟨[0x01, 0xc2, 0x1a], [.vex, .prefF2, .immOp], [.avx], none, [.yo, .yo, .mq]⟩,
    ⟨[0x01, 0xc2, 0x1a], [.vex, .prefF2, .immOp], [.avx], none, [.yo, .yo, .yo]⟩]⟩,
  ⟨"VCMPNGT_UQSS", [
    ⟨[0x01, 0xc2, 0x1a], [.vex, .immOp, .prefF3], [.avx], none, [.yo, .yo, .mq]⟩,
    ⟨[0x01, 0xc2, 0x1a], [.vex, .immOp, .prefF3], [.avx], none, [.yo, .yo, .yo]⟩]⟩,
  ⟨"VCMPNGT_USPD", [
    ⟨[0x01, 0xc2, 0x0a], [.vex, .autoVexL, .pref66, .immOp], [.avx], none, [.ya, .ya, .wa]⟩]⟩,
  ⟨"VCMPNGT_USPS", [
    ⟨[0x01, 0xc2, 0x0a], [.vex, .autoVexL, .immOp], [.avx], none, [.ya, .ya, .wa]⟩]⟩,
  ⟨"VCMPNGT_USSD", [
    ⟨[0x01, 0xc2, 0x0a], [.vex, .prefF2, .immOp], [.avx], none, [.yo, .yo, .mq]⟩,
    ⟨[0x01, 0xc2, 0x0a], [.vex, .prefF2, .immOp], [.avx], none, [.yo, .yo, .yo]⟩]⟩,
  ⟨"VCMPNGT_USSS", [
    ⟨[0x01, 0xc2, 0x0a], [.vex, .immOp, .prefF3], [.avx], none, [.yo, .yo, .mq]⟩,
    ⟨[0x01, 0xc2, 0x0a], [.vex, .immOp, .prefF3], [.avx], none, [.yo, .yo, .yo]⟩]⟩,
  ⟨"VCMPNGTPD", [
    ⟨[0x01, 0xc2, 0x0a], [.vex, .autoVexL, .immOp, .pref66], [.avx], none, [.ya, .ya, .wa]⟩]⟩,
  ⟨"VCMPNGTPS", [
    ⟨[0x01, 0xc2, 0x0a], [.vex, .autoVexL, .immOp], [.avx], none, [.ya, .ya, .wa]⟩]⟩,
  ⟨"VCMPNGTSD", [
    ⟨[0x01, 0xc2, 0x0a], [.vex, .immOp, .prefF2], [.avx], none, [.yo, .yo, .mq]⟩,
    ⟨[0x01, 0xc2, 0x0a], [.vex, .immOp, .prefF2], [.avx], none, [.yo, .yo, .yo]⟩]⟩,
  ⟨"VCMPNGTSS", [
    ⟨[0x01, 0xc2, 0x0a], [.vex, .prefF3, .immOp], [.avx], none, [.yo, .yo, .mq]⟩,
    ⟨[0x01, 0xc2, 0x0a], [.vex, .prefF3, .immOp], [.avx], none, [.yo, .yo, .yo]⟩]⟩,
  ⟨"VCMPNLE_UQPD", [
    ⟨[0x01, 0xc2, 0x16], [.vex, .autoVexL, .pref66, .immOp], [.avx], none, [.ya, .ya, .wa]⟩]⟩,
  ⟨"VCMPNLE_UQPS", [
    ⟨[0x01, 0xc2, 0x16], [.vex, .autoVexL, .immOp], [.avx], none, [.ya, .ya, .wa]⟩]⟩,
  ⟨"VCMPNLE_UQSD", [
    ⟨[0x01, 0xc2, 0x16], [.vex, .prefF2, .immOp], [.avx], none, [.yo, .yo, .mq]⟩,
    ⟨[0x01, 0xc2, 0x16], [.vex, .prefF2, .immOp], [.avx], none, [.yo, .yo, .yo]⟩]⟩,
  ⟨"VCMPNLE_UQSS", [
    ⟨[0x01, 0xc2, 0x16], [.vex, .prefF3, .immOp], [.avx], none, [.yo, .yo, .mq]⟩,
    ⟨[0x01, 0xc2, 0x16], [.vex, .prefF3, .immOp], [.avx], none, [.yo, .yo, .yo]⟩]⟩,
  ⟨"VCMPNLE_USPD", [
    ⟨[0x01, 0xc2, 0x06], [.withVexL, .vex, .immOp, .pref66], [.avx], none, [.yh, .yh, .wh]⟩,
    ⟨[0x01, 0xc2, 0x06], [.vex, .pref66, .immOp], [.avx], none, [.yo, .yo, .wo]⟩]⟩,
  ⟨"VCMPNLE_USPS", [
    ⟨[0x01, 0xc2, 0x06], [.vex, .autoVexL, .immOp], [.avx], none, [.ya, .ya, .wa]⟩]⟩,
  ⟨"VCMPNLE_USSD", [
    ⟨[0x01, 0xc2, 0x06], [.vex, .prefF2, .immOp], [.avx], none, [.yo, .yo, .mq]⟩,
    ⟨[0x01, 0xc2, 0x06], [.vex, .prefF2, .immOp], [.avx], none, [.yo, .yo, .yo]⟩]⟩,
  ⟨"VCMPNLE_USSS", [
    ⟨[0x01, 0xc2, 0x06], [.vex, .prefF3, .immOp], [.avx], none, [.yo, .yo, .mq]⟩,
    ⟨[0x01, 0xc2, 0x06], [.vex, .prefF3, .immOp], [.avx], none, [.yo, .yo, .yo]⟩]⟩,
  ⟨"VCMPNLEPD", [
    ⟨[0x01, 0xc2, 0x06], [.vex, .autoVexL, .immOp, .pref66], [.avx], none, [.ya, .ya, .wa]⟩]⟩,
  ⟨"VCMPNLEPS", [
    ⟨[0x01, 0xc2, 0x06], [.vex, .autoVexL, .immOp], [.avx], none, [.ya, .ya, .wa]⟩]⟩,
  ⟨"VCMPNLESD", [
    ⟨[0x01, 0xc2, 0x06], [.vex, .immOp, .prefF2], [.avx], none, [.yo, .yo, .mq]⟩,
    ⟨[0x01, 0xc2, 0x06], [.vex, .immOp, .prefF2], [.avx], none, [.yo, .yo, .yo]⟩]⟩,
  ⟨"VCMPNLESS", [
    ⟨[0x01, 0xc2, 0x06], [.vex, .prefF3, .immOp], [.avx], none, [.yo, .yo, .mq]⟩,
    ⟨[0x01, 0xc2, 0x06], [.vex, .prefF3, .immOp], [.avx], none, [.yo, .yo, .yo]⟩]⟩,
  ⟨"VCMPNLT_UQPD", [
    ⟨[0x01, 0xc2, 0x15], [.withVexL, .vex, .immOp, .pref66], [.avx], none, [.yh, .yh, .wh]⟩,
    ⟨[0x01, 0xc2, 0x15], [.vex, .pref66, .immOp], [.avx], none, [.yo, .yo, .wo]⟩]⟩,
  ⟨"VCMPNLT_UQPS", [
    ⟨[0x01, 0xc2, 0x15], [.vex, .autoVexL, .immOp], [.avx], none, [.ya, .ya, .wa]⟩]⟩,
  ⟨"VCMPNLT_UQSD", [
    ⟨[0x01, 0xc2, 0x15], [.vex, .immOp, .prefF2], [.avx], none, [.yo, .yo, .mq]⟩,
    ⟨[0x01, 0xc2, 0x15], [.vex, .immOp, .prefF2], [.avx], none, [.yo, .yo, .yo]⟩]⟩,
  ⟨"VCMPNLT_UQSS", [
    ⟨[0x01, 0xc2, 0x15], [.vex, .immOp, .prefF3], [.avx], none, [.yo, .yo, .mq]⟩,
    ⟨[0x01, 0xc2, 0x15], [.vex, .immOp, .prefF3], [.avx], none, [.yo, .yo, .yo]⟩]⟩,
  ⟨"VCMPNLT_USPD", [
    ⟨[0x01, 0xc2, 0x05], [.vex, .autoVexL, .immOp, .pref66], [.avx], none, [.ya, .ya, .wa]⟩]⟩,
  ⟨"VCMPNLT_USPS", [
    ⟨[0x01, 0xc2, 0x05], [.vex, .autoVexL, .immOp], [.avx], none, [.ya, .ya, .wa]⟩]⟩,
  ⟨"VCMPNLT_USSD", [
    ⟨[0x01, 0xc2, 0x05], [.vex, .prefF2, .immOp], [.avx], none, [.yo, .yo, .mq]⟩,
    ⟨[0x01, 0xc2, 0x05], [.vex, .prefF2, .immOp], [.avx], none, [.yo, .yo, .yo]⟩]⟩,
  ⟨"VCMPNLT_USSS", [
    ⟨[0x01, 0xc2, 0x05], [.vex, .prefF3, .immOp], [.avx], none, [.yo, .yo, .mq]⟩,
    ⟨[0x01, 0xc2, 0x05], [.vex, .prefF3, .immOp], [.avx], none, [.yo, .yo, .yo]⟩]⟩,
  ⟨"VCMPNLTPD", [
    ⟨[0x01, 0xc2, 0x05], [.withVexL, .vex, .pref66, .immOp], [.avx], none, [.yh, .yh, .wh]⟩,
    ⟨[0x01, 0xc2, 0x05], [.vex, .immOp, .pref66], [.avx], none, [.yo, .yo, .wo]⟩]⟩,
  ⟨"VCMPNLTPS", [
    ⟨[0x01, 0xc2, 0x05], [.vex, .autoVexL, .immOp], [.avx], none, [.ya, .ya, .wa]⟩]⟩,
  ⟨"VCMPNLTSD", [
    ⟨[0x01, 0xc2, 0x05], [.vex, .prefF2, .immOp], [.avx], none, [.yo, .yo, .mq]⟩,
    ⟨[0x01, 0xc2, 0x05], [.vex, .prefF2, .immOp], [.avx], none, [.yo, .yo, .yo]⟩]⟩,
  ⟨"VCMPNLTSS", [
    ⟨[0x01, 0xc2, 0x05], [.vex, .immOp, .prefF3], [.avx], none, [.yo, .yo, .mq]⟩,
    ⟨[0x01, 0xc2, 0x05], [.vex, .immOp, .prefF3], [.avx], none, [.yo, .yo, .yo]⟩]⟩,
  ⟨"VCMPORD_QPD", [
    ⟨[0x01, 0xc2, 0x07], [.withVexL, .vex, .pref66, .immOp], [.avx], none, [.yh, .yh, .wh]⟩,
    ⟨[0x01, 0xc2, 0x07], [.vex, .immOp, .pref66], [.avx], none, [.yo, .yo, .wo]⟩]⟩,
  ⟨"VCMPORD_QPS", [
    ⟨[0x01, 0xc2, 0x07], [.vex, .autoVexL, .immOp], [.avx], none, [.ya, .ya, .wa]⟩]⟩,
  ⟨"VCMPORD_QSD", [
    ⟨[0x01, 0xc2, 0x07], [.vex, .prefF2, .immOp], [.avx], none, [.yo, .yo, .mq]⟩,
    ⟨[0x01, 0xc2, 0x07], [.vex, .prefF2, .immOp], [.avx], none, [.yo, .yo, .yo]⟩]⟩,
  ⟨"VCMPORD_QSS", [
    ⟨[0x01, 0xc2, 0x07], [.vex, .immOp, .prefF3], [.avx], none, [.yo, .yo, .mq]⟩,
    ⟨[0x01, 0xc2, 0x07], [.vex, .immOp, .prefF3], [.avx], none, [.yo, .yo, .yo]⟩]⟩,
  ⟨"VCMPORD_SPD", [
    ⟨[0x01, 0xc2, 0x17], [.withVexL, .vex, .pref66, .immOp], [.avx], none, [.yh, .yh, .wh]⟩,
    ⟨[0x01, 0xc2, 0x17], [.vex, .immOp, .pref66], [.avx], none, [.yo, .yo, .wo]⟩]⟩,
  ⟨"VCMPORD_SPS", [
    ⟨[0x01, 0xc2, 0x17], [.vex, .autoVexL, .immOp], [.avx], none, [.ya, .ya, .wa]⟩]⟩,
  ⟨"VCMPORD_SSD", [
    ⟨[0x01, 0xc2, 0x17], [.vex, .immOp, .prefF2], [.avx], none, [.yo, .yo, .mq]⟩,
    ⟨[0x01, 0xc2, 0x17], [.vex, .immOp, .prefF2], [.avx], none, [.yo, .yo, .yo]⟩]⟩,
  ⟨"VCMPORD_SSS", [
    ⟨[0x01, 0xc2, 0x17], [.vex, .prefF3, .immOp], [.avx], none, [.yo, .yo, .mq]⟩,
    ⟨[0x01, 0xc2, 0x17], [.vex, .prefF3, .immOp], [.avx], none, [.yo, .yo, .yo]⟩]⟩,
  ⟨"VCMPORDPD", [
    ⟨[0x01, 0xc2, 0x07], [.withVexL, .vex, .immOp, .pref66], [.avx], none, [.yh, .yh, .wh]⟩,
    ⟨[0x01, 0xc2, 0x07], [.vex, .pref66, .immOp], [.avx], none, [.yo, .yo, .wo]⟩]⟩,
  ⟨"VCMPORDPS", [
    ⟨[0x01, 0xc2, 0x07], [.vex, .autoVexL, .immOp], [.avx], none, [.ya, .ya, .wa]⟩]⟩,
  ⟨"VCMPORDSD", [
    ⟨[0x01, 0xc2, 0x07], [.vex, .immOp, .prefF2], [.avx], none, [.yo, .yo, .mq]⟩,
    ⟨[0x01, 0xc2, 0x07], [.vex, .immOp, .prefF2], [.avx], none, [.yo, .yo, .yo]⟩]⟩,
  ⟨"VCMPORDSS", [
    ⟨[0x01, 0xc2, 0x07], [.vex, .prefF3, .immOp], [.avx], none, [.yo, .yo, .mq]⟩,
    ⟨[0x01, 0xc2, 0x07], [.vex, .prefF3, .immOp], [.avx], none, [.yo, .yo, .yo]⟩]⟩,
  ⟨"VCMPPD", [
    ⟨[0x01, 0xc2], [.vex, .autoVexL, .encMR, .pref66], [.avx], none, [.ya, .ya, .wa, .ib]⟩]⟩,
  ⟨"VCMPPS", [
    ⟨[0x01, 0xc2], [.vex, .autoVexL, .encMR], [.avx], none, [.ya, .ya, .wa, .ib]⟩]⟩,
  ⟨"VCMPSD", [
    ⟨[0x01, 0xc2], [.vex, .prefF2], [.avx], none, [.yo, .yo, .mq, .ib]⟩,
    ⟨[0x01, 0xc2], [.vex, .prefF2], [.avx], none, [.yo, .yo, .yo, .ib]⟩]⟩,
  ⟨"VCMPSS", [
    ⟨[0x01, 0xc2], [.vex, .prefF3], [.avx], none, [.yo, .yo, .mq, .ib]⟩,
    ⟨[0x01, 0xc2], [.vex, .prefF3], [.avx], none, [.yo, .yo, .yo, .ib]⟩]⟩,
  ⟨"VCMPTRUE_UQPD", [
    ⟨[0x01, 0xc2, 0x0f], [.withVexL, .vex, .immOp, .pref66], [.avx], none, [.yh, .yh, .wh]⟩,
    ⟨[0x01, 0xc2, 0x0f], [.vex, .pref66, .immOp], [.avx], none, [.yo, .yo, .wo]⟩]⟩,
  ⟨"VCMPTRUE_UQPS", [
    ⟨[0x01, 0xc2, 0x0f], [.vex, .autoVexL, .immOp], [.avx], none, [.ya, .ya, .wa]⟩]⟩,
  ⟨"VCMPTRUE_UQSD", [
    ⟨[0x01, 0xc2, 0x0f], [.vex, .prefF2, .immOp], [.avx], none, [.yo, .yo, .mq]⟩,
    ⟨[0x01, 0xc2, 0x0f], [.vex, .prefF2, .immOp], [.avx], none, [.yo, .yo, .yo]⟩]⟩,
  ⟨"VCMPTRUE_UQSS", [
    ⟨[0x01, 0xc2, 0x0f], [.vex, .prefF3, .immOp], [.avx], none, [.yo, .yo, .mq]⟩,
    ⟨[0x01, 0xc2, 0x0f], [.vex, .prefF3, .immOp], [.avx], none, [.yo, .yo, .yo]⟩]⟩,
  ⟨"VCMPTRUE_USPD", [
    ⟨[0x01, 0xc2, 0x1f], [.vex, .autoVexL, .pref66, .immOp], [.avx], none, [.ya, .ya, .wa]⟩]⟩,
  ⟨"VCMPTRUE_USPS", [
    ⟨[0x01, 0xc2, 0x1f], [.vex, .autoVexL, .immOp], [.avx], none, [.ya, .ya, .wa]⟩]⟩,
  ⟨"VCMPTRUE_USSD", [
    ⟨[0x01, 0xc2, 0x1f], [.vex, .prefF2, .immOp], [.avx], none, [.yo, .yo, .mq]⟩,
    ⟨[0x01, 0xc2, 0x1f], [.vex, .prefF2, .immOp], [.avx], none, [.yo, .yo, .yo]⟩]⟩,
  ⟨"VCMPTRUE_USSS", [
    ⟨[0x01, 0xc2, 0x1f], [.vex, .immOp, .prefF3], [.avx], none, [.yo, .yo, .mq]⟩,
    ⟨[0x01, 0xc2, 0x1f], [.vex, .immOp, .prefF3], [.avx], none, [.yo, .yo, .yo]⟩]⟩,
  ⟨"VCMPTRUEPD", [
    ⟨[0x01, 0xc2, 0x0f], [.vex, .autoVexL, .pref66, .immOp], [.avx], none, [.ya, .ya, .wa]⟩]⟩,
  ⟨"VCMPTRUEPS", [
    ⟨[0x01, 0xc2, 0x0f], [.vex, .autoVexL, .immOp], [.avx], none, [.ya, .ya, .wa]⟩]⟩,
  ⟨"VCMPTRUESD", [
    ⟨[0x01, 0xc2, 0x0f], [.vex, .prefF2, .immOp], [.avx], none, [.yo, .yo, .mq]⟩,
    ⟨[0x01, 0xc2, 0x0f], [.vex, .prefF2, .immOp], [.avx], none, [.yo, .yo, .yo]⟩]⟩,
  ⟨"VCMPTRUESS", [
    ⟨[0x01, 0xc2, 0x0f], [.vex, .prefF3, .immOp], [.avx], none, [.yo, .yo, .mq]⟩,
    ⟨[0x01, 0xc2, 0x0f], [.vex, .prefF3, .immOp], [.avx], none, [.yo, .yo, .yo]⟩]⟩,
  ⟨"VCMPUNORD_QPD", [
    ⟨[0x01, 0xc2, 0x03], [.vex, .autoVexL, .pref66, .immOp], [.avx], none, [.ya, .ya, .wa]⟩]⟩,
  ⟨"VCMPUNORD_QPS", [
    ⟨[0x01, 0xc2, 0x03], [.vex, .autoVexL, .immOp], [.avx], none, [.ya, .ya, .wa]⟩]⟩,
  ⟨"VCMPUNORD_QSD", [
    ⟨[0x01, 0xc2, 0x03], [.vex, .immOp, .prefF2], [.avx], none, [.yo, .yo, .mq]⟩,
    ⟨[0x01, 0xc2, 0x03], [.vex, .immOp, .prefF2], [.avx], none, [.yo, .yo, .yo]⟩]⟩,
  ⟨"VCMPUNORD_QSS", [
    ⟨[0x01, 0xc2, 0x03], [.vex, .immOp, .prefF3], [.avx], none, [.yo, .yo, .mq]⟩,
    ⟨[0x01, 0xc2, 0x03], [.vex, .immOp, .prefF3], [.avx], none, [.yo, .yo, .yo]⟩]⟩,
  ⟨"VCMPUNORD_SPD", [
    ⟨[0x01, 0xc2, 0x13], [.vex, .autoVexL, .immOp, .pref66], [.avx], none, [.ya, .ya, .wa]⟩]⟩,
  ⟨"VCMPUNORD_SPS", [
    ⟨[0x01, 0xc2, 0x13], [.vex, .autoVexL, .immOp], [.avx], none, [.ya, .ya, .wa]⟩]⟩,
  ⟨"VCMPUNORD_SSD", [
    ⟨[0x01, 0xc2, 0x13], [.vex, .prefF2, .immOp], [.avx], none, [.yo, .yo, .mq]⟩,
    ⟨[0x01, 0xc2, 0x13], [.vex, .prefF2, .immOp], [.avx], none, [.yo, .yo, .yo]⟩]⟩,
  ⟨"VCMPUNORD_SSS", [
    ⟨[0x01, 0xc2, 0x13], [.vex, .immOp, .prefF3], [.avx], none, [.yo, .yo, .mq]⟩,
    ⟨[0x01, 0xc2, 0x13], [.vex, .immOp, .prefF3], [.avx], none, [.yo, .yo, .yo]⟩]⟩,
  ⟨"VCMPUNORDPD", [
    ⟨[0x01, 0xc2, 0x03], [.withVexL, .vex, .pref66, .immOp], [.avx], none, [.yh, .yh, .wh]⟩,
    ⟨[0x01, 0xc2, 0x03], [.vex, .immOp, .pref66], [.avx], none, [.yo, .yo, .wo]⟩]⟩,
  ⟨"VCMPUNORDPS", [
    ⟨[0x01, 0xc2, 0x03], [.vex, .autoVexL, .immOp], [.avx], none, [.ya, .ya, .wa]⟩]⟩,
  ⟨"VCMPUNORDSD", [
    ⟨[0x01, 0xc2, 0x03], [.vex, .prefF2, .immOp], [.avx], none, [.yo, .yo, .mq]⟩,
    ⟨[0x01, 0xc2, 0x03], [.vex, .prefF2, .immOp], [.avx], none, [.yo, .yo, .yo]⟩]⟩,
  ⟨"VCMPUNORDSS", [
    ⟨[0x01, 0xc2, 0x03], [.vex, .immOp, .prefF3], [.avx], none, [.yo, .yo, .mq]⟩,
    ⟨[0x01, 0xc2, 0x03], [.vex, .immOp, .prefF3], [.avx], none, [.yo, .yo, .yo]⟩]⟩,
  ⟨"VCOMISD", [
    ⟨[0x01, 0x2f], [.vex, .pref66], [.avx], none, [.yo, .mq]⟩,
    ⟨[0x01, 0x2f], [.vex, .pref66], [.avx], none, [.yo, .yo]⟩]⟩,
  ⟨"VCOMISS", [
    ⟨[0x01, 0x2f], [.vex], [.avx], none, [.yo, .md]⟩,
    ⟨[0x01, 0x2f], [.vex], [.avx], none, [.yo, .yo]⟩]⟩,
  ⟨"VCVTDQ2PD", [
    ⟨[0x01, 0xe6], [.vex, .prefF3], [.avx], none, [.yo, .mq]⟩,
    ⟨[0x01, 0xe6], [.vex, .autoVexL, .prefF3], [.avx], none, [.ya, .wo]⟩]⟩,
  ⟨"VCVTDQ2PS", [
    ⟨[0x01, 0x5b], [.vex, .autoVexL], [.avx], none, [.ya, .wa]⟩]⟩,
  ⟨"VCVTPD2DQ", [
    ⟨[0x01, 0xe6], [.vex, .autoVexL, .prefF2], [.avx], none, [.yo, .ma]⟩,
    ⟨[0x01, 0xe6], [.vex, .autoVexL, .prefF2], [.avx], none, [.yo, .ya]⟩]⟩,
  ⟨"VCVTPD2PS", [
    ⟨[0x01, 0x5a], [.vex, .autoVexL, .pref66], [.avx], none, [.yo, .ma]⟩,
    ⟨[0x01, 0x5a], [.vex, .autoVexL, .pref66], [.avx], none, [.yo, .ya]⟩]⟩,
  ⟨"VCVTPH2PS", [
    ⟨[0x02, 0x13], [.vex, .pref66], [.avx], none, [.yo, .mq]⟩,
    ⟨[0x02, 0x13], [.vex, .autoVexL, .pref66], [.avx], none, [.ya, .wo]⟩]⟩,
  ⟨"VCVTPS2DQ", [
    ⟨[0x01, 0x5b], [.vex, .autoVexL, .pref66], [.avx], none, [.ya, .wa]⟩]⟩,
  ⟨"VCVTPS2PD", [
    ⟨[0x01, 0x5a], [.vex], [.avx], none, [.yo, .mq]⟩,
    ⟨[0x01, 0x5a], [.vex, .autoVexL], [.avx], none, [.ya, .wo]⟩]⟩,
  ⟨"VCVTPS2PH", [
    ⟨[0x03, 0x1d], [.vex, .encMR, .pref66], [.avx], none, [.mq, .yo, .ib]⟩,
    ⟨[0x03, 0x1d], [.vex, .autoVexL, .encMR, .pref66], [.avx], none, [.wo, .ya, .ib]⟩]⟩,
  ⟨"VCVTSD2SI", [
    ⟨[0x01, 0x2d], [.vex, .autoRexW, .prefF2], [.avx], none, [.ra, .mq]⟩,
    ⟨[0x01, 0x2d], [.vex, .autoRexW, .prefF2], [.avx], none, [.ra, .yo]⟩]⟩,
  ⟨"VCVTSD2SS", [
    ⟨[0x01, 0x5a], [.vex, .prefF2], [.avx], none, [.yo, .yo, .mq]⟩,
    ⟨[0x01, 0x5a], [.vex, .prefF2], [.avx], none, [.yo, .yo, .yo]⟩]⟩,
  ⟨"VCVTSI2SD", [
    ⟨[0x01, 0x2a], [.vex, .autoRexW, .prefF2], [.avx], none, [.yo, .yo, .va]⟩]⟩,
  ⟨"VCVTSI2SS", [
    ⟨[0x01, 0x2a], [.vex, .autoRexW, .prefF3], [.avx], none, [.yo, .yo, .va]⟩]⟩,
  ⟨"VCVTSS2SD", [
    ⟨[0x01, 0x5a], [.vex, .prefF3], [.avx], none, [.yo, .yo, .md]⟩,
    ⟨[0x01, 0x5a], [.vex, .prefF3], [.avx], none, [.yo, .yo, .yo]⟩]⟩,
  ⟨"VCVTSS2SI", [
    ⟨[0x01, 0x2d], [.vex, .autoRexW, .prefF3], [.avx], none, [.ra, .md]⟩,
    ⟨[0x01, 0x2d], [.vex, .autoRexW, .prefF3], [.avx], none, [.ra, .yo]⟩]⟩,
  ⟨"VCVTTPD2DQ", [
    ⟨[0x01, 0xe6], [.vex, .autoVexL, .pref66], [.avx], none, [.yo, .ma]⟩,
    ⟨[0x01, 0xe6], [.vex, .autoVexL, .pref66], [.avx], none, [.yo, .ya]⟩]⟩,
  ⟨"VCVTTPS2DQ", [
    ⟨[0x01, 0x5b], [.vex, .autoVexL, .prefF3], [.avx], none, [.ya, .wa]⟩]⟩,
  ⟨"VCVTTSD2SI", [
    ⟨[0x01, 0x2c], [.vex, .autoRexW, .prefF2], [.avx], none, [.ra, .mq]⟩,
    ⟨[0x01, 0x2c], [.vex, .autoRexW, .prefF2], [.avx], none, [.ra, .yo]⟩]⟩,
  ⟨"VCVTTSS2SI", [
    ⟨[0x01, 0x2c], [.vex, .autoRexW, .prefF3], [.avx], none, [.ra, .md]⟩,
    ⟨[0x01, 0x2c], [.vex, .autoRexW, .prefF3], [.avx], none, [.ra, .yo]⟩]⟩]

def namesVD : List Family := [
  ⟨"VDIVPD", [
    ⟨[0x01, 0x5e], [.vex, .autoVexL, .pref66], [.avx], none, [.ya, .ya, .wa]⟩]⟩,
  ⟨"VDIVPS", [
    ⟨[0x01, 0x5e], [.vex, .autoVexL], [.avx], none, [.ya, .ya, .wa]⟩]⟩,
  ⟨"VDIVSD", [
    ⟨[0x01, 0x5e], [.vex, .prefF2], [.avx], none, [.yo, .yo, .mq]⟩,
    ⟨[0x01, 0x5e], [.vex, .prefF2], [.avx], none, [.yo, .yo, .yo]⟩]⟩,
  ⟨"VDIVSS", [
    ⟨[0x01, 0x5e], [.vex, .prefF3], [.avx], none, [.yo, .yo, .md]⟩,
    ⟨[0x01, 0x5e], [.vex, .prefF3], [.avx], none, [.yo, .yo, .yo]⟩]⟩,
  ⟨"VDPPD", [
    ⟨[0x03, 0x41], [.vex, .pref66], [.avx], none, [.yo, .yo, .wo, .ib]⟩]⟩,
  ⟨"VDPPS", [
    ⟨[0x03, 0x40], [.vex, .autoVexL, .encMR, .pref66], [.avx], none, [.ya, .ya, .wa, .ib]⟩]⟩]

def namesVE : List Family := [
  ⟨"VERR", [
    ⟨[0x0f, 0x00], [], [], some 4, [.mn]⟩,
    ⟨[0x0f, 0x00], [], [], some 4, [.rw]⟩]⟩,
  ⟨"VERW", [
    ⟨[0x0f, 0x00], [], [], some 5, [.mn]⟩,
    ⟨[0x0f, 0x00], [], [], some 5, [.rw]⟩]⟩,
  ⟨"VEXTRACTF128", [
    ⟨[0x03, 0x19], [.withVexL, .vex, .encMR, .pref66], [.avx], none, [.wo, .yh, .ib]⟩]⟩,
  ⟨"VEXTRACTI128", [
    ⟨[0x03, 0x39], [.withVexL, .vex, .encMR, .pref66], [.avx2], none, [.wo, .yh, .ib]⟩]⟩,
  ⟨"VEXTRACTPS", [
    ⟨[0x03, 0x17], [.vex, .encMR, .pref66], [.avx], none, [.vd, .yo, .ib]⟩]⟩]

def vaToVE : List Family :=
  namesVA ++ namesVB ++ namesVC ++ namesVD ++ namesVE

end MachineCode.X86.Instructions
