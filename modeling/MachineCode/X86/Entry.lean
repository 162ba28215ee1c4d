import MachineCode.X86.Slot

/-!
What the instruction table keeps beside the opcodes, flags and features of its rows, packed into a
word for each row: where the row belongs, how long its opcode is, and which pattern of operands it
has; and where the names of mnemonics are in the text of all names.
-/
namespace MachineCode.X86

/-- The entry of a row. The upper half has the number of the mnemonic in its low 11 bits and the
place of the row among the forms of the mnemonic above them. Then come the length of the opcode and
the opcode digit in four bits each, and the number of the pattern. -/
structure Entry where
  word : BitVec 32
  deriving DecidableEq, Repr

namespace Entry

def id (e : Entry) : Nat := e.word.toNat >>> 16 % 0x800

def place (e : Entry) : Nat := e.word.toNat >>> 27

def opcodeLength (e : Entry) : Nat := e.word.toNat >>> 12 % 16

/-- Fifteen stands for no digit. -/
def digit (e : Entry) : Option Nat :=
  match e.word.toNat >>> 8 % 16 with
  | 15 => none
  | n => some n

def pattern (e : Entry) : Nat := e.word.toNat % 256

end Entry

def patterns : List (List Slot) := [
  [], [.Aw], [.Qw], [.Rw], [.Sw], [.Tw], [.Uw], [.Vw], [.fp], [.ib], [.id], [.iw], [.ma], [.mn],
  [.mb], [.md], [.mf], [.mo], [.mp], [.mq], [.mw], [.ob], [.od], [.ra], [.rb], [.rd], [.rq], [.rw],
  [.va], [.vb], [.vd], [.Aa, .ia], [.Aa, .ra], [.Ab, .Cw], [.Ab, .ib], [.Ab, .iq], [.Ad, .Bd],
  [.Ad, .Cw], [.Ad, .ib], [.Ad, .iq], [.Aq, .Bd], [.Aq, .iq], [.Aw, .Cw], [.Aw, .ib], [.Aw, .iq],
  [.Cw, .Ab], [.Cw, .Ad], [.Cw, .Aw], [.Wd, .rd], [.Wq, .rq], [.Xp, .fp], [.bo, .bo], [.bo, .mn],
  [.bo, .rq], [.cd, .rd], [.cq, .rq], [.dd, .rd], [.dq, .rq], [.fp, .Xp], [.ib, .Ab], [.ib, .Ad],
  [.ib, .Aw], [.id, .iw], [.iq, .Ab], [.iq, .Ad], [.iq, .Aq], [.iq, .Aw], [.iw, .ib], [.iw, .iw],
  [.ma, .ia], [.ma, .ib], [.ma, .ra], [.ma, .ya], [.mn, .bo], [.mn, .yo], [.mb, .ib], [.mb, .rb],
  [.md, .rd], [.md, .yo], [.mh, .yh], [.mo, .yo], [.mp, .sw], [.mq, .rq], [.mq, .xq], [.mq, .yo],
  [.mw, .sw], [.ra, .Aa], [.ra, .ia], [.ra, .ib], [.ra, .ma], [.ra, .mn], [.ra, .md], [.ra, .mq],
  [.ra, .mw], [.ra, .ra], [.ra, .sw], [.ra, .va], [.ra, .vb], [.ra, .vw], [.ra, .ya], [.ra, .yo],
  [.rb, .ib], [.rb, .mb], [.rb, .rb], [.rb, .vb], [.rd, .Wd], [.rd, .cd], [.rd, .dd], [.rd, .id],
  [.rd, .md], [.rd, .mq], [.rd, .vw], [.rd, .xq], [.rd, .yo], [.rq, .Wq], [.rq, .cq], [.rq, .dq],
  [.rq, .iq], [.rq, .md], [.rq, .mo], [.rq, .mq], [.rq, .vd], [.rq, .vq], [.rq, .yo], [.rw, .iw],
  [.rw, .mb], [.sw, .mp], [.sw, .mw], [.sw, .rw], [.uq, .xq], [.va, .Bb], [.va, .ia], [.va, .ib],
  [.va, .ra], [.vb, .Bb], [.vb, .ib], [.vb, .rb], [.vd, .xq], [.vd, .yo], [.vq, .rq], [.vq, .xq],
  [.vq, .yo], [.vw, .rw], [.wh, .yh], [.wo, .yo], [.xq, .ib], [.xq, .mq], [.xq, .uq], [.xq, .vd],
  [.xq, .vq], [.xq, .wo], [.xq, .xq], [.xq, .yo], [.ya, .ma], [.ya, .mb], [.ya, .md], [.ya, .mw],
  [.ya, .wa], [.ya, .wo], [.ya, .yo], [.yh, .mh], [.yh, .mo], [.yh, .mq], [.yh, .wh], [.yh, .yo],
  [.yo, .ib], [.yo, .ma], [.yo, .mn], [.yo, .md], [.yo, .mo], [.yo, .mq], [.yo, .mw], [.yo, .uq],
  [.yo, .vd], [.yo, .vq], [.yo, .wo], [.yo, .xq], [.yo, .ya], [.yo, .yo], [.Aa, .Bd, .Cd],
  [.Aq, .Bd, .Cd], [.ma, .ya, .ya], [.mb, .yo, .ib], [.mq, .yo, .ib], [.mw, .yo, .ib],
  [.ra, .ra, .va], [.ra, .va, .ia], [.ra, .va, .ib], [.ra, .va, .id], [.ra, .va, .ra],
  [.rd, .xq, .ib], [.rd, .yo, .ib], [.rq, .yo, .ib], [.va, .ra, .Bb], [.va, .ra, .ib],
  [.vd, .yo, .ib], [.vq, .yo, .ib], [.wo, .ya, .ib], [.wo, .yh, .ib], [.xq, .mn, .ib],
  [.xq, .rd, .ib], [.xq, .uq, .ib], [.xq, .vw, .ib], [.ya, .ka, .ya], [.ya, .la, .ya],
  [.ya, .lo, .ya], [.ya, .wa, .ib], [.ya, .ya, .ib], [.ya, .ya, .ma], [.ya, .ya, .wa],
  [.ya, .ya, .wo], [.yh, .wh, .ib], [.yh, .yh, .wh], [.yo, .ib, .ib], [.yo, .ka, .yo],
  [.yo, .mn, .ib], [.yo, .md, .ib], [.yo, .mq, .ib], [.yo, .mw, .ib], [.yo, .rd, .ib],
  [.yo, .rw, .ib], [.yo, .vb, .ib], [.yo, .vd, .ib], [.yo, .vq, .ib], [.yo, .wo, .ib],
  [.yo, .wo, .yo], [.yo, .yo, .ib], [.yo, .yo, .md], [.yo, .yo, .mq], [.yo, .yo, .va],
  [.yo, .yo, .wo], [.yo, .yo, .yo], [.ya, .ya, .wa, .ib], [.ya, .ya, .wa, .ya],
  [.ya, .ya, .ya, .wa], [.yh, .yh, .wh, .ib], [.yh, .yh, .wo, .ib], [.yo, .yo, .ib, .ib],
  [.yo, .yo, .md, .ib], [.yo, .yo, .md, .yo], [.yo, .yo, .mq, .ib], [.yo, .yo, .mq, .yo],
  [.yo, .yo, .rd, .ib], [.yo, .yo, .vb, .ib], [.yo, .yo, .vd, .ib], [.yo, .yo, .vq, .ib],
  [.yo, .yo, .vw, .ib], [.yo, .yo, .wo, .ib], [.yo, .yo, .wo, .yo], [.yo, .yo, .yo, .ib],
  [.yo, .yo, .yo, .md], [.yo, .yo, .yo, .mq], [.yo, .yo, .yo, .wo], [.yo, .yo, .yo, .yo]]

namespace Instructions

def wordsA : List Nat := [
  0x00011f00, 0x00022f00, 0x00032f00, 0x00041f00, 0x00051f22, 0x0805124b, 0x10051f4c, 0x18051265,
  0x20051f67, 0x28051f68, 0x30051258, 0x38051f1f, 0x40051245, 0x48051246, 0x50051f47, 0x58051257,
  0x60051f5e, 0x68051f60, 0x00063f7a, 0x00071f22, 0x0807104b, 0x10071f4c, 0x18071065, 0x20071f67,
  0x28071f68, 0x30071058, 0x38071f1f, 0x40071045, 0x48071046, 0x50071f47, 0x58071057, 0x60071f5e,
  0x68071f60, 0x00082faf, 0x00092faf, 0x000a2faa, 0x080a2fb2, 0x000b2fa8, 0x080b2fb2, 0x000c2faf,
  0x000d2faf, 0x000e3f7a, 0x000f3faf, 0x00103faf, 0x00113faf, 0x00123faf, 0x00133faf, 0x00143fe0,
  0x00151f22, 0x0815144b, 0x10151f4c, 0x18151465, 0x20151f67, 0x28151f68, 0x30151458, 0x38151f1f,
  0x40151445, 0x48151446, 0x50151f47, 0x58151457, 0x60151f5e, 0x68151f60, 0x00162fb9, 0x00172faf,
  0x00182faf, 0x00192faf, 0x001a2faf, 0x001b1f8e, 0x001c2fbc, 0x081c2fbd, 0x001d2160, 0x001e2660,
  0x001f2560, 0x00202160, 0x00212360, 0x00223fd9, 0x08223fe2, 0x00233fd9, 0x08233fe2, 0x00243faa,
  0x08243fb2, 0x00253faa, 0x08253fb2, 0x00262260, 0x00272360, 0x00282660, 0x00292260, 0x002a2160,
  0x002b2f34, 0x082b2f35, 0x002c2f34, 0x082c2f35, 0x002d2f34, 0x082d2f35, 0x002e2f34, 0x002f2f34,
  0x00302f33, 0x08302f33, 0x10302f34, 0x18302f49, 0x00312f49, 0x00321f5a, 0x00332f60, 0x00342f60,
  0x00352f17, 0x00362484, 0x08362f85, 0x00372758, 0x08372746, 0x10372f47, 0x18372f5e, 0x00382658,
  0x08382646, 0x10382f47, 0x18382f5e, 0x00392558, 0x08392546, 0x10392f47, 0x18392f5e, 0x003a2fbd,
  0x003b1f44, 0x083b1f3e, 0x103b1310, 0x183b1f16, 0x203b121c, 0x003c1f44, 0x083c1f3e, 0x103c130f,
  0x183c1310, 0x003d1f00, 0x003e1f00, 0x003f1f00, 0x00403f00, 0x00411f00, 0x00421f00, 0x0043270e,
  0x00443f00, 0x00451f00, 0x00462f00, 0x00473f00, 0x00481f00, 0x00492f60, 0x004a2f60, 0x004b2f60,
  0x004c2f60, 0x004d2f60, 0x004e2f60, 0x004f2f60, 0x00502f60, 0x00512f60, 0x00522f60, 0x00532f60,
  0x00542f60, 0x00552f60, 0x00562f60, 0x00572f60, 0x00582f60, 0x00592f60, 0x005a2f60, 0x005b2f60,
  0x005c2f60, 0x005d2f60, 0x005e2f60, 0x005f2f60, 0x00602f60, 0x00612f60, 0x00622f60, 0x00632f60,
  0x00642f60, 0x00652f60, 0x00662f60, 0x00671f22, 0x08671f68, 0x10671787, 0x18671f88, 0x20671f1f,
  0x28671f60, 0x30671783, 0x38671784, 0x40671f85, 0x00683faf, 0x00693faf, 0x006a3faa, 0x086a3fb2,
  0x006b3fa8, 0x086b3fb2, 0x006c3faf, 0x006d3faf, 0x006e3faa, 0x086e3fb2, 0x006f3fa8, 0x086f3fb2,
  0x00703faf, 0x00713faf, 0x00723faa, 0x08723fb2, 0x00733fa8, 0x08733fb2, 0x00743faf, 0x00753faf,
  0x00763faa, 0x08763fb2, 0x00773fa8, 0x08773fb2, 0x00783faf, 0x00793faf, 0x007a3faa, 0x087a3fb2,
  0x007b3fa8, 0x087b3fb2, 0x007c3faf, 0x007d3faf, 0x007e3faa, 0x087e3fb2, 0x007f3fa8, 0x087f3fb2,
  0x00803faf, 0x00813faf, 0x00823faa, 0x08823fb2, 0x00833fa8, 0x08833fb2, 0x00842fe0, 0x00852fd7,
  0x08852fe2, 0x00861f00, 0x00871f00, 0x08872fe0, 0x00881f00, 0x00892fd7, 0x08892fe2, 0x008a1f00,
  0x008b3faf, 0x008c3faf, 0x008d3faa, 0x088d3fb2, 0x008e3fa8, 0x088e3fb2, 0x008f2f4c, 0x088f2f67,
  0x108f2f47, 0x188f2f5e, 0x00902111, 0x00912113, 0x00922faa, 0x08922fb2, 0x00932fa8, 0x08932fb2,
  0x00942f00, 0x00952f00, 0x00962f00, 0x00971f00, 0x00983f61, 0x08983f6f, 0x10983f60, 0x00992faa,
  0x08992fb2, 0x009a2faf, 0x009b2faf, 0x009c2f96, 0x009d2faf, 0x009e2fac, 0x009f2fac, 0x00a02faf,
  0x00a12faa, 0x08a12fb2, 0x00a22f92, 0x08a22f98, 0x00a32f6e, 0x08a32f71, 0x10a32f78, 0x18a32f7b,
  0x00a42faa, 0x08a42fb2, 0x00a52fad, 0x08a52fae, 0x00a62fad, 0x08a62fae, 0x00a72fa8, 0x08a72fb2,
  0x00a82f6d, 0x08a82f71, 0x10a82f76, 0x18a82f7b, 0x00a92faf, 0x00aa2f96, 0x00ab2faf, 0x00ac2f92,
  0x08ac2f98, 0x00ad2f6e, 0x08ad2f71, 0x10ad2f78, 0x18ad2f7b, 0x00ae2f6d, 0x08ae2f71, 0x10ae2f76,
  0x18ae2f7b, 0x00af1f00, 0x00b01f00, 0x00b11f00, 0x00b21f00, 0x00b3110e, 0x08b31118, 0x10b3110c,
  0x18b31017, 0x20b31117, 0x00b4161d, 0x08b4161c, 0x00b52faf, 0x00b62faf, 0x00b72faa, 0x08b72fb2,
  0x00b82fa8, 0x08b82fb2, 0x00b92f00, 0x00ba3fd9, 0x08ba3fe2, 0x00bb3fd9, 0x08bb3fe2, 0x00bc2f00]

def wordsB : List Nat := [
  0x00bd1f43, 0x00be3fc0, 0x08be3fc3, 0x00bf20d5, 0x08bf2fb2, 0x00c02f00, 0x00c12f00, 0x00c22f00,
  0x08c22f32, 0x10c22f08, 0x18c22f3a, 0x20c22f3a, 0x28c2100f, 0x30c21013, 0x00c32f00, 0x08c32f08,
  0x10c32f3a, 0x00c4140d, 0x00c5160d, 0x00c62f00, 0x00c73f00, 0x00c82f00, 0x08c82f32, 0x10c82f08,
  0x00c92f00, 0x08c92f32, 0x10c92f08, 0x00ca2f00, 0x08ca2f32, 0x10ca2f08, 0x00cb2f00, 0x08cb2f32,
  0x10cb2f08, 0x00cc2f00, 0x08cc2f32, 0x10cc2f08, 0x00cd2f00, 0x08cd2f32, 0x10cd2f08, 0x00ce2f00,
  0x08ce2f32, 0x10ce2f08, 0x00cf2f00, 0x08cf2f32, 0x10cf2f08, 0x00d02f00, 0x08d02f32, 0x10d02f08,
  0x18d0120f, 0x20d01213, 0x00d12f00, 0x08d12f32, 0x10d12f08, 0x00d22f00, 0x08d22f32, 0x10d22f08,
  0x00d32f00, 0x08d32f32, 0x10d32f08, 0x18d3130f, 0x20d31313, 0x00d42f00, 0x00d52f00, 0x00d62f00,
  0x00d73f00, 0x00d82f00, 0x08d82f32, 0x10d82f08, 0x18d82f3a, 0x20d82f3a, 0x28d8160f, 0x30d81613,
  0x00d92f00, 0x08d92f08, 0x10d92f3a, 0x00da2f00, 0x08da2f32, 0x10da2f08, 0x18da2f3a, 0x20da2f3a,
  0x28da170f, 0x30da1713, 0x00db2f00, 0x08db2f08, 0x10db2f3a, 0x00dc2f00, 0x00dd3f00, 0x00de2f00,
  0x08de2f08, 0x00df100f, 0x08df1014, 0x00e0120f, 0x08e01214, 0x00e1130f, 0x08e11314, 0x00e2160f,
  0x08e21614, 0x00e3170f, 0x08e31714, 0x00e4100f, 0x08e41513, 0x10e41014, 0x00e5110f, 0x08e51114,
  0x00e62f00, 0x00e73f00, 0x00e8120f, 0x08e81214, 0x00e9130f, 0x08e91713, 0x10e91314, 0x00ea110f,
  0x08ea1113, 0x10ea1114, 0x00eb140f, 0x08eb1414, 0x00ec150f, 0x08ec1514, 0x00ed2f00, 0x08ed2f08,
  0x10ed100f, 0x18ed1512, 0x20ed1013, 0x00ee2f00, 0x00ef1514, 0x00f0140d, 0x00f12f00, 0x00f22f00,
  0x00f32f00, 0x00f42f00, 0x00f52f00, 0x00f62f00, 0x00f72f00, 0x08f72f32, 0x10f72f08, 0x18f72f3a,
  0x20f72f3a, 0x28f7110f, 0x30f71113, 0x00f82f00, 0x08f82f08, 0x10f82f3a, 0x00f92f00, 0x00fa2f00,
  0x00fb2f00, 0x00fc2f00, 0x00fd2f00, 0x00fe160d, 0x00ff1714, 0x0100160d, 0x01012f01, 0x09011714,
  0x01022f00, 0x01032f00, 0x01042f00, 0x01052f00, 0x01062f00, 0x0107140d, 0x0108260d, 0x01092f00,
  0x010a2f00, 0x010b2f00, 0x010c2f00, 0x010d2f00, 0x010e2f00, 0x090e2f08, 0x110e120f, 0x190e1213,
  0x010f2714, 0x0110260d, 0x01112f00, 0x09112f08, 0x1111130f, 0x19111712, 0x21111313, 0x01123f01,
  0x09122714, 0x01132f00, 0x09132f32, 0x11132f08, 0x19132f3a, 0x21132f3a, 0x2913140f, 0x31131413,
  0x01142f00, 0x09142f08, 0x11142f3a, 0x01152f00, 0x09152f32, 0x11152f08, 0x19152f3a, 0x21152f3a,
  0x2915150f, 0x31151513, 0x01162f00, 0x09162f08, 0x11162f3a, 0x01172f00, 0x01182f00, 0x09182f32,
  0x11182f08, 0x01192f00, 0x09192f32, 0x11192f08, 0x011a2f00, 0x091a2f32, 0x111a2f08, 0x011b2f00,
  0x091b2f32, 0x111b2f08, 0x011c2f00, 0x011d1f00, 0x011e2f00, 0x011f2f00, 0x091f2f32, 0x111f2f08,
  0x191f2f3a, 0x0120210d, 0x0121210d, 0x0122200d, 0x0123200d, 0x01242f00, 0x01252f00, 0x01262f00,
  0x01272f00, 0x01282faf, 0x01292faf, 0x012a1f00, 0x012b2faf, 0x012c2faf, 0x012d1f00, 0x012e171d,
  0x092e171c, 0x012f151c, 0x092f151d, 0x112f2f60, 0x192f1fbb, 0x212f1fba, 0x01301f22, 0x09301f2b,
  0x11301f26, 0x19301f21, 0x21301f2a, 0x29301f25, 0x0131100e, 0x09311018, 0x1131100c, 0x19311017,
  0x21311017, 0x01321f00, 0x01331f00, 0x01343fd8, 0x09343fe2, 0x01352fb2, 0x09352fed, 0x01361f00,
  0x01371f09, 0x01381f00, 0x01391f00, 0x013a1f00, 0x013b1f00, 0x013c1f00, 0x013d2f00, 0x013e3f77,
  0x013f270d, 0x01403f00, 0x09403f28, 0x01413f77, 0x01423f77, 0x01431f00, 0x01441f00, 0x01451f00,
  0x01461f00, 0x01471f15, 0x09472f16, 0x01481f15, 0x09482f16, 0x01491f15, 0x09492f16, 0x014a1f15,
  0x094a2f16, 0x014b1f15, 0x094b2f16, 0x014c1f15, 0x094c2f16, 0x014d1f15, 0x014e1f15, 0x094e2f16,
  0x014f1f15, 0x094f2f16, 0x01501f15, 0x09502f16, 0x01511f15, 0x09512f16, 0x01521f44, 0x09521f3e,
  0x11521510, 0x19521f15, 0x21521f16, 0x2952141c, 0x01531f44, 0x09531f3e, 0x1153150f, 0x19531510,
  0x01541f15, 0x09542f16, 0x01551f15, 0x09552f16, 0x01561f15, 0x09562f16, 0x01571f15, 0x09572f16,
  0x01581f15, 0x09582f16, 0x01591f15, 0x09592f16, 0x015a1f15, 0x095a2f16, 0x015b1f15, 0x095b2f16]

def wordsC : List Nat := [
  0x015c1f15, 0x095c2f16, 0x015d1f15, 0x095d2f16, 0x015e1f15, 0x095e2f16, 0x015f1f15, 0x095f2f16,
  0x01601f15, 0x09602f16, 0x01611f15, 0x09612f16, 0x01621f15, 0x09622f16, 0x01631f15, 0x09632f16,
  0x01641f15, 0x09642f16, 0x01651f15, 0x09652f16, 0x01661f15, 0x01671f15, 0x09672f16, 0x01681f15,
  0x09682f16, 0x01691f00, 0x016a2f5d, 0x096a2f5e, 0x016b2fa9, 0x016c220f, 0x016d1f5a, 0x016e1f5a,
  0x016f1f00, 0x01701f5a, 0x01713f00, 0x01722f5a, 0x0173220d, 0x01742f5a, 0x0175230d, 0x0176220d,
  0x0976221b, 0x01772017, 0x0178260d, 0x0978261b, 0x01791f00, 0x017a1f00, 0x017b1f00, 0x017c1f00,
  0x017d1f15, 0x017e1f15, 0x017f1f15, 0x01801f15, 0x01811f15, 0x01822f5d, 0x09822f5e, 0x01832f5a,
  0x0184230d, 0x0984231b, 0x018520bc, 0x018621bc, 0x01872f60, 0x01882fb2, 0x01892f97, 0x018a2faf,
  0x018b2faf, 0x018c2faa, 0x098c2fb2, 0x018d2fa8, 0x098d2fb2, 0x018e3f00, 0x018f2faf, 0x01902faf,
  0x01912faa, 0x09912fb2, 0x01922fa8, 0x09922fb2, 0x01933f00, 0x09933fb4, 0x01943f00, 0x09943fb3,
  0x01953f00, 0x01961f85, 0x09961f88, 0x11961f60, 0x19961f68, 0x21961f5f, 0x29961f55, 0x31961f7f,
  0x39961f80, 0x41961f65, 0x49961f7c, 0x51961f6c, 0x59961083, 0x61961087, 0x69961f75, 0x71962f36,
  0x79962f37, 0x81962f6a, 0x89962f73, 0x91962030, 0x99962031, 0xa1962069, 0xa9962072, 0xb1962f38,
  0xb9962f39, 0xc1962f6b, 0xc9962f74, 0x01971f23, 0x09971f2c, 0x11971f27, 0x19971f29, 0x21971f3f,
  0x29971f42, 0x31971f40, 0x39971f41, 0x01982f50, 0x09982fa9, 0x11982fb2, 0x19982fb2, 0x01992faf,
  0x09992f90, 0x019a3f47, 0x099a3f59, 0x019b2f4e, 0x099b2f94, 0x119b2f95, 0x199b2fa8, 0x219b2fad,
  0x299b2f89, 0x319b2f8a, 0x399b2f8c, 0x019c2faa, 0x099c2fb2, 0x019d2f98, 0x019e2f50, 0x099e2fa9,
  0x119e2fb2, 0x199e2fb2, 0x019f2f50, 0x099f2fa9, 0x119f2fb2, 0x199f2fb2, 0x01a02fb2, 0x01a12f4a,
  0x09a12fa7, 0x01a22f54, 0x09a22faa, 0x01a32fb2, 0x01a42f54, 0x09a42faa, 0x01a52f54, 0x09a52faa,
  0x01a62f71, 0x09a62f7b, 0x01a72f71, 0x09a72f7b, 0x01a82f50, 0x01a93fa9, 0x01aa2f4d, 0x09aa2f52,
  0x01ab2f50, 0x01ac2f50, 0x01ad2f53, 0x01ae2f54, 0x01af2f4e, 0x01b02f54, 0x09b02f93, 0x11b02f95,
  0x19b02faa, 0x21b02fae, 0x29b02fb2, 0x31b02fb2, 0x39b02f81, 0x41b02f8c, 0x49b02f8d, 0x01b12fb0,
  0x01b21f00, 0x01b31f00, 0x09b32f54, 0x11b32faa, 0x19b32fb2, 0x21b32fb2, 0x01b42faa, 0x09b42fb2,
  0x01b52faa, 0x09b52fb2, 0x01b61f00, 0x01b72f4e, 0x09b72fa8, 0x11b72fb2, 0x01b81f00, 0x01b91f79,
  0x09b92f7d, 0x11b92f61, 0x19b92f62, 0x01ba1f79, 0x01bb2f50, 0x09bb2fa9, 0x11bb2fb2, 0x19bb2fb2,
  0x01bc2faf, 0x09bc2f90, 0x01bd2f7d, 0x09bd2f61, 0x11bd2f62, 0x01be3fd9, 0x09be3fe2, 0x01bf141d,
  0x09bf141c, 0x01c02faf, 0x01c12faf, 0x01c22faa, 0x09c22fb2, 0x01c32fa8, 0x09c32fb2, 0x01c42fb9,
  0x01c53f00, 0x09c53f24, 0x01c63f00, 0x09c63f24, 0x01c7130e, 0x09c71318, 0x11c7130c, 0x19c71317,
  0x01c81f00, 0x09c8201c, 0x01c9120e, 0x09c91218, 0x11c9120c, 0x19c91217, 0x01ca1f22, 0x09ca114b,
  0x11ca1f4c, 0x19ca1165, 0x21ca1f67, 0x29ca1f68, 0x31ca1158, 0x39ca1f1f, 0x41ca1145, 0x49ca1146,
  0x51ca1f47, 0x59ca1157, 0x61ca1f5e, 0x69ca1f60, 0x01cb2faf, 0x01cc2faf, 0x01cd1f3b, 0x09cd1f3d,
  0x11cd1f3c, 0x19cd1f2d, 0x21cd1f2f, 0x29cd1f2e, 0x01ce1f00, 0x01cf1f00, 0x01d01f00, 0x01d13f93,
  0x09d13faa, 0x11d13fb2, 0x01d23f93, 0x09d23faa, 0x11d23fb2, 0x01d33f93, 0x09d33faa, 0x11d33fb2,
  0x01d42f93, 0x09d42faf, 0x01d52f93, 0x09d52faf, 0x01d63faa, 0x09d63fb2, 0x01d72f93, 0x09d72faf,
  0x01d82f93, 0x09d82faf, 0x01d92f93, 0x09d92faf, 0x01da2f93, 0x09da2faf, 0x01db2f93, 0x09db2faf,
  0x01dc2f93, 0x01dd2f93, 0x09dd2faf, 0x01de2f93, 0x09de2faf, 0x01df2f93, 0x09df2faf, 0x01e02f93,
  0x09e02faf, 0x01e13fc9, 0x09e13fd9, 0x11e13fe2, 0x01e22f93, 0x09e22faf, 0x01e32f93, 0x09e32faf,
  0x01e41f00, 0x01e52f93, 0x01e62f93, 0x09e62faf, 0x01e73f93, 0x01e82f93, 0x09e82faf, 0x01e93faa,
  0x09e93fb2, 0x01ea3fd9, 0x09ea3fe2, 0x01eb4faf, 0x01ec4faf, 0x01ed4faf, 0x01ee4faf, 0x01ef3fe0,
  0x01f02f93, 0x09f02faf, 0x01f12f93, 0x09f12faf, 0x01f23faa, 0x09f23fb2, 0x01f32f93, 0x09f32faf]

def wordsD : List Nat := [
  0x01f43fd9, 0x09f43fe2, 0x01f53fd9, 0x09f53fe2, 0x01f62f93, 0x09f62faf, 0x01f72f93, 0x09f72faf,
  0x01f83faa, 0x09f83fb2, 0x01f92f93, 0x09f92faf, 0x01fa3fd9, 0x09fa3fe2, 0x01fb3fd9, 0x09fb3fe2,
  0x01fc2fb9, 0x01fd2f92, 0x01fe2fb9, 0x01ff3fb6, 0x09ff3fbf, 0x11ff3fc0, 0x02003fc3, 0x02013fc4,
  0x02023fb8, 0x0a022fbe, 0x12022fbf, 0x1a023fbf, 0x22023fc0, 0x02033f93, 0x02043f93, 0x02053f93,
  0x02063f93, 0x02073f93, 0x02083f93, 0x02093f93, 0x020a3f93, 0x020b3f93, 0x020c3f93, 0x020d3f93,
  0x020e3f93, 0x020f3f93, 0x02103f93, 0x02113f93, 0x02123f93, 0x02133f93, 0x02143f93, 0x02153f93,
  0x02163f93, 0x02173f93, 0x02183f93, 0x0a183faa, 0x12183fb2, 0x02193f93, 0x0a193faa, 0x12193fb2,
  0x021a3f93, 0x0a1a3faa, 0x121a3fb2, 0x021b3faa, 0x0a1b3fb2, 0x021c3f93, 0x0a1c3faa, 0x121c3fb2,
  0x021d3f93, 0x0a1d3faa, 0x121d3fb2, 0x021e3f93, 0x0a1e3faa, 0x121e3fb2, 0x021f3f93, 0x02203f93,
  0x02213fd7, 0x0a213fdb, 0x12213fdd, 0x02223fd7, 0x0a223fde, 0x02233fd7, 0x0a233fdf, 0x02242fc7,
  0x0a242fc8, 0x12242fca, 0x1a242fd7, 0x22242fda, 0x2a242fdb, 0x32242fdc, 0x02252f92, 0x02263f93,
  0x0a263faa, 0x12263fb2, 0x02272f93, 0x0a272faf, 0x02282f93, 0x02293faa, 0x0a293fb2, 0x022a3faa,
  0x0a2a3fb2, 0x022b2f93, 0x0a2b2faf, 0x022c2f93, 0x0a2c2faf, 0x022d3faa, 0x0a2d3fb2, 0x022e3faa,
  0x0a2e3fb2, 0x022f3faa, 0x0a2f3fb2, 0x02303faa, 0x0a303fb2, 0x02312f93, 0x0a312faf, 0x02322f93,
  0x0a322faf, 0x02333faa, 0x0a333fb2, 0x02343faa, 0x0a343fb2, 0x02352f70, 0x0a352f71, 0x02363fa8,
  0x0a363fb2, 0x02373fab, 0x0a373fb2, 0x02383faa, 0x0a383fb2, 0x02393faa, 0x0a393fb2, 0x023a3faa,
  0x0a3a3fb2, 0x023b3fa8, 0x0a3b3fb2, 0x023c3fa8, 0x0a3c3fb2, 0x023d3fab, 0x0a3d3fb2, 0x023e3faa,
  0x0a3e3fb2, 0x023f3faa, 0x0a3f3fb2, 0x02403faa, 0x0a403fb2, 0x02413fa8, 0x0a413fb2, 0x02423faa,
  0x0a423fb2, 0x02432f93, 0x02443f93, 0x0a443faa, 0x12443fb2, 0x02453f93, 0x02462f93, 0x02472f93,
  0x0a472faf, 0x02482f93, 0x0a482faf, 0x02493faa, 0x0a493fb2, 0x024a2f93, 0x0a4a2faf, 0x024b2f93,
  0x0a4b2faf, 0x024c2f92, 0x024d2f92, 0x024e2f92, 0x024f2f92, 0x02501f02, 0x0a501f04, 0x12501f05,
  0x1a502f06, 0x22502f07, 0x2a501f17, 0x3250101c, 0x02511f00, 0x02521f00, 0x02532f60, 0x02541f00,
  0x02551f00, 0x02561f00, 0x02572f93, 0x0a572faf, 0x02582013, 0x0259200e, 0x025a210e, 0x025b220e,
  0x025c230e, 0x025d2113, 0x025e220e, 0x025f2f93, 0x0a5f2faf, 0x02603f93, 0x0a603faa, 0x12603fb2,
  0x02612fe0, 0x02622fe0, 0x02632fe0, 0x02642fc9, 0x02653f93, 0x0a653faa, 0x12653fb2, 0x02663f93,
  0x0a663faa, 0x12663fb2, 0x02673f93, 0x0a673faa, 0x12673fb2, 0x02682691, 0x0a682f93, 0x126826a5,
  0x1a682faf, 0x026927a5, 0x026a2691, 0x0a6a2f93, 0x126a26a5, 0x1a6a2faf, 0x026b2691, 0x0a6b2f93,
  0x126b26a5, 0x1a6b2faf, 0x026c2491, 0x0a6c2f93, 0x126c24a5, 0x1a6c2faf, 0x026d2491, 0x0a6d2f93,
  0x126d24a5, 0x1a6d2faf, 0x026e2291, 0x0a6e2f93, 0x126e22a5, 0x1a6e2faf, 0x026f23a5, 0x02702291,
  0x0a702f93, 0x127022a5, 0x1a702faf, 0x02712291, 0x0a712f93, 0x127122a5, 0x1a712faf, 0x02722f93,
  0x0a722faf, 0x02732f93, 0x0a732faf, 0x02742f93, 0x0a742faf, 0x02752f93, 0x0a752faf, 0x02762f93,
  0x02772f93, 0x0a772faf, 0x02782f93, 0x0a782faf, 0x02792f93, 0x0a792faf, 0x027a2f93, 0x0a7a2faf,
  0x027b3f93, 0x027c3faa, 0x0a7c3fb2, 0x027d2f93, 0x0a7d2faf, 0x027e2f93, 0x0a7e2faf, 0x027f2faf,
  0x02802f93, 0x0a802faf, 0x02812f93, 0x0a812faf, 0x02822f93, 0x0a822faf, 0x02832faf, 0x02842f93,
  0x0a842faf, 0x02851f02, 0x0a851f03, 0x12851f04, 0x1a851f05, 0x22852f06, 0x2a852f07, 0x32851f09,
  0x3a851f0b, 0x42851f0a, 0x4a851f17, 0x5285161c, 0x02861f00, 0x02871f00, 0x02881f00, 0x02891f00,
  0x028a1f00, 0x028b2f93, 0x0a8b2faf, 0x028c1286, 0x0a8c1287, 0x128c1282, 0x1a8c1284, 0x028d2faf,
  0x028e2fa8, 0x0a8e2fb2, 0x028f1386, 0x0a8f1387, 0x128f1382, 0x1a8f1384, 0x02902019, 0x0a90201a,
  0x02912119, 0x0a91211a, 0x02922f00, 0x02932f00, 0x0294271a, 0x02953f00, 0x02962f00, 0x0297261a,
  0x0298271a, 0x0299201e, 0x029a2f00, 0x029b3f00, 0x029c1f00, 0x0a9c1f0b, 0x029d1f00, 0x0a9d1f0b]

def wordsE : List Nat := [
  0x029e1f00, 0x0a9e1f0b, 0x029f1086, 0x0a9f1087, 0x129f1082, 0x1a9f1084, 0x02a01186, 0x0aa01187,
  0x12a01182, 0x1aa01184, 0x02a12fbb, 0x02a23fd9, 0x0aa23fe2, 0x02a33fd9, 0x0aa33fe2, 0x02a43fd9,
  0x0aa43fe2, 0x02a53fd9, 0x0aa53fe2, 0x02a62f7e, 0x02a72012, 0x02a82f00, 0x02a92faf, 0x02aa2fa8,
  0x0aaa2fb2, 0x02ab2012, 0x02ac1f00, 0x02ad1486, 0x0aad1487, 0x12ad1482, 0x1aad1484, 0x02ae1786,
  0x0aae1787, 0x12ae1782, 0x1aae1784, 0x02af2fbd, 0x02b01f22, 0x0ab0134b, 0x12b01f4c, 0x1ab01365,
  0x22b01f67, 0x2ab01f68, 0x32b01358, 0x3ab01f1f, 0x42b01345, 0x4ab01346, 0x52b01f47, 0x5ab01357,
  0x62b01f5e, 0x6ab01f60, 0x02b11f00, 0x02b21f00, 0x02b31f00, 0x02b41f00, 0x02b5201d, 0x02b6201d,
  0x02b7201d, 0x02b8201d, 0x02b9201d, 0x02ba201d, 0x02bb201d, 0x02bc201d, 0x02bd201d, 0x02be201d,
  0x02bf201d, 0x02c0201d, 0x02c1201d, 0x02c2201d, 0x02c3201d, 0x02c4201d, 0x02c5201d, 0x02c6201d,
  0x02c7201d, 0x02c8201d, 0x02c9201d, 0x02ca201d, 0x02cb201d, 0x02cc201d, 0x02cd201d, 0x02ce201d,
  0x02cf201d, 0x02d0201d, 0x02d1201d, 0x02d2201d, 0x02d33f00, 0x02d4200d, 0x02d53faf, 0x02d63faf,
  0x02d73faf, 0x02d83fe0, 0x02d93faf, 0x02da3faf, 0x02db3faf, 0x02dc1486, 0x0adc1487, 0x12dc1482,
  0x1adc1484, 0x02dd2fc1, 0x0add2fc2, 0x02de2fbd, 0x02df1586, 0x0adf1587, 0x12df1582, 0x1adf1584,
  0x02e02fc1, 0x0ae02fc2, 0x02e12fbd, 0x02e22fe0, 0x02e32fe0, 0x02e4210d, 0x02e53f00, 0x02e6200d,
  0x0ae62017, 0x02e72117, 0x02e82f00, 0x02e9240d, 0x0ae92417, 0x02ea2faf, 0x02eb2faf, 0x02ec2faa,
  0x0aec2fb2, 0x02ed2fa8, 0x0aed2fb2, 0x02ee3f00, 0x02ef1f00, 0x02f01f00, 0x02f13f00, 0x02f21f00,
  0x02f3230f, 0x02f41f00, 0x02f51f00, 0x02f61f00, 0x02f71f00, 0x02f8210d, 0x0af82117, 0x02f91f22,
  0x0af9154b, 0x12f91f4c, 0x1af91565, 0x22f91f67, 0x2af91f68, 0x32f91558, 0x3af91f1f, 0x42f91545,
  0x4af91546, 0x52f91f47, 0x5af91557, 0x62f91f5e, 0x6af91f60, 0x02fa2faf, 0x02fb2faf, 0x02fc2faa,
  0x0afc2fb2, 0x02fd2fa8, 0x0afd2fb2, 0x02fe2f51, 0x02ff2012, 0x03002012, 0x03013f00, 0x03022f00,
  0x03032f00, 0x03042f00, 0x03052f00, 0x03062760, 0x03071f22, 0x0b071f66, 0x13071087, 0x1b071f88,
  0x23071f1f, 0x2b071f59, 0x33071083, 0x3b071f85, 0x03082f60, 0x03092460, 0x030a2faa, 0x0b0a2fb2,
  0x030b2fa8, 0x0b0b2fb2, 0x030c2f00, 0x030d2f00, 0x030e2faf, 0x030f2faf, 0x03102faf, 0x03112faf,
  0x03122fd1, 0x03132fd1, 0x03142fe4, 0x0b142fe7, 0x03152fe3, 0x0b152fe7, 0x03162fd1, 0x03172fd1,
  0x03182fe6, 0x03192fe6, 0x031a2fe6, 0x031b2fe6, 0x031c2faf, 0x031d2fe0, 0x031e2fd1, 0x031f2fd1,
  0x03202fd1, 0x03212fd1, 0x03222fe8, 0x03232fe8, 0x03242fe9, 0x03252fe9, 0x03262fa1, 0x03272fa1,
  0x03282fa2, 0x0b282fa4, 0x03292f9b, 0x0b292f9f, 0x032a3fd1, 0x0b2a3fe6, 0x032b3fd1, 0x032c3fe4,
  0x0b2c3fe7, 0x032d3fe4, 0x0b2d3fe7, 0x032e3fd4, 0x0b2e3fe6, 0x032f3fd1, 0x03303fe4, 0x0b303fe7,
  0x03313fe4, 0x0b313fe7, 0x03323fd4, 0x0b323fe6, 0x03333fd1, 0x03343fe4, 0x0b343fe7, 0x03353fe4,
  0x0b353fe7, 0x03363fd1, 0x03373fd1, 0x03383fe4, 0x0b383fe7, 0x03393fe4, 0x0b393fe7, 0x033a3fd1,
  0x033b3fd1, 0x033c3fe4, 0x0b3c3fe7, 0x033d3fe4, 0x0b3d3fe7, 0x033e3fd1, 0x033f3fd1, 0x03403fe4,
  0x0b403fe7, 0x03413fe4, 0x0b413fe7, 0x03423fd4, 0x0b423fe6, 0x03433fd1, 0x03443fe4, 0x0b443fe7,
  0x03453fe4, 0x0b453fe7, 0x03463fd4, 0x0b463fe6, 0x03473fd1, 0x03483fe4, 0x0b483fe7, 0x03493fe4,
  0x0b493fe7, 0x034a3fd1, 0x034b3fd1, 0x034c3fe4, 0x0b4c3fe7, 0x034d3fe4, 0x0b4d3fe7, 0x034e3fd1,
  0x034f3fd1, 0x03503fe4, 0x0b503fe7, 0x03513fe4, 0x0b513fe7, 0x03523fd1, 0x03533fd1, 0x03543fe4,
  0x0b543fe7, 0x03553fe4, 0x0b553fe7, 0x03563fd1, 0x03573fd1, 0x03583fe4, 0x0b583fe7, 0x03593fe4,
  0x0b593fe7, 0x035a3fd4, 0x0b5a3fe6, 0x035b3fd1, 0x035c3fe4, 0x0b5c3fe7, 0x035d3fe4, 0x0b5d3fe7,
  0x035e3fd4, 0x0b5e3fe6, 0x035f3fd1, 0x03603fe4, 0x0b603fe7, 0x03613fe4, 0x0b613fe7, 0x03623fd1,
  0x03633fd1, 0x03643fe4, 0x0b643fe7, 0x03653fe4, 0x0b653fe7, 0x03663fd4, 0x0b663fe6, 0x03673fd1,
  0x03683fe4, 0x0b683fe7, 0x03693fe4, 0x0b693fe7, 0x036a3fd1, 0x036b3fd1, 0x036c3fe4, 0x0b6c3fe7]

def wordsF : List Nat := [
  0x036d3fe4, 0x0b6d3fe7, 0x036e3fd4, 0x0b6e3fe6, 0x036f3fd1, 0x03703fe4, 0x0b703fe7, 0x03713fe4,
  0x0b713fe7, 0x03723fd4, 0x0b723fe6, 0x03733fd1, 0x03743fe4, 0x0b743fe7, 0x03753fe4, 0x0b753fe7,
  0x03763fd4, 0x0b763fe6, 0x03773fd1, 0x03783fe4, 0x0b783fe7, 0x03793fe4, 0x0b793fe7, 0x037a3fd4,
  0x0b7a3fe6, 0x037b3fd1, 0x037c3fe4, 0x0b7c3fe7, 0x037d3fe4, 0x0b7d3fe7, 0x037e3fd1, 0x037f3fd1,
  0x03803fe4, 0x0b803fe7, 0x03813fe4, 0x0b813fe7, 0x03823fd4, 0x0b823fe6, 0x03833fd1, 0x03843fe4,
  0x0b843fe7, 0x03853fe4, 0x0b853fe7, 0x03863fd4, 0x0b863fe6, 0x03873fd1, 0x03883fe4, 0x0b883fe7,
  0x03893fe4, 0x0b893fe7, 0x038a3fd1, 0x038b3fd1, 0x038c3fe4, 0x0b8c3fe7, 0x038d3fe4, 0x0b8d3fe7,
  0x038e3fd1, 0x038f3fd1, 0x03903fe4, 0x0b903fe7, 0x03913fe4, 0x0b913fe7, 0x03923fd4, 0x0b923fe6,
  0x03933fd1, 0x03943fe4, 0x0b943fe7, 0x03953fe4, 0x0b953fe7, 0x03963fd1, 0x03973fd1, 0x03983fe4,
  0x0b983fe7, 0x03993fe4, 0x0b993fe7, 0x039a3fd1, 0x039b3fd1, 0x039c3fe4, 0x0b9c3fe7, 0x039d3fe4,
  0x0b9d3fe7, 0x039e3fd1, 0x039f3fd1, 0x03a03fe4, 0x0ba03fe7, 0x03a13fe4, 0x0ba13fe7, 0x03a23fd1,
  0x03a33fd1, 0x03a43fe4, 0x0ba43fe7, 0x03a53fe4, 0x0ba53fe7, 0x03a63fd4, 0x0ba63fe6, 0x03a73fd1,
  0x03a83fe4, 0x0ba83fe7, 0x03a93fe4, 0x0ba93fe7, 0x03aa3fd1, 0x03ab3fd1, 0x03ac3fe4, 0x0bac3fe7,
  0x03ad3fe4, 0x0bad3fe7, 0x03ae3fd4, 0x0bae3fe6, 0x03af3fd1, 0x03b03fe4, 0x0bb03fe7, 0x03b13fe4,
  0x0bb13fe7, 0x03b23fd1, 0x03b33fd1, 0x03b43fe4, 0x0bb43fe7, 0x03b53fe4, 0x0bb53fe7, 0x03b63fd4,
  0x0bb63fe6, 0x03b73fd1, 0x03b83fe4, 0x0bb83fe7, 0x03b93fe4, 0x0bb93fe7, 0x03ba3fd4, 0x0bba3fe6,
  0x03bb3fd1, 0x03bc3fe4, 0x0bbc3fe7, 0x03bd3fe4, 0x0bbd3fe7, 0x03be3fd4, 0x0bbe3fe6, 0x03bf3fd1,
  0x03c03fe4, 0x0bc03fe7, 0x03c13fe4, 0x0bc13fe7, 0x03c23fd4, 0x0bc23fe6, 0x03c33fd1, 0x03c43fe4,
  0x0bc43fe7, 0x03c53fe4, 0x0bc53fe7, 0x03c62fe8, 0x03c72fe8, 0x03c82ff0, 0x0bc82ff9, 0x03c92ff0,
  0x0bc92ff9, 0x03ca3fd4, 0x0bca3fe6, 0x03cb3fd1, 0x03cc3fe4, 0x0bcc3fe7, 0x03cd3fe4, 0x0bcd3fe7,
  0x03ce3fd1, 0x03cf3fd1, 0x03d03fe4, 0x0bd03fe7, 0x03d13fe4, 0x0bd13fe7, 0x03d23fd1, 0x03d33fd1,
  0x03d43fe4, 0x0bd43fe7, 0x03d53fe4, 0x0bd53fe7, 0x03d63fd1, 0x03d73fd1, 0x03d83fe4, 0x0bd83fe7,
  0x03d93fe4, 0x0bd93fe7, 0x03da3fd1, 0x03db3fd1, 0x03dc3fe4, 0x0bdc3fe7, 0x03dd3fe4, 0x0bdd3fe7,
  0x03de3fd4, 0x0bde3fe6, 0x03df3fd1, 0x03e03fe4, 0x0be03fe7, 0x03e13fe4, 0x0be13fe7, 0x03e22faa,
  0x0be22fb2, 0x03e32fa8, 0x0be32fb2, 0x03e42faa, 0x0be42f9e, 0x03e52f9d, 0x03e62fa6, 0x0be62fb1,
  0x03e72fa6, 0x0be72fb1, 0x03e82faa, 0x0be82f9e, 0x03e92f9d, 0x03ea2faa, 0x0bea2f9e, 0x03eb2fb7,
  0x0beb2fc5, 0x03ec2f5c, 0x0bec2f64, 0x03ed2fe4, 0x0bed2fe7, 0x03ee2fe5, 0x03ef2fe5, 0x03f02fe3,
  0x0bf02fe7, 0x03f12f5b, 0x0bf12f64, 0x03f22fa6, 0x0bf22fb1, 0x03f32f9d, 0x03f42f5c, 0x0bf42f64,
  0x03f52f5b, 0x0bf52f64, 0x03f62fd1, 0x03f72fd1, 0x03f82fe4, 0x0bf82fe7, 0x03f92fe3, 0x0bf92fe7,
  0x03fa2ff7, 0x03fb2fe8, 0x03fc240d, 0x0bfc241b, 0x03fd250d, 0x0bfd251b, 0x03fe2fc6, 0x03ff2fc6,
  0x04002fc3, 0x04012fd1, 0x04022fd1, 0x04032fe4, 0x0c032fe7, 0x04042fe3, 0x0c042fe7, 0x04052fd1,
  0x04062fd1, 0x04072fe4, 0x0c072fe7, 0x04082fe3, 0x0c082fe7, 0x04092fd1, 0x040a2fd1, 0x040b2fe4,
  0x0c0b2fe7, 0x040c2fe3, 0x0c0c2fe7, 0x040d2fd1, 0x040e2fd1, 0x040f2fe4, 0x0c0f2fe7, 0x04102fe3,
  0x0c102fe7, 0x04112fd1, 0x04122fd1, 0x04132fe4, 0x0c132fe7, 0x04142fe3, 0x0c142fe7, 0x04152fd1,
  0x04162fd1, 0x04172fe4, 0x0c172fe7, 0x04182fe3, 0x0c182fe7, 0x04192fea, 0x0c192fe9, 0x041a2fea,
  0x0c1a2fe9, 0x041b2ff1, 0x0c1b2ffb, 0x141b2ffd, 0x041c2fef, 0x0c1c2ffa, 0x141c2ffd, 0x041d2fd1,
  0x041e2fd1, 0x041f2fd1, 0x04202fd1, 0x04212fd1, 0x04222fd1, 0x04232fd1, 0x04242fd1, 0x04252fd1,
  0x04262fd1, 0x04272fd1, 0x04282fd1, 0x04292fea, 0x0c292fe9, 0x042a2fea, 0x0c2a2fe9, 0x042b2fd1,
  0x042c2fd1, 0x042d2fe4, 0x0c2d2fe7, 0x042e2fe3, 0x0c2e2fe7, 0x042f2fd1, 0x04302fd1, 0x04312fe4,
  0x0c312fe7, 0x04322fe3, 0x0c322fe7, 0x04332fd1, 0x04342fd1, 0x04352fe4, 0x0c352fe7, 0x04362fe3]

def wordsG : List Nat := [
  0x0c362fe7, 0x04372fd1, 0x04382fd1, 0x04392fe4, 0x0c392fe7, 0x043a2fe3, 0x0c3a2fe7, 0x043b2fd1,
  0x043c2fd1, 0x043d2fe4, 0x0c3d2fe7, 0x043e2fe3, 0x0c3e2fe7, 0x043f2fd1, 0x04402fd1, 0x04412fe4,
  0x0c412fe7, 0x04422fe3, 0x0c422fe7, 0x04432fd1, 0x04442fd1, 0x04452fd1, 0x04462fd1, 0x04472fd1,
  0x04482fd1, 0x04492fd1, 0x044a2fd1, 0x044b2fd1, 0x044c2fd1, 0x044d2fd1, 0x044e2fd1, 0x044f2fea,
  0x0c4f2fe9, 0x04502fea, 0x0c502fe9, 0x04512fea, 0x0c512fe9, 0x04522fea, 0x0c522fe9, 0x04532ff1,
  0x0c532ffb, 0x14532ffd, 0x04542fef, 0x0c542ffa, 0x14542ffd, 0x04552fd1, 0x04562fd1, 0x04572fe4,
  0x0c572fe7, 0x04582fe3, 0x0c582fe7, 0x04592fd1, 0x045a2fd1, 0x045b2fe4, 0x0c5b2fe7, 0x045c2fe3,
  0x0c5c2fe7, 0x045d2fd1, 0x045e2fd1, 0x045f2fe4, 0x0c5f2fe7, 0x04602fe3, 0x0c602fe7, 0x04612fd1,
  0x04622fd1, 0x04632fe4, 0x0c632fe7, 0x04642fe3, 0x0c642fe7, 0x04652fd1, 0x04662fd1, 0x04672fe4,
  0x0c672fe7, 0x04682fe3, 0x0c682fe7, 0x04692fd1, 0x046a2fd1, 0x046b2fe4, 0x0c6b2fe7, 0x046c2fe3,
  0x0c6c2fe7, 0x046d2fea, 0x0c6d2fe9, 0x046e2fea, 0x0c6e2fe9, 0x046f2ff1, 0x0c6f2ffb, 0x146f2ffd,
  0x04702fef, 0x0c702ffa, 0x14702ffd, 0x04712fd1, 0x04722fd1, 0x04732fe4, 0x0c732fe7, 0x04742fe3,
  0x0c742fe7, 0x04752fd1, 0x04762fd1, 0x04772fe4, 0x0c772fe7, 0x04782fe3, 0x0c782fe7, 0x04792fd1,
  0x047a2fd1, 0x047b2fe4, 0x0c7b2fe7, 0x047c2fe3, 0x0c7c2fe7, 0x047d2fd1, 0x047e2fd1, 0x047f2fe4,
  0x0c7f2fe7, 0x04802fe3, 0x0c802fe7, 0x04812fd1, 0x04822fd1, 0x04832fe4, 0x0c832fe7, 0x04842fe3,
  0x0c842fe7, 0x04852fd1, 0x04862fd1, 0x04872fe4, 0x0c872fe7, 0x04882fe3, 0x0c882fe7, 0x04892fea,
  0x0c892fe9, 0x048a2fea, 0x0c8a2fe9, 0x048b2ff1, 0x0c8b2ffb, 0x148b2ffd, 0x048c2fef, 0x0c8c2ffa,
  0x148c2ffd, 0x048d2f9d, 0x048e2f9d, 0x048f2faa, 0x0c8f2fb2, 0x04902fa8, 0x0c902fb2, 0x04912fcd,
  0x04922fcb, 0x04932fcc, 0x04942fd6, 0x04952fd1, 0x04962fd1, 0x04972fd1, 0x04982fd1, 0x04992fec,
  0x049a2fec, 0x049b2fee, 0x0c9b2ff9, 0x049c2f99, 0x049d220f, 0x049e2fa0, 0x049f2fb2, 0x04a02fb5,
  0x0ca02fd0, 0x04a12fb5, 0x0ca12fd0, 0x04a22fd1, 0x04a32fd1, 0x04a42fe4, 0x0ca42fe7, 0x04a52fe3,
  0x0ca52fe7, 0x04a63f00, 0x04a7260d, 0x04a83f00, 0x04a92fd1, 0x04aa2fd1, 0x04ab2fe4, 0x0cab2fe7,
  0x04ac2fe3, 0x0cac2fe7, 0x04ad3f00, 0x04ae3f00, 0x04af3f00, 0x04b02f9d, 0x0cb02f8f, 0x14b02f90,
  0x04b12f9d, 0x0cb12f8f, 0x14b12f90, 0x04b22fad, 0x0cb22f8a, 0x04b32f9d, 0x0cb32faa, 0x04b42f9d,
  0x0cb42f8f, 0x14b42f90, 0x04b52f9d, 0x0cb52f8f, 0x14b52f90, 0x04b62fe7, 0x04b72f54, 0x0cb72fe4,
  0x04b82f54, 0x0cb82fe4, 0x04b92fe7, 0x04ba2f54, 0x0cba2fe4, 0x04bb2f54, 0x0cbb2fe4, 0x04bc2f63,
  0x04bd2f63, 0x04be2f48, 0x04bf2f99, 0x04c02f48, 0x04c12f48, 0x04c22f4f, 0x04c32f54, 0x0cc32faa,
  0x14c32fae, 0x1cc32fb2, 0x24c32fb2, 0x2cc32f8d, 0x04c42fa3, 0x0cc42f8f, 0x04c52fa3, 0x0cc52f8f,
  0x04c62f54, 0x0cc62faa, 0x14c62fe7, 0x1cc62fe7, 0x04c72f9d, 0x04c82f9d, 0x04c92f4e, 0x0cc92fa8,
  0x14c92fe7, 0x1cc92fe7, 0x04ca2f9d, 0x0cca2f8f, 0x14ca2f90, 0x04cb2f9d, 0x0ccb2f8f, 0x14cb2f90,
  0x04cc2fe8, 0x04cd260d, 0x04ce270d, 0x04cf2f8b, 0x04d03f00, 0x04d13f00, 0x04d23f00, 0x04d32fd1,
  0x04d42fd1, 0x04d52fe4, 0x0cd52fe7, 0x04d62fe3, 0x0cd62fe7, 0x04d72f7a, 0x04d83f00, 0x04d9260d,
  0x04da2fd1, 0x04db2fd1, 0x04dc2f9d, 0x04dd2f9d, 0x04de2f9d, 0x04df2fd1, 0x04e02fd1, 0x04e12fd1,
  0x04e22fd1, 0x04e32fd1, 0x04e42fd1, 0x04e52fd1, 0x04e62fd1, 0x04e72fd1, 0x04e82fd1, 0x04e92fd1,
  0x04ea2fd1, 0x04eb2fe8, 0x04ec2fd1, 0x04ed2fd1, 0x04ee2fd1, 0x04ef2fd1, 0x04f02fe8, 0x04f12fe9,
  0x04f22fe8, 0x04f32f9a, 0x0cf32f9f, 0x04f42f9b, 0x0cf42f9f, 0x04f52fa2, 0x0cf52faa, 0x14f52f9f,
  0x04f62f9c, 0x0cf62f9f, 0x04f73fe6, 0x04f83fe6, 0x04f93fe6, 0x04fa3fe6, 0x04fb2ff7, 0x04fc2fe9,
  0x0cfc2fea, 0x04fd2fd1, 0x04fe2fd1, 0x04ff2fd1, 0x05002fd1, 0x05012fe0, 0x05022fe0, 0x05032fd1,
  0x05042fd1, 0x05052fd1, 0x05062fd1, 0x05072fe0, 0x05082fe0, 0x05092ff7, 0x050a2ff7, 0x050b2ff7,
  0x050c2ff7, 0x050d2ff7, 0x050e2ff7, 0x050f2ff7, 0x05102ff7, 0x05112feb, 0x05122feb, 0x05132fd4]

def wordsH : List Nat := [
  0x05142fd1, 0x0d142fce, 0x05152fd1, 0x0d152fce, 0x05162fd3, 0x05172fd4, 0x05182fd3, 0x05192fb6,
  0x0d192fbf, 0x15192fc0, 0x051a2fc0, 0x0d1a2fc3, 0x051b2fc4, 0x051c2fb8, 0x0d1c2fbf, 0x151c2fbf,
  0x1d1c2fc0, 0x251c2fc0, 0x051d2fcb, 0x051e2fcd, 0x051f2fd6, 0x05202fcc, 0x05212faf, 0x05222faf,
  0x05232faf, 0x05242fd1, 0x05252faf, 0x05262fd1, 0x05272faf, 0x05282faf, 0x05292faf, 0x052a2faf,
  0x052b2faf, 0x052c2faf, 0x052d2fd1, 0x052e2faf, 0x052f2faf, 0x05302faf, 0x05312faf, 0x05322fd1,
  0x05332faf, 0x05342fd1, 0x05352fd1, 0x05362faf, 0x05372ff2, 0x0d372ff3, 0x05382ff4, 0x05392ff5,
  0x053a2ff2, 0x0d3a2ff6, 0x053b2ff8, 0x053c2ff8, 0x053d2ff8, 0x053e2ff8, 0x053f2ff8, 0x05402ff8,
  0x05412ff8, 0x05422ff8, 0x05432ff8, 0x05442ff8, 0x05452ff8, 0x05462ff8, 0x05472fd1, 0x05482fd1,
  0x05492fb5, 0x0d492fd0, 0x054a2fb5, 0x0d4a2fd0, 0x054b2fd1, 0x054c2fd1, 0x054d2fd1, 0x054e2fd1,
  0x054f2fd1, 0x05502fd1, 0x05512fd1, 0x05522fd1, 0x05532fd1, 0x05542fd1, 0x05552fd1, 0x05562fd1,
  0x05572f63, 0x05582fa8, 0x0d582f9f, 0x05592f9c, 0x0d592f9f, 0x055a2faa, 0x0d5a2f9e, 0x055b2faa,
  0x0d5b2f9e, 0x055c2faa, 0x0d5c2f9e, 0x055d2fa8, 0x0d5d2f9f, 0x055e2fa8, 0x0d5e2f9f, 0x055f2f9c,
  0x0d5f2f9f, 0x05602faa, 0x0d602f9e, 0x05612faa, 0x0d612f9e, 0x05622faa, 0x0d622f9e, 0x05632fa8,
  0x0d632f9f, 0x05642fd1, 0x05652fd1, 0x05662fd1, 0x05672fd1, 0x05682fd1, 0x05692fd1, 0x056a2fd1,
  0x056b2fd1, 0x056c2ff8, 0x0d6c2ffc, 0x056d2fe0, 0x0d6d2fe1, 0x156d2fe6, 0x056e2fe0, 0x0d6e2fe1,
  0x156e2fe6, 0x056f2fe0, 0x0d6f2fe1, 0x156f2fe6, 0x05702fe0, 0x0d702fe1, 0x15702fe6, 0x05712fd1,
  0x05722fe1, 0x0d722fe6, 0x05732fe1, 0x0d732fe6, 0x05742fe1, 0x0d742fe6, 0x05752fe1, 0x0d752fe6,
  0x05762fe1, 0x0d762fe6, 0x05772fe1, 0x0d772fe6, 0x05782fe1, 0x0d782fe6, 0x05792fe1, 0x0d792fe6,
  0x057a2fd1, 0x057b2fce, 0x057c2fce, 0x057d2fce, 0x057e2fd1, 0x057f2fd1, 0x05802fd1, 0x058126cf,
  0x0d812fd2, 0x058227cf, 0x058326cf, 0x0d832fd2, 0x05842fd1, 0x05852fd1, 0x058626cf, 0x0d862fd2,
  0x058724cf, 0x0d872fd2, 0x05882fd1, 0x058924cf, 0x0d892fd2, 0x058a22cf, 0x0d8a2fd2, 0x058b23cf,
  0x058c22cf, 0x0d8c2fd2, 0x058d2fd1, 0x058e2fd1, 0x058f22cf, 0x0d8f2fd2, 0x05902fd1, 0x05912fd1,
  0x05922fd1, 0x05932fd1, 0x05942fd1, 0x05952fd1, 0x05962fd1, 0x05972fd1, 0x05982f9d, 0x05992fd1,
  0x059a2fd1, 0x059b2fd1, 0x059c2fd1, 0x059d2fd1, 0x059e2fd1, 0x059f2fd1, 0x05a02fd1, 0x05a12fd1,
  0x05a22f9d, 0x05a32fe3, 0x0da32fe7, 0x05a42fce, 0x05a52fce, 0x05a62ff0, 0x0da62ff9, 0x05a72fee,
  0x0da72ff9, 0x05a82f9d, 0x05a92fe3, 0x0da92fe7, 0x05aa2fe8, 0x05ab2fe8, 0x05ac2f9d, 0x05ad2f9d,
  0x05ae2fe4, 0x0dae2fe7, 0x05af2fe3, 0x0daf2fe7, 0x05b0230f, 0x05b12fd1, 0x05b22fd1, 0x05b32fe4,
  0x0db32fe7, 0x05b42fe3, 0x0db42fe7, 0x05b52f9d, 0x05b62f9d, 0x05b72faa, 0x0db72fb2, 0x05b82fa8,
  0x0db82fb2, 0x05b92fd1, 0x05ba2fd1, 0x05bb2fd1, 0x05bc2fd1, 0x05bd2fd1, 0x05be2fd1, 0x05bf2f00,
  0x05c02f00, 0x05c12f00, 0x05c22219, 0x0dc2221a, 0x05c32319, 0x0dc3231a, 0x05c42f00, 0x05c53f00,
  0x05c6201e, 0x05c72f09, 0x05c82f4c, 0x0dc82f67, 0x15c82f47, 0x1dc82f5e, 0x05c92f16, 0x05ca1f4c,
  0x0dca1f66, 0x15ca1f67, 0x1dca1f67, 0x25ca1f20, 0x2dca1f47, 0x35ca1f56, 0x3dca1f59, 0x45ca1f5e,
  0x4dca1f5e, 0x05cb3f00, 0x05cc3f00, 0x05cd3f00, 0x05ce3f00, 0x05cf3f00, 0x05d03f00, 0x05d13f00,
  0x05d21f00, 0x05d31f00, 0x05d41f22, 0x0dd4164b, 0x15d41f4c, 0x1dd41665, 0x25d41f67, 0x2dd41f68,
  0x35d41658, 0x3dd41f1f, 0x45d41645, 0x4dd41646, 0x55d41f47, 0x5dd41657, 0x65d41f5e, 0x6dd41f60,
  0x05d52faf, 0x05d62faf, 0x05d7250d, 0x05d8250d, 0x05d9230d, 0x05da240d, 0x05db240d, 0x05dc240d,
  0x05dd260d, 0x05de250d, 0x05df3f00, 0x05e03f00, 0x05e13f00, 0x05e23f00, 0x05e33f00]

end Instructions

open Instructions in
def entries : List Entry :=
  (wordsA ++ wordsB ++ wordsC ++ wordsD ++ wordsE ++ wordsF ++ wordsG ++ wordsH).map
    fun w => ⟨BitVec.ofNat 32 w⟩

namespace Instructions

def startsA : List Nat := [
  0, 3, 6, 9, 12, 15, 19, 22, 27, 32, 37, 42, 50, 58, 62, 68, 78, 84, 94, 100, 115, 118, 122, 128,
  134, 139, 144, 148, 153, 160, 164, 169, 175, 179, 186, 193, 201, 209, 216, 220, 225, 231, 235,
  240, 245, 250, 256, 261, 267, 273, 278, 281, 284, 289, 291, 294, 297, 300, 304, 308, 313, 316,
  319, 323, 327, 330, 333, 340, 344, 347, 351, 357, 360, 365, 371, 376, 382, 387, 392, 397, 403,
  408, 414, 420, 427, 433, 440, 446, 452, 458, 465, 471, 478, 484, 490, 496, 502, 507, 512, 518,
  524, 529, 534, 537, 544, 551, 558, 565, 572, 579, 586, 593, 600, 607, 614, 621, 629, 637, 645,
  653, 661, 669, 677, 685, 693, 701, 709, 717, 725, 733, 741, 749, 754, 759, 764, 769, 774, 779,
  784, 794, 804, 814, 824, 831, 841, 850, 856, 862, 870, 879, 884, 887, 892, 900, 908, 916, 924,
  932, 940, 948, 956, 964, 972, 980, 988, 996, 1004, 1012, 1020, 1029, 1038, 1047, 1056, 1065,
  1074, 1077, 1081, 1084, 1087, 1090, 1093, 1098, 1103, 1108, 1113, 1118, 1122, 1126, 1130, 1135,
  1144, 1149, 1154, 1158, 1162, 1167, 1171, 1176, 1180, 1185, 1191, 1198, 1204, 1211, 1219, 1226,
  1233, 1239, 1243, 1248, 1254, 1259, 1265, 1269, 1276, 1281, 1285, 1290, 1295, 1301, 1306, 1310,
  1315, 1320, 1325, 1331, 1336, 1342, 1346, 1351, 1358, 1363, 1367, 1372, 1378, 1383, 1389, 1392,
  1396, 1401, 1407, 1413, 1419, 1425, 1431, 1436, 1440, 1444, 1449, 1455, 1461, 1466, 1472, 1476,
  1482, 1488, 1495, 1501, 1507, 1512, 1518, 1523, 1530, 1536, 1541, 1547, 1553, 1557, 1564, 1569,
  1572, 1577, 1583, 1587, 1592, 1596, 1601, 1606, 1612, 1616, 1621, 1627, 1634, 1640, 1647, 1652,
  1656, 1660, 1667, 1676, 1682, 1690, 1697, 1702, 1709, 1715, 1721, 1727, 1730, 1736, 1742, 1747,
  1751, 1755, 1757, 1760, 1764, 1768, 1776, 1783, 1787, 1790, 1795, 1800, 1804, 1808, 1812, 1816,
  1822, 1828, 1835, 1842, 1849, 1853, 1858, 1863, 1868, 1870, 1873, 1875, 1878, 1880, 1882, 1887,
  1889, 1892, 1894, 1897, 1900, 1904, 1907, 1911, 1914, 1918, 1921, 1924, 1927, 1931, 1934, 1938,
  1941, 1944, 1947, 1950, 1952, 1954, 1957, 1960, 1965, 1967, 1969, 1973, 1976, 1981, 1988, 1991,
  1994, 1999, 2002, 2008, 2011, 2015, 2018, 2022, 2026, 2032, 2036, 2041, 2046, 2051]

def startsB : List Nat := [
  2056, 2060, 2065, 2071, 2077, 2082, 2085, 2088, 2091, 2097, 2103, 2108, 2118, 2126, 2131, 2136,
  2141, 2146, 2152, 2157, 2162, 2167, 2172, 2179, 2187, 2194, 2197, 2203, 2209, 2215, 2220, 2224,
  2231, 2238, 2244, 2250, 2257, 2263, 2269, 2276, 2282, 2288, 2296, 2304, 2311, 2319, 2325, 2332,
  2339, 2345, 2352, 2359, 2363, 2370, 2375, 2380, 2388, 2396, 2401, 2406, 2411, 2416, 2422, 2428,
  2434, 2439, 2446, 2449, 2454, 2459, 2464, 2469, 2473, 2478, 2484, 2487, 2490, 2493, 2495, 2499,
  2503, 2506, 2511, 2516, 2521, 2526, 2531, 2536, 2544, 2552, 2560, 2568, 2573, 2578, 2583, 2589,
  2596, 2602, 2609, 2616, 2621, 2628, 2632, 2637, 2642, 2647, 2652, 2659, 2664, 2672, 2679, 2691,
  2703, 2715, 2727, 2736, 2743, 2750, 2757, 2764, 2773, 2782, 2789, 2796, 2803, 2810, 2819, 2828,
  2832, 2839, 2843, 2849, 2855, 2861, 2867, 2872, 2877, 2882, 2887, 2894, 2901, 2908, 2913, 2918,
  2923, 2929, 2936, 2941, 2949, 2957, 2963, 2971, 2978, 2986, 2991, 2997, 3003, 3010, 3016, 3026,
  3032, 3039, 3045, 3050, 3055, 3061, 3067, 3073, 3079, 3087, 3096, 3103, 3108, 3114, 3120, 3126,
  3132, 3138, 3144, 3150, 3156, 3162, 3168, 3174, 3180, 3188, 3196, 3204, 3212, 3220, 3228, 3236,
  3244, 3252, 3260, 3268, 3276, 3284, 3290, 3298, 3306, 3314, 3322, 3329, 3335, 3341, 3347, 3354,
  3361, 3367, 3373, 3378, 3381, 3385, 3390, 3396, 3400, 3405, 3410, 3413, 3421, 3432, 3442, 3452,
  3462, 3471, 3482, 3488, 3494, 3500, 3507, 3514, 3520, 3526, 3532, 3538, 3543, 3549, 3554, 3559,
  3564, 3569, 3574, 3580, 3585, 3590, 3595, 3600, 3605, 3611, 3618, 3624, 3631, 3638, 3643, 3649,
  3654, 3663, 3672, 3682, 3691, 3700, 3709, 3719, 3728, 3732, 3737, 3743, 3748, 3754, 3760, 3764,
  3767, 3772, 3777, 3780, 3788, 3796, 3799, 3804, 3809, 3815, 3820, 3826, 3832, 3837, 3842, 3848,
  3851, 3855, 3859, 3862, 3865, 3869, 3876, 3883, 3890, 3897, 3901, 3906, 3909, 3916, 3923, 3927,
  3931, 3934, 3937, 3941, 3944, 3949, 3954, 3959, 3964, 3968, 3973, 3977, 3982, 3986, 3990, 3994,
  3999, 4003, 4008, 4013, 4019, 4024, 4030, 4035, 4040, 4045, 4051, 4056, 4062, 4067, 4072, 4077,
  4082, 4086, 4090, 4095, 4100, 4104, 4108, 4114, 4118, 4126, 4134, 4143, 4152, 4162, 4172, 4183,
  4186, 4190, 4194, 4197, 4201, 4205, 4211, 4217, 4221, 4227, 4231, 4237, 4242, 4246, 4252, 4258,
  4264, 4270, 4274, 4277, 4280, 4284, 4287, 4294, 4299, 4304, 4309, 4314]

def startsC : List Nat := [
  4317, 4320, 4325, 4330, 4335, 4340, 4344, 4349, 4353, 4359, 4366, 4374, 4381, 4387, 4393, 4397,
  4402, 4407, 4414, 4421, 4424, 4428, 4436, 4444, 4452, 4460, 4466, 4472, 4478, 4484, 4493, 4502,
  4509, 4520, 4527, 4538, 4545, 4561, 4568, 4575, 4581, 4587, 4595, 4603, 4612, 4621, 4635, 4649,
  4661, 4673, 4684, 4695, 4706, 4717, 4728, 4739, 4750, 4761, 4772, 4783, 4794, 4805, 4813, 4821,
  4829, 4837, 4851, 4865, 4879, 4893, 4907, 4921, 4935, 4949, 4960, 4971, 4982, 4993, 5004, 5015,
  5026, 5037, 5048, 5059, 5070, 5081, 5089, 5097, 5105, 5113, 5124, 5135, 5146, 5157, 5168, 5179,
  5190, 5201, 5209, 5217, 5225, 5233, 5244, 5255, 5266, 5277, 5288, 5299, 5310, 5321, 5329, 5337,
  5345, 5353, 5364, 5375, 5386, 5397, 5408, 5419, 5430, 5441, 5449, 5457, 5465, 5473, 5485, 5497,
  5509, 5521, 5533, 5545, 5557, 5569, 5581, 5593, 5605, 5617, 5629, 5641, 5653, 5665, 5674, 5683,
  5692, 5701, 5713, 5725, 5737, 5749, 5761, 5773, 5785, 5797, 5806, 5815, 5824, 5833, 5845, 5857,
  5869, 5881, 5893, 5905, 5917, 5929, 5938, 5947, 5956, 5965, 5977, 5989, 6001, 6013, 6025, 6037,
  6049, 6061, 6070, 6079, 6088, 6097, 6109, 6121, 6133, 6145, 6157, 6169, 6181, 6193, 6202, 6211,
  6220, 6229, 6240, 6251, 6262, 6273, 6284, 6295, 6306, 6317, 6326, 6335, 6344, 6353, 6359, 6365,
  6371, 6377, 6390, 6403, 6416, 6429, 6442, 6455, 6468, 6481, 6491, 6501, 6511, 6521, 6534, 6547,
  6560, 6573, 6586, 6599, 6612, 6625, 6636, 6647, 6658, 6669, 6676, 6683, 6692, 6701, 6710, 6719,
  6728, 6737, 6746, 6755, 6764, 6773, 6782, 6791, 6800, 6809, 6819, 6829, 6839, 6849, 6855, 6861,
  6867, 6873, 6878, 6883, 6887, 6891, 6903, 6915, 6925, 6936, 6947, 6958, 6969, 6980, 6991, 7002,
  7013, 7024, 7035, 7046, 7057, 7068, 7079, 7090, 7101, 7112, 7123, 7134, 7145, 7156, 7167, 7178,
  7189, 7197, 7205, 7213, 7221, 7235, 7249, 7263, 7277, 7291, 7305, 7319, 7333, 7347, 7361, 7375,
  7389, 7400, 7411, 7422, 7433, 7444, 7455, 7466, 7477, 7488, 7499, 7510, 7521, 7532, 7543, 7554,
  7565, 7576, 7587, 7598, 7609, 7620, 7631, 7642, 7653, 7664, 7675, 7689, 7703, 7717, 7731, 7745,
  7759, 7773, 7787, 7801, 7815, 7829, 7843, 7854, 7865, 7873, 7881, 7889, 7897, 7909, 7921, 7933,
  7945, 7957, 7969, 7981, 7993, 8005, 8017, 8029, 8041, 8053, 8065, 8077, 8089, 8101, 8113, 8125,
  8137, 8149, 8161, 8173, 8185, 8194, 8203, 8212, 8221, 8233, 8245, 8257]

def startsD : List Nat := [
  8269, 8281, 8293, 8305, 8317, 8329, 8341, 8353, 8365, 8377, 8389, 8401, 8413, 8425, 8437, 8449,
  8461, 8473, 8485, 8497, 8509, 8518, 8527, 8536, 8545, 8552, 8559, 8566, 8573, 8583, 8593, 8603,
  8613, 8620, 8627, 8634, 8641, 8652, 8663, 8672, 8678, 8686, 8692, 8703, 8713, 8723, 8729, 8735,
  8741, 8747, 8753, 8760, 8766, 8772, 8778, 8784, 8790, 8798, 8804, 8811, 8818, 8825, 8830, 8838,
  8845, 8852, 8860, 8867, 8874, 8882, 8889, 8896, 8905, 8914, 8922, 8931, 8939, 8947, 8955, 8960,
  8967, 8974, 8980, 8989, 8998, 9004, 9011, 9018, 9026, 9033, 9040, 9046, 9054, 9059, 9065, 9071,
  9077, 9083, 9089, 9096, 9102, 9107, 9112, 9117, 9123, 9129, 9135, 9144, 9153, 9162, 9171, 9177,
  9183, 9189, 9196, 9203, 9211, 9219, 9225, 9233, 9238, 9244, 9250, 9256, 9264, 9273, 9281, 9293,
  9305, 9317, 9329, 9342, 9355, 9368, 9381, 9391, 9397, 9405, 9413, 9421, 9429, 9439, 9449, 9457,
  9465, 9473, 9481, 9491, 9501, 9507, 9513, 9519, 9526, 9533, 9540, 9547, 9553, 9563, 9573, 9579,
  9588, 9597, 9604, 9611, 9617, 9624, 9631, 9638, 9645, 9655, 9665, 9675, 9685, 9693, 9701, 9709,
  9716, 9724, 9732, 9741, 9750, 9759, 9768, 9777, 9786, 9793, 9801, 9809, 9820, 9828, 9835, 9843,
  9851, 9858, 9866, 9873, 9880, 9887, 9894, 9902, 9911, 9920, 9929, 9939, 9949, 9958, 9967, 9975,
  9983, 9993, 10002, 10012, 10020, 10030, 10040, 10047, 10054, 10061, 10068, 10075, 10082, 10089,
  10096, 10103, 10110, 10117, 10124, 10133, 10142, 10151, 10160, 10169, 10178, 10187, 10196, 10205,
  10214, 10223, 10232, 10241, 10248, 10257, 10265, 10272, 10279, 10286, 10294, 10298, 10304, 10310,
  10316, 10322, 10328, 10335, 10341, 10347, 10353, 10359, 10365, 10371, 10377, 10383, 10390, 10397,
  10405, 10413, 10420, 10427, 10434, 10440, 10447, 10453, 10460, 10467, 10473, 10479, 10486, 10492,
  10498, 10505, 10511, 10518, 10525, 10531, 10537, 10543, 10549, 10556, 10563, 10571, 10579, 10585,
  10591, 10601, 10611, 10622, 10632, 10642, 10652, 10663, 10673, 10678, 10684, 10690, 10698, 10706,
  10714, 10722, 10730, 10738, 10745, 10752, 10759, 10766, 10773, 10780, 10788, 10794, 10800, 10806,
  10812, 10819, 10826, 10834, 10842, 10851, 10860, 10869, 10878, 10884, 10890, 10898, 10908, 10914,
  10922, 10930, 10935, 10941, 10946, 10952, 10956, 10962, 10966, 10975, 10984, 10993, 11002, 11011,
  11015, 11021, 11025, 11030, 11033, 11038, 11043, 11049, 11057, 11066, 11071, 11078, 11086, 11096,
  11104, 11110, 11115, 11122, 11128]

end Instructions

open Instructions in
/-- The names of all mnemonics stand in one text, one behind the other. This is where they begin. -/
def nameStarts : List Nat :=
  startsA ++ startsB ++ startsC ++ startsD

def namesLength : Nat := 11133

end MachineCode.X86
