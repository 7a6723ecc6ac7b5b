import MountSweep.Unicode.Category

namespace MountSweep.Unicode.CategoryTable

open Category

def page0 : List (Nat × Category × Category) := [
  (0x0, Cc, Cc), (0x20, Zs, Zs), (0x21, Po, Po), (0x24, Sc, Sc), (0x25, Po, Po),
  (0x28, Ps, Ps), (0x29, Pe, Pe), (0x2A, Po, Po), (0x2B, Sm, Sm), (0x2C, Po, Po),
  (0x2D, Pd, Pd), (0x2E, Po, Po), (0x30, Nd, Nd), (0x3A, Po, Po), (0x3C, Sm, Sm),
  (0x3F, Po, Po), (0x41, Lu, Lu), (0x5B, Ps, Ps), (0x5C, Po, Po), (0x5D, Pe, Pe),
  (0x5E, Sk, Sk), (0x5F, Pc, Pc), (0x60, Sk, Sk), (0x61, Ll, Ll), (0x7B, Ps, Ps),
  (0x7C, Sm, Sm), (0x7D, Pe, Pe), (0x7E, Sm, Sm), (0x7F, Cc, Cc), (0xA0, Zs, Zs),
  (0xA1, Po, Po), (0xA2, Sc, Sc), (0xA6, So, So), (0xA7, Po, Po), (0xA8, Sk, Sk),
  (0xA9, So, So), (0xAA, Lo, Lo), (0xAB, Pi, Pi), (0xAC, Sm, Sm), (0xAD, Cf, Cf),
  (0xAE, So, So), (0xAF, Sk, Sk), (0xB0, So, So), (0xB1, Sm, Sm), (0xB2, No, No),
  (0xB4, Sk, Sk), (0xB5, Ll, Ll), (0xB6, Po, Po), (0xB8, Sk, Sk), (0xB9, No, No),
  (0xBA, Lo, Lo), (0xBB, Pf, Pf), (0xBC, No, No), (0xBF, Po, Po), (0xC0, Lu, Lu),
  (0xD7, Sm, Sm), (0xD8, Lu, Lu), (0xDF, Ll, Ll), (0xF7, Sm, Sm), (0xF8, Ll, Ll),
  (0x100, Lu, Ll), (0x137, Ll, Ll), (0x139, Lu, Ll), (0x148, Ll, Ll)]

def page1 : List (Nat × Category × Category) := [
  (0x14A, Lu, Ll), (0x178, Lu, Lu), (0x17A, Ll, Lu), (0x17E, Ll, Ll), (0x181, Lu, Lu),
  (0x183, Ll, Lu), (0x186, Lu, Lu), (0x188, Ll, Ll), (0x189, Lu, Lu), (0x18C, Ll, Ll),
  (0x18E, Lu, Lu), (0x192, Ll, Ll), (0x193, Lu, Lu), (0x195, Ll, Ll), (0x196, Lu, Lu),
  (0x199, Ll, Ll), (0x19C, Lu, Lu), (0x19E, Ll, Ll), (0x19F, Lu, Lu), (0x1A1, Ll, Lu),
  (0x1A6, Lu, Lu), (0x1A8, Ll, Ll), (0x1A9, Lu, Lu), (0x1AA, Ll, Ll), (0x1AC, Lu, Lu),
  (0x1AD, Ll, Ll), (0x1AE, Lu, Lu), (0x1B0, Ll, Ll), (0x1B1, Lu, Lu), (0x1B4, Ll, Lu),
  (0x1B7, Lu, Lu), (0x1B9, Ll, Ll), (0x1BB, Lo, Lo), (0x1BC, Lu, Lu), (0x1BD, Ll, Ll),
  (0x1C0, Lo, Lo), (0x1C4, Lu, Lu), (0x1C5, Lt, Lt), (0x1C6, Ll, Ll), (0x1C7, Lu, Lu),
  (0x1C8, Lt, Lt), (0x1C9, Ll, Ll), (0x1CA, Lu, Lu), (0x1CB, Lt, Lt), (0x1CC, Ll, Lu),
  (0x1DC, Ll, Ll), (0x1DE, Lu, Ll), (0x1EF, Ll, Ll), (0x1F1, Lu, Lu), (0x1F2, Lt, Lt),
  (0x1F3, Ll, Lu), (0x1F6, Lu, Lu), (0x1F9, Ll, Lu), (0x233, Ll, Ll), (0x23A, Lu, Lu),
  (0x23C, Ll, Ll), (0x23D, Lu, Lu), (0x23F, Ll, Ll), (0x241, Lu, Lu), (0x242, Ll, Ll),
  (0x243, Lu, Lu), (0x247, Ll, Lu), (0x24F, Ll, Ll), (0x294, Lo, Lo)]

def page2 : List (Nat × Category × Category) := [
  (0x295, Ll, Ll), (0x2B0, Lm, Lm), (0x2C2, Sk, Sk), (0x2C6, Lm, Lm), (0x2D2, Sk, Sk),
  (0x2E0, Lm, Lm), (0x2E5, Sk, Sk), (0x2EC, Lm, Lm), (0x2ED, Sk, Sk), (0x2EE, Lm, Lm),
  (0x2EF, Sk, Sk), (0x300, Mn, Mn), (0x370, Lu, Ll), (0x374, Lm, Lm), (0x375, Sk, Sk),
  (0x376, Lu, Lu), (0x377, Ll, Ll), (0x378, Cn, Cn), (0x37A, Lm, Lm), (0x37B, Ll, Ll),
  (0x37E, Po, Po), (0x37F, Lu, Lu), (0x380, Cn, Cn), (0x384, Sk, Sk), (0x386, Lu, Lu),
  (0x387, Po, Po), (0x388, Lu, Lu), (0x38B, Cn, Cn), (0x38C, Lu, Lu), (0x38D, Cn, Cn),
  (0x38E, Lu, Lu), (0x390, Ll, Ll), (0x391, Lu, Lu), (0x3A2, Cn, Cn), (0x3A3, Lu, Lu),
  (0x3AC, Ll, Ll), (0x3CF, Lu, Lu), (0x3D0, Ll, Ll), (0x3D2, Lu, Lu), (0x3D5, Ll, Ll),
  (0x3D8, Lu, Ll), (0x3EF, Ll, Ll), (0x3F4, Lu, Lu), (0x3F5, Ll, Ll), (0x3F6, Sm, Sm),
  (0x3F7, Lu, Lu), (0x3F8, Ll, Ll), (0x3F9, Lu, Lu), (0x3FB, Ll, Ll), (0x3FD, Lu, Lu),
  (0x430, Ll, Ll), (0x460, Lu, Ll), (0x482, So, So), (0x483, Mn, Mn), (0x488, Me, Me),
  (0x48A, Lu, Ll), (0x4C0, Lu, Lu), (0x4C2, Ll, Lu), (0x4CE, Ll, Ll), (0x4D0, Lu, Ll),
  (0x530, Cn, Cn), (0x531, Lu, Lu), (0x557, Cn, Cn), (0x559, Lm, Lm)]

def page3 : List (Nat × Category × Category) := [
  (0x55A, Po, Po), (0x560, Ll, Ll), (0x589, Po, Po), (0x58A, Pd, Pd), (0x58B, Cn, Cn),
  (0x58D, So, So), (0x58F, Sc, Sc), (0x590, Cn, Cn), (0x591, Mn, Mn), (0x5BE, Pd, Pd),
  (0x5BF, Mn, Mn), (0x5C0, Po, Po), (0x5C1, Mn, Mn), (0x5C3, Po, Po), (0x5C4, Mn, Mn),
  (0x5C6, Po, Po), (0x5C7, Mn, Mn), (0x5C8, Cn, Cn), (0x5D0, Lo, Lo), (0x5EB, Cn, Cn),
  (0x5EF, Lo, Lo), (0x5F3, Po, Po), (0x5F5, Cn, Cn), (0x600, Cf, Cf), (0x606, Sm, Sm),
  (0x609, Po, Po), (0x60B, Sc, Sc), (0x60C, Po, Po), (0x60E, So, So), (0x610, Mn, Mn),
  (0x61B, Po, Po), (0x61C, Cf, Cf), (0x61D, Po, Po), (0x620, Lo, Lo), (0x640, Lm, Lm),
  (0x641, Lo, Lo), (0x64B, Mn, Mn), (0x660, Nd, Nd), (0x66A, Po, Po), (0x66E, Lo, Lo),
  (0x670, Mn, Mn), (0x671, Lo, Lo), (0x6D4, Po, Po), (0x6D5, Lo, Lo), (0x6D6, Mn, Mn),
  (0x6DD, Cf, Cf), (0x6DE, So, So), (0x6DF, Mn, Mn), (0x6E5, Lm, Lm), (0x6E7, Mn, Mn),
  (0x6E9, So, So), (0x6EA, Mn, Mn), (0x6EE, Lo, Lo), (0x6F0, Nd, Nd), (0x6FA, Lo, Lo),
  (0x6FD, So, So), (0x6FF, Lo, Lo), (0x700, Po, Po), (0x70E, Cn, Cn), (0x70F, Cf, Cf),
  (0x710, Lo, Lo), (0x711, Mn, Mn), (0x712, Lo, Lo), (0x730, Mn, Mn)]

def page4 : List (Nat × Category × Category) := [
  (0x74B, Cn, Cn), (0x74D, Lo, Lo), (0x7A6, Mn, Mn), (0x7B1, Lo, Lo), (0x7B2, Cn, Cn),
  (0x7C0, Nd, Nd), (0x7CA, Lo, Lo), (0x7EB, Mn, Mn), (0x7F4, Lm, Lm), (0x7F6, So, So),
  (0x7F7, Po, Po), (0x7FA, Lm, Lm), (0x7FB, Cn, Cn), (0x7FD, Mn, Mn), (0x7FE, Sc, Sc),
  (0x800, Lo, Lo), (0x816, Mn, Mn), (0x81A, Lm, Lm), (0x81B, Mn, Mn), (0x824, Lm, Lm),
  (0x825, Mn, Mn), (0x828, Lm, Lm), (0x829, Mn, Mn), (0x82E, Cn, Cn), (0x830, Po, Po),
  (0x83F, Cn, Cn), (0x840, Lo, Lo), (0x859, Mn, Mn), (0x85C, Cn, Cn), (0x85E, Po, Po),
  (0x85F, Cn, Cn), (0x860, Lo, Lo), (0x86B, Cn, Cn), (0x870, Lo, Lo), (0x888, Sk, Sk),
  (0x889, Lo, Lo), (0x88F, Cn, Cn), (0x890, Cf, Cf), (0x892, Cn, Cn), (0x897, Mn, Mn),
  (0x8A0, Lo, Lo), (0x8C9, Lm, Lm), (0x8CA, Mn, Mn), (0x8E2, Cf, Cf), (0x8E3, Mn, Mn),
  (0x903, Mc, Mc), (0x904, Lo, Lo), (0x93A, Mn, Mn), (0x93B, Mc, Mc), (0x93C, Mn, Mn),
  (0x93D, Lo, Lo), (0x93E, Mc, Mc), (0x941, Mn, Mn), (0x949, Mc, Mc), (0x94D, Mn, Mn),
  (0x94E, Mc, Mc), (0x950, Lo, Lo), (0x951, Mn, Mn), (0x958, Lo, Lo), (0x962, Mn, Mn),
  (0x964, Po, Po), (0x966, Nd, Nd), (0x970, Po, Po), (0x971, Lm, Lm)]

def page5 : List (Nat × Category × Category) := [
  (0x972, Lo, Lo), (0x981, Mn, Mn), (0x982, Mc, Mc), (0x984, Cn, Cn), (0x985, Lo, Lo),
  (0x98D, Cn, Cn), (0x98F, Lo, Lo), (0x991, Cn, Cn), (0x993, Lo, Lo), (0x9A9, Cn, Cn),
  (0x9AA, Lo, Lo), (0x9B1, Cn, Cn), (0x9B2, Lo, Lo), (0x9B3, Cn, Cn), (0x9B6, Lo, Lo),
  (0x9BA, Cn, Cn), (0x9BC, Mn, Mn), (0x9BD, Lo, Lo), (0x9BE, Mc, Mc), (0x9C1, Mn, Mn),
  (0x9C5, Cn, Cn), (0x9C7, Mc, Mc), (0x9C9, Cn, Cn), (0x9CB, Mc, Mc), (0x9CD, Mn, Mn),
  (0x9CE, Lo, Lo), (0x9CF, Cn, Cn), (0x9D7, Mc, Mc), (0x9D8, Cn, Cn), (0x9DC, Lo, Lo),
  (0x9DE, Cn, Cn), (0x9DF, Lo, Lo), (0x9E2, Mn, Mn), (0x9E4, Cn, Cn), (0x9E6, Nd, Nd),
  (0x9F0, Lo, Lo), (0x9F2, Sc, Sc), (0x9F4, No, No), (0x9FA, So, So), (0x9FB, Sc, Sc),
  (0x9FC, Lo, Lo), (0x9FD, Po, Po), (0x9FE, Mn, Mn), (0x9FF, Cn, Cn), (0xA01, Mn, Mn),
  (0xA03, Mc, Mc), (0xA04, Cn, Cn), (0xA05, Lo, Lo), (0xA0B, Cn, Cn), (0xA0F, Lo, Lo),
  (0xA11, Cn, Cn), (0xA13, Lo, Lo), (0xA29, Cn, Cn), (0xA2A, Lo, Lo), (0xA31, Cn, Cn),
  (0xA32, Lo, Lo), (0xA34, Cn, Cn), (0xA35, Lo, Lo), (0xA37, Cn, Cn), (0xA38, Lo, Lo),
  (0xA3A, Cn, Cn), (0xA3C, Mn, Mn), (0xA3D, Cn, Cn), (0xA3E, Mc, Mc)]

def page6 : List (Nat × Category × Category) := [
  (0xA41, Mn, Mn), (0xA43, Cn, Cn), (0xA47, Mn, Mn), (0xA49, Cn, Cn), (0xA4B, Mn, Mn),
  (0xA4E, Cn, Cn), (0xA51, Mn, Mn), (0xA52, Cn, Cn), (0xA59, Lo, Lo), (0xA5D, Cn, Cn),
  (0xA5E, Lo, Lo), (0xA5F, Cn, Cn), (0xA66, Nd, Nd), (0xA70, Mn, Mn), (0xA72, Lo, Lo),
  (0xA75, Mn, Mn), (0xA76, Po, Po), (0xA77, Cn, Cn), (0xA81, Mn, Mn), (0xA83, Mc, Mc),
  (0xA84, Cn, Cn), (0xA85, Lo, Lo), (0xA8E, Cn, Cn), (0xA8F, Lo, Lo), (0xA92, Cn, Cn),
  (0xA93, Lo, Lo), (0xAA9, Cn, Cn), (0xAAA, Lo, Lo), (0xAB1, Cn, Cn), (0xAB2, Lo, Lo),
  (0xAB4, Cn, Cn), (0xAB5, Lo, Lo), (0xABA, Cn, Cn), (0xABC, Mn, Mn), (0xABD, Lo, Lo),
  (0xABE, Mc, Mc), (0xAC1, Mn, Mn), (0xAC6, Cn, Cn), (0xAC7, Mn, Mn), (0xAC9, Mc, Mc),
  (0xACA, Cn, Cn), (0xACB, Mc, Mc), (0xACD, Mn, Mn), (0xACE, Cn, Cn), (0xAD0, Lo, Lo),
  (0xAD1, Cn, Cn), (0xAE0, Lo, Lo), (0xAE2, Mn, Mn), (0xAE4, Cn, Cn), (0xAE6, Nd, Nd),
  (0xAF0, Po, Po), (0xAF1, Sc, Sc), (0xAF2, Cn, Cn), (0xAF9, Lo, Lo), (0xAFA, Mn, Mn),
  (0xB00, Cn, Cn), (0xB01, Mn, Mn), (0xB02, Mc, Mc), (0xB04, Cn, Cn), (0xB05, Lo, Lo),
  (0xB0D, Cn, Cn), (0xB0F, Lo, Lo), (0xB11, Cn, Cn), (0xB13, Lo, Lo)]

def page7 : List (Nat × Category × Category) := [
  (0xB29, Cn, Cn), (0xB2A, Lo, Lo), (0xB31, Cn, Cn), (0xB32, Lo, Lo), (0xB34, Cn, Cn),
  (0xB35, Lo, Lo), (0xB3A, Cn, Cn), (0xB3C, Mn, Mn), (0xB3D, Lo, Lo), (0xB3E, Mc, Mc),
  (0xB3F, Mn, Mn), (0xB40, Mc, Mc), (0xB41, Mn, Mn), (0xB45, Cn, Cn), (0xB47, Mc, Mc),
  (0xB49, Cn, Cn), (0xB4B, Mc, Mc), (0xB4D, Mn, Mn), (0xB4E, Cn, Cn), (0xB55, Mn, Mn),
  (0xB57, Mc, Mc), (0xB58, Cn, Cn), (0xB5C, Lo, Lo), (0xB5E, Cn, Cn), (0xB5F, Lo, Lo),
  (0xB62, Mn, Mn), (0xB64, Cn, Cn), (0xB66, Nd, Nd), (0xB70, So, So), (0xB71, Lo, Lo),
  (0xB72, No, No), (0xB78, Cn, Cn), (0xB82, Mn, Mn), (0xB83, Lo, Lo), (0xB84, Cn, Cn),
  (0xB85, Lo, Lo), (0xB8B, Cn, Cn), (0xB8E, Lo, Lo), (0xB91, Cn, Cn), (0xB92, Lo, Lo),
  (0xB96, Cn, Cn), (0xB99, Lo, Lo), (0xB9B, Cn, Cn), (0xB9C, Lo, Lo), (0xB9D, Cn, Cn),
  (0xB9E, Lo, Lo), (0xBA0, Cn, Cn), (0xBA3, Lo, Lo), (0xBA5, Cn, Cn), (0xBA8, Lo, Lo),
  (0xBAB, Cn, Cn), (0xBAE, Lo, Lo), (0xBBA, Cn, Cn), (0xBBE, Mc, Mc), (0xBC0, Mn, Mn),
  (0xBC1, Mc, Mc), (0xBC3, Cn, Cn), (0xBC6, Mc, Mc), (0xBC9, Cn, Cn), (0xBCA, Mc, Mc),
  (0xBCD, Mn, Mn), (0xBCE, Cn, Cn), (0xBD0, Lo, Lo), (0xBD1, Cn, Cn)]

def page8 : List (Nat × Category × Category) := [
  (0xBD7, Mc, Mc), (0xBD8, Cn, Cn), (0xBE6, Nd, Nd), (0xBF0, No, No), (0xBF3, So, So),
  (0xBF9, Sc, Sc), (0xBFA, So, So), (0xBFB, Cn, Cn), (0xC00, Mn, Mn), (0xC01, Mc, Mc),
  (0xC04, Mn, Mn), (0xC05, Lo, Lo), (0xC0D, Cn, Cn), (0xC0E, Lo, Lo), (0xC11, Cn, Cn),
  (0xC12, Lo, Lo), (0xC29, Cn, Cn), (0xC2A, Lo, Lo), (0xC3A, Cn, Cn), (0xC3C, Mn, Mn),
  (0xC3D, Lo, Lo), (0xC3E, Mn, Mn), (0xC41, Mc, Mc), (0xC45, Cn, Cn), (0xC46, Mn, Mn),
  (0xC49, Cn, Cn), (0xC4A, Mn, Mn), (0xC4E, Cn, Cn), (0xC55, Mn, Mn), (0xC57, Cn, Cn),
  (0xC58, Lo, Lo), (0xC5B, Cn, Cn), (0xC5D, Lo, Lo), (0xC5E, Cn, Cn), (0xC60, Lo, Lo),
  (0xC62, Mn, Mn), (0xC64, Cn, Cn), (0xC66, Nd, Nd), (0xC70, Cn, Cn), (0xC77, Po, Po),
  (0xC78, No, No), (0xC7F, So, So), (0xC80, Lo, Lo), (0xC81, Mn, Mn), (0xC82, Mc, Mc),
  (0xC84, Po, Po), (0xC85, Lo, Lo), (0xC8D, Cn, Cn), (0xC8E, Lo, Lo), (0xC91, Cn, Cn),
  (0xC92, Lo, Lo), (0xCA9, Cn, Cn), (0xCAA, Lo, Lo), (0xCB4, Cn, Cn), (0xCB5, Lo, Lo),
  (0xCBA, Cn, Cn), (0xCBC, Mn, Mn), (0xCBD, Lo, Lo), (0xCBE, Mc, Mc), (0xCBF, Mn, Mn),
  (0xCC0, Mc, Mc), (0xCC5, Cn, Cn), (0xCC6, Mn, Mn), (0xCC7, Mc, Mc)]

def page9 : List (Nat × Category × Category) := [
  (0xCC9, Cn, Cn), (0xCCA, Mc, Mc), (0xCCC, Mn, Mn), (0xCCE, Cn, Cn), (0xCD5, Mc, Mc),
  (0xCD7, Cn, Cn), (0xCDD, Lo, Lo), (0xCDF, Cn, Cn), (0xCE0, Lo, Lo), (0xCE2, Mn, Mn),
  (0xCE4, Cn, Cn), (0xCE6, Nd, Nd), (0xCF0, Cn, Cn), (0xCF1, Lo, Lo), (0xCF3, Mc, Mc),
  (0xCF4, Cn, Cn), (0xD00, Mn, Mn), (0xD02, Mc, Mc), (0xD04, Lo, Lo), (0xD0D, Cn, Cn),
  (0xD0E, Lo, Lo), (0xD11, Cn, Cn), (0xD12, Lo, Lo), (0xD3B, Mn, Mn), (0xD3D, Lo, Lo),
  (0xD3E, Mc, Mc), (0xD41, Mn, Mn), (0xD45, Cn, Cn), (0xD46, Mc, Mc), (0xD49, Cn, Cn),
  (0xD4A, Mc, Mc), (0xD4D, Mn, Mn), (0xD4E, Lo, Lo), (0xD4F, So, So), (0xD50, Cn, Cn),
  (0xD54, Lo, Lo), (0xD57, Mc, Mc), (0xD58, No, No), (0xD5F, Lo, Lo), (0xD62, Mn, Mn),
  (0xD64, Cn, Cn), (0xD66, Nd, Nd), (0xD70, No, No), (0xD79, So, So), (0xD7A, Lo, Lo),
  (0xD80, Cn, Cn), (0xD81, Mn, Mn), (0xD82, Mc, Mc), (0xD84, Cn, Cn), (0xD85, Lo, Lo),
  (0xD97, Cn, Cn), (0xD9A, Lo, Lo), (0xDB2, Cn, Cn), (0xDB3, Lo, Lo), (0xDBC, Cn, Cn),
  (0xDBD, Lo, Lo), (0xDBE, Cn, Cn), (0xDC0, Lo, Lo), (0xDC7, Cn, Cn), (0xDCA, Mn, Mn),
  (0xDCB, Cn, Cn), (0xDCF, Mc, Mc), (0xDD2, Mn, Mn), (0xDD5, Cn, Cn)]

def page10 : List (Nat × Category × Category) := [
  (0xDD6, Mn, Mn), (0xDD7, Cn, Cn), (0xDD8, Mc, Mc), (0xDE0, Cn, Cn), (0xDE6, Nd, Nd),
  (0xDF0, Cn, Cn), (0xDF2, Mc, Mc), (0xDF4, Po, Po), (0xDF5, Cn, Cn), (0xE01, Lo, Lo),
  (0xE31, Mn, Mn), (0xE32, Lo, Lo), (0xE34, Mn, Mn), (0xE3B, Cn, Cn), (0xE3F, Sc, Sc),
  (0xE40, Lo, Lo), (0xE46, Lm, Lm), (0xE47, Mn, Mn), (0xE4F, Po, Po), (0xE50, Nd, Nd),
  (0xE5A, Po, Po), (0xE5C, Cn, Cn), (0xE81, Lo, Lo), (0xE83, Cn, Cn), (0xE84, Lo, Lo),
  (0xE85, Cn, Cn), (0xE86, Lo, Lo), (0xE8B, Cn, Cn), (0xE8C, Lo, Lo), (0xEA4, Cn, Cn),
  (0xEA5, Lo, Lo), (0xEA6, Cn, Cn), (0xEA7, Lo, Lo), (0xEB1, Mn, Mn), (0xEB2, Lo, Lo),
  (0xEB4, Mn, Mn), (0xEBD, Lo, Lo), (0xEBE, Cn, Cn), (0xEC0, Lo, Lo), (0xEC5, Cn, Cn),
  (0xEC6, Lm, Lm), (0xEC7, Cn, Cn), (0xEC8, Mn, Mn), (0xECF, Cn, Cn), (0xED0, Nd, Nd),
  (0xEDA, Cn, Cn), (0xEDC, Lo, Lo), (0xEE0, Cn, Cn), (0xF00, Lo, Lo), (0xF01, So, So),
  (0xF04, Po, Po), (0xF13, So, So), (0xF14, Po, Po), (0xF15, So, So), (0xF18, Mn, Mn),
  (0xF1A, So, So), (0xF20, Nd, Nd), (0xF2A, No, No), (0xF34, So, So), (0xF35, Mn, Mn),
  (0xF36, So, So), (0xF37, Mn, Mn), (0xF38, So, So), (0xF39, Mn, Mn)]

def page11 : List (Nat × Category × Category) := [
  (0xF3A, Ps, Ps), (0xF3B, Pe, Pe), (0xF3C, Ps, Ps), (0xF3D, Pe, Pe), (0xF3E, Mc, Mc),
  (0xF40, Lo, Lo), (0xF48, Cn, Cn), (0xF49, Lo, Lo), (0xF6D, Cn, Cn), (0xF71, Mn, Mn),
  (0xF7F, Mc, Mc), (0xF80, Mn, Mn), (0xF85, Po, Po), (0xF86, Mn, Mn), (0xF88, Lo, Lo),
  (0xF8D, Mn, Mn), (0xF98, Cn, Cn), (0xF99, Mn, Mn), (0xFBD, Cn, Cn), (0xFBE, So, So),
  (0xFC6, Mn, Mn), (0xFC7, So, So), (0xFCD, Cn, Cn), (0xFCE, So, So), (0xFD0, Po, Po),
  (0xFD5, So, So), (0xFD9, Po, Po), (0xFDB, Cn, Cn), (0x1000, Lo, Lo), (0x102B, Mc, Mc),
  (0x102D, Mn, Mn), (0x1031, Mc, Mc), (0x1032, Mn, Mn), (0x1038, Mc, Mc), (0x1039, Mn, Mn),
  (0x103B, Mc, Mc), (0x103D, Mn, Mn), (0x103F, Lo, Lo), (0x1040, Nd, Nd), (0x104A, Po, Po),
  (0x1050, Lo, Lo), (0x1056, Mc, Mc), (0x1058, Mn, Mn), (0x105A, Lo, Lo), (0x105E, Mn, Mn),
  (0x1061, Lo, Lo), (0x1062, Mc, Mc), (0x1065, Lo, Lo), (0x1067, Mc, Mc), (0x106E, Lo, Lo),
  (0x1071, Mn, Mn), (0x1075, Lo, Lo), (0x1082, Mn, Mn), (0x1083, Mc, Mc), (0x1085, Mn, Mn),
  (0x1087, Mc, Mc), (0x108D, Mn, Mn), (0x108E, Lo, Lo), (0x108F, Mc, Mc), (0x1090, Nd, Nd),
  (0x109A, Mc, Mc), (0x109D, Mn, Mn), (0x109E, So, So), (0x10A0, Lu, Lu)]

def page12 : List (Nat × Category × Category) := [
  (0x10C6, Cn, Cn), (0x10C7, Lu, Lu), (0x10C8, Cn, Cn), (0x10CD, Lu, Lu), (0x10CE, Cn, Cn),
  (0x10D0, Ll, Ll), (0x10FB, Po, Po), (0x10FC, Lm, Lm), (0x10FD, Ll, Ll), (0x1100, Lo, Lo),
  (0x1249, Cn, Cn), (0x124A, Lo, Lo), (0x124E, Cn, Cn), (0x1250, Lo, Lo), (0x1257, Cn, Cn),
  (0x1258, Lo, Lo), (0x1259, Cn, Cn), (0x125A, Lo, Lo), (0x125E, Cn, Cn), (0x1260, Lo, Lo),
  (0x1289, Cn, Cn), (0x128A, Lo, Lo), (0x128E, Cn, Cn), (0x1290, Lo, Lo), (0x12B1, Cn, Cn),
  (0x12B2, Lo, Lo), (0x12B6, Cn, Cn), (0x12B8, Lo, Lo), (0x12BF, Cn, Cn), (0x12C0, Lo, Lo),
  (0x12C1, Cn, Cn), (0x12C2, Lo, Lo), (0x12C6, Cn, Cn), (0x12C8, Lo, Lo), (0x12D7, Cn, Cn),
  (0x12D8, Lo, Lo), (0x1311, Cn, Cn), (0x1312, Lo, Lo), (0x1316, Cn, Cn), (0x1318, Lo, Lo),
  (0x135B, Cn, Cn), (0x135D, Mn, Mn), (0x1360, Po, Po), (0x1369, No, No), (0x137D, Cn, Cn),
  (0x1380, Lo, Lo), (0x1390, So, So), (0x139A, Cn, Cn), (0x13A0, Lu, Lu), (0x13F6, Cn, Cn),
  (0x13F8, Ll, Ll), (0x13FE, Cn, Cn), (0x1400, Pd, Pd), (0x1401, Lo, Lo), (0x166D, So, So),
  (0x166E, Po, Po), (0x166F, Lo, Lo), (0x1680, Zs, Zs), (0x1681, Lo, Lo), (0x169B, Ps, Ps),
  (0x169C, Pe, Pe), (0x169D, Cn, Cn), (0x16A0, Lo, Lo), (0x16EB, Po, Po)]

def page13 : List (Nat × Category × Category) := [
  (0x16EE, Nl, Nl), (0x16F1, Lo, Lo), (0x16F9, Cn, Cn), (0x1700, Lo, Lo), (0x1712, Mn, Mn),
  (0x1715, Mc, Mc), (0x1716, Cn, Cn), (0x171F, Lo, Lo), (0x1732, Mn, Mn), (0x1734, Mc, Mc),
  (0x1735, Po, Po), (0x1737, Cn, Cn), (0x1740, Lo, Lo), (0x1752, Mn, Mn), (0x1754, Cn, Cn),
  (0x1760, Lo, Lo), (0x176D, Cn, Cn), (0x176E, Lo, Lo), (0x1771, Cn, Cn), (0x1772, Mn, Mn),
  (0x1774, Cn, Cn), (0x1780, Lo, Lo), (0x17B4, Mn, Mn), (0x17B6, Mc, Mc), (0x17B7, Mn, Mn),
  (0x17BE, Mc, Mc), (0x17C6, Mn, Mn), (0x17C7, Mc, Mc), (0x17C9, Mn, Mn), (0x17D4, Po, Po),
  (0x17D7, Lm, Lm), (0x17D8, Po, Po), (0x17DB, Sc, Sc), (0x17DC, Lo, Lo), (0x17DD, Mn, Mn),
  (0x17DE, Cn, Cn), (0x17E0, Nd, Nd), (0x17EA, Cn, Cn), (0x17F0, No, No), (0x17FA, Cn, Cn),
  (0x1800, Po, Po), (0x1806, Pd, Pd), (0x1807, Po, Po), (0x180B, Mn, Mn), (0x180E, Cf, Cf),
  (0x180F, Mn, Mn), (0x1810, Nd, Nd), (0x181A, Cn, Cn), (0x1820, Lo, Lo), (0x1843, Lm, Lm),
  (0x1844, Lo, Lo), (0x1879, Cn, Cn), (0x1880, Lo, Lo), (0x1885, Mn, Mn), (0x1887, Lo, Lo),
  (0x18A9, Mn, Mn), (0x18AA, Lo, Lo), (0x18AB, Cn, Cn), (0x18B0, Lo, Lo), (0x18F6, Cn, Cn),
  (0x1900, Lo, Lo), (0x191F, Cn, Cn), (0x1920, Mn, Mn), (0x1923, Mc, Mc)]

def page14 : List (Nat × Category × Category) := [
  (0x1927, Mn, Mn), (0x1929, Mc, Mc), (0x192C, Cn, Cn), (0x1930, Mc, Mc), (0x1932, Mn, Mn),
  (0x1933, Mc, Mc), (0x1939, Mn, Mn), (0x193C, Cn, Cn), (0x1940, So, So), (0x1941, Cn, Cn),
  (0x1944, Po, Po), (0x1946, Nd, Nd), (0x1950, Lo, Lo), (0x196E, Cn, Cn), (0x1970, Lo, Lo),
  (0x1975, Cn, Cn), (0x1980, Lo, Lo), (0x19AC, Cn, Cn), (0x19B0, Lo, Lo), (0x19CA, Cn, Cn),
  (0x19D0, Nd, Nd), (0x19DA, No, No), (0x19DB, Cn, Cn), (0x19DE, So, So), (0x1A00, Lo, Lo),
  (0x1A17, Mn, Mn), (0x1A19, Mc, Mc), (0x1A1B, Mn, Mn), (0x1A1C, Cn, Cn), (0x1A1E, Po, Po),
  (0x1A20, Lo, Lo), (0x1A55, Mc, Mc), (0x1A56, Mn, Mn), (0x1A57, Mc, Mc), (0x1A58, Mn, Mn),
  (0x1A5F, Cn, Cn), (0x1A60, Mn, Mn), (0x1A61, Mc, Mc), (0x1A62, Mn, Mn), (0x1A63, Mc, Mc),
  (0x1A65, Mn, Mn), (0x1A6D, Mc, Mc), (0x1A73, Mn, Mn), (0x1A7D, Cn, Cn), (0x1A7F, Mn, Mn),
  (0x1A80, Nd, Nd), (0x1A8A, Cn, Cn), (0x1A90, Nd, Nd), (0x1A9A, Cn, Cn), (0x1AA0, Po, Po),
  (0x1AA7, Lm, Lm), (0x1AA8, Po, Po), (0x1AAE, Cn, Cn), (0x1AB0, Mn, Mn), (0x1ABE, Me, Me),
  (0x1ABF, Mn, Mn), (0x1ACF, Cn, Cn), (0x1B00, Mn, Mn), (0x1B04, Mc, Mc), (0x1B05, Lo, Lo),
  (0x1B34, Mn, Mn), (0x1B35, Mc, Mc), (0x1B36, Mn, Mn), (0x1B3B, Mc, Mc)]

def page15 : List (Nat × Category × Category) := [
  (0x1B3C, Mn, Mn), (0x1B3D, Mc, Mc), (0x1B42, Mn, Mn), (0x1B43, Mc, Mc), (0x1B45, Lo, Lo),
  (0x1B4D, Cn, Cn), (0x1B4E, Po, Po), (0x1B50, Nd, Nd), (0x1B5A, Po, Po), (0x1B61, So, So),
  (0x1B6B, Mn, Mn), (0x1B74, So, So), (0x1B7D, Po, Po), (0x1B80, Mn, Mn), (0x1B82, Mc, Mc),
  (0x1B83, Lo, Lo), (0x1BA1, Mc, Mc), (0x1BA2, Mn, Mn), (0x1BA6, Mc, Mc), (0x1BA8, Mn, Mn),
  (0x1BAA, Mc, Mc), (0x1BAB, Mn, Mn), (0x1BAE, Lo, Lo), (0x1BB0, Nd, Nd), (0x1BBA, Lo, Lo),
  (0x1BE6, Mn, Mn), (0x1BE7, Mc, Mc), (0x1BE8, Mn, Mn), (0x1BEA, Mc, Mc), (0x1BED, Mn, Mn),
  (0x1BEE, Mc, Mc), (0x1BEF, Mn, Mn), (0x1BF2, Mc, Mc), (0x1BF4, Cn, Cn), (0x1BFC, Po, Po),
  (0x1C00, Lo, Lo), (0x1C24, Mc, Mc), (0x1C2C, Mn, Mn), (0x1C34, Mc, Mc), (0x1C36, Mn, Mn),
  (0x1C38, Cn, Cn), (0x1C3B, Po, Po), (0x1C40, Nd, Nd), (0x1C4A, Cn, Cn), (0x1C4D, Lo, Lo),
  (0x1C50, Nd, Nd), (0x1C5A, Lo, Lo), (0x1C78, Lm, Lm), (0x1C7E, Po, Po), (0x1C80, Ll, Ll),
  (0x1C89, Lu, Lu), (0x1C8A, Ll, Ll), (0x1C8B, Cn, Cn), (0x1C90, Lu, Lu), (0x1CBB, Cn, Cn),
  (0x1CBD, Lu, Lu), (0x1CC0, Po, Po), (0x1CC8, Cn, Cn), (0x1CD0, Mn, Mn), (0x1CD3, Po, Po),
  (0x1CD4, Mn, Mn), (0x1CE1, Mc, Mc), (0x1CE2, Mn, Mn), (0x1CE9, Lo, Lo)]

def page16 : List (Nat × Category × Category) := [
  (0x1CED, Mn, Mn), (0x1CEE, Lo, Lo), (0x1CF4, Mn, Mn), (0x1CF5, Lo, Lo), (0x1CF7, Mc, Mc),
  (0x1CF8, Mn, Mn), (0x1CFA, Lo, Lo), (0x1CFB, Cn, Cn), (0x1D00, Ll, Ll), (0x1D2C, Lm, Lm),
  (0x1D6B, Ll, Ll), (0x1D78, Lm, Lm), (0x1D79, Ll, Ll), (0x1D9B, Lm, Lm), (0x1DC0, Mn, Mn),
  (0x1E00, Lu, Ll), (0x1E95, Ll, Ll), (0x1E9E, Lu, Ll), (0x1EFF, Ll, Ll), (0x1F08, Lu, Lu),
  (0x1F10, Ll, Ll), (0x1F16, Cn, Cn), (0x1F18, Lu, Lu), (0x1F1E, Cn, Cn), (0x1F20, Ll, Ll),
  (0x1F28, Lu, Lu), (0x1F30, Ll, Ll), (0x1F38, Lu, Lu), (0x1F40, Ll, Ll), (0x1F46, Cn, Cn),
  (0x1F48, Lu, Lu), (0x1F4E, Cn, Cn), (0x1F50, Ll, Ll), (0x1F58, Cn, Cn), (0x1F59, Lu, Lu),
  (0x1F5A, Cn, Cn), (0x1F5B, Lu, Lu), (0x1F5C, Cn, Cn), (0x1F5D, Lu, Lu), (0x1F5E, Cn, Cn),
  (0x1F5F, Lu, Lu), (0x1F60, Ll, Ll), (0x1F68, Lu, Lu), (0x1F70, Ll, Ll), (0x1F7E, Cn, Cn),
  (0x1F80, Ll, Ll), (0x1F88, Lt, Lt), (0x1F90, Ll, Ll), (0x1F98, Lt, Lt), (0x1FA0, Ll, Ll),
  (0x1FA8, Lt, Lt), (0x1FB0, Ll, Ll), (0x1FB5, Cn, Cn), (0x1FB6, Ll, Ll), (0x1FB8, Lu, Lu),
  (0x1FBC, Lt, Lt), (0x1FBD, Sk, Sk), (0x1FBE, Ll, Ll), (0x1FBF, Sk, Sk), (0x1FC2, Ll, Ll),
  (0x1FC5, Cn, Cn), (0x1FC6, Ll, Ll), (0x1FC8, Lu, Lu), (0x1FCC, Lt, Lt)]

def page17 : List (Nat × Category × Category) := [
  (0x1FCD, Sk, Sk), (0x1FD0, Ll, Ll), (0x1FD4, Cn, Cn), (0x1FD6, Ll, Ll), (0x1FD8, Lu, Lu),
  (0x1FDC, Cn, Cn), (0x1FDD, Sk, Sk), (0x1FE0, Ll, Ll), (0x1FE8, Lu, Lu), (0x1FED, Sk, Sk),
  (0x1FF0, Cn, Cn), (0x1FF2, Ll, Ll), (0x1FF5, Cn, Cn), (0x1FF6, Ll, Ll), (0x1FF8, Lu, Lu),
  (0x1FFC, Lt, Lt), (0x1FFD, Sk, Sk), (0x1FFF, Cn, Cn), (0x2000, Zs, Zs), (0x200B, Cf, Cf),
  (0x2010, Pd, Pd), (0x2016, Po, Po), (0x2018, Pi, Pi), (0x2019, Pf, Pf), (0x201A, Ps, Ps),
  (0x201B, Pi, Pi), (0x201D, Pf, Pf), (0x201E, Ps, Ps), (0x201F, Pi, Pi), (0x2020, Po, Po),
  (0x2028, Zl, Zl), (0x2029, Zp, Zp), (0x202A, Cf, Cf), (0x202F, Zs, Zs), (0x2030, Po, Po),
  (0x2039, Pi, Pi), (0x203A, Pf, Pf), (0x203B, Po, Po), (0x203F, Pc, Pc), (0x2041, Po, Po),
  (0x2044, Sm, Sm), (0x2045, Ps, Ps), (0x2046, Pe, Pe), (0x2047, Po, Po), (0x2052, Sm, Sm),
  (0x2053, Po, Po), (0x2054, Pc, Pc), (0x2055, Po, Po), (0x205F, Zs, Zs), (0x2060, Cf, Cf),
  (0x2065, Cn, Cn), (0x2066, Cf, Cf), (0x2070, No, No), (0x2071, Lm, Lm), (0x2072, Cn, Cn),
  (0x2074, No, No), (0x207A, Sm, Sm), (0x207D, Ps, Ps), (0x207E, Pe, Pe), (0x207F, Lm, Lm),
  (0x2080, No, No), (0x208A, Sm, Sm), (0x208D, Ps, Ps), (0x208E, Pe, Pe)]

def page18 : List (Nat × Category × Category) := [
  (0x208F, Cn, Cn), (0x2090, Lm, Lm), (0x209D, Cn, Cn), (0x20A0, Sc, Sc), (0x20C1, Cn, Cn),
  (0x20D0, Mn, Mn), (0x20DD, Me, Me), (0x20E1, Mn, Mn), (0x20E2, Me, Me), (0x20E5, Mn, Mn),
  (0x20F1, Cn, Cn), (0x2100, So, So), (0x2102, Lu, Lu), (0x2103, So, So), (0x2107, Lu, Lu),
  (0x2108, So, So), (0x210A, Ll, Ll), (0x210B, Lu, Lu), (0x210E, Ll, Ll), (0x2110, Lu, Lu),
  (0x2113, Ll, Ll), (0x2114, So, So), (0x2115, Lu, Lu), (0x2116, So, So), (0x2118, Sm, Sm),
  (0x2119, Lu, Lu), (0x211E, So, So), (0x2124, Lu, Lu), (0x2125, So, So), (0x2126, Lu, Lu),
  (0x2127, So, So), (0x2128, Lu, Lu), (0x2129, So, So), (0x212A, Lu, Lu), (0x212E, So, So),
  (0x212F, Ll, Ll), (0x2130, Lu, Lu), (0x2134, Ll, Ll), (0x2135, Lo, Lo), (0x2139, Ll, Ll),
  (0x213A, So, So), (0x213C, Ll, Ll), (0x213E, Lu, Lu), (0x2140, Sm, Sm), (0x2145, Lu, Lu),
  (0x2146, Ll, Ll), (0x214A, So, So), (0x214B, Sm, Sm), (0x214C, So, So), (0x214E, Ll, Ll),
  (0x214F, So, So), (0x2150, No, No), (0x2160, Nl, Nl), (0x2183, Lu, Lu), (0x2184, Ll, Ll),
  (0x2185, Nl, Nl), (0x2189, No, No), (0x218A, So, So), (0x218C, Cn, Cn), (0x2190, Sm, Sm),
  (0x2195, So, So), (0x219A, Sm, Sm), (0x219C, So, So), (0x21A0, Sm, Sm)]

def page19 : List (Nat × Category × Category) := [
  (0x21A1, So, So), (0x21A3, Sm, Sm), (0x21A4, So, So), (0x21A6, Sm, Sm), (0x21A7, So, So),
  (0x21AE, Sm, Sm), (0x21AF, So, So), (0x21CE, Sm, Sm), (0x21D0, So, So), (0x21D2, Sm, Sm),
  (0x21D3, So, So), (0x21D4, Sm, Sm), (0x21D5, So, So), (0x21F4, Sm, Sm), (0x2300, So, So),
  (0x2308, Ps, Ps), (0x2309, Pe, Pe), (0x230A, Ps, Ps), (0x230B, Pe, Pe), (0x230C, So, So),
  (0x2320, Sm, Sm), (0x2322, So, So), (0x2329, Ps, Ps), (0x232A, Pe, Pe), (0x232B, So, So),
  (0x237C, Sm, Sm), (0x237D, So, So), (0x239B, Sm, Sm), (0x23B4, So, So), (0x23DC, Sm, Sm),
  (0x23E2, So, So), (0x242A, Cn, Cn), (0x2440, So, So), (0x244B, Cn, Cn), (0x2460, No, No),
  (0x249C, So, So), (0x24EA, No, No), (0x2500, So, So), (0x25B7, Sm, Sm), (0x25B8, So, So),
  (0x25C1, Sm, Sm), (0x25C2, So, So), (0x25F8, Sm, Sm), (0x2600, So, So), (0x266F, Sm, Sm),
  (0x2670, So, So), (0x2768, Ps, Ps), (0x2769, Pe, Pe), (0x276A, Ps, Ps), (0x276B, Pe, Pe),
  (0x276C, Ps, Ps), (0x276D, Pe, Pe), (0x276E, Ps, Ps), (0x276F, Pe, Pe), (0x2770, Ps, Ps),
  (0x2771, Pe, Pe), (0x2772, Ps, Ps), (0x2773, Pe, Pe), (0x2774, Ps, Ps), (0x2775, Pe, Pe),
  (0x2776, No, No), (0x2794, So, So), (0x27C0, Sm, Sm), (0x27C5, Ps, Ps)]

def page20 : List (Nat × Category × Category) := [
  (0x27C6, Pe, Pe), (0x27C7, Sm, Sm), (0x27E6, Ps, Ps), (0x27E7, Pe, Pe), (0x27E8, Ps, Ps),
  (0x27E9, Pe, Pe), (0x27EA, Ps, Ps), (0x27EB, Pe, Pe), (0x27EC, Ps, Ps), (0x27ED, Pe, Pe),
  (0x27EE, Ps, Ps), (0x27EF, Pe, Pe), (0x27F0, Sm, Sm), (0x2800, So, So), (0x2900, Sm, Sm),
  (0x2983, Ps, Ps), (0x2984, Pe, Pe), (0x2985, Ps, Ps), (0x2986, Pe, Pe), (0x2987, Ps, Ps),
  (0x2988, Pe, Pe), (0x2989, Ps, Ps), (0x298A, Pe, Pe), (0x298B, Ps, Ps), (0x298C, Pe, Pe),
  (0x298D, Ps, Ps), (0x298E, Pe, Pe), (0x298F, Ps, Ps), (0x2990, Pe, Pe), (0x2991, Ps, Ps),
  (0x2992, Pe, Pe), (0x2993, Ps, Ps), (0x2994, Pe, Pe), (0x2995, Ps, Ps), (0x2996, Pe, Pe),
  (0x2997, Ps, Ps), (0x2998, Pe, Pe), (0x2999, Sm, Sm), (0x29D8, Ps, Ps), (0x29D9, Pe, Pe),
  (0x29DA, Ps, Ps), (0x29DB, Pe, Pe), (0x29DC, Sm, Sm), (0x29FC, Ps, Ps), (0x29FD, Pe, Pe),
  (0x29FE, Sm, Sm), (0x2B00, So, So), (0x2B30, Sm, Sm), (0x2B45, So, So), (0x2B47, Sm, Sm),
  (0x2B4D, So, So), (0x2B74, Cn, Cn), (0x2B76, So, So), (0x2B96, Cn, Cn), (0x2B97, So, So),
  (0x2C00, Lu, Lu), (0x2C30, Ll, Ll), (0x2C60, Lu, Lu), (0x2C61, Ll, Ll), (0x2C62, Lu, Lu),
  (0x2C65, Ll, Ll), (0x2C67, Lu, Ll), (0x2C6D, Lu, Lu), (0x2C71, Ll, Ll)]

def page21 : List (Nat × Category × Category) := [
  (0x2C72, Lu, Lu), (0x2C73, Ll, Ll), (0x2C75, Lu, Lu), (0x2C76, Ll, Ll), (0x2C7C, Lm, Lm),
  (0x2C7E, Lu, Lu), (0x2C81, Ll, Lu), (0x2CE3, Ll, Ll), (0x2CE5, So, So), (0x2CEB, Lu, Ll),
  (0x2CEF, Mn, Mn), (0x2CF2, Lu, Lu), (0x2CF3, Ll, Ll), (0x2CF4, Cn, Cn), (0x2CF9, Po, Po),
  (0x2CFD, No, No), (0x2CFE, Po, Po), (0x2D00, Ll, Ll), (0x2D26, Cn, Cn), (0x2D27, Ll, Ll),
  (0x2D28, Cn, Cn), (0x2D2D, Ll, Ll), (0x2D2E, Cn, Cn), (0x2D30, Lo, Lo), (0x2D68, Cn, Cn),
  (0x2D6F, Lm, Lm), (0x2D70, Po, Po), (0x2D71, Cn, Cn), (0x2D7F, Mn, Mn), (0x2D80, Lo, Lo),
  (0x2D97, Cn, Cn), (0x2DA0, Lo, Lo), (0x2DA7, Cn, Cn), (0x2DA8, Lo, Lo), (0x2DAF, Cn, Cn),
  (0x2DB0, Lo, Lo), (0x2DB7, Cn, Cn), (0x2DB8, Lo, Lo), (0x2DBF, Cn, Cn), (0x2DC0, Lo, Lo),
  (0x2DC7, Cn, Cn), (0x2DC8, Lo, Lo), (0x2DCF, Cn, Cn), (0x2DD0, Lo, Lo), (0x2DD7, Cn, Cn),
  (0x2DD8, Lo, Lo), (0x2DDF, Cn, Cn), (0x2DE0, Mn, Mn), (0x2E00, Po, Po), (0x2E02, Pi, Pi),
  (0x2E03, Pf, Pf), (0x2E04, Pi, Pi), (0x2E05, Pf, Pf), (0x2E06, Po, Po), (0x2E09, Pi, Pi),
  (0x2E0A, Pf, Pf), (0x2E0B, Po, Po), (0x2E0C, Pi, Pi), (0x2E0D, Pf, Pf), (0x2E0E, Po, Po),
  (0x2E17, Pd, Pd), (0x2E18, Po, Po), (0x2E1A, Pd, Pd), (0x2E1B, Po, Po)]

def page22 : List (Nat × Category × Category) := [
  (0x2E1C, Pi, Pi), (0x2E1D, Pf, Pf), (0x2E1E, Po, Po), (0x2E20, Pi, Pi), (0x2E21, Pf, Pf),
  (0x2E22, Ps, Ps), (0x2E23, Pe, Pe), (0x2E24, Ps, Ps), (0x2E25, Pe, Pe), (0x2E26, Ps, Ps),
  (0x2E27, Pe, Pe), (0x2E28, Ps, Ps), (0x2E29, Pe, Pe), (0x2E2A, Po, Po), (0x2E2F, Lm, Lm),
  (0x2E30, Po, Po), (0x2E3A, Pd, Pd), (0x2E3C, Po, Po), (0x2E40, Pd, Pd), (0x2E41, Po, Po),
  (0x2E42, Ps, Ps), (0x2E43, Po, Po), (0x2E50, So, So), (0x2E52, Po, Po), (0x2E55, Ps, Ps),
  (0x2E56, Pe, Pe), (0x2E57, Ps, Ps), (0x2E58, Pe, Pe), (0x2E59, Ps, Ps), (0x2E5A, Pe, Pe),
  (0x2E5B, Ps, Ps), (0x2E5C, Pe, Pe), (0x2E5D, Pd, Pd), (0x2E5E, Cn, Cn), (0x2E80, So, So),
  (0x2E9A, Cn, Cn), (0x2E9B, So, So), (0x2EF4, Cn, Cn), (0x2F00, So, So), (0x2FD6, Cn, Cn),
  (0x2FF0, So, So), (0x3000, Zs, Zs), (0x3001, Po, Po), (0x3004, So, So), (0x3005, Lm, Lm),
  (0x3006, Lo, Lo), (0x3007, Nl, Nl), (0x3008, Ps, Ps), (0x3009, Pe, Pe), (0x300A, Ps, Ps),
  (0x300B, Pe, Pe), (0x300C, Ps, Ps), (0x300D, Pe, Pe), (0x300E, Ps, Ps), (0x300F, Pe, Pe),
  (0x3010, Ps, Ps), (0x3011, Pe, Pe), (0x3012, So, So), (0x3014, Ps, Ps), (0x3015, Pe, Pe),
  (0x3016, Ps, Ps), (0x3017, Pe, Pe), (0x3018, Ps, Ps), (0x3019, Pe, Pe)]

def page23 : List (Nat × Category × Category) := [
  (0x301A, Ps, Ps), (0x301B, Pe, Pe), (0x301C, Pd, Pd), (0x301D, Ps, Ps), (0x301E, Pe, Pe),
  (0x3020, So, So), (0x3021, Nl, Nl), (0x302A, Mn, Mn), (0x302E, Mc, Mc), (0x3030, Pd, Pd),
  (0x3031, Lm, Lm), (0x3036, So, So), (0x3038, Nl, Nl), (0x303B, Lm, Lm), (0x303C, Lo, Lo),
  (0x303D, Po, Po), (0x303E, So, So), (0x3040, Cn, Cn), (0x3041, Lo, Lo), (0x3097, Cn, Cn),
  (0x3099, Mn, Mn), (0x309B, Sk, Sk), (0x309D, Lm, Lm), (0x309F, Lo, Lo), (0x30A0, Pd, Pd),
  (0x30A1, Lo, Lo), (0x30FB, Po, Po), (0x30FC, Lm, Lm), (0x30FF, Lo, Lo), (0x3100, Cn, Cn),
  (0x3105, Lo, Lo), (0x3130, Cn, Cn), (0x3131, Lo, Lo), (0x318F, Cn, Cn), (0x3190, So, So),
  (0x3192, No, No), (0x3196, So, So), (0x31A0, Lo, Lo), (0x31C0, So, So), (0x31E6, Cn, Cn),
  (0x31EF, So, So), (0x31F0, Lo, Lo), (0x3200, So, So), (0x321F, Cn, Cn), (0x3220, No, No),
  (0x322A, So, So), (0x3248, No, No), (0x3250, So, So), (0x3251, No, No), (0x3260, So, So),
  (0x3280, No, No), (0x328A, So, So), (0x32B1, No, No), (0x32C0, So, So), (0x3400, Lo, Lo),
  (0x4DC0, So, So), (0x4E00, Lo, Lo), (0xA015, Lm, Lm), (0xA016, Lo, Lo), (0xA48D, Cn, Cn),
  (0xA490, So, So), (0xA4C7, Cn, Cn), (0xA4D0, Lo, Lo), (0xA4F8, Lm, Lm)]

def page24 : List (Nat × Category × Category) := [
  (0xA4FE, Po, Po), (0xA500, Lo, Lo), (0xA60C, Lm, Lm), (0xA60D, Po, Po), (0xA610, Lo, Lo),
  (0xA620, Nd, Nd), (0xA62A, Lo, Lo), (0xA62C, Cn, Cn), (0xA640, Lu, Ll), (0xA66E, Lo, Lo),
  (0xA66F, Mn, Mn), (0xA670, Me, Me), (0xA673, Po, Po), (0xA674, Mn, Mn), (0xA67E, Po, Po),
  (0xA67F, Lm, Lm), (0xA680, Lu, Ll), (0xA69C, Lm, Lm), (0xA69E, Mn, Mn), (0xA6A0, Lo, Lo),
  (0xA6E6, Nl, Nl), (0xA6F0, Mn, Mn), (0xA6F2, Po, Po), (0xA6F8, Cn, Cn), (0xA700, Sk, Sk),
  (0xA717, Lm, Lm), (0xA720, Sk, Sk), (0xA722, Lu, Ll), (0xA72F, Ll, Ll), (0xA732, Lu, Ll),
  (0xA770, Lm, Lm), (0xA771, Ll, Ll), (0xA779, Lu, Ll), (0xA77D, Lu, Lu), (0xA77F, Ll, Lu),
  (0xA788, Lm, Lm), (0xA789, Sk, Sk), (0xA78B, Lu, Ll), (0xA78F, Lo, Lo), (0xA790, Lu, Ll),
  (0xA793, Ll, Ll), (0xA796, Lu, Ll), (0xA7AA, Lu, Lu), (0xA7AF, Ll, Ll), (0xA7B0, Lu, Lu),
  (0xA7B5, Ll, Lu), (0xA7C4, Lu, Lu), (0xA7C8, Ll, Lu), (0xA7CB, Lu, Lu), (0xA7CD, Ll, Ll),
  (0xA7CE, Cn, Cn), (0xA7D0, Lu, Lu), (0xA7D1, Ll, Ll), (0xA7D2, Cn, Cn), (0xA7D3, Ll, Ll),
  (0xA7D4, Cn, Cn), (0xA7D5, Ll, Lu), (0xA7DD, Cn, Cn), (0xA7F2, Lm, Lm), (0xA7F5, Lu, Lu),
  (0xA7F6, Ll, Ll), (0xA7F7, Lo, Lo), (0xA7F8, Lm, Lm), (0xA7FA, Ll, Ll)]

def page25 : List (Nat × Category × Category) := [
  (0xA7FB, Lo, Lo), (0xA802, Mn, Mn), (0xA803, Lo, Lo), (0xA806, Mn, Mn), (0xA807, Lo, Lo),
  (0xA80B, Mn, Mn), (0xA80C, Lo, Lo), (0xA823, Mc, Mc), (0xA825, Mn, Mn), (0xA827, Mc, Mc),
  (0xA828, So, So), (0xA82C, Mn, Mn), (0xA82D, Cn, Cn), (0xA830, No, No), (0xA836, So, So),
  (0xA838, Sc, Sc), (0xA839, So, So), (0xA83A, Cn, Cn), (0xA840, Lo, Lo), (0xA874, Po, Po),
  (0xA878, Cn, Cn), (0xA880, Mc, Mc), (0xA882, Lo, Lo), (0xA8B4, Mc, Mc), (0xA8C4, Mn, Mn),
  (0xA8C6, Cn, Cn), (0xA8CE, Po, Po), (0xA8D0, Nd, Nd), (0xA8DA, Cn, Cn), (0xA8E0, Mn, Mn),
  (0xA8F2, Lo, Lo), (0xA8F8, Po, Po), (0xA8FB, Lo, Lo), (0xA8FC, Po, Po), (0xA8FD, Lo, Lo),
  (0xA8FF, Mn, Mn), (0xA900, Nd, Nd), (0xA90A, Lo, Lo), (0xA926, Mn, Mn), (0xA92E, Po, Po),
  (0xA930, Lo, Lo), (0xA947, Mn, Mn), (0xA952, Mc, Mc), (0xA954, Cn, Cn), (0xA95F, Po, Po),
  (0xA960, Lo, Lo), (0xA97D, Cn, Cn), (0xA980, Mn, Mn), (0xA983, Mc, Mc), (0xA984, Lo, Lo),
  (0xA9B3, Mn, Mn), (0xA9B4, Mc, Mc), (0xA9B6, Mn, Mn), (0xA9BA, Mc, Mc), (0xA9BC, Mn, Mn),
  (0xA9BE, Mc, Mc), (0xA9C1, Po, Po), (0xA9CE, Cn, Cn), (0xA9CF, Lm, Lm), (0xA9D0, Nd, Nd),
  (0xA9DA, Cn, Cn), (0xA9DE, Po, Po), (0xA9E0, Lo, Lo), (0xA9E5, Mn, Mn)]

def page26 : List (Nat × Category × Category) := [
  (0xA9E6, Lm, Lm), (0xA9E7, Lo, Lo), (0xA9F0, Nd, Nd), (0xA9FA, Lo, Lo), (0xA9FF, Cn, Cn),
  (0xAA00, Lo, Lo), (0xAA29, Mn, Mn), (0xAA2F, Mc, Mc), (0xAA31, Mn, Mn), (0xAA33, Mc, Mc),
  (0xAA35, Mn, Mn), (0xAA37, Cn, Cn), (0xAA40, Lo, Lo), (0xAA43, Mn, Mn), (0xAA44, Lo, Lo),
  (0xAA4C, Mn, Mn), (0xAA4D, Mc, Mc), (0xAA4E, Cn, Cn), (0xAA50, Nd, Nd), (0xAA5A, Cn, Cn),
  (0xAA5C, Po, Po), (0xAA60, Lo, Lo), (0xAA70, Lm, Lm), (0xAA71, Lo, Lo), (0xAA77, So, So),
  (0xAA7A, Lo, Lo), (0xAA7B, Mc, Mc), (0xAA7C, Mn, Mn), (0xAA7D, Mc, Mc), (0xAA7E, Lo, Lo),
  (0xAAB0, Mn, Mn), (0xAAB1, Lo, Lo), (0xAAB2, Mn, Mn), (0xAAB5, Lo, Lo), (0xAAB7, Mn, Mn),
  (0xAAB9, Lo, Lo), (0xAABE, Mn, Mn), (0xAAC0, Lo, Lo), (0xAAC1, Mn, Mn), (0xAAC2, Lo, Lo),
  (0xAAC3, Cn, Cn), (0xAADB, Lo, Lo), (0xAADD, Lm, Lm), (0xAADE, Po, Po), (0xAAE0, Lo, Lo),
  (0xAAEB, Mc, Mc), (0xAAEC, Mn, Mn), (0xAAEE, Mc, Mc), (0xAAF0, Po, Po), (0xAAF2, Lo, Lo),
  (0xAAF3, Lm, Lm), (0xAAF5, Mc, Mc), (0xAAF6, Mn, Mn), (0xAAF7, Cn, Cn), (0xAB01, Lo, Lo),
  (0xAB07, Cn, Cn), (0xAB09, Lo, Lo), (0xAB0F, Cn, Cn), (0xAB11, Lo, Lo), (0xAB17, Cn, Cn),
  (0xAB20, Lo, Lo), (0xAB27, Cn, Cn), (0xAB28, Lo, Lo), (0xAB2F, Cn, Cn)]

def page27 : List (Nat × Category × Category) := [
  (0xAB30, Ll, Ll), (0xAB5B, Sk, Sk), (0xAB5C, Lm, Lm), (0xAB60, Ll, Ll), (0xAB69, Lm, Lm),
  (0xAB6A, Sk, Sk), (0xAB6C, Cn, Cn), (0xAB70, Ll, Ll), (0xABC0, Lo, Lo), (0xABE3, Mc, Mc),
  (0xABE5, Mn, Mn), (0xABE6, Mc, Mc), (0xABE8, Mn, Mn), (0xABE9, Mc, Mc), (0xABEB, Po, Po),
  (0xABEC, Mc, Mc), (0xABED, Mn, Mn), (0xABEE, Cn, Cn), (0xABF0, Nd, Nd), (0xABFA, Cn, Cn),
  (0xAC00, Lo, Lo), (0xD7A4, Cn, Cn), (0xD7B0, Lo, Lo), (0xD7C7, Cn, Cn), (0xD7CB, Lo, Lo),
  (0xD7FC, Cn, Cn), (0xD800, Cs, Cs), (0xE000, Co, Co), (0xF900, Lo, Lo), (0xFA6E, Cn, Cn),
  (0xFA70, Lo, Lo), (0xFADA, Cn, Cn), (0xFB00, Ll, Ll), (0xFB07, Cn, Cn), (0xFB13, Ll, Ll),
  (0xFB18, Cn, Cn), (0xFB1D, Lo, Lo), (0xFB1E, Mn, Mn), (0xFB1F, Lo, Lo), (0xFB29, Sm, Sm),
  (0xFB2A, Lo, Lo), (0xFB37, Cn, Cn), (0xFB38, Lo, Lo), (0xFB3D, Cn, Cn), (0xFB3E, Lo, Lo),
  (0xFB3F, Cn, Cn), (0xFB40, Lo, Lo), (0xFB42, Cn, Cn), (0xFB43, Lo, Lo), (0xFB45, Cn, Cn),
  (0xFB46, Lo, Lo), (0xFBB2, Sk, Sk), (0xFBC3, Cn, Cn), (0xFBD3, Lo, Lo), (0xFD3E, Pe, Pe),
  (0xFD3F, Ps, Ps), (0xFD40, So, So), (0xFD50, Lo, Lo), (0xFD90, Cn, Cn), (0xFD92, Lo, Lo),
  (0xFDC8, Cn, Cn), (0xFDCF, So, So), (0xFDD0, Cn, Cn), (0xFDF0, Lo, Lo)]

def page28 : List (Nat × Category × Category) := [
  (0xFDFC, Sc, Sc), (0xFDFD, So, So), (0xFE00, Mn, Mn), (0xFE10, Po, Po), (0xFE17, Ps, Ps),
  (0xFE18, Pe, Pe), (0xFE19, Po, Po), (0xFE1A, Cn, Cn), (0xFE20, Mn, Mn), (0xFE30, Po, Po),
  (0xFE31, Pd, Pd), (0xFE33, Pc, Pc), (0xFE35, Ps, Ps), (0xFE36, Pe, Pe), (0xFE37, Ps, Ps),
  (0xFE38, Pe, Pe), (0xFE39, Ps, Ps), (0xFE3A, Pe, Pe), (0xFE3B, Ps, Ps), (0xFE3C, Pe, Pe),
  (0xFE3D, Ps, Ps), (0xFE3E, Pe, Pe), (0xFE3F, Ps, Ps), (0xFE40, Pe, Pe), (0xFE41, Ps, Ps),
  (0xFE42, Pe, Pe), (0xFE43, Ps, Ps), (0xFE44, Pe, Pe), (0xFE45, Po, Po), (0xFE47, Ps, Ps),
  (0xFE48, Pe, Pe), (0xFE49, Po, Po), (0xFE4D, Pc, Pc), (0xFE50, Po, Po), (0xFE53, Cn, Cn),
  (0xFE54, Po, Po), (0xFE58, Pd, Pd), (0xFE59, Ps, Ps), (0xFE5A, Pe, Pe), (0xFE5B, Ps, Ps),
  (0xFE5C, Pe, Pe), (0xFE5D, Ps, Ps), (0xFE5E, Pe, Pe), (0xFE5F, Po, Po), (0xFE62, Sm, Sm),
  (0xFE63, Pd, Pd), (0xFE64, Sm, Sm), (0xFE67, Cn, Cn), (0xFE68, Po, Po), (0xFE69, Sc, Sc),
  (0xFE6A, Po, Po), (0xFE6C, Cn, Cn), (0xFE70, Lo, Lo), (0xFE75, Cn, Cn), (0xFE76, Lo, Lo),
  (0xFEFD, Cn, Cn), (0xFEFF, Cf, Cf), (0xFF00, Cn, Cn), (0xFF01, Po, Po), (0xFF04, Sc, Sc),
  (0xFF05, Po, Po), (0xFF08, Ps, Ps), (0xFF09, Pe, Pe), (0xFF0A, Po, Po)]

def page29 : List (Nat × Category × Category) := [
  (0xFF0B, Sm, Sm), (0xFF0C, Po, Po), (0xFF0D, Pd, Pd), (0xFF0E, Po, Po), (0xFF10, Nd, Nd),
  (0xFF1A, Po, Po), (0xFF1C, Sm, Sm), (0xFF1F, Po, Po), (0xFF21, Lu, Lu), (0xFF3B, Ps, Ps),
  (0xFF3C, Po, Po), (0xFF3D, Pe, Pe), (0xFF3E, Sk, Sk), (0xFF3F, Pc, Pc), (0xFF40, Sk, Sk),
  (0xFF41, Ll, Ll), (0xFF5B, Ps, Ps), (0xFF5C, Sm, Sm), (0xFF5D, Pe, Pe), (0xFF5E, Sm, Sm),
  (0xFF5F, Ps, Ps), (0xFF60, Pe, Pe), (0xFF61, Po, Po), (0xFF62, Ps, Ps), (0xFF63, Pe, Pe),
  (0xFF64, Po, Po), (0xFF66, Lo, Lo), (0xFF70, Lm, Lm), (0xFF71, Lo, Lo), (0xFF9E, Lm, Lm),
  (0xFFA0, Lo, Lo), (0xFFBF, Cn, Cn), (0xFFC2, Lo, Lo), (0xFFC8, Cn, Cn), (0xFFCA, Lo, Lo),
  (0xFFD0, Cn, Cn), (0xFFD2, Lo, Lo), (0xFFD8, Cn, Cn), (0xFFDA, Lo, Lo), (0xFFDD, Cn, Cn),
  (0xFFE0, Sc, Sc), (0xFFE2, Sm, Sm), (0xFFE3, Sk, Sk), (0xFFE4, So, So), (0xFFE5, Sc, Sc),
  (0xFFE7, Cn, Cn), (0xFFE8, So, So), (0xFFE9, Sm, Sm), (0xFFED, So, So), (0xFFEF, Cn, Cn),
  (0xFFF9, Cf, Cf), (0xFFFC, So, So), (0xFFFE, Cn, Cn), (0x10000, Lo, Lo), (0x1000C, Cn, Cn),
  (0x1000D, Lo, Lo), (0x10027, Cn, Cn), (0x10028, Lo, Lo), (0x1003B, Cn, Cn),
  (0x1003C, Lo, Lo), (0x1003E, Cn, Cn), (0x1003F, Lo, Lo), (0x1004E, Cn, Cn), (0x10050, Lo, Lo)]

def page30 : List (Nat × Category × Category) := [
  (0x1005E, Cn, Cn), (0x10080, Lo, Lo), (0x100FB, Cn, Cn), (0x10100, Po, Po),
  (0x10103, Cn, Cn), (0x10107, No, No), (0x10134, Cn, Cn), (0x10137, So, So),
  (0x10140, Nl, Nl), (0x10175, No, No), (0x10179, So, So), (0x1018A, No, No),
  (0x1018C, So, So), (0x1018F, Cn, Cn), (0x10190, So, So), (0x1019D, Cn, Cn),
  (0x101A0, So, So), (0x101A1, Cn, Cn), (0x101D0, So, So), (0x101FD, Mn, Mn),
  (0x101FE, Cn, Cn), (0x10280, Lo, Lo), (0x1029D, Cn, Cn), (0x102A0, Lo, Lo),
  (0x102D1, Cn, Cn), (0x102E0, Mn, Mn), (0x102E1, No, No), (0x102FC, Cn, Cn),
  (0x10300, Lo, Lo), (0x10320, No, No), (0x10324, Cn, Cn), (0x1032D, Lo, Lo),
  (0x10341, Nl, Nl), (0x10342, Lo, Lo), (0x1034A, Nl, Nl), (0x1034B, Cn, Cn),
  (0x10350, Lo, Lo), (0x10376, Mn, Mn), (0x1037B, Cn, Cn), (0x10380, Lo, Lo),
  (0x1039E, Cn, Cn), (0x1039F, Po, Po), (0x103A0, Lo, Lo), (0x103C4, Cn, Cn),
  (0x103C8, Lo, Lo), (0x103D0, Po, Po), (0x103D1, Nl, Nl), (0x103D6, Cn, Cn),
  (0x10400, Lu, Lu), (0x10428, Ll, Ll), (0x10450, Lo, Lo), (0x1049E, Cn, Cn),
  (0x104A0, Nd, Nd), (0x104AA, Cn, Cn), (0x104B0, Lu, Lu), (0x104D4, Cn, Cn),
  (0x104D8, Ll, Ll), (0x104FC, Cn, Cn), (0x10500, Lo, Lo), (0x10528, Cn, Cn),
  (0x10530, Lo, Lo), (0x10564, Cn, Cn), (0x1056F, Po, Po), (0x10570, Lu, Lu)]

def page31 : List (Nat × Category × Category) := [
  (0x1057B, Cn, Cn), (0x1057C, Lu, Lu), (0x1058B, Cn, Cn), (0x1058C, Lu, Lu),
  (0x10593, Cn, Cn), (0x10594, Lu, Lu), (0x10596, Cn, Cn), (0x10597, Ll, Ll),
  (0x105A2, Cn, Cn), (0x105A3, Ll, Ll), (0x105B2, Cn, Cn), (0x105B3, Ll, Ll),
  (0x105BA, Cn, Cn), (0x105BB, Ll, Ll), (0x105BD, Cn, Cn), (0x105C0, Lo, Lo),
  (0x105F4, Cn, Cn), (0x10600, Lo, Lo), (0x10737, Cn, Cn), (0x10740, Lo, Lo),
  (0x10756, Cn, Cn), (0x10760, Lo, Lo), (0x10768, Cn, Cn), (0x10780, Lm, Lm),
  (0x10786, Cn, Cn), (0x10787, Lm, Lm), (0x107B1, Cn, Cn), (0x107B2, Lm, Lm),
  (0x107BB, Cn, Cn), (0x10800, Lo, Lo), (0x10806, Cn, Cn), (0x10808, Lo, Lo),
  (0x10809, Cn, Cn), (0x1080A, Lo, Lo), (0x10836, Cn, Cn), (0x10837, Lo, Lo),
  (0x10839, Cn, Cn), (0x1083C, Lo, Lo), (0x1083D, Cn, Cn), (0x1083F, Lo, Lo),
  (0x10856, Cn, Cn), (0x10857, Po, Po), (0x10858, No, No), (0x10860, Lo, Lo),
  (0x10877, So, So), (0x10879, No, No), (0x10880, Lo, Lo), (0x1089F, Cn, Cn),
  (0x108A7, No, No), (0x108B0, Cn, Cn), (0x108E0, Lo, Lo), (0x108F3, Cn, Cn),
  (0x108F4, Lo, Lo), (0x108F6, Cn, Cn), (0x108FB, No, No), (0x10900, Lo, Lo),
  (0x10916, No, No), (0x1091C, Cn, Cn), (0x1091F, Po, Po), (0x10920, Lo, Lo),
  (0x1093A, Cn, Cn), (0x1093F, Po, Po), (0x10940, Cn, Cn), (0x10980, Lo, Lo)]

def page32 : List (Nat × Category × Category) := [
  (0x109B8, Cn, Cn), (0x109BC, No, No), (0x109BE, Lo, Lo), (0x109C0, No, No),
  (0x109D0, Cn, Cn), (0x109D2, No, No), (0x10A00, Lo, Lo), (0x10A01, Mn, Mn),
  (0x10A04, Cn, Cn), (0x10A05, Mn, Mn), (0x10A07, Cn, Cn), (0x10A0C, Mn, Mn),
  (0x10A10, Lo, Lo), (0x10A14, Cn, Cn), (0x10A15, Lo, Lo), (0x10A18, Cn, Cn),
  (0x10A19, Lo, Lo), (0x10A36, Cn, Cn), (0x10A38, Mn, Mn), (0x10A3B, Cn, Cn),
  (0x10A3F, Mn, Mn), (0x10A40, No, No), (0x10A49, Cn, Cn), (0x10A50, Po, Po),
  (0x10A59, Cn, Cn), (0x10A60, Lo, Lo), (0x10A7D, No, No), (0x10A7F, Po, Po),
  (0x10A80, Lo, Lo), (0x10A9D, No, No), (0x10AA0, Cn, Cn), (0x10AC0, Lo, Lo),
  (0x10AC8, So, So), (0x10AC9, Lo, Lo), (0x10AE5, Mn, Mn), (0x10AE7, Cn, Cn),
  (0x10AEB, No, No), (0x10AF0, Po, Po), (0x10AF7, Cn, Cn), (0x10B00, Lo, Lo),
  (0x10B36, Cn, Cn), (0x10B39, Po, Po), (0x10B40, Lo, Lo), (0x10B56, Cn, Cn),
  (0x10B58, No, No), (0x10B60, Lo, Lo), (0x10B73, Cn, Cn), (0x10B78, No, No),
  (0x10B80, Lo, Lo), (0x10B92, Cn, Cn), (0x10B99, Po, Po), (0x10B9D, Cn, Cn),
  (0x10BA9, No, No), (0x10BB0, Cn, Cn), (0x10C00, Lo, Lo), (0x10C49, Cn, Cn),
  (0x10C80, Lu, Lu), (0x10CB3, Cn, Cn), (0x10CC0, Ll, Ll), (0x10CF3, Cn, Cn),
  (0x10CFA, No, No), (0x10D00, Lo, Lo), (0x10D24, Mn, Mn), (0x10D28, Cn, Cn)]

def page33 : List (Nat × Category × Category) := [
  (0x10D30, Nd, Nd), (0x10D3A, Cn, Cn), (0x10D40, Nd, Nd), (0x10D4A, Lo, Lo),
  (0x10D4E, Lm, Lm), (0x10D4F, Lo, Lo), (0x10D50, Lu, Lu), (0x10D66, Cn, Cn),
  (0x10D69, Mn, Mn), (0x10D6E, Pd, Pd), (0x10D6F, Lm, Lm), (0x10D70, Ll, Ll),
  (0x10D86, Cn, Cn), (0x10D8E, Sm, Sm), (0x10D90, Cn, Cn), (0x10E60, No, No),
  (0x10E7F, Cn, Cn), (0x10E80, Lo, Lo), (0x10EAA, Cn, Cn), (0x10EAB, Mn, Mn),
  (0x10EAD, Pd, Pd), (0x10EAE, Cn, Cn), (0x10EB0, Lo, Lo), (0x10EB2, Cn, Cn),
  (0x10EC2, Lo, Lo), (0x10EC5, Cn, Cn), (0x10EFC, Mn, Mn), (0x10F00, Lo, Lo),
  (0x10F1D, No, No), (0x10F27, Lo, Lo), (0x10F28, Cn, Cn), (0x10F30, Lo, Lo),
  (0x10F46, Mn, Mn), (0x10F51, No, No), (0x10F55, Po, Po), (0x10F5A, Cn, Cn),
  (0x10F70, Lo, Lo), (0x10F82, Mn, Mn), (0x10F86, Po, Po), (0x10F8A, Cn, Cn),
  (0x10FB0, Lo, Lo), (0x10FC5, No, No), (0x10FCC, Cn, Cn), (0x10FE0, Lo, Lo),
  (0x10FF7, Cn, Cn), (0x11000, Mc, Mc), (0x11001, Mn, Mn), (0x11002, Mc, Mc),
  (0x11003, Lo, Lo), (0x11038, Mn, Mn), (0x11047, Po, Po), (0x1104E, Cn, Cn),
  (0x11052, No, No), (0x11066, Nd, Nd), (0x11070, Mn, Mn), (0x11071, Lo, Lo),
  (0x11073, Mn, Mn), (0x11075, Lo, Lo), (0x11076, Cn, Cn), (0x1107F, Mn, Mn),
  (0x11082, Mc, Mc), (0x11083, Lo, Lo), (0x110B0, Mc, Mc), (0x110B3, Mn, Mn)]

def page34 : List (Nat × Category × Category) := [
  (0x110B7, Mc, Mc), (0x110B9, Mn, Mn), (0x110BB, Po, Po), (0x110BD, Cf, Cf),
  (0x110BE, Po, Po), (0x110C2, Mn, Mn), (0x110C3, Cn, Cn), (0x110CD, Cf, Cf),
  (0x110CE, Cn, Cn), (0x110D0, Lo, Lo), (0x110E9, Cn, Cn), (0x110F0, Nd, Nd),
  (0x110FA, Cn, Cn), (0x11100, Mn, Mn), (0x11103, Lo, Lo), (0x11127, Mn, Mn),
  (0x1112C, Mc, Mc), (0x1112D, Mn, Mn), (0x11135, Cn, Cn), (0x11136, Nd, Nd),
  (0x11140, Po, Po), (0x11144, Lo, Lo), (0x11145, Mc, Mc), (0x11147, Lo, Lo),
  (0x11148, Cn, Cn), (0x11150, Lo, Lo), (0x11173, Mn, Mn), (0x11174, Po, Po),
  (0x11176, Lo, Lo), (0x11177, Cn, Cn), (0x11180, Mn, Mn), (0x11182, Mc, Mc),
  (0x11183, Lo, Lo), (0x111B3, Mc, Mc), (0x111B6, Mn, Mn), (0x111BF, Mc, Mc),
  (0x111C1, Lo, Lo), (0x111C5, Po, Po), (0x111C9, Mn, Mn), (0x111CD, Po, Po),
  (0x111CE, Mc, Mc), (0x111CF, Mn, Mn), (0x111D0, Nd, Nd), (0x111DA, Lo, Lo),
  (0x111DB, Po, Po), (0x111DC, Lo, Lo), (0x111DD, Po, Po), (0x111E0, Cn, Cn),
  (0x111E1, No, No), (0x111F5, Cn, Cn), (0x11200, Lo, Lo), (0x11212, Cn, Cn),
  (0x11213, Lo, Lo), (0x1122C, Mc, Mc), (0x1122F, Mn, Mn), (0x11232, Mc, Mc),
  (0x11234, Mn, Mn), (0x11235, Mc, Mc), (0x11236, Mn, Mn), (0x11238, Po, Po),
  (0x1123E, Mn, Mn), (0x1123F, Lo, Lo), (0x11241, Mn, Mn), (0x11242, Cn, Cn)]

def page35 : List (Nat × Category × Category) := [
  (0x11280, Lo, Lo), (0x11287, Cn, Cn), (0x11288, Lo, Lo), (0x11289, Cn, Cn),
  (0x1128A, Lo, Lo), (0x1128E, Cn, Cn), (0x1128F, Lo, Lo), (0x1129E, Cn, Cn),
  (0x1129F, Lo, Lo), (0x112A9, Po, Po), (0x112AA, Cn, Cn), (0x112B0, Lo, Lo),
  (0x112DF, Mn, Mn), (0x112E0, Mc, Mc), (0x112E3, Mn, Mn), (0x112EB, Cn, Cn),
  (0x112F0, Nd, Nd), (0x112FA, Cn, Cn), (0x11300, Mn, Mn), (0x11302, Mc, Mc),
  (0x11304, Cn, Cn), (0x11305, Lo, Lo), (0x1130D, Cn, Cn), (0x1130F, Lo, Lo),
  (0x11311, Cn, Cn), (0x11313, Lo, Lo), (0x11329, Cn, Cn), (0x1132A, Lo, Lo),
  (0x11331, Cn, Cn), (0x11332, Lo, Lo), (0x11334, Cn, Cn), (0x11335, Lo, Lo),
  (0x1133A, Cn, Cn), (0x1133B, Mn, Mn), (0x1133D, Lo, Lo), (0x1133E, Mc, Mc),
  (0x11340, Mn, Mn), (0x11341, Mc, Mc), (0x11345, Cn, Cn), (0x11347, Mc, Mc),
  (0x11349, Cn, Cn), (0x1134B, Mc, Mc), (0x1134E, Cn, Cn), (0x11350, Lo, Lo),
  (0x11351, Cn, Cn), (0x11357, Mc, Mc), (0x11358, Cn, Cn), (0x1135D, Lo, Lo),
  (0x11362, Mc, Mc), (0x11364, Cn, Cn), (0x11366, Mn, Mn), (0x1136D, Cn, Cn),
  (0x11370, Mn, Mn), (0x11375, Cn, Cn), (0x11380, Lo, Lo), (0x1138A, Cn, Cn),
  (0x1138B, Lo, Lo), (0x1138C, Cn, Cn), (0x1138E, Lo, Lo), (0x1138F, Cn, Cn),
  (0x11390, Lo, Lo), (0x113B6, Cn, Cn), (0x113B7, Lo, Lo), (0x113B8, Mc, Mc)]

def page36 : List (Nat × Category × Category) := [
  (0x113BB, Mn, Mn), (0x113C1, Cn, Cn), (0x113C2, Mc, Mc), (0x113C3, Cn, Cn),
  (0x113C5, Mc, Mc), (0x113C6, Cn, Cn), (0x113C7, Mc, Mc), (0x113CB, Cn, Cn),
  (0x113CC, Mc, Mc), (0x113CE, Mn, Mn), (0x113CF, Mc, Mc), (0x113D0, Mn, Mn),
  (0x113D1, Lo, Lo), (0x113D2, Mn, Mn), (0x113D3, Lo, Lo), (0x113D4, Po, Po),
  (0x113D6, Cn, Cn), (0x113D7, Po, Po), (0x113D9, Cn, Cn), (0x113E1, Mn, Mn),
  (0x113E3, Cn, Cn), (0x11400, Lo, Lo), (0x11435, Mc, Mc), (0x11438, Mn, Mn),
  (0x11440, Mc, Mc), (0x11442, Mn, Mn), (0x11445, Mc, Mc), (0x11446, Mn, Mn),
  (0x11447, Lo, Lo), (0x1144B, Po, Po), (0x11450, Nd, Nd), (0x1145A, Po, Po),
  (0x1145C, Cn, Cn), (0x1145D, Po, Po), (0x1145E, Mn, Mn), (0x1145F, Lo, Lo),
  (0x11462, Cn, Cn), (0x11480, Lo, Lo), (0x114B0, Mc, Mc), (0x114B3, Mn, Mn),
  (0x114B9, Mc, Mc), (0x114BA, Mn, Mn), (0x114BB, Mc, Mc), (0x114BF, Mn, Mn),
  (0x114C1, Mc, Mc), (0x114C2, Mn, Mn), (0x114C4, Lo, Lo), (0x114C6, Po, Po),
  (0x114C7, Lo, Lo), (0x114C8, Cn, Cn), (0x114D0, Nd, Nd), (0x114DA, Cn, Cn),
  (0x11580, Lo, Lo), (0x115AF, Mc, Mc), (0x115B2, Mn, Mn), (0x115B6, Cn, Cn),
  (0x115B8, Mc, Mc), (0x115BC, Mn, Mn), (0x115BE, Mc, Mc), (0x115BF, Mn, Mn),
  (0x115C1, Po, Po), (0x115D8, Lo, Lo), (0x115DC, Mn, Mn), (0x115DE, Cn, Cn)]

def page37 : List (Nat × Category × Category) := [
  (0x11600, Lo, Lo), (0x11630, Mc, Mc), (0x11633, Mn, Mn), (0x1163B, Mc, Mc),
  (0x1163D, Mn, Mn), (0x1163E, Mc, Mc), (0x1163F, Mn, Mn), (0x11641, Po, Po),
  (0x11644, Lo, Lo), (0x11645, Cn, Cn), (0x11650, Nd, Nd), (0x1165A, Cn, Cn),
  (0x11660, Po, Po), (0x1166D, Cn, Cn), (0x11680, Lo, Lo), (0x116AB, Mn, Mn),
  (0x116AC, Mc, Mc), (0x116AD, Mn, Mn), (0x116AE, Mc, Mc), (0x116B0, Mn, Mn),
  (0x116B6, Mc, Mc), (0x116B7, Mn, Mn), (0x116B8, Lo, Lo), (0x116B9, Po, Po),
  (0x116BA, Cn, Cn), (0x116C0, Nd, Nd), (0x116CA, Cn, Cn), (0x116D0, Nd, Nd),
  (0x116E4, Cn, Cn), (0x11700, Lo, Lo), (0x1171B, Cn, Cn), (0x1171D, Mn, Mn),
  (0x1171E, Mc, Mc), (0x1171F, Mn, Mn), (0x11720, Mc, Mc), (0x11722, Mn, Mn),
  (0x11726, Mc, Mc), (0x11727, Mn, Mn), (0x1172C, Cn, Cn), (0x11730, Nd, Nd),
  (0x1173A, No, No), (0x1173C, Po, Po), (0x1173F, So, So), (0x11740, Lo, Lo),
  (0x11747, Cn, Cn), (0x11800, Lo, Lo), (0x1182C, Mc, Mc), (0x1182F, Mn, Mn),
  (0x11838, Mc, Mc), (0x11839, Mn, Mn), (0x1183B, Po, Po), (0x1183C, Cn, Cn),
  (0x118A0, Lu, Lu), (0x118C0, Ll, Ll), (0x118E0, Nd, Nd), (0x118EA, No, No),
  (0x118F3, Cn, Cn), (0x118FF, Lo, Lo), (0x11907, Cn, Cn), (0x11909, Lo, Lo),
  (0x1190A, Cn, Cn), (0x1190C, Lo, Lo), (0x11914, Cn, Cn), (0x11915, Lo, Lo)]

def page38 : List (Nat × Category × Category) := [
  (0x11917, Cn, Cn), (0x11918, Lo, Lo), (0x11930, Mc, Mc), (0x11936, Cn, Cn),
  (0x11937, Mc, Mc), (0x11939, Cn, Cn), (0x1193B, Mn, Mn), (0x1193D, Mc, Mc),
  (0x1193E, Mn, Mn), (0x1193F, Lo, Lo), (0x11940, Mc, Mc), (0x11941, Lo, Lo),
  (0x11942, Mc, Mc), (0x11943, Mn, Mn), (0x11944, Po, Po), (0x11947, Cn, Cn),
  (0x11950, Nd, Nd), (0x1195A, Cn, Cn), (0x119A0, Lo, Lo), (0x119A8, Cn, Cn),
  (0x119AA, Lo, Lo), (0x119D1, Mc, Mc), (0x119D4, Mn, Mn), (0x119D8, Cn, Cn),
  (0x119DA, Mn, Mn), (0x119DC, Mc, Mc), (0x119E0, Mn, Mn), (0x119E1, Lo, Lo),
  (0x119E2, Po, Po), (0x119E3, Lo, Lo), (0x119E4, Mc, Mc), (0x119E5, Cn, Cn),
  (0x11A00, Lo, Lo), (0x11A01, Mn, Mn), (0x11A0B, Lo, Lo), (0x11A33, Mn, Mn),
  (0x11A39, Mc, Mc), (0x11A3A, Lo, Lo), (0x11A3B, Mn, Mn), (0x11A3F, Po, Po),
  (0x11A47, Mn, Mn), (0x11A48, Cn, Cn), (0x11A50, Lo, Lo), (0x11A51, Mn, Mn),
  (0x11A57, Mc, Mc), (0x11A59, Mn, Mn), (0x11A5C, Lo, Lo), (0x11A8A, Mn, Mn),
  (0x11A97, Mc, Mc), (0x11A98, Mn, Mn), (0x11A9A, Po, Po), (0x11A9D, Lo, Lo),
  (0x11A9E, Po, Po), (0x11AA3, Cn, Cn), (0x11AB0, Lo, Lo), (0x11AF9, Cn, Cn),
  (0x11B00, Po, Po), (0x11B0A, Cn, Cn), (0x11BC0, Lo, Lo), (0x11BE1, Po, Po),
  (0x11BE2, Cn, Cn), (0x11BF0, Nd, Nd), (0x11BFA, Cn, Cn), (0x11C00, Lo, Lo)]

def page39 : List (Nat × Category × Category) := [
  (0x11C09, Cn, Cn), (0x11C0A, Lo, Lo), (0x11C2F, Mc, Mc), (0x11C30, Mn, Mn),
  (0x11C37, Cn, Cn), (0x11C38, Mn, Mn), (0x11C3E, Mc, Mc), (0x11C3F, Mn, Mn),
  (0x11C40, Lo, Lo), (0x11C41, Po, Po), (0x11C46, Cn, Cn), (0x11C50, Nd, Nd),
  (0x11C5A, No, No), (0x11C6D, Cn, Cn), (0x11C70, Po, Po), (0x11C72, Lo, Lo),
  (0x11C90, Cn, Cn), (0x11C92, Mn, Mn), (0x11CA8, Cn, Cn), (0x11CA9, Mc, Mc),
  (0x11CAA, Mn, Mn), (0x11CB1, Mc, Mc), (0x11CB2, Mn, Mn), (0x11CB4, Mc, Mc),
  (0x11CB5, Mn, Mn), (0x11CB7, Cn, Cn), (0x11D00, Lo, Lo), (0x11D07, Cn, Cn),
  (0x11D08, Lo, Lo), (0x11D0A, Cn, Cn), (0x11D0B, Lo, Lo), (0x11D31, Mn, Mn),
  (0x11D37, Cn, Cn), (0x11D3A, Mn, Mn), (0x11D3B, Cn, Cn), (0x11D3C, Mn, Mn),
  (0x11D3E, Cn, Cn), (0x11D3F, Mn, Mn), (0x11D46, Lo, Lo), (0x11D47, Mn, Mn),
  (0x11D48, Cn, Cn), (0x11D50, Nd, Nd), (0x11D5A, Cn, Cn), (0x11D60, Lo, Lo),
  (0x11D66, Cn, Cn), (0x11D67, Lo, Lo), (0x11D69, Cn, Cn), (0x11D6A, Lo, Lo),
  (0x11D8A, Mc, Mc), (0x11D8F, Cn, Cn), (0x11D90, Mn, Mn), (0x11D92, Cn, Cn),
  (0x11D93, Mc, Mc), (0x11D95, Mn, Mn), (0x11D96, Mc, Mc), (0x11D97, Mn, Mn),
  (0x11D98, Lo, Lo), (0x11D99, Cn, Cn), (0x11DA0, Nd, Nd), (0x11DAA, Cn, Cn),
  (0x11EE0, Lo, Lo), (0x11EF3, Mn, Mn), (0x11EF5, Mc, Mc), (0x11EF7, Po, Po)]

def page40 : List (Nat × Category × Category) := [
  (0x11EF9, Cn, Cn), (0x11F00, Mn, Mn), (0x11F02, Lo, Lo), (0x11F03, Mc, Mc),
  (0x11F04, Lo, Lo), (0x11F11, Cn, Cn), (0x11F12, Lo, Lo), (0x11F34, Mc, Mc),
  (0x11F36, Mn, Mn), (0x11F3B, Cn, Cn), (0x11F3E, Mc, Mc), (0x11F40, Mn, Mn),
  (0x11F41, Mc, Mc), (0x11F42, Mn, Mn), (0x11F43, Po, Po), (0x11F50, Nd, Nd),
  (0x11F5A, Mn, Mn), (0x11F5B, Cn, Cn), (0x11FB0, Lo, Lo), (0x11FB1, Cn, Cn),
  (0x11FC0, No, No), (0x11FD5, So, So), (0x11FDD, Sc, Sc), (0x11FE1, So, So),
  (0x11FF2, Cn, Cn), (0x11FFF, Po, Po), (0x12000, Lo, Lo), (0x1239A, Cn, Cn),
  (0x12400, Nl, Nl), (0x1246F, Cn, Cn), (0x12470, Po, Po), (0x12475, Cn, Cn),
  (0x12480, Lo, Lo), (0x12544, Cn, Cn), (0x12F90, Lo, Lo), (0x12FF1, Po, Po),
  (0x12FF3, Cn, Cn), (0x13000, Lo, Lo), (0x13430, Cf, Cf), (0x13440, Mn, Mn),
  (0x13441, Lo, Lo), (0x13447, Mn, Mn), (0x13456, Cn, Cn), (0x13460, Lo, Lo),
  (0x143FB, Cn, Cn), (0x14400, Lo, Lo), (0x14647, Cn, Cn), (0x16100, Lo, Lo),
  (0x1611E, Mn, Mn), (0x1612A, Mc, Mc), (0x1612D, Mn, Mn), (0x16130, Nd, Nd),
  (0x1613A, Cn, Cn), (0x16800, Lo, Lo), (0x16A39, Cn, Cn), (0x16A40, Lo, Lo),
  (0x16A5F, Cn, Cn), (0x16A60, Nd, Nd), (0x16A6A, Cn, Cn), (0x16A6E, Po, Po),
  (0x16A70, Lo, Lo), (0x16ABF, Cn, Cn), (0x16AC0, Nd, Nd), (0x16ACA, Cn, Cn)]

def page41 : List (Nat × Category × Category) := [
  (0x16AD0, Lo, Lo), (0x16AEE, Cn, Cn), (0x16AF0, Mn, Mn), (0x16AF5, Po, Po),
  (0x16AF6, Cn, Cn), (0x16B00, Lo, Lo), (0x16B30, Mn, Mn), (0x16B37, Po, Po),
  (0x16B3C, So, So), (0x16B40, Lm, Lm), (0x16B44, Po, Po), (0x16B45, So, So),
  (0x16B46, Cn, Cn), (0x16B50, Nd, Nd), (0x16B5A, Cn, Cn), (0x16B5B, No, No),
  (0x16B62, Cn, Cn), (0x16B63, Lo, Lo), (0x16B78, Cn, Cn), (0x16B7D, Lo, Lo),
  (0x16B90, Cn, Cn), (0x16D40, Lm, Lm), (0x16D43, Lo, Lo), (0x16D6B, Lm, Lm),
  (0x16D6D, Po, Po), (0x16D70, Nd, Nd), (0x16D7A, Cn, Cn), (0x16E40, Lu, Lu),
  (0x16E60, Ll, Ll), (0x16E80, No, No), (0x16E97, Po, Po), (0x16E9B, Cn, Cn),
  (0x16F00, Lo, Lo), (0x16F4B, Cn, Cn), (0x16F4F, Mn, Mn), (0x16F50, Lo, Lo),
  (0x16F51, Mc, Mc), (0x16F88, Cn, Cn), (0x16F8F, Mn, Mn), (0x16F93, Lm, Lm),
  (0x16FA0, Cn, Cn), (0x16FE0, Lm, Lm), (0x16FE2, Po, Po), (0x16FE3, Lm, Lm),
  (0x16FE4, Mn, Mn), (0x16FE5, Cn, Cn), (0x16FF0, Mc, Mc), (0x16FF2, Cn, Cn),
  (0x17000, Lo, Lo), (0x187F8, Cn, Cn), (0x18800, Lo, Lo), (0x18CD6, Cn, Cn),
  (0x18CFF, Lo, Lo), (0x18D09, Cn, Cn), (0x1AFF0, Lm, Lm), (0x1AFF4, Cn, Cn),
  (0x1AFF5, Lm, Lm), (0x1AFFC, Cn, Cn), (0x1AFFD, Lm, Lm), (0x1AFFF, Cn, Cn),
  (0x1B000, Lo, Lo), (0x1B123, Cn, Cn), (0x1B132, Lo, Lo), (0x1B133, Cn, Cn)]

def page42 : List (Nat × Category × Category) := [
  (0x1B150, Lo, Lo), (0x1B153, Cn, Cn), (0x1B155, Lo, Lo), (0x1B156, Cn, Cn),
  (0x1B164, Lo, Lo), (0x1B168, Cn, Cn), (0x1B170, Lo, Lo), (0x1B2FC, Cn, Cn),
  (0x1BC00, Lo, Lo), (0x1BC6B, Cn, Cn), (0x1BC70, Lo, Lo), (0x1BC7D, Cn, Cn),
  (0x1BC80, Lo, Lo), (0x1BC89, Cn, Cn), (0x1BC90, Lo, Lo), (0x1BC9A, Cn, Cn),
  (0x1BC9C, So, So), (0x1BC9D, Mn, Mn), (0x1BC9F, Po, Po), (0x1BCA0, Cf, Cf),
  (0x1BCA4, Cn, Cn), (0x1CC00, So, So), (0x1CCF0, Nd, Nd), (0x1CCFA, Cn, Cn),
  (0x1CD00, So, So), (0x1CEB4, Cn, Cn), (0x1CF00, Mn, Mn), (0x1CF2E, Cn, Cn),
  (0x1CF30, Mn, Mn), (0x1CF47, Cn, Cn), (0x1CF50, So, So), (0x1CFC4, Cn, Cn),
  (0x1D000, So, So), (0x1D0F6, Cn, Cn), (0x1D100, So, So), (0x1D127, Cn, Cn),
  (0x1D129, So, So), (0x1D165, Mc, Mc), (0x1D167, Mn, Mn), (0x1D16A, So, So),
  (0x1D16D, Mc, Mc), (0x1D173, Cf, Cf), (0x1D17B, Mn, Mn), (0x1D183, So, So),
  (0x1D185, Mn, Mn), (0x1D18C, So, So), (0x1D1AA, Mn, Mn), (0x1D1AE, So, So),
  (0x1D1EB, Cn, Cn), (0x1D200, So, So), (0x1D242, Mn, Mn), (0x1D245, So, So),
  (0x1D246, Cn, Cn), (0x1D2C0, No, No), (0x1D2D4, Cn, Cn), (0x1D2E0, No, No),
  (0x1D2F4, Cn, Cn), (0x1D300, So, So), (0x1D357, Cn, Cn), (0x1D360, No, No),
  (0x1D379, Cn, Cn), (0x1D400, Lu, Lu), (0x1D41A, Ll, Ll), (0x1D434, Lu, Lu)]

def page43 : List (Nat × Category × Category) := [
  (0x1D44E, Ll, Ll), (0x1D455, Cn, Cn), (0x1D456, Ll, Ll), (0x1D468, Lu, Lu),
  (0x1D482, Ll, Ll), (0x1D49C, Lu, Lu), (0x1D49D, Cn, Cn), (0x1D49E, Lu, Lu),
  (0x1D4A0, Cn, Cn), (0x1D4A2, Lu, Lu), (0x1D4A3, Cn, Cn), (0x1D4A5, Lu, Lu),
  (0x1D4A7, Cn, Cn), (0x1D4A9, Lu, Lu), (0x1D4AD, Cn, Cn), (0x1D4AE, Lu, Lu),
  (0x1D4B6, Ll, Ll), (0x1D4BA, Cn, Cn), (0x1D4BB, Ll, Ll), (0x1D4BC, Cn, Cn),
  (0x1D4BD, Ll, Ll), (0x1D4C4, Cn, Cn), (0x1D4C5, Ll, Ll), (0x1D4D0, Lu, Lu),
  (0x1D4EA, Ll, Ll), (0x1D504, Lu, Lu), (0x1D506, Cn, Cn), (0x1D507, Lu, Lu),
  (0x1D50B, Cn, Cn), (0x1D50D, Lu, Lu), (0x1D515, Cn, Cn), (0x1D516, Lu, Lu),
  (0x1D51D, Cn, Cn), (0x1D51E, Ll, Ll), (0x1D538, Lu, Lu), (0x1D53A, Cn, Cn),
  (0x1D53B, Lu, Lu), (0x1D53F, Cn, Cn), (0x1D540, Lu, Lu), (0x1D545, Cn, Cn),
  (0x1D546, Lu, Lu), (0x1D547, Cn, Cn), (0x1D54A, Lu, Lu), (0x1D551, Cn, Cn),
  (0x1D552, Ll, Ll), (0x1D56C, Lu, Lu), (0x1D586, Ll, Ll), (0x1D5A0, Lu, Lu),
  (0x1D5BA, Ll, Ll), (0x1D5D4, Lu, Lu), (0x1D5EE, Ll, Ll), (0x1D608, Lu, Lu),
  (0x1D622, Ll, Ll), (0x1D63C, Lu, Lu), (0x1D656, Ll, Ll), (0x1D670, Lu, Lu),
  (0x1D68A, Ll, Ll), (0x1D6A6, Cn, Cn), (0x1D6A8, Lu, Lu), (0x1D6C1, Sm, Sm),
  (0x1D6C2, Ll, Ll), (0x1D6DB, Sm, Sm), (0x1D6DC, Ll, Ll), (0x1D6E2, Lu, Lu)]

def page44 : List (Nat × Category × Category) := [
  (0x1D6FB, Sm, Sm), (0x1D6FC, Ll, Ll), (0x1D715, Sm, Sm), (0x1D716, Ll, Ll),
  (0x1D71C, Lu, Lu), (0x1D735, Sm, Sm), (0x1D736, Ll, Ll), (0x1D74F, Sm, Sm),
  (0x1D750, Ll, Ll), (0x1D756, Lu, Lu), (0x1D76F, Sm, Sm), (0x1D770, Ll, Ll),
  (0x1D789, Sm, Sm), (0x1D78A, Ll, Ll), (0x1D790, Lu, Lu), (0x1D7A9, Sm, Sm),
  (0x1D7AA, Ll, Ll), (0x1D7C3, Sm, Sm), (0x1D7C4, Ll, Ll), (0x1D7CA, Lu, Lu),
  (0x1D7CB, Ll, Ll), (0x1D7CC, Cn, Cn), (0x1D7CE, Nd, Nd), (0x1D800, So, So),
  (0x1DA00, Mn, Mn), (0x1DA37, So, So), (0x1DA3B, Mn, Mn), (0x1DA6D, So, So),
  (0x1DA75, Mn, Mn), (0x1DA76, So, So), (0x1DA84, Mn, Mn), (0x1DA85, So, So),
  (0x1DA87, Po, Po), (0x1DA8C, Cn, Cn), (0x1DA9B, Mn, Mn), (0x1DAA0, Cn, Cn),
  (0x1DAA1, Mn, Mn), (0x1DAB0, Cn, Cn), (0x1DF00, Ll, Ll), (0x1DF0A, Lo, Lo),
  (0x1DF0B, Ll, Ll), (0x1DF1F, Cn, Cn), (0x1DF25, Ll, Ll), (0x1DF2B, Cn, Cn),
  (0x1E000, Mn, Mn), (0x1E007, Cn, Cn), (0x1E008, Mn, Mn), (0x1E019, Cn, Cn),
  (0x1E01B, Mn, Mn), (0x1E022, Cn, Cn), (0x1E023, Mn, Mn), (0x1E025, Cn, Cn),
  (0x1E026, Mn, Mn), (0x1E02B, Cn, Cn), (0x1E030, Lm, Lm), (0x1E06E, Cn, Cn),
  (0x1E08F, Mn, Mn), (0x1E090, Cn, Cn), (0x1E100, Lo, Lo), (0x1E12D, Cn, Cn),
  (0x1E130, Mn, Mn), (0x1E137, Lm, Lm), (0x1E13E, Cn, Cn), (0x1E140, Nd, Nd)]

def page45 : List (Nat × Category × Category) := [
  (0x1E14A, Cn, Cn), (0x1E14E, Lo, Lo), (0x1E14F, So, So), (0x1E150, Cn, Cn),
  (0x1E290, Lo, Lo), (0x1E2AE, Mn, Mn), (0x1E2AF, Cn, Cn), (0x1E2C0, Lo, Lo),
  (0x1E2EC, Mn, Mn), (0x1E2F0, Nd, Nd), (0x1E2FA, Cn, Cn), (0x1E2FF, Sc, Sc),
  (0x1E300, Cn, Cn), (0x1E4D0, Lo, Lo), (0x1E4EB, Lm, Lm), (0x1E4EC, Mn, Mn),
  (0x1E4F0, Nd, Nd), (0x1E4FA, Cn, Cn), (0x1E5D0, Lo, Lo), (0x1E5EE, Mn, Mn),
  (0x1E5F0, Lo, Lo), (0x1E5F1, Nd, Nd), (0x1E5FB, Cn, Cn), (0x1E5FF, Po, Po),
  (0x1E600, Cn, Cn), (0x1E7E0, Lo, Lo), (0x1E7E7, Cn, Cn), (0x1E7E8, Lo, Lo),
  (0x1E7EC, Cn, Cn), (0x1E7ED, Lo, Lo), (0x1E7EF, Cn, Cn), (0x1E7F0, Lo, Lo),
  (0x1E7FF, Cn, Cn), (0x1E800, Lo, Lo), (0x1E8C5, Cn, Cn), (0x1E8C7, No, No),
  (0x1E8D0, Mn, Mn), (0x1E8D7, Cn, Cn), (0x1E900, Lu, Lu), (0x1E922, Ll, Ll),
  (0x1E944, Mn, Mn), (0x1E94B, Lm, Lm), (0x1E94C, Cn, Cn), (0x1E950, Nd, Nd),
  (0x1E95A, Cn, Cn), (0x1E95E, Po, Po), (0x1E960, Cn, Cn), (0x1EC71, No, No),
  (0x1ECAC, So, So), (0x1ECAD, No, No), (0x1ECB0, Sc, Sc), (0x1ECB1, No, No),
  (0x1ECB5, Cn, Cn), (0x1ED01, No, No), (0x1ED2E, So, So), (0x1ED2F, No, No),
  (0x1ED3E, Cn, Cn), (0x1EE00, Lo, Lo), (0x1EE04, Cn, Cn), (0x1EE05, Lo, Lo),
  (0x1EE20, Cn, Cn), (0x1EE21, Lo, Lo), (0x1EE23, Cn, Cn), (0x1EE24, Lo, Lo)]

def page46 : List (Nat × Category × Category) := [
  (0x1EE25, Cn, Cn), (0x1EE27, Lo, Lo), (0x1EE28, Cn, Cn), (0x1EE29, Lo, Lo),
  (0x1EE33, Cn, Cn), (0x1EE34, Lo, Lo), (0x1EE38, Cn, Cn), (0x1EE39, Lo, Lo),
  (0x1EE3A, Cn, Cn), (0x1EE3B, Lo, Lo), (0x1EE3C, Cn, Cn), (0x1EE42, Lo, Lo),
  (0x1EE43, Cn, Cn), (0x1EE47, Lo, Lo), (0x1EE48, Cn, Cn), (0x1EE49, Lo, Lo),
  (0x1EE4A, Cn, Cn), (0x1EE4B, Lo, Lo), (0x1EE4C, Cn, Cn), (0x1EE4D, Lo, Lo),
  (0x1EE50, Cn, Cn), (0x1EE51, Lo, Lo), (0x1EE53, Cn, Cn), (0x1EE54, Lo, Lo),
  (0x1EE55, Cn, Cn), (0x1EE57, Lo, Lo), (0x1EE58, Cn, Cn), (0x1EE59, Lo, Lo),
  (0x1EE5A, Cn, Cn), (0x1EE5B, Lo, Lo), (0x1EE5C, Cn, Cn), (0x1EE5D, Lo, Lo),
  (0x1EE5E, Cn, Cn), (0x1EE5F, Lo, Lo), (0x1EE60, Cn, Cn), (0x1EE61, Lo, Lo),
  (0x1EE63, Cn, Cn), (0x1EE64, Lo, Lo), (0x1EE65, Cn, Cn), (0x1EE67, Lo, Lo),
  (0x1EE6B, Cn, Cn), (0x1EE6C, Lo, Lo), (0x1EE73, Cn, Cn), (0x1EE74, Lo, Lo),
  (0x1EE78, Cn, Cn), (0x1EE79, Lo, Lo), (0x1EE7D, Cn, Cn), (0x1EE7E, Lo, Lo),
  (0x1EE7F, Cn, Cn), (0x1EE80, Lo, Lo), (0x1EE8A, Cn, Cn), (0x1EE8B, Lo, Lo),
  (0x1EE9C, Cn, Cn), (0x1EEA1, Lo, Lo), (0x1EEA4, Cn, Cn), (0x1EEA5, Lo, Lo),
  (0x1EEAA, Cn, Cn), (0x1EEAB, Lo, Lo), (0x1EEBC, Cn, Cn), (0x1EEF0, Sm, Sm),
  (0x1EEF2, Cn, Cn), (0x1F000, So, So), (0x1F02C, Cn, Cn), (0x1F030, So, So)]

def page47 : List (Nat × Category × Category) := [
  (0x1F094, Cn, Cn), (0x1F0A0, So, So), (0x1F0AF, Cn, Cn), (0x1F0B1, So, So),
  (0x1F0C0, Cn, Cn), (0x1F0C1, So, So), (0x1F0D0, Cn, Cn), (0x1F0D1, So, So),
  (0x1F0F6, Cn, Cn), (0x1F100, No, No), (0x1F10D, So, So), (0x1F1AE, Cn, Cn),
  (0x1F1E6, So, So), (0x1F203, Cn, Cn), (0x1F210, So, So), (0x1F23C, Cn, Cn),
  (0x1F240, So, So), (0x1F249, Cn, Cn), (0x1F250, So, So), (0x1F252, Cn, Cn),
  (0x1F260, So, So), (0x1F266, Cn, Cn), (0x1F300, So, So), (0x1F3FB, Sk, Sk),
  (0x1F400, So, So), (0x1F6D8, Cn, Cn), (0x1F6DC, So, So), (0x1F6ED, Cn, Cn),
  (0x1F6F0, So, So), (0x1F6FD, Cn, Cn), (0x1F700, So, So), (0x1F777, Cn, Cn),
  (0x1F77B, So, So), (0x1F7DA, Cn, Cn), (0x1F7E0, So, So), (0x1F7EC, Cn, Cn),
  (0x1F7F0, So, So), (0x1F7F1, Cn, Cn), (0x1F800, So, So), (0x1F80C, Cn, Cn),
  (0x1F810, So, So), (0x1F848, Cn, Cn), (0x1F850, So, So), (0x1F85A, Cn, Cn),
  (0x1F860, So, So), (0x1F888, Cn, Cn), (0x1F890, So, So), (0x1F8AE, Cn, Cn),
  (0x1F8B0, So, So), (0x1F8BC, Cn, Cn), (0x1F8C0, So, So), (0x1F8C2, Cn, Cn),
  (0x1F900, So, So), (0x1FA54, Cn, Cn), (0x1FA60, So, So), (0x1FA6E, Cn, Cn),
  (0x1FA70, So, So), (0x1FA7D, Cn, Cn), (0x1FA80, So, So), (0x1FA8A, Cn, Cn),
  (0x1FA8F, So, So), (0x1FAC7, Cn, Cn), (0x1FACE, So, So), (0x1FADD, Cn, Cn)]

def page48 : List (Nat × Category × Category) := [
  (0x1FADF, So, So), (0x1FAEA, Cn, Cn), (0x1FAF0, So, So), (0x1FAF9, Cn, Cn),
  (0x1FB00, So, So), (0x1FB93, Cn, Cn), (0x1FB94, So, So), (0x1FBF0, Nd, Nd),
  (0x1FBFA, Cn, Cn), (0x20000, Lo, Lo), (0x2A6E0, Cn, Cn), (0x2A700, Lo, Lo),
  (0x2B73A, Cn, Cn), (0x2B740, Lo, Lo), (0x2B81E, Cn, Cn), (0x2B820, Lo, Lo),
  (0x2CEA2, Cn, Cn), (0x2CEB0, Lo, Lo), (0x2EBE1, Cn, Cn), (0x2EBF0, Lo, Lo),
  (0x2EE5E, Cn, Cn), (0x2F800, Lo, Lo), (0x2FA1E, Cn, Cn), (0x30000, Lo, Lo),
  (0x3134B, Cn, Cn), (0x31350, Lo, Lo), (0x323B0, Cn, Cn), (0xE0001, Cf, Cf),
  (0xE0002, Cn, Cn), (0xE0020, Cf, Cf), (0xE0080, Cn, Cn), (0xE0100, Mn, Mn),
  (0xE01F0, Cn, Cn), (0xF0000, Co, Co), (0xFFFFE, Cn, Cn), (0x100000, Co, Co),
  (0x10FFFE, Cn, Cn)]

def pages : List (Nat × List (Nat × Category × Category)) := [
  (0x0, page0), (0x14A, page1), (0x295, page2), (0x55A, page3), (0x74B, page4), (0x972, page5),
  (0xA41, page6), (0xB29, page7), (0xBD7, page8), (0xCC9, page9), (0xDD6, page10),
  (0xF3A, page11), (0x10C6, page12), (0x16EE, page13), (0x1927, page14), (0x1B3C, page15),
  (0x1CED, page16), (0x1FCD, page17), (0x208F, page18), (0x21A1, page19), (0x27C6, page20),
  (0x2C72, page21), (0x2E1C, page22), (0x301A, page23), (0xA4FE, page24), (0xA7FB, page25),
  (0xA9E6, page26), (0xAB30, page27), (0xFDFC, page28), (0xFF0B, page29), (0x1005E, page30),
  (0x1057B, page31), (0x109B8, page32), (0x10D30, page33), (0x110B7, page34),
  (0x11280, page35), (0x113BB, page36), (0x11600, page37), (0x11917, page38),
  (0x11C09, page39), (0x11EF9, page40), (0x16AD0, page41), (0x1B150, page42),
  (0x1D44E, page43), (0x1D6FB, page44), (0x1E14A, page45), (0x1EE25, page46),
  (0x1F094, page47), (0x1FADF, page48)]

end MountSweep.Unicode.CategoryTable
