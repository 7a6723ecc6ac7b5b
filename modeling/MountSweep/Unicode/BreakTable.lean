import MountSweep.Unicode.Break

namespace MountSweep.Unicode.BreakTable

def grapheme : List (Nat × Nat × Option GraphemeBreak) := [
  (0xA, 0xA, some .lf), (0xD, 0xD, some .cr), (0xD4E, 0xD4E, some .prepend),
  (0xE33, 0xE33, some .spacingMark), (0xEB3, 0xEB3, some .spacingMark), (0x102B, 0x102C, none),
  (0x1038, 0x1038, none), (0x1062, 0x1064, none), (0x1067, 0x106D, none),
  (0x1083, 0x1083, none), (0x1087, 0x108C, none), (0x108F, 0x108F, none),
  (0x109A, 0x109C, none), (0x1100, 0x115F, some .l), (0x1160, 0x11A7, some .v),
  (0x11A8, 0x11FF, some .t), (0x1A61, 0x1A61, none), (0x1A63, 0x1A64, none),
  (0x200D, 0x200D, some .zwj), (0xA960, 0xA97C, some .l), (0xAA7B, 0xAA7B, none),
  (0xAA7D, 0xAA7D, none), (0xD7B0, 0xD7C6, some .v), (0xD7CB, 0xD7FB, some .t),
  (0x111C2, 0x111C3, some .prepend), (0x113D1, 0x113D1, some .prepend),
  (0x11720, 0x11721, none), (0x1193F, 0x1193F, some .prepend),
  (0x11941, 0x11941, some .prepend), (0x11A3A, 0x11A3A, some .prepend),
  (0x11A84, 0x11A89, some .prepend), (0x11D46, 0x11D46, some .prepend),
  (0x11F02, 0x11F02, some .prepend), (0x16D63, 0x16D63, some .v), (0x16D67, 0x16D6A, some .v)]

def word : List (Nat × Nat × Option WordBreak) := [
  (0xA, 0xA, some .lf), (0xB, 0xC, some .newline), (0xD, 0xD, some .cr),
  (0x22, 0x22, some .doubleQuote), (0x27, 0x27, some .singleQuote), (0x2C, 0x2C, some .midNum),
  (0x2E, 0x2E, some .midNumLet), (0x3A, 0x3A, some .midLetter), (0x3B, 0x3B, some .midNum),
  (0x85, 0x85, some .newline), (0xA0, 0xA0, none), (0xB7, 0xB7, some .midLetter),
  (0x2C2, 0x2C5, some .aLetter), (0x2D2, 0x2D7, some .aLetter), (0x2DE, 0x2DF, some .aLetter),
  (0x2E5, 0x2EB, some .aLetter), (0x2ED, 0x2ED, some .aLetter), (0x2EF, 0x2FF, some .aLetter),
  (0x37E, 0x37E, some .midNum), (0x387, 0x387, some .midLetter), (0x55A, 0x55C, some .aLetter),
  (0x55E, 0x55E, some .aLetter), (0x55F, 0x55F, some .midLetter), (0x589, 0x589, some .midNum),
  (0x58A, 0x58A, some .aLetter), (0x5F3, 0x5F3, some .aLetter),
  (0x5F4, 0x5F4, some .midLetter), (0x60C, 0x60D, some .midNum), (0x66B, 0x66B, some .numeric),
  (0x66C, 0x66C, some .midNum), (0x7F8, 0x7F8, some .midNum), (0xE01, 0xE30, none),
  (0xE32, 0xE33, none), (0xE40, 0xE46, none), (0xE81, 0xE82, none), (0xE84, 0xE84, none),
  (0xE86, 0xE8A, none), (0xE8C, 0xEA3, none), (0xEA5, 0xEA5, none), (0xEA7, 0xEB0, none),
  (0xEB2, 0xEB3, none), (0xEBD, 0xEBD, none), (0xEC0, 0xEC4, none), (0xEC6, 0xEC6, none),
  (0xEDC, 0xEDF, none), (0x1000, 0x102A, none), (0x103F, 0x103F, none), (0x1050, 0x1055, none),
  (0x105A, 0x105D, none), (0x1061, 0x1061, none), (0x1065, 0x1066, none),
  (0x106E, 0x1070, none), (0x1075, 0x1081, none), (0x108E, 0x108E, none),
  (0x1780, 0x17B3, none), (0x17D7, 0x17D7, none), (0x17DC, 0x17DC, none),
  (0x1950, 0x196D, none), (0x1970, 0x1974, none), (0x1980, 0x19AB, none),
  (0x19B0, 0x19C9, none), (0x1A20, 0x1A54, none), (0x1AA7, 0x1AA7, none),
  (0x2007, 0x2007, none), (0x200B, 0x200B, none), (0x200D, 0x200D, some .zwj),
  (0x2018, 0x2019, some .midNumLet), (0x2024, 0x2024, some .midNumLet),
  (0x2027, 0x2027, some .midLetter), (0x2028, 0x2029, some .newline),
  (0x202F, 0x202F, some .extendNumLet), (0x2044, 0x2044, some .midNum),
  (0x3031, 0x3035, some .katakana), (0x309B, 0x309C, some .katakana),
  (0x30A0, 0x30A0, some .katakana), (0x30FC, 0x30FC, some .katakana),
  (0xA708, 0xA716, some .aLetter), (0xA720, 0xA721, some .aLetter),
  (0xA789, 0xA78A, some .aLetter), (0xA9E0, 0xA9E4, none), (0xA9E6, 0xA9EF, none),
  (0xA9FA, 0xA9FE, none), (0xAA60, 0xAA76, none), (0xAA7A, 0xAA7A, none),
  (0xAA7E, 0xAAAF, none), (0xAAB1, 0xAAB1, none), (0xAAB5, 0xAAB6, none),
  (0xAAB9, 0xAABD, none), (0xAAC0, 0xAAC0, none), (0xAAC2, 0xAAC2, none),
  (0xAADB, 0xAADD, none), (0xAB5B, 0xAB5B, some .aLetter), (0xFE10, 0xFE10, some .midNum),
  (0xFE13, 0xFE13, some .midLetter), (0xFE14, 0xFE14, some .midNum),
  (0xFE50, 0xFE50, some .midNum), (0xFE52, 0xFE52, some .midNumLet),
  (0xFE54, 0xFE54, some .midNum), (0xFE55, 0xFE55, some .midLetter),
  (0xFF07, 0xFF07, some .midNumLet), (0xFF0C, 0xFF0C, some .midNum),
  (0xFF0E, 0xFF0E, some .midNumLet), (0xFF1A, 0xFF1A, some .midLetter),
  (0xFF1B, 0xFF1B, some .midNum), (0xFF70, 0xFF70, some .katakana), (0x11700, 0x1171A, none),
  (0x11740, 0x11746, none)]

def sentence : List (Nat × Nat × Option SentenceBreak) := [
  (0x9, 0x9, some .sp), (0xA, 0xA, some .lf), (0xB, 0xC, some .sp), (0xD, 0xD, some .cr),
  (0x22, 0x22, some .close), (0x27, 0x27, some .close), (0x2C, 0x2D, some .sContinue),
  (0x2E, 0x2E, some .aTerm), (0x3A, 0x3A, some .sContinue), (0x85, 0x85, some .sep),
  (0x345, 0x345, some .extend), (0x55D, 0x55D, some .sContinue), (0x5F3, 0x5F3, some .oLetter),
  (0x60C, 0x60D, some .sContinue), (0x66B, 0x66C, some .numeric),
  (0x7F8, 0x7F8, some .sContinue), (0x10D0, 0x10FA, some .oLetter),
  (0x10FD, 0x10FF, some .oLetter), (0x1802, 0x1802, some .sContinue),
  (0x1808, 0x1808, some .sContinue), (0x1C90, 0x1CBA, some .oLetter),
  (0x1CBD, 0x1CBF, some .oLetter), (0x200C, 0x200D, some .extend),
  (0x2013, 0x2014, some .sContinue), (0x2024, 0x2024, some .aTerm),
  (0x2028, 0x2029, some .sep), (0x275B, 0x2760, some .close), (0x2E00, 0x2E01, some .close),
  (0x2E06, 0x2E08, some .close), (0x2E0B, 0x2E0B, some .close),
  (0x3001, 0x3001, some .sContinue), (0xFE10, 0xFE11, some .sContinue),
  (0xFE13, 0xFE13, some .sContinue), (0xFE31, 0xFE32, some .sContinue),
  (0xFE50, 0xFE51, some .sContinue), (0xFE52, 0xFE52, some .aTerm),
  (0xFE55, 0xFE55, some .sContinue), (0xFE58, 0xFE58, some .sContinue),
  (0xFE63, 0xFE63, some .sContinue), (0xFF0C, 0xFF0D, some .sContinue),
  (0xFF0E, 0xFF0E, some .aTerm), (0xFF1A, 0xFF1A, some .sContinue),
  (0xFF64, 0xFF64, some .sContinue), (0xFF9E, 0xFF9F, some .extend),
  (0x1F676, 0x1F678, some .close), (0xE0020, 0xE007F, some .extend)]

end MountSweep.Unicode.BreakTable
