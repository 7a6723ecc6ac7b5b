import MountSweep.Unicode.Script

namespace MountSweep.Unicode.ScriptExtensionTable

def ranges : List (Nat × Nat × List Script) := [
  (0x342, 0x342, [.greek]), (0x345, 0x345, [.greek]), (0x363, 0x36F, [.latin]),
  (0x483, 0x483, [.cyrillic, .oldPermic]), (0x484, 0x484, [.cyrillic, .glagolitic]),
  (0x485, 0x486, [.cyrillic, .latin]), (0x487, 0x487, [.cyrillic, .glagolitic]),
  (0x60C, 0x60C, [.arabic, .nko, .hanifiRohingya, .syriac, .thaana, .yezidi]),
  (0x61B, 0x61B, [.arabic, .nko, .hanifiRohingya, .syriac, .thaana, .yezidi]),
  (0x61C, 0x61C, [.arabic, .syriac, .thaana]),
  (0x61F, 0x61F, [.adlam, .arabic, .nko, .hanifiRohingya, .syriac, .thaana, .yezidi]),
  (0x640, 0x640, [.adlam, .arabic, .mandaic, .manichaean, .oldUyghur, .psalterPahlavi,
    .hanifiRohingya, .sogdian, .syriac]),
  (0x64B, 0x655, [.arabic, .syriac]), (0x660, 0x669, [.arabic, .thaana, .yezidi]),
  (0x670, 0x670, [.arabic, .syriac]), (0x6D4, 0x6D4, [.arabic, .hanifiRohingya]),
  (0x951, 0x951, [.bengali, .devanagari, .grantha, .gujarati, .gurmukhi, .kannada, .latin,
    .malayalam, .oriya, .sharada, .tamil, .telugu, .tirhuta]),
  (0x952, 0x952, [.bengali, .devanagari, .grantha, .gujarati, .gurmukhi, .kannada, .latin,
    .malayalam, .oriya, .tamil, .telugu, .tirhuta]),
  (0x964, 0x964, [.bengali, .devanagari, .dogra, .gunjalaGondi, .masaramGondi, .grantha,
    .gujarati, .gurmukhi, .kannada, .mahajani, .malayalam, .nandinagari, .oriya, .khudawadi,
    .sinhala, .sylotiNagri, .takri, .tamil, .telugu, .tirhuta]),
  (0x965, 0x965, [.bengali, .devanagari, .dogra, .gunjalaGondi, .masaramGondi, .grantha,
    .gujarati, .gurmukhi, .kannada, .limbu, .mahajani, .malayalam, .nandinagari, .oriya,
    .khudawadi, .sinhala, .sylotiNagri, .takri, .tamil, .telugu, .tirhuta]),
  (0x966, 0x96F, [.devanagari, .dogra, .kaithi, .mahajani]),
  (0x9E6, 0x9EF, [.bengali, .chakma, .sylotiNagri]), (0xA66, 0xA6F, [.gurmukhi, .multani]),
  (0xAE6, 0xAEF, [.gujarati, .khojki]), (0xBE6, 0xBF3, [.grantha, .tamil]),
  (0xCE6, 0xCEF, [.kannada, .nandinagari]), (0x1040, 0x1049, [.chakma, .myanmar, .taiLe]),
  (0x10FB, 0x10FB, [.georgian, .latin]),
  (0x1735, 0x1736, [.buhid, .hanunoo, .tagbanwa, .tagalog]),
  (0x1802, 0x1803, [.mongolian, .phagsPa]), (0x1805, 0x1805, [.mongolian, .phagsPa]),
  (0x1CD0, 0x1CD0, [.bengali, .devanagari, .grantha, .kannada]), (0x1CD1, 0x1CD1, [.devanagari]),
  (0x1CD2, 0x1CD2, [.bengali, .devanagari, .grantha, .kannada]),
  (0x1CD3, 0x1CD3, [.devanagari, .grantha]), (0x1CD4, 0x1CD4, [.devanagari]),
  (0x1CD5, 0x1CD6, [.bengali, .devanagari]), (0x1CD7, 0x1CD7, [.devanagari, .sharada]),
  (0x1CD8, 0x1CD8, [.bengali, .devanagari]), (0x1CD9, 0x1CD9, [.devanagari, .sharada]),
  (0x1CDA, 0x1CDA, [.devanagari, .kannada, .malayalam, .oriya, .tamil, .telugu]),
  (0x1CDB, 0x1CDB, [.devanagari]), (0x1CDC, 0x1CDD, [.devanagari, .sharada]),
  (0x1CDE, 0x1CDF, [.devanagari]), (0x1CE0, 0x1CE0, [.devanagari, .sharada]),
  (0x1CE1, 0x1CE1, [.bengali, .devanagari]), (0x1CE2, 0x1CE8, [.devanagari]),
  (0x1CE9, 0x1CE9, [.devanagari, .nandinagari]), (0x1CEA, 0x1CEA, [.bengali, .devanagari]),
  (0x1CEB, 0x1CEC, [.devanagari]), (0x1CED, 0x1CED, [.bengali, .devanagari]),
  (0x1CEE, 0x1CF1, [.devanagari]),
  (0x1CF2, 0x1CF2, [.bengali, .devanagari, .grantha, .kannada, .nandinagari, .oriya, .telugu,
    .tirhuta]),
  (0x1CF3, 0x1CF3, [.devanagari, .grantha]), (0x1CF4, 0x1CF4, [.devanagari, .grantha, .kannada]),
  (0x1CF5, 0x1CF6, [.bengali, .devanagari]), (0x1CF7, 0x1CF7, [.bengali]),
  (0x1CF8, 0x1CF9, [.devanagari, .grantha]), (0x1CFA, 0x1CFA, [.nandinagari]),
  (0x1DC0, 0x1DC1, [.greek]), (0x1DF8, 0x1DF8, [.cyrillic, .syriac]), (0x1DFA, 0x1DFA, [.syriac]),
  (0x202F, 0x202F, [.latin, .mongolian]), (0x20F0, 0x20F0, [.devanagari, .grantha, .latin]),
  (0x2E43, 0x2E43, [.cyrillic, .glagolitic]),
  (0x3001, 0x3002, [.bopomofo, .hangul, .han, .hiragana, .katakana, .yi]),
  (0x3003, 0x3003, [.bopomofo, .hangul, .han, .hiragana, .katakana]), (0x3006, 0x3006, [.han]),
  (0x3008, 0x3011, [.bopomofo, .hangul, .han, .hiragana, .katakana, .yi]),
  (0x3013, 0x3013, [.bopomofo, .hangul, .han, .hiragana, .katakana]),
  (0x3014, 0x301B, [.bopomofo, .hangul, .han, .hiragana, .katakana, .yi]),
  (0x301C, 0x301F, [.bopomofo, .hangul, .han, .hiragana, .katakana]),
  (0x302A, 0x302D, [.bopomofo, .han]),
  (0x3030, 0x3030, [.bopomofo, .hangul, .han, .hiragana, .katakana]),
  (0x3031, 0x3035, [.hiragana, .katakana]),
  (0x3037, 0x3037, [.bopomofo, .hangul, .han, .hiragana, .katakana]),
  (0x303C, 0x303D, [.han, .hiragana, .katakana]), (0x303E, 0x303F, [.han]),
  (0x3099, 0x309C, [.hiragana, .katakana]), (0x30A0, 0x30A0, [.hiragana, .katakana]),
  (0x30FB, 0x30FB, [.bopomofo, .hangul, .han, .hiragana, .katakana, .yi]),
  (0x30FC, 0x30FC, [.hiragana, .katakana]), (0x3190, 0x319F, [.han]), (0x31C0, 0x31E3, [.han]),
  (0x3220, 0x3247, [.han]), (0x3280, 0x32B0, [.han]), (0x32C0, 0x32CB, [.han]),
  (0x32FF, 0x32FF, [.han]), (0x3358, 0x3370, [.han]), (0x337B, 0x337F, [.han]),
  (0x33E0, 0x33FE, [.han]), (0xA66F, 0xA66F, [.cyrillic, .glagolitic]),
  (0xA700, 0xA707, [.han, .latin]),
  (0xA830, 0xA832, [.devanagari, .dogra, .gujarati, .gurmukhi, .khojki, .kannada, .kaithi,
    .mahajani, .malayalam, .modi, .nandinagari, .khudawadi, .takri, .tirhuta]),
  (0xA833, 0xA835, [.devanagari, .dogra, .gujarati, .gurmukhi, .khojki, .kannada, .kaithi,
    .mahajani, .modi, .nandinagari, .khudawadi, .takri, .tirhuta]),
  (0xA836, 0xA839, [.devanagari, .dogra, .gujarati, .gurmukhi, .khojki, .kaithi, .mahajani,
    .modi, .khudawadi, .takri, .tirhuta]),
  (0xA8F1, 0xA8F1, [.bengali, .devanagari]), (0xA8F3, 0xA8F3, [.devanagari, .tamil]),
  (0xA92E, 0xA92E, [.kayahLi, .latin, .myanmar]), (0xA9CF, 0xA9CF, [.buginese, .javanese]),
  (0xFD3E, 0xFD3F, [.arabic, .nko]), (0xFDF2, 0xFDF2, [.arabic, .thaana]),
  (0xFDFD, 0xFDFD, [.arabic, .thaana]),
  (0xFE45, 0xFE46, [.bopomofo, .hangul, .han, .hiragana, .katakana]),
  (0xFF61, 0xFF65, [.bopomofo, .hangul, .han, .hiragana, .katakana, .yi]),
  (0xFF70, 0xFF70, [.hiragana, .katakana]), (0xFF9E, 0xFF9F, [.hiragana, .katakana]),
  (0x10100, 0x10101, [.cyproMinoan, .cypriot, .linearB]),
  (0x10102, 0x10102, [.cypriot, .linearB]), (0x10107, 0x10133, [.cypriot, .linearA, .linearB]),
  (0x10137, 0x1013F, [.cypriot, .linearB]), (0x102E0, 0x102FB, [.arabic, .coptic]),
  (0x10AF2, 0x10AF2, [.manichaean, .oldUyghur]), (0x11301, 0x11301, [.grantha, .tamil]),
  (0x11303, 0x11303, [.grantha, .tamil]), (0x1133B, 0x1133C, [.grantha, .tamil]),
  (0x11FD0, 0x11FD1, [.grantha, .tamil]), (0x11FD3, 0x11FD3, [.grantha, .tamil]),
  (0x1BCA0, 0x1BCA3, [.duployan]), (0x1D360, 0x1D371, [.han]), (0x1F250, 0x1F251, [.han])]

end MountSweep.Unicode.ScriptExtensionTable
