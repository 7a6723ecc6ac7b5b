namespace MountSweep.Unicode

/-- A script; `unknown` is that of every unassigned code point. -/
inductive Script
  | adlam
  | ahom
  | anatolianHieroglyphs
  | arabic
  | armenian
  | avestan
  | balinese
  | bamum
  | bassaVah
  | batak
  | bengali
  | bhaiksuki
  | bopomofo
  | brahmi
  | braille
  | buginese
  | buhid
  | canadianAboriginal
  | carian
  | caucasianAlbanian
  | chakma
  | cham
  | cherokee
  | chorasmian
  | common
  | coptic
  | cuneiform
  | cypriot
  | cyproMinoan
  | cyrillic
  | deseret
  | devanagari
  | divesAkuru
  | dogra
  | duployan
  | egyptianHieroglyphs
  | elbasan
  | elymaic
  | ethiopic
  | garay
  | georgian
  | glagolitic
  | gothic
  | grantha
  | greek
  | gujarati
  | gunjalaGondi
  | gurmukhi
  | gurungKhema
  | han
  | hangul
  | hanifiRohingya
  | hanunoo
  | hatran
  | hebrew
  | hiragana
  | imperialAramaic
  | inherited
  | inscriptionalPahlavi
  | inscriptionalParthian
  | javanese
  | kaithi
  | kannada
  | katakana
  | kawi
  | kayahLi
  | kharoshthi
  | khitanSmallScript
  | khmer
  | khojki
  | khudawadi
  | kiratRai
  | lao
  | latin
  | lepcha
  | limbu
  | linearA
  | linearB
  | lisu
  | lycian
  | lydian
  | mahajani
  | makasar
  | malayalam
  | mandaic
  | manichaean
  | marchen
  | masaramGondi
  | medefaidrin
  | meeteiMayek
  | mendeKikakui
  | meroiticCursive
  | meroiticHieroglyphs
  | miao
  | modi
  | mongolian
  | mro
  | multani
  | myanmar
  | nabataean
  | nagMundari
  | nandinagari
  | newTaiLue
  | newa
  | nko
  | nushu
  | nyiakengPuachueHmong
  | ogham
  | olChiki
  | olOnal
  | oldHungarian
  | oldItalic
  | oldNorthArabian
  | oldPermic
  | oldPersian
  | oldSogdian
  | oldSouthArabian
  | oldTurkic
  | oldUyghur
  | oriya
  | osage
  | osmanya
  | pahawhHmong
  | palmyrene
  | pauCinHau
  | phagsPa
  | phoenician
  | psalterPahlavi
  | rejang
  | runic
  | samaritan
  | saurashtra
  | sharada
  | shavian
  | siddham
  | signwriting
  | sinhala
  | sogdian
  | soraSompeng
  | soyombo
  | sundanese
  | sunuwar
  | sylotiNagri
  | syriac
  | tagalog
  | tagbanwa
  | taiLe
  | taiTham
  | taiViet
  | takri
  | tamil
  | tangsa
  | tangut
  | telugu
  | thaana
  | thai
  | tibetan
  | tifinagh
  | tirhuta
  | todhri
  | toto
  | tuluTigalari
  | ugaritic
  | unknown
  | vai
  | vithkuqi
  | wancho
  | warangCiti
  | yezidi
  | yi
  | zanabazarSquare
  deriving DecidableEq, Repr

namespace Script

def all : List Script := [
  .adlam, .ahom, .anatolianHieroglyphs, .arabic, .armenian, .avestan, .balinese, .bamum,
  .bassaVah, .batak, .bengali, .bhaiksuki, .bopomofo, .brahmi, .braille, .buginese, .buhid,
  .canadianAboriginal, .carian, .caucasianAlbanian, .chakma, .cham, .cherokee, .chorasmian,
  .common, .coptic, .cuneiform, .cypriot, .cyproMinoan, .cyrillic, .deseret, .devanagari,
  .divesAkuru, .dogra, .duployan, .egyptianHieroglyphs, .elbasan, .elymaic, .ethiopic, .garay,
  .georgian, .glagolitic, .gothic, .grantha, .greek, .gujarati, .gunjalaGondi, .gurmukhi,
  .gurungKhema, .han, .hangul, .hanifiRohingya, .hanunoo, .hatran, .hebrew, .hiragana,
  .imperialAramaic, .inherited, .inscriptionalPahlavi, .inscriptionalParthian, .javanese,
  .kaithi, .kannada, .katakana, .kawi, .kayahLi, .kharoshthi, .khitanSmallScript, .khmer,
  .khojki, .khudawadi, .kiratRai, .lao, .latin, .lepcha, .limbu, .linearA, .linearB, .lisu,
  .lycian, .lydian, .mahajani, .makasar, .malayalam, .mandaic, .manichaean, .marchen,
  .masaramGondi, .medefaidrin, .meeteiMayek, .mendeKikakui, .meroiticCursive,
  .meroiticHieroglyphs, .miao, .modi, .mongolian, .mro, .multani, .myanmar, .nabataean,
  .nagMundari, .nandinagari, .newTaiLue, .newa, .nko, .nushu, .nyiakengPuachueHmong, .ogham,
  .olChiki, .olOnal, .oldHungarian, .oldItalic, .oldNorthArabian, .oldPermic, .oldPersian,
  .oldSogdian, .oldSouthArabian, .oldTurkic, .oldUyghur, .oriya, .osage, .osmanya,
  .pahawhHmong, .palmyrene, .pauCinHau, .phagsPa, .phoenician, .psalterPahlavi, .rejang,
  .runic, .samaritan, .saurashtra, .sharada, .shavian, .siddham, .signwriting, .sinhala,
  .sogdian, .soraSompeng, .soyombo, .sundanese, .sunuwar, .sylotiNagri, .syriac, .tagalog,
  .tagbanwa, .taiLe, .taiTham, .taiViet, .takri, .tamil, .tangsa, .tangut, .telugu, .thaana,
  .thai, .tibetan, .tifinagh, .tirhuta, .todhri, .toto, .tuluTigalari, .ugaritic, .unknown,
  .vai, .vithkuqi, .wancho, .warangCiti, .yezidi, .yi, .zanabazarSquare]

/-- The names of a script: its four letters, its long name and further aliases. -/
def names : Script → List String
  | .adlam => ["Adlm", "Adlam"]
  | .ahom => ["Ahom"]
  | .anatolianHieroglyphs => ["Hluw", "Anatolian_Hieroglyphs"]
  | .arabic => ["Arab", "Arabic"]
  | .armenian => ["Armn", "Armenian"]
  | .avestan => ["Avst", "Avestan"]
  | .balinese => ["Bali", "Balinese"]
  | .bamum => ["Bamu", "Bamum"]
  | .bassaVah => ["Bass", "Bassa_Vah"]
  | .batak => ["Batk", "Batak"]
  | .bengali => ["Beng", "Bengali"]
  | .bhaiksuki => ["Bhks", "Bhaiksuki"]
  | .bopomofo => ["Bopo", "Bopomofo"]
  | .brahmi => ["Brah", "Brahmi"]
  | .braille => ["Brai", "Braille"]
  | .buginese => ["Bugi", "Buginese"]
  | .buhid => ["Buhd", "Buhid"]
  | .canadianAboriginal => ["Cans", "Canadian_Aboriginal"]
  | .carian => ["Cari", "Carian"]
  | .caucasianAlbanian => ["Aghb", "Caucasian_Albanian"]
  | .chakma => ["Cakm", "Chakma"]
  | .cham => ["Cham"]
  | .cherokee => ["Cher", "Cherokee"]
  | .chorasmian => ["Chrs", "Chorasmian"]
  | .common => ["Zyyy", "Common"]
  | .coptic => ["Copt", "Coptic", "Qaac"]
  | .cuneiform => ["Xsux", "Cuneiform"]
  | .cypriot => ["Cprt", "Cypriot"]
  | .cyproMinoan => ["Cpmn", "Cypro_Minoan"]
  | .cyrillic => ["Cyrl", "Cyrillic"]
  | .deseret => ["Dsrt", "Deseret"]
  | .devanagari => ["Deva", "Devanagari"]
  | .divesAkuru => ["Diak", "Dives_Akuru"]
  | .dogra => ["Dogr", "Dogra"]
  | .duployan => ["Dupl", "Duployan"]
  | .egyptianHieroglyphs => ["Egyp", "Egyptian_Hieroglyphs"]
  | .elbasan => ["Elba", "Elbasan"]
  | .elymaic => ["Elym", "Elymaic"]
  | .ethiopic => ["Ethi", "Ethiopic"]
  | .garay => ["Gara", "Garay"]
  | .georgian => ["Geor", "Georgian"]
  | .glagolitic => ["Glag", "Glagolitic"]
  | .gothic => ["Goth", "Gothic"]
  | .grantha => ["Gran", "Grantha"]
  | .greek => ["Grek", "Greek"]
  | .gujarati => ["Gujr", "Gujarati"]
  | .gunjalaGondi => ["Gong", "Gunjala_Gondi"]
  | .gurmukhi => ["Guru", "Gurmukhi"]
  | .gurungKhema => ["Gukh", "Gurung_Khema"]
  | .han => ["Hani", "Han"]
  | .hangul => ["Hang", "Hangul"]
  | .hanifiRohingya => ["Rohg", "Hanifi_Rohingya"]
  | .hanunoo => ["Hano", "Hanunoo"]
  | .hatran => ["Hatr", "Hatran"]
  | .hebrew => ["Hebr", "Hebrew"]
  | .hiragana => ["Hira", "Hiragana"]
  | .imperialAramaic => ["Armi", "Imperial_Aramaic"]
  | .inherited => ["Zinh", "Inherited", "Qaai"]
  | .inscriptionalPahlavi => ["Phli", "Inscriptional_Pahlavi"]
  | .inscriptionalParthian => ["Prti", "Inscriptional_Parthian"]
  | .javanese => ["Java", "Javanese"]
  | .kaithi => ["Kthi", "Kaithi"]
  | .kannada => ["Knda", "Kannada"]
  | .katakana => ["Kana", "Katakana"]
  | .kawi => ["Kawi"]
  | .kayahLi => ["Kali", "Kayah_Li"]
  | .kharoshthi => ["Khar", "Kharoshthi"]
  | .khitanSmallScript => ["Kits", "Khitan_Small_Script"]
  | .khmer => ["Khmr", "Khmer"]
  | .khojki => ["Khoj", "Khojki"]
  | .khudawadi => ["Sind", "Khudawadi"]
  | .kiratRai => ["Krai", "Kirat_Rai"]
  | .lao => ["Laoo", "Lao"]
  | .latin => ["Latn", "Latin"]
  | .lepcha => ["Lepc", "Lepcha"]
  | .limbu => ["Limb", "Limbu"]
  | .linearA => ["Lina", "Linear_A"]
  | .linearB => ["Linb", "Linear_B"]
  | .lisu => ["Lisu"]
  | .lycian => ["Lyci", "Lycian"]
  | .lydian => ["Lydi", "Lydian"]
  | .mahajani => ["Mahj", "Mahajani"]
  | .makasar => ["Maka", "Makasar"]
  | .malayalam => ["Mlym", "Malayalam"]
  | .mandaic => ["Mand", "Mandaic"]
  | .manichaean => ["Mani", "Manichaean"]
  | .marchen => ["Marc", "Marchen"]
  | .masaramGondi => ["Gonm", "Masaram_Gondi"]
  | .medefaidrin => ["Medf", "Medefaidrin"]
  | .meeteiMayek => ["Mtei", "Meetei_Mayek"]
  | .mendeKikakui => ["Mend", "Mende_Kikakui"]
  | .meroiticCursive => ["Merc", "Meroitic_Cursive"]
  | .meroiticHieroglyphs => ["Mero", "Meroitic_Hieroglyphs"]
  | .miao => ["Plrd", "Miao"]
  | .modi => ["Modi"]
  | .mongolian => ["Mong", "Mongolian"]
  | .mro => ["Mroo", "Mro"]
  | .multani => ["Mult", "Multani"]
  | .myanmar => ["Mymr", "Myanmar"]
  | .nabataean => ["Nbat", "Nabataean"]
  | .nagMundari => ["Nagm", "Nag_Mundari"]
  | .nandinagari => ["Nand", "Nandinagari"]
  | .newTaiLue => ["Talu", "New_Tai_Lue"]
  | .newa => ["Newa"]
  | .nko => ["Nkoo", "Nko"]
  | .nushu => ["Nshu", "Nushu"]
  | .nyiakengPuachueHmong => ["Hmnp", "Nyiakeng_Puachue_Hmong"]
  | .ogham => ["Ogam", "Ogham"]
  | .olChiki => ["Olck", "Ol_Chiki"]
  | .olOnal => ["Onao", "Ol_Onal"]
  | .oldHungarian => ["Hung", "Old_Hungarian"]
  | .oldItalic => ["Ital", "Old_Italic"]
  | .oldNorthArabian => ["Narb", "Old_North_Arabian"]
  | .oldPermic => ["Perm", "Old_Permic"]
  | .oldPersian => ["Xpeo", "Old_Persian"]
  | .oldSogdian => ["Sogo", "Old_Sogdian"]
  | .oldSouthArabian => ["Sarb", "Old_South_Arabian"]
  | .oldTurkic => ["Orkh", "Old_Turkic"]
  | .oldUyghur => ["Ougr", "Old_Uyghur"]
  | .oriya => ["Orya", "Oriya"]
  | .osage => ["Osge", "Osage"]
  | .osmanya => ["Osma", "Osmanya"]
  | .pahawhHmong => ["Hmng", "Pahawh_Hmong"]
  | .palmyrene => ["Palm", "Palmyrene"]
  | .pauCinHau => ["Pauc", "Pau_Cin_Hau"]
  | .phagsPa => ["Phag", "Phags_Pa"]
  | .phoenician => ["Phnx", "Phoenician"]
  | .psalterPahlavi => ["Phlp", "Psalter_Pahlavi"]
  | .rejang => ["Rjng", "Rejang"]
  | .runic => ["Runr", "Runic"]
  | .samaritan => ["Samr", "Samaritan"]
  | .saurashtra => ["Saur", "Saurashtra"]
  | .sharada => ["Shrd", "Sharada"]
  | .shavian => ["Shaw", "Shavian"]
  | .siddham => ["Sidd", "Siddham"]
  | .signwriting => ["Sgnw", "SignWriting"]
  | .sinhala => ["Sinh", "Sinhala"]
  | .sogdian => ["Sogd", "Sogdian"]
  | .soraSompeng => ["Sora", "Sora_Sompeng"]
  | .soyombo => ["Soyo", "Soyombo"]
  | .sundanese => ["Sund", "Sundanese"]
  | .sunuwar => ["Sunu", "Sunuwar"]
  | .sylotiNagri => ["Sylo", "Syloti_Nagri"]
  | .syriac => ["Syrc", "Syriac"]
  | .tagalog => ["Tglg", "Tagalog"]
  | .tagbanwa => ["Tagb", "Tagbanwa"]
  | .taiLe => ["Tale", "Tai_Le"]
  | .taiTham => ["Lana", "Tai_Tham"]
  | .taiViet => ["Tavt", "Tai_Viet"]
  | .takri => ["Takr", "Takri"]
  | .tamil => ["Taml", "Tamil"]
  | .tangsa => ["Tnsa", "Tangsa"]
  | .tangut => ["Tang", "Tangut"]
  | .telugu => ["Telu", "Telugu"]
  | .thaana => ["Thaa", "Thaana"]
  | .thai => ["Thai"]
  | .tibetan => ["Tibt", "Tibetan"]
  | .tifinagh => ["Tfng", "Tifinagh"]
  | .tirhuta => ["Tirh", "Tirhuta"]
  | .todhri => ["Todr", "Todhri"]
  | .toto => ["Toto"]
  | .tuluTigalari => ["Tutg", "Tulu_Tigalari"]
  | .ugaritic => ["Ugar", "Ugaritic"]
  | .unknown => ["Zzzz", "Unknown"]
  | .vai => ["Vaii", "Vai"]
  | .vithkuqi => ["Vith", "Vithkuqi"]
  | .wancho => ["Wcho", "Wancho"]
  | .warangCiti => ["Wara", "Warang_Citi"]
  | .yezidi => ["Yezi", "Yezidi"]
  | .yi => ["Yiii", "Yi"]
  | .zanabazarSquare => ["Zanb", "Zanabazar_Square"]

end Script

end MountSweep.Unicode
