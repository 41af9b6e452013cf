import ConditionRegistry.Text.Script.Basic

set_option autoImplicit false

/-!
# Scripts of South Asia

The characters of scripts of South Asia, as of version 16 of the character database.
-/

namespace ConditionRegistry.Text

def southAsianScripts : List Script :=
  [⟨["Devanagari", "Deva"],
    [(0x900, 0x950), (0x955, 0x963), (0x966, 0x97F), (0xA8E0, 0xA8FF), (0x11B00, 0x11B09)],
    [(0x2BC, 0x2BC), (0x951, 0x952), (0x964, 0x965), (0x1CD0, 0x1CF6), (0x1CF8, 0x1CF9),
     (0x20F0, 0x20F0), (0xA830, 0xA839)]⟩,
   ⟨["Bengali", "Beng"],
    [(0x980, 0x983), (0x985, 0x98C), (0x98F, 0x990), (0x993, 0x9A8), (0x9AA, 0x9B0),
     (0x9B2, 0x9B2), (0x9B6, 0x9B9), (0x9BC, 0x9C4), (0x9C7, 0x9C8), (0x9CB, 0x9CE),
     (0x9D7, 0x9D7), (0x9DC, 0x9DD), (0x9DF, 0x9E3), (0x9E6, 0x9FE)],
    [(0x2BC, 0x2BC), (0x951, 0x952), (0x964, 0x965), (0x1CD0, 0x1CD0), (0x1CD2, 0x1CD2),
     (0x1CD5, 0x1CD6), (0x1CD8, 0x1CD8), (0x1CE1, 0x1CE1), (0x1CEA, 0x1CEA), (0x1CED, 0x1CED),
     (0x1CF2, 0x1CF2), (0x1CF5, 0x1CF7), (0xA8F1, 0xA8F1)]⟩,
   ⟨["Gurmukhi", "Guru"],
    [(0xA01, 0xA03), (0xA05, 0xA0A), (0xA0F, 0xA10), (0xA13, 0xA28), (0xA2A, 0xA30),
     (0xA32, 0xA33), (0xA35, 0xA36), (0xA38, 0xA39), (0xA3C, 0xA3C), (0xA3E, 0xA42),
     (0xA47, 0xA48), (0xA4B, 0xA4D), (0xA51, 0xA51), (0xA59, 0xA5C), (0xA5E, 0xA5E),
     (0xA66, 0xA76)],
    [(0x951, 0x952), (0x964, 0x965), (0xA830, 0xA839)]⟩,
   ⟨["Gujarati", "Gujr"],
    [(0xA81, 0xA83), (0xA85, 0xA8D), (0xA8F, 0xA91), (0xA93, 0xAA8), (0xAAA, 0xAB0),
     (0xAB2, 0xAB3), (0xAB5, 0xAB9), (0xABC, 0xAC5), (0xAC7, 0xAC9), (0xACB, 0xACD),
     (0xAD0, 0xAD0), (0xAE0, 0xAE3), (0xAE6, 0xAF1), (0xAF9, 0xAFF)],
    [(0x951, 0x952), (0x964, 0x965), (0xA830, 0xA839)]⟩,
   ⟨["Oriya", "Orya"],
    [(0xB01, 0xB03), (0xB05, 0xB0C), (0xB0F, 0xB10), (0xB13, 0xB28), (0xB2A, 0xB30),
     (0xB32, 0xB33), (0xB35, 0xB39), (0xB3C, 0xB44), (0xB47, 0xB48), (0xB4B, 0xB4D),
     (0xB55, 0xB57), (0xB5C, 0xB5D), (0xB5F, 0xB63), (0xB66, 0xB77)],
    [(0x951, 0x952), (0x964, 0x965), (0x1CDA, 0x1CDA), (0x1CF2, 0x1CF2)]⟩,
   ⟨["Tamil", "Taml"],
    [(0xB82, 0xB83), (0xB85, 0xB8A), (0xB8E, 0xB90), (0xB92, 0xB95), (0xB99, 0xB9A),
     (0xB9C, 0xB9C), (0xB9E, 0xB9F), (0xBA3, 0xBA4), (0xBA8, 0xBAA), (0xBAE, 0xBB9),
     (0xBBE, 0xBC2), (0xBC6, 0xBC8), (0xBCA, 0xBCD), (0xBD0, 0xBD0), (0xBD7, 0xBD7),
     (0xBE6, 0xBFA), (0x11FC0, 0x11FF1), (0x11FFF, 0x11FFF)],
    [(0x951, 0x952), (0x964, 0x965), (0x1CDA, 0x1CDA), (0xA8F3, 0xA8F3), (0x11301, 0x11301),
     (0x11303, 0x11303), (0x1133B, 0x1133C)]⟩,
   ⟨["Telugu", "Telu"],
    [(0xC00, 0xC0C), (0xC0E, 0xC10), (0xC12, 0xC28), (0xC2A, 0xC39), (0xC3C, 0xC44),
     (0xC46, 0xC48), (0xC4A, 0xC4D), (0xC55, 0xC56), (0xC58, 0xC5A), (0xC5D, 0xC5D),
     (0xC60, 0xC63), (0xC66, 0xC6F), (0xC77, 0xC7F)],
    [(0x951, 0x952), (0x964, 0x965), (0x1CD5, 0x1CD6), (0x1CD8, 0x1CD8), (0x1CDA, 0x1CDA),
     (0x1CF2, 0x1CF2)]⟩,
   ⟨["Kannada", "Knda"],
    [(0xC80, 0xC8C), (0xC8E, 0xC90), (0xC92, 0xCA8), (0xCAA, 0xCB3), (0xCB5, 0xCB9),
     (0xCBC, 0xCC4), (0xCC6, 0xCC8), (0xCCA, 0xCCD), (0xCD5, 0xCD6), (0xCDD, 0xCDE),
     (0xCE0, 0xCE3), (0xCE6, 0xCEF), (0xCF1, 0xCF3)],
    [(0x951, 0x952), (0x964, 0x965), (0x1CD0, 0x1CD0), (0x1CD2, 0x1CD3), (0x1CDA, 0x1CDA),
     (0x1CF2, 0x1CF2), (0x1CF4, 0x1CF4), (0xA830, 0xA835)]⟩,
   ⟨["Malayalam", "Mlym"],
    [(0xD00, 0xD0C), (0xD0E, 0xD10), (0xD12, 0xD44), (0xD46, 0xD48), (0xD4A, 0xD4F),
     (0xD54, 0xD63), (0xD66, 0xD7F)],
    [(0x951, 0x952), (0x964, 0x965), (0x1CDA, 0x1CDA), (0x1CF2, 0x1CF2), (0xA830, 0xA832)]⟩,
   ⟨["Sinhala", "Sinh"],
    [(0xD81, 0xD83), (0xD85, 0xD96), (0xD9A, 0xDB1), (0xDB3, 0xDBB), (0xDBD, 0xDBD),
     (0xDC0, 0xDC6), (0xDCA, 0xDCA), (0xDCF, 0xDD4), (0xDD6, 0xDD6), (0xDD8, 0xDDF),
     (0xDE6, 0xDEF), (0xDF2, 0xDF4), (0x111E1, 0x111F4)],
    [(0x964, 0x965), (0x1CF2, 0x1CF2)]⟩,
   ⟨["Thaana", "Thaa"],
    [(0x780, 0x7B1)],
    [(0x60C, 0x60C), (0x61B, 0x61C), (0x61F, 0x61F), (0x660, 0x669), (0xFDF2, 0xFDF2),
     (0xFDFD, 0xFDFD)]⟩,
   ⟨["Newa", "Newa"],
    [(0x11400, 0x1145B), (0x1145D, 0x11461)],
    [(0x951, 0x952), (0x1CD5, 0x1CD5), (0x1CD7, 0x1CD8), (0x1CE2, 0x1CE2), (0x1CE9, 0x1CE9),
     (0x1CEB, 0x1CEB), (0x1CED, 0x1CED)]⟩,
   ⟨["Tibetan", "Tibt"],
    [(0xF00, 0xF47), (0xF49, 0xF6C), (0xF71, 0xF97), (0xF99, 0xFBC), (0xFBE, 0xFCC),
     (0xFCE, 0xFD4), (0xFD9, 0xFDA)],
    [(0x3008, 0x300B)]⟩,
   ⟨["Lepcha", "Lepc"],
    [(0x1C00, 0x1C37), (0x1C3B, 0x1C49), (0x1C4D, 0x1C4F)],
    []⟩,
   ⟨["Limbu", "Limb"],
    [(0x1900, 0x191E), (0x1920, 0x192B), (0x1930, 0x193B), (0x1940, 0x1940), (0x1944, 0x194F)],
    [(0x965, 0x965)]⟩,
   ⟨["Meetei_Mayek", "Mtei"],
    [(0xAAE0, 0xAAF6), (0xABC0, 0xABED), (0xABF0, 0xABF9)],
    []⟩,
   ⟨["Mro", "Mroo"],
    [(0x16A40, 0x16A5E), (0x16A60, 0x16A69), (0x16A6E, 0x16A6F)],
    []⟩,
   ⟨["Warang_Citi", "Wara"],
    [(0x118A0, 0x118F2), (0x118FF, 0x118FF)],
    []⟩,
   ⟨["Ol_Chiki", "Olck"],
    [(0x1C50, 0x1C7F)],
    []⟩,
   ⟨["Ol_Onal", "Onao"],
    [(0x1E5D0, 0x1E5FA), (0x1E5FF, 0x1E5FF)],
    [(0x964, 0x965)]⟩,
   ⟨["Chakma", "Cakm"],
    [(0x11100, 0x11134), (0x11136, 0x11147)],
    [(0x9E6, 0x9EF), (0x1040, 0x1049)]⟩,
   ⟨["Saurashtra", "Saur"],
    [(0xA880, 0xA8C5), (0xA8CE, 0xA8D9)],
    []⟩,
   ⟨["Syloti_Nagri", "Sylo"],
    [(0xA800, 0xA82C)],
    [(0x964, 0x965), (0x9E6, 0x9EF)]⟩,
   ⟨["Sora_Sompeng", "Sora"],
    [(0x110D0, 0x110E8), (0x110F0, 0x110F9)],
    []⟩,
   ⟨["Gunjala_Gondi", "Gong"],
    [(0x11D60, 0x11D65), (0x11D67, 0x11D68), (0x11D6A, 0x11D8E), (0x11D90, 0x11D91),
     (0x11D93, 0x11D98), (0x11DA0, 0x11DA9)],
    [(0xB7, 0xB7), (0x964, 0x965)]⟩,
   ⟨["Masaram_Gondi", "Gonm"],
    [(0x11D00, 0x11D06), (0x11D08, 0x11D09), (0x11D0B, 0x11D36), (0x11D3A, 0x11D3A),
     (0x11D3C, 0x11D3D), (0x11D3F, 0x11D47), (0x11D50, 0x11D59)],
    [(0x964, 0x965)]⟩,
   ⟨["Wancho", "Wcho"],
    [(0x1E2C0, 0x1E2F9), (0x1E2FF, 0x1E2FF)],
    []⟩,
   ⟨["Toto", "Toto"],
    [(0x1E290, 0x1E2AE)],
    [(0x2BC, 0x2BC)]⟩,
   ⟨["Tangsa", "Tnsa"],
    [(0x16A70, 0x16ABE), (0x16AC0, 0x16AC9)],
    []⟩,
   ⟨["Nag_Mundari", "Nagm"],
    [(0x1E4D0, 0x1E4F9)],
    []⟩,
   ⟨["Sunuwar", "Sunu"],
    [(0x11BC0, 0x11BE1), (0x11BF0, 0x11BF9)],
    [(0x300, 0x301), (0x303, 0x303), (0x30D, 0x30D), (0x310, 0x310), (0x32D, 0x32D),
     (0x331, 0x331)]⟩,
   ⟨["Gurung_Khema", "Gukh"],
    [(0x16100, 0x16139)],
    [(0x965, 0x965)]⟩,
   ⟨["Kirat_Rai", "Krai"],
    [(0x16D40, 0x16D79)],
    []⟩,
   ⟨["Brahmi", "Brah"],
    [(0x11000, 0x1104D), (0x11052, 0x11075), (0x1107F, 0x1107F)],
    []⟩,
   ⟨["Kharoshthi", "Khar"],
    [(0x10A00, 0x10A03), (0x10A05, 0x10A06), (0x10A0C, 0x10A13), (0x10A15, 0x10A17),
     (0x10A19, 0x10A35), (0x10A38, 0x10A3A), (0x10A3F, 0x10A48), (0x10A50, 0x10A58)],
    []⟩,
   ⟨["Bhaiksuki", "Bhks"],
    [(0x11C00, 0x11C08), (0x11C0A, 0x11C36), (0x11C38, 0x11C45), (0x11C50, 0x11C6C)],
    []⟩,
   ⟨["Phags_Pa", "Phag"],
    [(0xA840, 0xA877)],
    [(0x1802, 0x1803), (0x1805, 0x1805), (0x202F, 0x202F), (0x3002, 0x3002)]⟩,
   ⟨["Marchen", "Marc"],
    [(0x11C70, 0x11C8F), (0x11C92, 0x11CA7), (0x11CA9, 0x11CB6)],
    []⟩,
   ⟨["Zanabazar_Square", "Zanb"],
    [(0x11A00, 0x11A47)],
    []⟩,
   ⟨["Soyombo", "Soyo"],
    [(0x11A50, 0x11AA2)],
    []⟩,
   ⟨["Old_Turkic", "Orkh"],
    [(0x10C00, 0x10C48)],
    [(0x205A, 0x205A), (0x2E30, 0x2E30)]⟩,
   ⟨["Old_Sogdian", "Sogo"],
    [(0x10F00, 0x10F27)],
    []⟩,
   ⟨["Sogdian", "Sogd"],
    [(0x10F30, 0x10F59)],
    [(0x640, 0x640)]⟩,
   ⟨["Old_Uyghur", "Ougr"],
    [(0x10F70, 0x10F89)],
    [(0x640, 0x640), (0x10AF2, 0x10AF2)]⟩,
   ⟨["Kaithi", "Kthi"],
    [(0x11080, 0x110C2), (0x110CD, 0x110CD)],
    [(0x966, 0x96F), (0x2E31, 0x2E31), (0xA830, 0xA839)]⟩,
   ⟨["Sharada", "Shrd"],
    [(0x11180, 0x111DF)],
    [(0x951, 0x951), (0x1CD7, 0x1CD7), (0x1CD9, 0x1CD9), (0x1CDC, 0x1CDD), (0x1CE0, 0x1CE0),
     (0x1CEA, 0x1CEA), (0x1CED, 0x1CED), (0xA830, 0xA835), (0xA838, 0xA838)]⟩,
   ⟨["Takri", "Takr"],
    [(0x11680, 0x116B9), (0x116C0, 0x116C9)],
    [(0x964, 0x965), (0xA830, 0xA839)]⟩,
   ⟨["Siddham", "Sidd"],
    [(0x11580, 0x115B5), (0x115B8, 0x115DD)],
    []⟩,
   ⟨["Tirhuta", "Tirh"],
    [(0x11480, 0x114C7), (0x114D0, 0x114D9)],
    [(0x951, 0x952), (0x964, 0x965), (0x1CD5, 0x1CD5), (0x1CE2, 0x1CE2), (0x1CF2, 0x1CF2),
     (0xA830, 0xA839)]⟩,
   ⟨["Mahajani", "Mahj"],
    [(0x11150, 0x11176)],
    [(0xB7, 0xB7), (0x964, 0x96F), (0xA830, 0xA839)]⟩,
   ⟨["Khojki", "Khoj"],
    [(0x11200, 0x11211), (0x11213, 0x11241)],
    [(0xAE6, 0xAEF), (0xA830, 0xA839)]⟩,
   ⟨["Khudawadi", "Sind"],
    [(0x112B0, 0x112EA), (0x112F0, 0x112F9)],
    [(0x964, 0x965), (0xA830, 0xA839)]⟩,
   ⟨["Multani", "Mult"],
    [(0x11280, 0x11286), (0x11288, 0x11288), (0x1128A, 0x1128D), (0x1128F, 0x1129D),
     (0x1129F, 0x112A9)],
    [(0xA66, 0xA6F)]⟩,
   ⟨["Modi", "Modi"],
    [(0x11600, 0x11644), (0x11650, 0x11659)],
    [(0xA830, 0xA839)]⟩,
   ⟨["Nandinagari", "Nand"],
    [(0x119A0, 0x119A7), (0x119AA, 0x119D7), (0x119DA, 0x119E4)],
    [(0x951, 0x951), (0x964, 0x965), (0xCE6, 0xCEF), (0x1CE9, 0x1CE9), (0x1CF2, 0x1CF2),
     (0x1CFA, 0x1CFA), (0xA830, 0xA835)]⟩,
   ⟨["Grantha", "Gran"],
    [(0x11300, 0x11303), (0x11305, 0x1130C), (0x1130F, 0x11310), (0x11313, 0x11328),
     (0x1132A, 0x11330), (0x11332, 0x11333), (0x11335, 0x11339), (0x1133C, 0x11344),
     (0x11347, 0x11348), (0x1134B, 0x1134D), (0x11350, 0x11350), (0x11357, 0x11357),
     (0x1135D, 0x11363), (0x11366, 0x1136C), (0x11370, 0x11374)],
    [(0x951, 0x952), (0x964, 0x965), (0xBE6, 0xBF3), (0x1CD0, 0x1CD0), (0x1CD2, 0x1CD3),
     (0x1CF2, 0x1CF4), (0x1CF8, 0x1CF9), (0x20F0, 0x20F0), (0x1133B, 0x1133B),
     (0x11FD0, 0x11FD1), (0x11FD3, 0x11FD3)]⟩,
   ⟨["Tulu_Tigalari", "Tutg"],
    [(0x11380, 0x11389), (0x1138B, 0x1138B), (0x1138E, 0x1138E), (0x11390, 0x113B5),
     (0x113B7, 0x113C0), (0x113C2, 0x113C2), (0x113C5, 0x113C5), (0x113C7, 0x113CA),
     (0x113CC, 0x113D5), (0x113D7, 0x113D8), (0x113E1, 0x113E2)],
    [(0xCE6, 0xCEF), (0x1CF2, 0x1CF2), (0x1CF4, 0x1CF4), (0xA830, 0xA835), (0xA8F1, 0xA8F1)]⟩,
   ⟨["Dives_Akuru", "Diak"],
    [(0x11900, 0x11906), (0x11909, 0x11909), (0x1190C, 0x11913), (0x11915, 0x11916),
     (0x11918, 0x11935), (0x11937, 0x11938), (0x1193B, 0x11946), (0x11950, 0x11959)],
    []⟩,
   ⟨["Ahom", "Ahom"],
    [(0x11700, 0x1171A), (0x1171D, 0x1172B), (0x11730, 0x11746)],
    []⟩,
   ⟨["Dogra", "Dogr"],
    [(0x11800, 0x1183B)],
    [(0x964, 0x96F), (0xA830, 0xA839)]⟩]

end ConditionRegistry.Text
