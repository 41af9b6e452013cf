import ConditionRegistry.Text.Script.Basic

set_option autoImplicit false

/-!
# Scripts of the Middle East

The characters of scripts of the Middle East, as of version 16 of the character database.
-/

namespace ConditionRegistry.Text

def middleEasternScripts : List Script :=
  [⟨["Hebrew", "Hebr"],
    [(0x591, 0x5C7), (0x5D0, 0x5EA), (0x5EF, 0x5F4), (0xFB1D, 0xFB36), (0xFB38, 0xFB3C),
     (0xFB3E, 0xFB3E), (0xFB40, 0xFB41), (0xFB43, 0xFB44), (0xFB46, 0xFB4F)],
    [(0x307, 0x308)]⟩,
   ⟨["Arabic", "Arab"],
    [(0x600, 0x604), (0x606, 0x60B), (0x60D, 0x61A), (0x61C, 0x61E), (0x620, 0x63F),
     (0x641, 0x64A), (0x656, 0x66F), (0x671, 0x6DC), (0x6DE, 0x6FF), (0x750, 0x77F),
     (0x870, 0x88E), (0x890, 0x891), (0x897, 0x8E1), (0x8E3, 0x8FF), (0xFB50, 0xFBC2),
     (0xFBD3, 0xFD3D), (0xFD40, 0xFD8F), (0xFD92, 0xFDC7), (0xFDCF, 0xFDCF), (0xFDF0, 0xFDFF),
     (0xFE70, 0xFE74), (0xFE76, 0xFEFC), (0x10E60, 0x10E7E), (0x10EC2, 0x10EC4),
     (0x10EFC, 0x10EFF), (0x1EE00, 0x1EE03), (0x1EE05, 0x1EE1F), (0x1EE21, 0x1EE22),
     (0x1EE24, 0x1EE24), (0x1EE27, 0x1EE27), (0x1EE29, 0x1EE32), (0x1EE34, 0x1EE37),
     (0x1EE39, 0x1EE39), (0x1EE3B, 0x1EE3B), (0x1EE42, 0x1EE42), (0x1EE47, 0x1EE47),
     (0x1EE49, 0x1EE49), (0x1EE4B, 0x1EE4B), (0x1EE4D, 0x1EE4F), (0x1EE51, 0x1EE52),
     (0x1EE54, 0x1EE54), (0x1EE57, 0x1EE57), (0x1EE59, 0x1EE59), (0x1EE5B, 0x1EE5B),
     (0x1EE5D, 0x1EE5D), (0x1EE5F, 0x1EE5F), (0x1EE61, 0x1EE62), (0x1EE64, 0x1EE64),
     (0x1EE67, 0x1EE6A), (0x1EE6C, 0x1EE72), (0x1EE74, 0x1EE77), (0x1EE79, 0x1EE7C),
     (0x1EE7E, 0x1EE7E), (0x1EE80, 0x1EE89), (0x1EE8B, 0x1EE9B), (0x1EEA1, 0x1EEA3),
     (0x1EEA5, 0x1EEA9), (0x1EEAB, 0x1EEBB), (0x1EEF0, 0x1EEF1)],
    [(0x60C, 0x60C), (0x61B, 0x61B), (0x61F, 0x61F), (0x640, 0x640), (0x64B, 0x655),
     (0x670, 0x670), (0x204F, 0x204F), (0x2E41, 0x2E41), (0xFD3E, 0xFD3F), (0x102E0, 0x102FB)]⟩,
   ⟨["Syriac", "Syrc"],
    [(0x700, 0x70D), (0x70F, 0x74A), (0x74D, 0x74F), (0x860, 0x86A)],
    [(0x303, 0x304), (0x307, 0x308), (0x30A, 0x30A), (0x323, 0x325), (0x32D, 0x32E),
     (0x330, 0x331), (0x60C, 0x60C), (0x61B, 0x61C), (0x61F, 0x61F), (0x640, 0x640),
     (0x64B, 0x655), (0x670, 0x670), (0x1DF8, 0x1DF8), (0x1DFA, 0x1DFA)]⟩,
   ⟨["Samaritan", "Samr"],
    [(0x800, 0x82D), (0x830, 0x83E)],
    [(0x2E31, 0x2E31)]⟩,
   ⟨["Mandaic", "Mand"],
    [(0x840, 0x85B), (0x85E, 0x85E)],
    [(0x640, 0x640)]⟩,
   ⟨["Yezidi", "Yezi"],
    [(0x10E80, 0x10EA9), (0x10EAB, 0x10EAD), (0x10EB0, 0x10EB1)],
    [(0x60C, 0x60C), (0x61B, 0x61B), (0x61F, 0x61F), (0x660, 0x669)]⟩,
   ⟨["Old_North_Arabian", "Narb"],
    [(0x10A80, 0x10A9F)],
    []⟩,
   ⟨["Old_South_Arabian", "Sarb"],
    [(0x10A60, 0x10A7F)],
    []⟩,
   ⟨["Phoenician", "Phnx"],
    [(0x10900, 0x1091B), (0x1091F, 0x1091F)],
    []⟩,
   ⟨["Imperial_Aramaic", "Armi"],
    [(0x10840, 0x10855), (0x10857, 0x1085F)],
    []⟩,
   ⟨["Manichaean", "Mani"],
    [(0x10AC0, 0x10AE6), (0x10AEB, 0x10AF6)],
    [(0x640, 0x640)]⟩,
   ⟨["Inscriptional_Parthian", "Prti"],
    [(0x10B40, 0x10B55), (0x10B58, 0x10B5F)],
    []⟩,
   ⟨["Inscriptional_Pahlavi", "Phli"],
    [(0x10B60, 0x10B72), (0x10B78, 0x10B7F)],
    []⟩,
   ⟨["Psalter_Pahlavi", "Phlp"],
    [(0x10B80, 0x10B91), (0x10B99, 0x10B9C), (0x10BA9, 0x10BAF)],
    [(0x640, 0x640)]⟩,
   ⟨["Avestan", "Avst"],
    [(0x10B00, 0x10B35), (0x10B39, 0x10B3F)],
    [(0xB7, 0xB7), (0x2E30, 0x2E31)]⟩,
   ⟨["Chorasmian", "Chrs"],
    [(0x10FB0, 0x10FCB)],
    []⟩,
   ⟨["Elymaic", "Elym"],
    [(0x10FE0, 0x10FF6)],
    []⟩,
   ⟨["Nabataean", "Nbat"],
    [(0x10880, 0x1089E), (0x108A7, 0x108AF)],
    []⟩,
   ⟨["Palmyrene", "Palm"],
    [(0x10860, 0x1087F)],
    []⟩,
   ⟨["Hatran", "Hatr"],
    [(0x108E0, 0x108F2), (0x108F4, 0x108F5), (0x108FB, 0x108FF)],
    []⟩,
   ⟨["Cuneiform", "Xsux"],
    [(0x12000, 0x12399), (0x12400, 0x1246E), (0x12470, 0x12474), (0x12480, 0x12543)],
    []⟩,
   ⟨["Ugaritic", "Ugar"],
    [(0x10380, 0x1039D), (0x1039F, 0x1039F)],
    []⟩,
   ⟨["Old_Persian", "Xpeo"],
    [(0x103A0, 0x103C3), (0x103C8, 0x103D5)],
    []⟩,
   ⟨["Egyptian_Hieroglyphs", "Egyp"],
    [(0x13000, 0x13455), (0x13460, 0x143FA)],
    []⟩,
   ⟨["Meroitic_Cursive", "Merc"],
    [(0x109A0, 0x109B7), (0x109BC, 0x109CF), (0x109D2, 0x109FF)],
    []⟩,
   ⟨["Meroitic_Hieroglyphs", "Mero"],
    [(0x10980, 0x1099F)],
    [(0x205D, 0x205D)]⟩,
   ⟨["Anatolian_Hieroglyphs", "Hluw"],
    [(0x14400, 0x14646)],
    []⟩]

end ConditionRegistry.Text
