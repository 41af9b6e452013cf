import ConditionRegistry.Text.Script.Basic

set_option autoImplicit false

/-!
# European scripts

The characters of scripts of Europe, old and new, as of version 16 of the character database.
-/

namespace ConditionRegistry.Text

def europeanScripts : List Script :=
  [⟨["Latin", "Latn"],
    [(0x41, 0x5A), (0x61, 0x7A), (0xAA, 0xAA), (0xBA, 0xBA), (0xC0, 0xD6), (0xD8, 0xF6),
     (0xF8, 0x2B8), (0x2E0, 0x2E4), (0x1D00, 0x1D25), (0x1D2C, 0x1D5C), (0x1D62, 0x1D65),
     (0x1D6B, 0x1D77), (0x1D79, 0x1DBE), (0x1E00, 0x1EFF), (0x2071, 0x2071), (0x207F, 0x207F),
     (0x2090, 0x209C), (0x212A, 0x212B), (0x2132, 0x2132), (0x214E, 0x214E), (0x2160, 0x2188),
     (0x2C60, 0x2C7F), (0xA722, 0xA787), (0xA78B, 0xA7CD), (0xA7D0, 0xA7D1), (0xA7D3, 0xA7D3),
     (0xA7D5, 0xA7DC), (0xA7F2, 0xA7FF), (0xAB30, 0xAB5A), (0xAB5C, 0xAB64), (0xAB66, 0xAB69),
     (0xFB00, 0xFB06), (0xFF21, 0xFF3A), (0xFF41, 0xFF5A), (0x10780, 0x10785), (0x10787, 0x107B0),
     (0x107B2, 0x107BA), (0x1DF00, 0x1DF1E), (0x1DF25, 0x1DF2A)],
    [(0xB7, 0xB7), (0x2BC, 0x2BC), (0x2C7, 0x2C7), (0x2C9, 0x2CB), (0x2CD, 0x2CD),
     (0x2D7, 0x2D7), (0x2D9, 0x2D9), (0x300, 0x30E), (0x310, 0x311), (0x313, 0x313),
     (0x323, 0x325), (0x32D, 0x32E), (0x330, 0x331), (0x358, 0x358), (0x35E, 0x35E),
     (0x363, 0x36F), (0x485, 0x486), (0x951, 0x952), (0x10FB, 0x10FB), (0x1DF8, 0x1DF8),
     (0x202F, 0x202F), (0x20F0, 0x20F0), (0x2E17, 0x2E17), (0xA700, 0xA707), (0xA92E, 0xA92E)]⟩,
   ⟨["Greek", "Grek"],
    [(0x370, 0x373), (0x375, 0x377), (0x37A, 0x37D), (0x37F, 0x37F), (0x384, 0x384),
     (0x386, 0x386), (0x388, 0x38A), (0x38C, 0x38C), (0x38E, 0x3A1), (0x3A3, 0x3E1),
     (0x3F0, 0x3FF), (0x1D26, 0x1D2A), (0x1D5D, 0x1D61), (0x1D66, 0x1D6A), (0x1DBF, 0x1DBF),
     (0x1F00, 0x1F15), (0x1F18, 0x1F1D), (0x1F20, 0x1F45), (0x1F48, 0x1F4D), (0x1F50, 0x1F57),
     (0x1F59, 0x1F59), (0x1F5B, 0x1F5B), (0x1F5D, 0x1F5D), (0x1F5F, 0x1F7D), (0x1F80, 0x1FB4),
     (0x1FB6, 0x1FC4), (0x1FC6, 0x1FD3), (0x1FD6, 0x1FDB), (0x1FDD, 0x1FEF), (0x1FF2, 0x1FF4),
     (0x1FF6, 0x1FFE), (0x2126, 0x2126), (0xAB65, 0xAB65), (0x10140, 0x1018E), (0x101A0, 0x101A0),
     (0x1D200, 0x1D245)],
    [(0xB7, 0xB7), (0x300, 0x301), (0x304, 0x304), (0x306, 0x306), (0x308, 0x308),
     (0x313, 0x313), (0x342, 0x342), (0x345, 0x345), (0x374, 0x374), (0x1DC0, 0x1DC1),
     (0x205D, 0x205D)]⟩,
   ⟨["Cyrillic", "Cyrl"],
    [(0x400, 0x484), (0x487, 0x52F), (0x1C80, 0x1C8A), (0x1D2B, 0x1D2B), (0x1D78, 0x1D78),
     (0x2DE0, 0x2DFF), (0xA640, 0xA69F), (0xFE2E, 0xFE2F), (0x1E030, 0x1E06D), (0x1E08F, 0x1E08F)],
    [(0x2BC, 0x2BC), (0x300, 0x302), (0x304, 0x304), (0x306, 0x306), (0x308, 0x308),
     (0x30B, 0x30B), (0x311, 0x311), (0x485, 0x486), (0x1DF8, 0x1DF8), (0x2E43, 0x2E43)]⟩,
   ⟨["Armenian", "Armn"],
    [(0x531, 0x556), (0x559, 0x58A), (0x58D, 0x58F), (0xFB13, 0xFB17)],
    [(0x308, 0x308)]⟩,
   ⟨["Georgian", "Geor"],
    [(0x10A0, 0x10C5), (0x10C7, 0x10C7), (0x10CD, 0x10CD), (0x10D0, 0x10FA), (0x10FC, 0x10FF),
     (0x1C90, 0x1CBA), (0x1CBD, 0x1CBF), (0x2D00, 0x2D25), (0x2D27, 0x2D27), (0x2D2D, 0x2D2D)],
    [(0xB7, 0xB7), (0x589, 0x589), (0x10FB, 0x10FB), (0x205A, 0x205A), (0x2E31, 0x2E31)]⟩,
   ⟨["Coptic", "Copt", "Qaac"],
    [(0x3E2, 0x3EF), (0x2C80, 0x2CF3), (0x2CF9, 0x2CFF)],
    [(0xB7, 0xB7), (0x300, 0x300), (0x304, 0x305), (0x307, 0x307), (0x374, 0x375),
     (0x2E17, 0x2E17), (0x102E0, 0x102FB)]⟩,
   ⟨["Glagolitic", "Glag"],
    [(0x2C00, 0x2C5F), (0x1E000, 0x1E006), (0x1E008, 0x1E018), (0x1E01B, 0x1E021),
     (0x1E023, 0x1E024), (0x1E026, 0x1E02A)],
    [(0xB7, 0xB7), (0x303, 0x303), (0x305, 0x305), (0x484, 0x484), (0x487, 0x487),
     (0x589, 0x589), (0x10FB, 0x10FB), (0x205A, 0x205A), (0x2E43, 0x2E43), (0xA66F, 0xA66F)]⟩,
   ⟨["Gothic", "Goth"],
    [(0x10330, 0x1034A)],
    [(0xB7, 0xB7), (0x304, 0x305), (0x308, 0x308), (0x331, 0x331)]⟩,
   ⟨["Elbasan", "Elba"],
    [(0x10500, 0x10527)],
    [(0xB7, 0xB7), (0x305, 0x305)]⟩,
   ⟨["Caucasian_Albanian", "Aghb"],
    [(0x10530, 0x10563), (0x1056F, 0x1056F)],
    [(0x304, 0x304), (0x331, 0x331), (0x35E, 0x35E)]⟩,
   ⟨["Vithkuqi", "Vith"],
    [(0x10570, 0x1057A), (0x1057C, 0x1058A), (0x1058C, 0x10592), (0x10594, 0x10595),
     (0x10597, 0x105A1), (0x105A3, 0x105B1), (0x105B3, 0x105B9), (0x105BB, 0x105BC)],
    []⟩,
   ⟨["Todhri", "Todr"],
    [(0x105C0, 0x105F3)],
    [(0x301, 0x301), (0x304, 0x304), (0x307, 0x307), (0x311, 0x311), (0x313, 0x313),
     (0x35E, 0x35E)]⟩,
   ⟨["Old_Permic", "Perm"],
    [(0x10350, 0x1037A)],
    [(0xB7, 0xB7), (0x300, 0x300), (0x306, 0x308), (0x313, 0x313), (0x483, 0x483)]⟩,
   ⟨["Ogham", "Ogam"],
    [(0x1680, 0x169C)],
    []⟩,
   ⟨["Old_Italic", "Ital"],
    [(0x10300, 0x10323), (0x1032D, 0x1032F)],
    []⟩,
   ⟨["Runic", "Runr"],
    [(0x16A0, 0x16EA), (0x16EE, 0x16F8)],
    [(0x16EB, 0x16ED)]⟩,
   ⟨["Old_Hungarian", "Hung"],
    [(0x10C80, 0x10CB2), (0x10CC0, 0x10CF2), (0x10CFA, 0x10CFF)],
    [(0x205A, 0x205A), (0x205D, 0x205D), (0x2E31, 0x2E31), (0x2E41, 0x2E41)]⟩,
   ⟨["Shavian", "Shaw"],
    [(0x10450, 0x1047F)],
    [(0xB7, 0xB7)]⟩,
   ⟨["Linear_A", "Lina"],
    [(0x10600, 0x10736), (0x10740, 0x10755), (0x10760, 0x10767)],
    [(0x10107, 0x10133)]⟩,
   ⟨["Linear_B", "Linb"],
    [(0x10000, 0x1000B), (0x1000D, 0x10026), (0x10028, 0x1003A), (0x1003C, 0x1003D),
     (0x1003F, 0x1004D), (0x10050, 0x1005D), (0x10080, 0x100FA)],
    [(0x10100, 0x10102), (0x10107, 0x10133), (0x10137, 0x1013F)]⟩,
   ⟨["Cypriot", "Cprt"],
    [(0x10800, 0x10805), (0x10808, 0x10808), (0x1080A, 0x10835), (0x10837, 0x10838),
     (0x1083C, 0x1083C), (0x1083F, 0x1083F)],
    [(0x10100, 0x10102), (0x10107, 0x10133), (0x10137, 0x1013F)]⟩,
   ⟨["Cypro_Minoan", "Cpmn"],
    [(0x12F90, 0x12FF2)],
    [(0x10100, 0x10101)]⟩,
   ⟨["Lycian", "Lyci"],
    [(0x10280, 0x1029C)],
    [(0x205A, 0x205A)]⟩,
   ⟨["Carian", "Cari"],
    [(0x102A0, 0x102D0)],
    [(0xB7, 0xB7), (0x205A, 0x205A), (0x205D, 0x205D), (0x2E31, 0x2E31)]⟩,
   ⟨["Lydian", "Lydi"],
    [(0x10920, 0x10939), (0x1093F, 0x1093F)],
    [(0xB7, 0xB7), (0x2E31, 0x2E31)]⟩]

end ConditionRegistry.Text
