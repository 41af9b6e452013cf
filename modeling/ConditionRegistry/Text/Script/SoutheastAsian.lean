import ConditionRegistry.Text.Script.Basic

set_option autoImplicit false

/-!
# Scripts of Southeast Asia

The characters of scripts of Southeast Asia, as of version 16 of the character database.
-/

namespace ConditionRegistry.Text

def southeastAsianScripts : List Script :=
  [⟨["Thai", "Thai"],
    [(0xE01, 0xE3A), (0xE40, 0xE5B)],
    [(0x2BC, 0x2BC), (0x2D7, 0x2D7), (0x303, 0x303), (0x331, 0x331)]⟩,
   ⟨["Lao", "Laoo"],
    [(0xE81, 0xE82), (0xE84, 0xE84), (0xE86, 0xE8A), (0xE8C, 0xEA3), (0xEA5, 0xEA5),
     (0xEA7, 0xEBD), (0xEC0, 0xEC4), (0xEC6, 0xEC6), (0xEC8, 0xECE), (0xED0, 0xED9),
     (0xEDC, 0xEDF)],
    []⟩,
   ⟨["Myanmar", "Mymr"],
    [(0x1000, 0x109F), (0xA9E0, 0xA9FE), (0xAA60, 0xAA7F), (0x116D0, 0x116E3)],
    [(0xA92E, 0xA92E)]⟩,
   ⟨["Khmer", "Khmr"],
    [(0x1780, 0x17DD), (0x17E0, 0x17E9), (0x17F0, 0x17F9), (0x19E0, 0x19FF)],
    []⟩,
   ⟨["Tai_Le", "Tale"],
    [(0x1950, 0x196D), (0x1970, 0x1974)],
    [(0x300, 0x301), (0x307, 0x308), (0x30C, 0x30C), (0x1040, 0x1049)]⟩,
   ⟨["New_Tai_Lue", "Talu"],
    [(0x1980, 0x19AB), (0x19B0, 0x19C9), (0x19D0, 0x19DA), (0x19DE, 0x19DF)],
    []⟩,
   ⟨["Tai_Tham", "Lana"],
    [(0x1A20, 0x1A5E), (0x1A60, 0x1A7C), (0x1A7F, 0x1A89), (0x1A90, 0x1A99), (0x1AA0, 0x1AAD)],
    []⟩,
   ⟨["Tai_Viet", "Tavt"],
    [(0xAA80, 0xAAC2), (0xAADB, 0xAADF)],
    []⟩,
   ⟨["Kayah_Li", "Kali"],
    [(0xA900, 0xA92D), (0xA92F, 0xA92F)],
    [(0xA92E, 0xA92E)]⟩,
   ⟨["Cham", "Cham"],
    [(0xAA00, 0xAA36), (0xAA40, 0xAA4D), (0xAA50, 0xAA59), (0xAA5C, 0xAA5F)],
    []⟩,
   ⟨["Pahawh_Hmong", "Hmng"],
    [(0x16B00, 0x16B45), (0x16B50, 0x16B59), (0x16B5B, 0x16B61), (0x16B63, 0x16B77),
     (0x16B7D, 0x16B8F)],
    []⟩,
   ⟨["Nyiakeng_Puachue_Hmong", "Hmnp"],
    [(0x1E100, 0x1E12C), (0x1E130, 0x1E13D), (0x1E140, 0x1E149), (0x1E14E, 0x1E14F)],
    []⟩,
   ⟨["Pau_Cin_Hau", "Pauc"],
    [(0x11AC0, 0x11AF8)],
    []⟩,
   ⟨["Hanifi_Rohingya", "Rohg"],
    [(0x10D00, 0x10D27), (0x10D30, 0x10D39)],
    [(0x60C, 0x60C), (0x61B, 0x61B), (0x61F, 0x61F), (0x640, 0x640), (0x6D4, 0x6D4)]⟩,
   ⟨["Tagalog", "Tglg"],
    [(0x1700, 0x1715), (0x171F, 0x171F)],
    [(0x1735, 0x1736)]⟩,
   ⟨["Hanunoo", "Hano"],
    [(0x1720, 0x1734)],
    [(0x1735, 0x1736)]⟩,
   ⟨["Buhid", "Buhd"],
    [(0x1740, 0x1753)],
    [(0x1735, 0x1736)]⟩,
   ⟨["Tagbanwa", "Tagb"],
    [(0x1760, 0x176C), (0x176E, 0x1770), (0x1772, 0x1773)],
    [(0x1735, 0x1736)]⟩,
   ⟨["Buginese", "Bugi"],
    [(0x1A00, 0x1A1B), (0x1A1E, 0x1A1F)],
    [(0xA9CF, 0xA9CF)]⟩,
   ⟨["Balinese", "Bali"],
    [(0x1B00, 0x1B4C), (0x1B4E, 0x1B7F)],
    []⟩,
   ⟨["Javanese", "Java"],
    [(0xA980, 0xA9CD), (0xA9D0, 0xA9D9), (0xA9DE, 0xA9DF)],
    [(0xA9CF, 0xA9CF)]⟩,
   ⟨["Rejang", "Rjng"],
    [(0xA930, 0xA953), (0xA95F, 0xA95F)],
    []⟩,
   ⟨["Batak", "Batk"],
    [(0x1BC0, 0x1BF3), (0x1BFC, 0x1BFF)],
    []⟩,
   ⟨["Sundanese", "Sund"],
    [(0x1B80, 0x1BBF), (0x1CC0, 0x1CC7)],
    []⟩,
   ⟨["Makasar", "Maka"],
    [(0x11EE0, 0x11EF8)],
    []⟩,
   ⟨["Kawi", "Kawi"],
    [(0x11F00, 0x11F10), (0x11F12, 0x11F3A), (0x11F3E, 0x11F5A)],
    []⟩]

end ConditionRegistry.Text
