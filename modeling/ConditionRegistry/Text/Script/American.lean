import ConditionRegistry.Text.Script.Basic

set_option autoImplicit false

/-!
# American scripts and notations

The characters of scripts of America, and scripts for notations, as of version 16 of the character
database.
-/

namespace ConditionRegistry.Text

def americanScripts : List Script :=
  [⟨["Cherokee", "Cher"],
    [(0x13A0, 0x13F5), (0x13F8, 0x13FD), (0xAB70, 0xABBF)],
    [(0x300, 0x302), (0x304, 0x304), (0x30B, 0x30C), (0x323, 0x324), (0x330, 0x331)]⟩,
   ⟨["Canadian_Aboriginal", "Cans"],
    [(0x1400, 0x167F), (0x18B0, 0x18F5), (0x11AB0, 0x11ABF)],
    []⟩,
   ⟨["Deseret", "Dsrt"],
    [(0x10400, 0x1044F)],
    []⟩,
   ⟨["Osage", "Osge"],
    [(0x104B0, 0x104D3), (0x104D8, 0x104FB)],
    [(0x301, 0x301), (0x304, 0x304), (0x30B, 0x30B), (0x358, 0x358)]⟩,
   ⟨["Braille", "Brai"],
    [(0x2800, 0x28FF)],
    []⟩,
   ⟨["Duployan", "Dupl"],
    [(0x1BC00, 0x1BC6A), (0x1BC70, 0x1BC7C), (0x1BC80, 0x1BC88), (0x1BC90, 0x1BC99),
     (0x1BC9C, 0x1BC9F)],
    [(0xB7, 0xB7), (0x307, 0x308), (0x30A, 0x30A), (0x323, 0x324), (0x2E3C, 0x2E3C),
     (0x1BCA0, 0x1BCA3)]⟩,
   ⟨["SignWriting", "Sgnw"],
    [(0x1D800, 0x1DA8B), (0x1DA9B, 0x1DA9F), (0x1DAA1, 0x1DAAF)],
    []⟩]

end ConditionRegistry.Text
