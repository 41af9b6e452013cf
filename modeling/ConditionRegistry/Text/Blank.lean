import ConditionRegistry.Text.Ranges

set_option autoImplicit false

/-!
# White space

The 25 characters with the property White_Space, and the removal of white space from the two ends
of a text.
-/

namespace ConditionRegistry.Text

def blankRanges : Ranges :=
  [(0x09, 0x0D), (0x20, 0x20), (0x85, 0x85), (0xA0, 0xA0), (0x1680, 0x1680), (0x2000, 0x200A),
   (0x2028, 0x2029), (0x202F, 0x202F), (0x205F, 0x205F), (0x3000, 0x3000)]

def isBlank (c : Char) : Bool := blankRanges.has c

def trimStart (s : List Char) : List Char := s.dropWhile isBlank

def trimEnd (s : List Char) : List Char := (s.reverse.dropWhile isBlank).reverse

def trim (s : List Char) : List Char := trimEnd (trimStart s)

def isAllBlank (s : List Char) : Bool := s.all isBlank

theorem trimStart_eq_nil_iff (s : List Char) : trimStart s = [] ↔ isAllBlank s = true := by
  induction s with
  | nil => simp [trimStart, isAllBlank]
  | cons c r ih =>
    by_cases h : isBlank c = true
    · rw [trimStart, List.dropWhile_cons_of_pos h, ← trimStart, ih]
      simp [isAllBlank, h]
    · simp [trimStart, isAllBlank, h]

end ConditionRegistry.Text
