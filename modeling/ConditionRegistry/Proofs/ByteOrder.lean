import ConditionRegistry.Text.Bytes
import Mathlib.Data.List.Basic

set_option autoImplicit false

/-!
# The order of bytes

Texts are ordered by their characters, which is also the order of their bytes.
-/

namespace ConditionRegistry.Text

/-- The first byte in which two characters differ decides, and it does so before either ends. -/
theorem utf8EncodeChar_append_lt {c d : Char} (h : c < d) (x y : List UInt8) :
    String.utf8EncodeChar c ++ x < String.utf8EncodeChar d ++ y := by
  have hlt : c.val.toNat < d.val.toNat := h
  have hd : d.val.toNat < 0x110000 := by
    rcases d.valid with h | h
    · exact Nat.lt_trans h (by decide)
    · exact h.2
  rw [String.utf8EncodeChar.eq_1, String.utf8EncodeChar.eq_1]
  generalize c.val.toNat = m at hlt
  generalize d.val.toNat = n at hlt hd
  split_ifs <;>
    simp only [List.cons_append, List.nil_append, List.cons_lt_cons_iff, UInt8.lt_iff_toNat_lt,
      UInt8.toNat_ofNat', ← UInt8.toNat_inj] <;>
    simp (disch := omega) only [Nat.mod_eq_of_lt] <;>
    omega

theorem bytesOf_lt_bytesOf {s t : List Char} (h : s < t) : bytesOf s < bytesOf t := by
  induction h with
  | nil =>
    rename_i d r
    obtain ⟨b, bs, hb⟩ := List.exists_cons_of_ne_nil (String.utf8EncodeChar_ne_nil (c := d))
    simp [bytesOf, hb]
  | rel h => exact utf8EncodeChar_append_lt h _ _
  | cons _ ih =>
    rw [bytesOf, bytesOf, List.flatMap_cons, List.flatMap_cons]
    exact List.append_left_lt ih

end ConditionRegistry.Text
