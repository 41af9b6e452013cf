import ConditionRegistry.Text.Bytes
import Mathlib.Tactic.Common

set_option autoImplicit false

/-!
# Bytes that are texts

A text is read back from its bytes. So bytes have a text exactly if they are well-formed UTF-8, and
that is the text that the standard library makes of them.
-/

namespace ConditionRegistry.Text

/-! ### One character -/

section Continuation
variable {first low high m₁ m₂ m₃ : Nat} {r : List UInt8}

theorem continuation?_cons {m : Nat} (hlow : low ≤ m) (hhigh : m ≤ high) (hbyte : m < 256) :
    continuation? low high (UInt8.ofNat m :: r) = some (m - 0x80) := by
  rw [continuation?, UInt8.toNat_ofNat_of_lt' hbyte, if_pos ⟨hlow, hhigh⟩]

variable (hlow : low ≤ m₁) (hhigh : m₁ ≤ high) (h₁ : m₁ < 256) (h₂ : 0x80 ≤ m₂ ∧ m₂ ≤ 0xBF)
include hlow hhigh h₁ h₂

theorem threeByte_cons :
    threeByte first low high (UInt8.ofNat m₁ :: UInt8.ofNat m₂ :: r) =
      (Char.ofNat (first * 0x1000 + (m₁ - 0x80) * 0x40 + (m₂ - 0x80)), 2) := by
  rw [threeByte, continuation?_cons hlow hhigh h₁]
  dsimp only [List.drop]
  rw [continuation?_cons h₂.1 h₂.2 (by omega)]

theorem fourByte_cons (h₃ : 0x80 ≤ m₃ ∧ m₃ ≤ 0xBF) :
    fourByte first low high (UInt8.ofNat m₁ :: UInt8.ofNat m₂ :: UInt8.ofNat m₃ :: r) =
      (Char.ofNat (first * 0x40000 + (m₁ - 0x80) * 0x1000 + (m₂ - 0x80) * 0x40 + (m₃ - 0x80)),
        3) := by
  rw [fourByte, continuation?_cons hlow hhigh h₁]
  dsimp only [List.drop]
  rw [continuation?_cons h₂.1 h₂.2 (by omega)]
  dsimp only
  rw [continuation?_cons h₃.1 h₃.2 (by omega)]

end Continuation

theorem ofNat_eq_of_toNat {c : Char} {n : Nat} (h : n = c.val.toNat) : Char.ofNat n = c := by
  rw [h]
  exact Char.ofNat_toNat c

theorem decodeOne_utf8EncodeChar (c : Char) (r : List UInt8) :
    ∃ b t, String.utf8EncodeChar c = b :: t ∧ decodeOne b (t ++ r) = (c, t.length) := by
  have hvalid : c.val.toNat < 0xD800 ∨ 0xDFFF < c.val.toNat ∧ c.val.toNat < 0x110000 := c.valid
  have hsize : UInt8.size = 256 := rfl
  rw [String.utf8EncodeChar.eq_1]
  generalize hn : c.val.toNat = n at hvalid
  split_ifs with hone htwo hthree
  · refine ⟨_, _, rfl, ?_⟩
    rw [decodeOne, UInt8.toNat_ofNat_of_lt' (by omega), if_pos (by omega),
      ofNat_eq_of_toNat hn.symm]
    rfl
  · refine ⟨_, _, rfl, ?_⟩
    rw [decodeOne, UInt8.toNat_ofNat_of_lt' (by omega), if_neg (by omega), if_pos (by omega),
      List.cons_append, continuation?_cons (by omega) (by omega) (by omega)]
    dsimp only
    rw [ofNat_eq_of_toNat (c := c) (by omega)]
    rfl
  · refine ⟨_, _, rfl, ?_⟩
    rw [decodeOne, UInt8.toNat_ofNat_of_lt' (by omega), if_neg (by omega), if_neg (by omega),
      List.cons_append, List.cons_append]
    split_ifs
    iterate 3
      · rw [threeByte_cons (by omega) (by omega) (by omega) (by omega),
          ofNat_eq_of_toNat (c := c) (by omega)]
        rfl
    all_goals omega
  · refine ⟨_, _, rfl, ?_⟩
    rw [decodeOne, UInt8.toNat_ofNat_of_lt' (by omega), if_neg (by omega), if_neg (by omega),
      if_neg (by omega), if_neg (by omega), if_neg (by omega), List.cons_append, List.cons_append,
      List.cons_append]
    split_ifs
    iterate 3
      · rw [fourByte_cons (by omega) (by omega) (by omega) (by omega) (by omega),
          ofNat_eq_of_toNat (c := c) (by omega)]
        rfl
    omega

/-! ### Texts -/

theorem decodeAfter_append (t r : List UInt8) :
    decodeAfter t.length (t ++ r) = decodeAfter 0 r := by
  induction t with
  | nil => rfl
  | cons b t ih => exact ih

theorem textOf_bytesOf (s : List Char) : textOf (bytesOf s) = s := by
  induction s with
  | nil => rfl
  | cons c s ih =>
    obtain ⟨b, t, hbytes, hfirst⟩ := decodeOne_utf8EncodeChar c (bytesOf s)
    rw [bytesOf, List.flatMap_cons, hbytes, ← bytesOf, textOf, List.cons_append, decodeAfter,
      hfirst, decodeAfter_append, ← textOf, ih]

theorem textOf?_eq_some_iff {bs : List UInt8} {s : List Char} :
    textOf? bs = some s ↔ bytesOf s = bs := by
  unfold textOf?
  dsimp only
  constructor
  · intro h
    split at h
    · next hbytes =>
      cases h
      exact hbytes
    · cases h
  · rintro rfl
    rw [textOf_bytesOf, if_pos rfl]

theorem toByteArray_inj {bs cs : List UInt8} (h : bs.toByteArray = cs.toByteArray) : bs = cs := by
  have hdata := congrArg ByteArray.data h
  rw [List.data_toByteArray, List.data_toByteArray] at hdata
  exact List.toArray_inj hdata

theorem fromUTF8?_eq_some_iff {bs : List UInt8} {t : String} :
    String.fromUTF8? bs.toByteArray = some t ↔ bytesOf t.toList = bs := by
  have hbytes : (bytesOf t.toList).toByteArray = t.toByteArray := String.utf8Encode_toList
  unfold String.fromUTF8?
  constructor
  · intro h
    split at h
    · cases h
      exact toByteArray_inj hbytes
    · cases h
  · rintro rfl
    rw [hbytes, dif_pos t.isValidUTF8]
    rfl

/-- The standard library takes the same bytes for a text, and for the same one. -/
theorem fromUTF8?_toByteArray (bs : List UInt8) :
    String.fromUTF8? bs.toByteArray = (textOf? bs).map String.ofList := by
  ext t
  rw [fromUTF8?_eq_some_iff, Option.map_eq_some_iff, ← textOf?_eq_some_iff]
  constructor
  · intro h
    exact ⟨_, h, String.ofList_toList⟩
  · rintro ⟨s, h, rfl⟩
    rwa [String.toList_ofList]

end ConditionRegistry.Text
