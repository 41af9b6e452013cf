import ConditionRegistry.Decimal.Integer

set_option autoImplicit false

/-!
# Texts of integers

An integer is read back from its text, and its text begins with a digit or a sign. No digit before
the others is superfluous.
-/

namespace ConditionRegistry.Decimal

theorem integerText_eq (n : Int) :
    integerText n = (if n < 0 then ['-'] else []) ++ Nat.toDigits 10 n.natAbs := by
  cases n with
  | ofNat n => rfl
  | negSucc n =>
    rw [if_pos (Int.negSucc_lt_zero n)]
    rfl

theorem isDigit_of_mem_toDigits {n : Nat} {c : Char} (h : c ∈ Nat.toDigits 10 n) :
    c.isDigit = true :=
  Nat.isDigit_of_mem_toDigits (by decide) (by decide) h

theorem exists_cons_toDigits (n : Nat) :
    ∃ c r, Nat.toDigits 10 n = c :: r ∧ c.isDigit = true := by
  obtain ⟨c, r, h⟩ := List.exists_cons_of_ne_nil (Nat.toDigits_ne_nil (n := n) (b := 10))
  exact ⟨c, r, h, isDigit_of_mem_toDigits (n := n) (by simp [h])⟩

theorem head_toDigits_ne_zero {n : Nat} (hn : n ≠ 0) (r : List Char) :
    Nat.toDigits 10 n ≠ '0' :: r := by
  induction n using Nat.strongRecOn generalizing r with
  | ind n ih =>
    rw [Nat.toDigits_eq_if (by decide)]
    split
    · intro h
      rw [List.cons.injEq, Nat.digitChar_eq_zero] at h
      exact hn h.1
    · obtain ⟨c, t, hcons, -⟩ := exists_cons_toDigits (n / 10)
      intro h
      rw [hcons, List.cons_append, List.cons.injEq] at h
      exact ih (n / 10) (by omega) (by omega) t (by rw [hcons, h.1])

theorem valueOf_toDigits (n : Nat) : valueOf (Nat.toDigits 10 n) = n :=
  Nat.ofDigitChars_ten_toDigits (n := n)

def valueFrom (n : Nat) (ds : List Char) : Nat := ds.foldl (fun n c => 10 * n + digitValue c) n

theorem le_valueFrom (n : Nat) (ds : List Char) : n ≤ valueFrom n ds := by
  induction ds generalizing n with
  | nil => exact Nat.le_refl n
  | cons c r ih => exact Nat.le_trans (by omega) (ih (10 * n + digitValue c))

theorem int64?_eq_some_iff {n : Int} {m : Int64} : int64? n = some m ↔ m.toInt = n := by
  unfold int64?
  constructor
  · intro h
    split at h
    · rename_i hbounds
      cases h
      exact Int64.toInt_ofInt_of_le hbounds.1 (Int.lt_add_one_of_le hbounds.2)
    · cases h
  · rintro rfl
    have hlow : int64Low ≤ m.toInt := m.le_toInt
    have hhigh : m.toInt ≤ int64High := Int.le_of_lt_add_one m.toInt_lt
    rw [if_pos ⟨hlow, hhigh⟩, Int64.ofInt_toInt]

end ConditionRegistry.Decimal
