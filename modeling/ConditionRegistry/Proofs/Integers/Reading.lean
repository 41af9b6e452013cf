import ConditionRegistry.Proofs.Integers

set_option autoImplicit false

/-!
# Reading integers that are not negative

An integer up to a bound is read from every text that denotes it, however many zeros stand in front,
and from no other text. The digits at the front of a text decide what is wrong with it: they are too
many, or something else follows them.
-/

namespace ConditionRegistry.Decimal

/-- At least one digit, and a plus sign or none before the digits. -/
def Denotes (s : List Char) (n : Nat) : Prop :=
  ∃ ds, (s = ds ∨ s = '+' :: ds) ∧ ds ≠ [] ∧ (∀ c ∈ ds, c.isDigit = true) ∧ valueOf ds = n

def afterPlus : List Char → List Char
  | '+' :: r => r
  | s => s

def complaint (high : Nat) (s : List Char) : IntegerFault :=
  if s = [] then .empty
  else if high < valueOf ((afterPlus s).takeWhile Char.isDigit) then .tooLarge
  else .invalidDigit

/-! ### Digits -/

section Digits
variable {high n : Nat} {c : Char}

theorem digitsUpTo_cons_of_le (r : List Char) (hc : c.isDigit = true)
    (hle : 10 * n + digitValue c ≤ high) :
    digitsUpTo high n (c :: r) = digitsUpTo high (10 * n + digitValue c : Nat) r := by
  rw [digitsUpTo, hc, if_neg (by decide), if_neg (by omega)]
  norm_cast

theorem digitsUpTo_cons_of_lt (r : List Char) (hc : c.isDigit = true)
    (hlt : high < 10 * n + digitValue c) : digitsUpTo high n (c :: r) = .error .tooLarge := by
  rw [digitsUpTo, hc, if_neg (by decide), if_pos (by omega)]

theorem digitsUpTo_cons_of_not_isDigit (r : List Char) (hc : c.isDigit = false) :
    digitsUpTo high n (c :: r) = .error .invalidDigit := by
  rw [digitsUpTo, hc, if_pos (by decide)]

end Digits

theorem digitsUpTo_of_isDigit {high : Nat} {s : List Char} (hs : ∀ c ∈ s, c.isDigit = true)
    (n : Nat) (hle : valueFrom n s ≤ high) : digitsUpTo high n s = .ok (valueFrom n s) := by
  induction s generalizing n with
  | nil => rfl
  | cons c r ih =>
    rw [List.forall_mem_cons] at hs
    have hfirst : 10 * n + digitValue c ≤ high := Nat.le_trans (le_valueFrom _ r) hle
    rw [digitsUpTo_cons_of_le r hs.1 hfirst]
    exact ih hs.2 _ hle

/-- The bound is watched at every digit, but no digit brings a number back below it. -/
theorem digitsUpTo_of_not {high : Nat} {s : List Char} (n : Nat) (hn : n ≤ high)
    (hs : (∀ c ∈ s, c.isDigit = true) → high < valueFrom n s) :
    digitsUpTo high n s = .error
      (if high < valueFrom n (s.takeWhile Char.isDigit) then .tooLarge else .invalidDigit) := by
  induction s generalizing n with
  | nil => exact absurd (hs nofun) (Nat.not_lt.2 hn)
  | cons c r ih =>
    cases hc : c.isDigit with
    | false =>
      have hnone : valueFrom n ((c :: r).takeWhile Char.isDigit) = n := by simp [hc, valueFrom]
      rw [digitsUpTo_cons_of_not_isDigit r hc, hnone, if_neg (Nat.not_lt.2 hn)]
    | true =>
      rw [List.takeWhile_cons_of_pos hc]
      obtain hle | hlt := Nat.lt_or_ge high (10 * n + digitValue c) |>.symm
      · rw [digitsUpTo_cons_of_le r hc hle]
        exact ih _ hle fun hr => hs (List.forall_mem_cons.2 ⟨hc, hr⟩)
      · have hall : high < valueFrom n (c :: r.takeWhile Char.isDigit) :=
          Nat.lt_of_lt_of_le hlt (le_valueFrom _ _)
        rw [digitsUpTo_cons_of_lt r hc hlt, if_pos hall]

/-! ### Signs -/

theorem afterPlus_of_ne {c : Char} (hc : c ≠ '+') (r : List Char) :
    afterPlus (c :: r) = c :: r := by
  unfold afterPlus
  split
  · next h => exact absurd (List.cons.inj h).1 hc
  · rfl

theorem denotes_iff {s : List Char} {n : Nat} :
    Denotes s n ↔
      afterPlus s ≠ [] ∧ (∀ c ∈ afterPlus s, c.isDigit = true) ∧ valueOf (afterPlus s) = n := by
  constructor
  · rintro ⟨ds, rfl | rfl, hne, hdigits, hvalue⟩
    · obtain ⟨c, r, rfl⟩ := List.exists_cons_of_ne_nil hne
      have hc : c ≠ '+' := by
        rintro rfl
        cases hdigits '+' List.mem_cons_self
      rw [afterPlus_of_ne hc]
      exact ⟨hne, hdigits, hvalue⟩
    · exact ⟨hne, hdigits, hvalue⟩
  · intro h
    refine ⟨afterPlus s, ?_, h⟩
    unfold afterPlus
    split
    · exact .inr rfl
    · exact .inl rfl

section Unsigned
variable {high : Nat} {s : List Char}

theorem integerOfText_eq_digitsUpTo (h : afterPlus s ≠ []) :
    integerOfText 0 high s = digitsUpTo high 0 (afterPlus s) := by
  have hminus (r : List Char) : digitsUpTo high 0 ('-' :: r) = .error .invalidDigit :=
    digitsUpTo_cons_of_not_isDigit (n := 0) r rfl
  unfold integerOfText
  split
  · exact absurd rfl h
  · exact absurd rfl h
  · exact (hminus []).symm
  · rfl
  · rw [if_neg (by decide), afterPlus_of_ne (by decide), hminus]
  · next hnil _ _ hplus _ =>
    cases s with
    | nil => exact absurd rfl hnil
    | cons c r =>
      have hc : c ≠ '+' := by
        rintro rfl
        exact hplus r rfl
      rw [afterPlus_of_ne hc]

theorem integerOfText_of_denotes {n : Nat} (h : Denotes s n) (hle : n ≤ high) :
    integerOfText 0 high s = .ok n := by
  obtain ⟨hne, hdigits, rfl⟩ := denotes_iff.1 h
  rw [integerOfText_eq_digitsUpTo hne]
  exact digitsUpTo_of_isDigit hdigits 0 hle

theorem integerOfText_of_not_denotes (h : ¬ ∃ n ≤ high, Denotes s n) :
    integerOfText 0 high s = .error (complaint high s) := by
  by_cases hs : s = []
  · subst hs
    rfl
  rw [complaint, if_neg hs]
  by_cases hnone : afterPlus s = []
  · have hplus : s = ['+'] := by
      unfold afterPlus at hnone
      split at hnone
      · rw [hnone]
      · exact absurd hnone hs
    subst hplus
    rfl
  · rw [integerOfText_eq_digitsUpTo hnone]
    refine digitsUpTo_of_not 0 (Nat.zero_le high) fun hdigits => Nat.lt_of_not_le fun hle => ?_
    exact h ⟨_, hle, denotes_iff.2 ⟨hnone, hdigits, rfl⟩⟩

end Unsigned

end ConditionRegistry.Decimal
