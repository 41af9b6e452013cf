import ConditionRegistry.Proofs.Formula.Syntax
import ConditionRegistry.Proofs.Guards
import ConditionRegistry.Proofs.Integers

set_option autoImplicit false

/-!
# The text of a formula

Its normal form has the operators for the keywords, whatever its variables are called, and it passes
the guards if its parentheses are not too deep.
-/

open ConditionRegistry.Language

namespace ConditionRegistry
open Decimal Guard Text

/-! ### Characters of names and numbers -/

theorem toNat_of_isAlpha {c : Char} (h : c.isAlpha = true) :
    (65 ≤ c.toNat ∧ c.toNat ≤ 90) ∨ (97 ≤ c.toNat ∧ c.toNat ≤ 122) := by
  rcases Bool.or_eq_true_iff.1 h with h | h
  · exact .inl (of_decide_eq_true h)
  · exact .inr ⟨of_decide_eq_true (Bool.and_eq_true_iff.1 h).1,
      of_decide_eq_true (Bool.and_eq_true_iff.1 h).2⟩

theorem toNat_of_isDigit {c : Char} (h : c.isDigit = true) : 48 ≤ c.toNat ∧ c.toNat ≤ 57 :=
  ⟨of_decide_eq_true (Bool.and_eq_true_iff.1 h).1, of_decide_eq_true (Bool.and_eq_true_iff.1 h).2⟩

theorem isBlank_of_range {c : Char} (h : 0x30 ≤ c.toNat ∧ c.toNat ≤ 0x7A) : isBlank c = false := by
  simp only [isBlank, blankRanges, Ranges.has, Ranges.holds, List.any_cons, List.any_nil,
    Bool.or_eq_false_iff, Bool.and_eq_false_iff, decide_eq_false_iff_not, and_true]
  omega

theorem isBlank_of_isNameChar {c : Char} (h : isNameChar c = true) : isBlank c = false := by
  refine isBlank_of_range ?_
  rcases Bool.or_eq_true_iff.1 h with h | h
  · rcases Bool.or_eq_true_iff.1 h with h | h
    · have hrange := toNat_of_isAlpha h
      omega
    · have hrange := toNat_of_isDigit h
      omega
  · rw [eq_of_beq h]
    decide

theorem isNameChar_of_isDigit {c : Char} (h : c.isDigit = true) : isNameChar c = true := by
  simp [isNameChar, Char.isAlphanum, h]

theorem notMem_integerText {c : Char} (h : isNameChar c = false) (hm : c ≠ '-') (n : Int) :
    c ∉ integerText n := by
  intro hc
  rw [integerText_eq, List.mem_append] at hc
  rcases hc with hc | hc
  · split at hc
    · exact hm (List.mem_singleton.1 hc)
    · cases hc
  · rw [isNameChar_of_isDigit (isDigit_of_mem_toDigits hc)] at h
    cases h

theorem Identifier.notMem {c : Char} (h : isNameChar c = false) (v : Identifier) : c ∉ v.chars := by
  intro hc
  rw [List.all_eq_true.1 v.continues c hc] at h
  cases h

/-! ### Keywords give way to operators -/

namespace Keyword
variable (k : Keyword)

theorem replace_space {c : Char} (h : c ≠ k.letter) (r : List Char) :
    k.replace (' ' :: c :: r) = ' ' :: k.replace (c :: r) := by
  refine k.replace_cons ' ' _ ?_
  rintro ⟨t, ht⟩
  cases k with
  | or =>
    injection ht with _ ht
    injection ht with hc _
    exact h hc.symm
  | and =>
    injection ht with _ ht
    injection ht with hc _
    exact h hc.symm

/-- A word between spaces is kept if it starts unlike the keyword, and so does what follows it. -/
theorem replace_between {w : List Char} (hw : w.head? ≠ some k.letter) (hspace : ' ' ∉ w)
    (hne : w ≠ []) {c : Char} (hc : c ≠ k.letter) (r : List Char) :
    k.replace (' ' :: w ++ ' ' :: c :: r) = ' ' :: w ++ ' ' :: k.replace (c :: r) := by
  obtain ⟨a, t, rfl⟩ := List.exists_cons_of_ne_nil hne
  have ha : a ≠ k.letter := fun h => hw (by rw [h]; rfl)
  rw [List.cons_append, List.cons_append, k.replace_space ha, ← List.cons_append,
    k.replace_append hspace, k.replace_space hc]
  rfl

theorem spaced_append (r : List Char) : k.spaced ++ r = ' ' :: k.word ++ ' ' :: r := by
  simp [spaced]

end Keyword

theorem Identifier.exists_cons (v : Identifier) :
    ∃ c r, v.chars = c :: r ∧ isNameStart c = true := by
  have h := v.starts
  cases hv : v.chars with
  | nil => rw [hv] at h; cases h
  | cons c r => rw [hv] at h; exact ⟨c, r, rfl, h⟩

theorem exists_cons_integerText (n : Int) :
    ∃ c r, integerText n = c :: r ∧ (c = '-' ∨ c.isDigit = true) := by
  obtain ⟨d, t, ht, hd⟩ := exists_cons_toDigits n.natAbs
  rw [integerText_eq, ht]
  split
  · exact ⟨'-', d :: t, rfl, .inl rfl⟩
  · exact ⟨d, t, rfl, .inr hd⟩

namespace Formula

theorem replace_spelled (k : Keyword) (write : Keyword → List Char) (hk : write k = k.word)
    (hw : ∀ j, j ≠ k → (write j).head? ≠ some k.letter ∧ ' ' ∉ write j ∧ write j ≠ [])
    (f : Formula) (r : List Char) :
    k.replace (f.spelled write ++ r) =
      f.spelled (Function.update write k k.operator) ++ k.replace r := by
  have hletter : k.letter ≠ '(' ∧ k.letter ≠ '-' ∧ k.letter.isDigit = false ∧
      k.letter ∉ ['<', '>', '=', '!'] := by
    cases k <;> decide
  induction f generalizing r with
  | compare v op n =>
    have hsign : op.sign.head? ≠ some k.letter ∧ ' ' ∉ op.sign ∧ op.sign ≠ [] := by
      cases op <;> cases k <;> decide
    obtain ⟨c, t, ht, hc⟩ := exists_cons_integerText n.toInt
    have hne : c ≠ k.letter := by
      rintro rfl
      rcases hc with hc | hc
      · exact hletter.2.1 hc
      · rw [hletter.2.2.1] at hc
        cases hc
    have hnum := k.replace_append (notMem_integerText (c := ' ') (by decide) (by decide) n.toInt) r
    rw [ht] at hnum
    simp only [spelled, ht, List.append_assoc, List.cons_append] at hnum ⊢
    rw [k.replace_append (v.notMem (by decide)), ← List.cons_append,
      k.replace_between hsign.1 hsign.2.1 hsign.2.2 hne, hnum]
    rfl
  | join j f g ihf ihg =>
    have hkeyword : ∀ t, k.replace (' ' :: write j ++ ' ' :: '(' :: t) =
        ' ' :: Function.update write k k.operator j ++ ' ' :: k.replace ('(' :: t) := by
      intro t
      by_cases hj : j = k
      · subst hj
        rw [Function.update_self, hk]
        have hs := j.replace_spaced ('(' :: t)
        rw [j.spaced_append] at hs
        exact hs
      · rw [Function.update_of_ne hj]
        obtain ⟨hhead, hspace, hne⟩ := hw j hj
        exact k.replace_between hhead hspace hne hletter.1.symm t
    have hopen : ∀ t, k.replace ('(' :: t) = '(' :: k.replace t := fun t =>
      k.replace_cons _ _ (k.not_spaced_of_ne (by decide) _)
    have hclose : ∀ t, k.replace (')' :: t) = ')' :: k.replace t := fun t =>
      k.replace_cons _ _ (k.not_spaced_of_ne (by decide) _)
    simp only [spelled, List.append_assoc, List.cons_append, List.nil_append] at hkeyword ⊢
    rw [hopen, ihf, hclose, hkeyword, hopen, ihg, hclose]

def symbols (f : Formula) : List Char := f.spelled Keyword.operator

theorem replace_text (f : Formula) :
    Keyword.and.replace (Keyword.or.replace (f.spelled Keyword.word)) = f.symbols := by
  have hor := replace_spelled .or Keyword.word rfl
    (fun j hj => by cases j with
      | or => exact absurd rfl hj
      | and => decide) f []
  have hand := replace_spelled .and (Function.update Keyword.word .or Keyword.or.operator) rfl
    (fun j hj => by cases j with
      | or => decide
      | and => exact absurd rfl hj) f []
  simp only [List.append_nil, Keyword.replace_nil] at hor hand
  rw [hor, hand, symbols]
  congr 1
  funext j
  cases j <;> rfl

theorem exists_cons_spelled (write : Keyword → List Char) (f : Formula) :
    ∃ c r, f.spelled write = c :: r ∧ (c = '(' ∨ isNameChar c = true) := by
  cases f with
  | compare v op n =>
    obtain ⟨c, r, hv, -⟩ := v.exists_cons
    refine ⟨c, _, by rw [spelled, hv]; rfl, .inr ?_⟩
    exact List.all_eq_true.1 v.continues c (by rw [hv]; exact List.mem_cons_self)
  | join j f g => exact ⟨'(', _, rfl, .inl rfl⟩

theorem exists_concat_spelled (write : Keyword → List Char) (f : Formula) :
    ∃ r c, f.spelled write = r ++ [c] ∧ (c = ')' ∨ isNameChar c = true) := by
  cases f with
  | compare v op n =>
    obtain ⟨r, c, hd⟩ := List.eq_nil_or_concat' (Nat.toDigits 10 n.toInt.natAbs) |>.resolve_left
      Nat.toDigits_ne_nil
    refine ⟨v.chars ++ (' ' :: op.sign ++ ' ' :: (if n.toInt < 0 then ['-'] else []) ++ r), c, ?_,
      .inr (isNameChar_of_isDigit (isDigit_of_mem_toDigits (n := n.toInt.natAbs) ?_))⟩
    · rw [spelled, integerText_eq, hd]
      simp
    · rw [hd]
      simp
  | join j f g =>
    refine ⟨'(' :: f.spelled write ++ (')' :: ' ' :: write j ++ ' ' :: '(' :: g.spelled write), ')',
      ?_, .inl rfl⟩
    simp [spelled]

theorem isTrimmed_symbols (f : Formula) : IsTrimmed f.symbols := by
  constructor
  · obtain ⟨c, r, hs, hc⟩ := f.exists_cons_spelled Keyword.operator
    intro d hd
    rw [symbols, hs] at hd
    cases hd
    rcases hc with rfl | hc
    · decide
    · exact isBlank_of_isNameChar hc
  · obtain ⟨r, c, hs, hc⟩ := f.exists_concat_spelled Keyword.operator
    intro d hd
    rw [symbols, hs, List.getLast?_concat] at hd
    cases hd
    rcases hc with rfl | hc
    · decide
    · exact isBlank_of_isNameChar hc

theorem normalForm_text (f : Formula) : normalForm f.text = String.ofList f.symbols := by
  rw [normalForm, text, String.toList_ofList, Keyword.normalChars_eq, replace_text,
    trim_eq_self f.isTrimmed_symbols]

end Formula

/-! ### The guards -/

namespace Quiet
variable {c : Char} {joins : Char → Bool}

theorem sign (op : Comparison) : Quiet '=' isComparisonChar (' ' :: op.sign ++ [' ']) := by
  intro before r
  cases op <;> simp [Comparison.sign, standsAlone, isComparisonChar]

theorem symbols (hname : isNameChar c = false) (hplain : c ∉ ['-', '(', ')'])
    (hsign : ∀ op : Comparison, Quiet c joins (' ' :: op.sign ++ [' ']))
    (hoperator : ∀ k : Keyword, Quiet c joins (' ' :: k.operator ++ [' '])) (f : Formula) :
    Quiet c joins f.symbols := by
  simp only [List.mem_cons, List.not_mem_nil, not_or, or_false] at hplain
  induction f with
  | compare v op n =>
    have hnum : Quiet c joins (integerText n.toInt) :=
      of_notMem (notMem_integerText hname hplain.1 _)
    have h := (of_notMem (v.notMem hname)).append ((hsign op).append hnum)
    simpa [Formula.symbols, Formula.spelled] using h
  | join k f g ihf ihg =>
    have hopen : Quiet c joins ['('] := of_notMem (by simpa using hplain.2.1)
    have hclose : Quiet c joins [')'] := of_notMem (by simpa using hplain.2.2)
    have h := (hopen.append ihf).append (hclose.append ((hoperator k).append
      ((hopen.append ihg).append hclose)))
    simpa [Formula.symbols, Formula.spelled] using h

end Quiet

theorem Formula.hasLoneOperator_symbols (f : Formula) : hasLoneOperator f.symbols = false := by
  have hsigns : ∀ (k : Keyword) (op : Comparison),
      Quiet k.mark (· == k.mark) (' ' :: op.sign ++ [' ']) := fun k op =>
    .of_notMem (by cases k <;> cases op <;> decide)
  have hoperators : ∀ k : Keyword, Quiet '=' isComparisonChar (' ' :: k.operator ++ [' ']) :=
    fun k => .of_notMem (by cases k <;> decide)
  have hequal := Quiet.symbols (by decide) (by decide) Quiet.sign hoperators f
  have hmark : ∀ k : Keyword, hasLone k.mark f.symbols = false := fun k =>
    (Quiet.symbols (by cases k <;> decide) (by cases k <;> decide) (hsigns k)
      (Quiet.operator k) f).standsAlone_eq_false
  have hand : hasLone '&' f.symbols = false := hmark .and
  have hor : hasLone '|' f.symbols = false := hmark .or
  rw [hasLoneOperator, hasLoneAssignment, hequal.standsAlone_eq_false, hand, hor]
  rfl

namespace Formula

theorem no_parentheses_compare (v : Identifier) (op : Comparison) (n : Int64) :
    '(' ∉ (compare v op n).symbols ∧ ')' ∉ (compare v op n).symbols := by
  have hsign : '(' ∉ op.sign ∧ ')' ∉ op.sign := by cases op <;> decide
  have hopen := v.notMem (c := '(') (by decide)
  have hclose := v.notMem (c := ')') (by decide)
  have hnum := notMem_integerText (c := '(') (by decide) (by decide) n.toInt
  have hnum' := notMem_integerText (c := ')') (by decide) (by decide) n.toInt
  simp [symbols, spelled, hsign, hopen, hclose, hnum, hnum']

theorem no_parentheses_operator (k : Keyword) :
    '(' ∉ ' ' :: k.operator ++ [' '] ∧ ')' ∉ ' ' :: k.operator ++ [' '] := by
  cases k <;> decide

theorem symbols_join (k : Keyword) (f g : Formula) (r : List Char) :
    (join k f g).symbols ++ r =
      '(' :: (f.symbols ++ ')' :: ((' ' :: k.operator ++ [' ']) ++ '(' ::
        (g.symbols ++ ')' :: r))) := by
  simp [symbols, spelled]

theorem balancedFrom_symbols (f : Formula) (d : Nat) (r : List Char) :
    balancedFrom d (f.symbols ++ r) = balancedFrom d r := by
  induction f generalizing d r with
  | compare v op n => exact balancedFrom_append (no_parentheses_compare v op n) d r
  | join k f g ihf ihg =>
    rw [symbols_join, balancedFrom_open, ihf, balancedFrom_close,
      balancedFrom_append (no_parentheses_operator k), balancedFrom_open, ihg, balancedFrom_close]

theorem tooDeepFrom_symbols (f : Formula) (d : Nat) (hd : d + f.depth ≤ maxDepth) (r : List Char) :
    tooDeepFrom d (f.symbols ++ r) = tooDeepFrom d r := by
  induction f generalizing d r with
  | compare v op n => exact tooDeepFrom_append (no_parentheses_compare v op n) d r
  | join k f g ihf ihg =>
    rw [depth] at hd
    have hopen (t : List Char) : tooDeepFrom d ('(' :: t) = tooDeepFrom (d + 1) t := by
      have hlt : ¬ maxDepth < d + 1 := by omega
      rw [tooDeepFrom_open, decide_eq_false hlt, Bool.false_or]
    have hclose (t : List Char) : tooDeepFrom (d + 1) (')' :: t) = tooDeepFrom d t :=
      tooDeepFrom_close (d + 1) t
    rw [symbols_join, hopen, ihf (d + 1) (by omega), hclose,
      tooDeepFrom_append (no_parentheses_operator k), hopen, ihg (d + 1) (by omega), hclose]

end Formula

end ConditionRegistry
