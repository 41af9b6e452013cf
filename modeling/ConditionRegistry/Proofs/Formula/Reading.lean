import ConditionRegistry.Proofs.Formula.Spelling
import ConditionRegistry.Proofs.Tokens

set_option autoImplicit false

/-!
# How a formula is read

The normal form of a formula is cut into the tokens that it is written with, and they are read as
the expression that it stands for.
-/

open ConditionRegistry.Language

namespace ConditionRegistry
open Decimal

/-! ### Tokens -/

def numberTokens (n : Int) : List Token :=
  (if n < 0 then [.symbol .minus] else []) ++ [.integer (Nat.toDigits 10 n.natAbs)]

namespace Formula

def tokens : Formula → List Token
  | .compare v op n => .name v.name :: .symbol op.symbol :: numberTokens n.toInt
  | .join k f g =>
    .symbol .openParen :: f.tokens ++
      (.symbol .closeParen :: .symbol k.symbol :: .symbol .openParen :: g.tokens ++
        [.symbol .closeParen])

end Formula

/-- What can follow a formula. -/
def Closes (r : List Char) : Prop := ∀ c ∈ r.head?, c = ')'

theorem readsAs_sign (op : Comparison) {r : List Char} (hr : r.head? = some ' ') :
    ReadsAs op.sign [.symbol op.symbol] r := by
  cases r with
  | nil => cases hr
  | cons c t =>
    injection hr with hc
    subst hc
    cases op <;> exact .of_lexeme (List.cons_ne_nil _ _) rfl rfl

theorem word_eq_name (v : Identifier) : word v.chars = .name v.name := by
  have hne : ∀ w ∈ reservedWords, (String.ofList v.chars == String.ofList w) = false := by
    intro w hw
    refine beq_false_of_ne fun h => v.free ?_
    rw [String.ofList_inj.1 h]
    exact hw
  have hin := hne ['i', 'n'] (by decide)
  have htrue := hne ['t', 'r', 'u', 'e'] (by decide)
  have hfalse := hne ['f', 'a', 'l', 's', 'e'] (by decide)
  have hnull := hne ['n', 'u', 'l', 'l'] (by decide)
  unfold word
  simp only [hin, htrue, hfalse, hnull]
  rfl

/-- An identifier ends where no name goes on. No mark of a string may be near, since some letters
    also begin strings. -/
theorem Identifier.readsAs (v : Identifier) {r : List Char}
    (hend : ∀ c ∈ r.head?, isNameChar c = false) (hmark : ∀ c ∈ r.take 2, isMark c = false) :
    ReadsAs v.chars [.name v.name] r := by
  obtain ⟨c, t, hv, hc⟩ := v.exists_cons
  have hname : ∀ d ∈ v.chars, isNameChar d = true := List.all_eq_true.1 v.continues
  have hgap : gapLength (v.chars ++ r) = 0 := by
    rw [hv]
    exact gapLength_of_isNameChar (hname c (by rw [hv]; exact List.mem_cons_self)) _
  have hpos : 0 < v.chars.length := by simp [hv]
  have hstring : string? (v.chars ++ r) = none := by
    refine string?_eq_none fun d hd => ?_
    rw [List.take_append, List.mem_append] at hd
    rcases hd with hd | hd
    · exact isMark_of_isNameChar (hname d (List.take_subset _ _ hd))
    · exact hmark d (List.take_subset_take_left _ (by omega) hd)
  have hword : word? (v.chars ++ r) = some (word v.chars, v.chars.length) :=
    word?_append v.starts v.continues hend
  refine .of_lexeme (by rw [hv]; exact List.cons_ne_nil _ _) hgap ?_
  rw [lexeme?, hstring, hword, word_eq_name]
  rfl

theorem readsAs_name (v : Identifier) (op : Comparison) {r : List Char}
    (hr : ' ' :: op.sign <+: r) : ReadsAs v.chars [.name v.name] r := by
  obtain ⟨u, rfl⟩ := hr
  refine v.readsAs (fun d hd => by cases hd; decide) fun d hd => ?_
  have hsign : (' ' :: op.sign ++ u).take 2 = (' ' :: op.sign).take 2 := by cases op <;> rfl
  rw [hsign] at hd
  have hmarks : ((' ' :: op.sign).take 2).all (fun d => !isMark d) = true := by
    cases op <;> decide
  simpa using List.all_eq_true.1 hmarks d hd

theorem isNameStart_of_isDigit {c : Char} (h : c.isDigit = true) : isNameStart c = false := by
  have hne : c ≠ '_' := ne_of_class h (by decide)
  have halpha : c.isAlpha = false := by
    rw [← Bool.not_eq_true]
    intro ha
    have hdigit := toNat_of_isDigit h
    have hletter := toNat_of_isAlpha ha
    omega
  simp [isNameStart, halpha, hne]

theorem Closes.head {r : List Char} (hr : Closes r) :
    ∀ c ∈ r.head?, c.isDigit = false ∧ c ∉ ['.', 'e', 'E', 'x', 'u', 'U'] := by
  intro c hc
  rw [hr c hc]
  decide

theorem readsAs_digits (n : Nat) {r : List Char} (hr : Closes r) :
    ReadsAs (Nat.toDigits 10 n) [.integer (Nat.toDigits 10 n)] r := by
  obtain ⟨c, t, hd, hc⟩ := exists_cons_toDigits n
  have hall : (Nat.toDigits 10 n).all Char.isDigit = true :=
    List.all_eq_true.2 fun d => isDigit_of_mem_toDigits
  have hgap : gapLength (Nat.toDigits 10 n ++ r) = 0 := by
    rw [hd]
    exact gapLength_of_isNameChar (isNameChar_of_isDigit hc) _
  have hstring : string? (Nat.toDigits 10 n ++ r) = none := by
    have hb : c ∉ ['b', 'B', 'r', 'R', '"', '\''] := by
      intro hmem
      have hno : ['b', 'B', 'r', 'R', '"', '\''].all (fun d => !d.isDigit) = true := by decide
      have hfalse := List.all_eq_true.1 hno c hmem
      rw [hc] at hfalse
      cases hfalse
    rw [hd]
    exact string?_cons_eq_none hb _
  have hword : word? (Nat.toDigits 10 n ++ r) = none := by
    rw [hd]
    exact word?_cons_eq_none (isNameStart_of_isDigit hc) _
  refine .of_lexeme Nat.toDigits_ne_nil hgap ?_
  rw [lexeme?, hstring, hword, number?_append Nat.toDigits_ne_nil hall hr.head]
  rfl

theorem readsAs_number (n : Int) {r : List Char} (hr : Closes r) :
    ReadsAs (integerText n) (numberTokens n) r := by
  have hdigits := readsAs_digits n.natAbs hr
  rw [integerText_eq, numberTokens]
  split
  · refine .append (.of_lexeme (List.cons_ne_nil _ _) ?_ ?_) hdigits
    · obtain ⟨c, t, hd, hc⟩ := exists_cons_toDigits n.natAbs
      rw [hd]
      rfl
    · rfl
  · exact hdigits

namespace Formula

theorem readsAs_symbols (f : Formula) {r : List Char} (hr : Closes r) :
    ReadsAs f.symbols f.tokens r := by
  induction f generalizing r with
  | compare v op n =>
    have hsign : ' ' :: op.sign <+: (' ' :: op.sign ++ ' ' :: integerText n.toInt) ++ r := by
      rw [List.append_assoc]
      exact List.prefix_append _ _
    exact (readsAs_name v op hsign).append
      ((readsAs_sign op rfl).append (readsAs_number n.toInt hr).space).space
  | join k f g ihf ihg =>
    have hparen : ∀ t, Closes (')' :: t) := by
      rintro t c hc
      cases hc
      rfl
    have hend : ReadsAs (g.symbols ++ [')']) (g.tokens ++ [.symbol .closeParen]) r :=
      (ihg (hparen r)).append (ReadsAs.closeParen (.nil r))
    exact ((ihf (hparen _)).append
      ((ReadsAs.operator k _).append hend.openParen.space).space.closeParen).openParen

end Formula

end ConditionRegistry
