import ConditionRegistry.Language.Token
import ConditionRegistry.NormalForm
import Mathlib.Data.List.Infix

set_option autoImplicit false

/-!
# Normal forms and keywords

Both replacements obey the same two rules: a keyword between spaces gives way to its operator, and
any other character is kept. What follows from the rules is said once for both. A normal form is
its own normal form exactly if no keyword stands between spaces in it.
-/

namespace ConditionRegistry
open Text

inductive Keyword where
  | or
  | and
  deriving DecidableEq, Repr

namespace Keyword

def word : Keyword → List Char
  | .or => ['O', 'R']
  | .and => ['A', 'N', 'D']

def mark : Keyword → Char
  | .or => '|'
  | .and => '&'

def operator (k : Keyword) : List Char := [k.mark, k.mark]

def symbol : Keyword → Language.Symbol
  | .or => .or
  | .and => .and

def spaced (k : Keyword) : List Char := ' ' :: k.word ++ [' ']

def replace : Keyword → List Char → List Char
  | .or => replaceOr
  | .and => replaceAnd

theorem normalChars_eq (s : List Char) :
    normalChars s = trim (Keyword.and.replace (Keyword.or.replace s)) := rfl

variable (k : Keyword)

/-! ### The two rules -/

theorem replace_nil : k.replace [] = [] := by
  cases k <;> rfl

theorem replace_spaced (r : List Char) :
    k.replace (k.spaced ++ r) = ' ' :: k.operator ++ ' ' :: k.replace r := by
  cases k <;> rfl

theorem replace_spaced_append (r : List Char) :
    k.replace (k.spaced ++ r) = (' ' :: k.operator ++ [' ']) ++ k.replace r := by
  cases k <;> rfl

theorem replace_cons (c : Char) (r : List Char) (h : ¬ k.spaced <+: c :: r) :
    k.replace (c :: r) = c :: k.replace r := by
  cases k with
  | or =>
    change replaceOr (c :: r) = c :: replaceOr r
    rw [replaceOr]
    rintro t rfl rfl
    exact h ⟨t, rfl⟩
  | and =>
    change replaceAnd (c :: r) = c :: replaceAnd r
    rw [replaceAnd]
    rintro t rfl rfl
    exact h ⟨t, rfl⟩

theorem not_spaced_of_ne {c : Char} (h : c ≠ ' ') (r : List Char) : ¬ k.spaced <+: c :: r := by
  intro hp
  exact h (List.cons_prefix_cons.1 hp).1.symm

theorem replace_append {s : List Char} (h : ' ' ∉ s) (r : List Char) :
    k.replace (s ++ r) = s ++ k.replace r := by
  induction s with
  | nil => rfl
  | cons c t ih =>
    rw [List.mem_cons, not_or] at h
    rw [List.cons_append, k.replace_cons c _ (k.not_spaced_of_ne (Ne.symm h.1) _), ih h.2]
    rfl

theorem replace_of_notMem {s : List Char} (h : ' ' ∉ s) : k.replace s = s := by
  have happ := k.replace_append h []
  rwa [List.append_nil, k.replace_nil, List.append_nil] at happ

/-- Induction along a text as a replacement reads it. -/
theorem reading {P : List Char → Prop} (nil : P [])
    (spaced : ∀ r, P r → P (k.spaced ++ r))
    (cons : ∀ c r, ¬ k.spaced <+: c :: r → P r → P (c :: r)) (s : List Char) : P s := by
  induction h : s.length using Nat.strongRecOn generalizing s with
  | _ n ih =>
    subst h
    cases s with
    | nil => exact nil
    | cons c r =>
      by_cases hp : k.spaced <+: c :: r
      · obtain ⟨t, ht⟩ := hp
        rw [← ht]
        refine spaced t (ih t.length ?_ t rfl)
        rw [← ht, List.length_append, Keyword.spaced, List.length_append]
        simp only [List.length_cons]
        omega
      · exact cons c r hp (ih r.length (by simp) r rfl)

/-! ### What replacing leaves alone -/

theorem replace_eq_self (s : List Char) (h : ¬ k.spaced <:+: s) : k.replace s = s := by
  induction s with
  | nil => exact k.replace_nil
  | cons c r ih =>
    rw [List.infix_cons_iff, not_or] at h
    rw [k.replace_cons c r h.1, ih h.2]

theorem isAllBlank_replace (s : List Char) : isAllBlank (k.replace s) = isAllBlank s := by
  have happend (u v : List Char) : isAllBlank (u ++ v) = (isAllBlank u && isAllBlank v) :=
    List.all_append
  induction s using k.reading with
  | nil => rw [k.replace_nil]
  | spaced r ih =>
    have hword : isAllBlank k.spaced = false := by cases k <;> decide
    have hoperator : isAllBlank (' ' :: k.operator ++ [' ']) = false := by cases k <;> decide
    rw [k.replace_spaced_append, happend _ (k.replace r), happend k.spaced, hword, hoperator]
    rfl
  | cons c r hp ih =>
    rw [k.replace_cons c r hp]
    exact congrArg (isBlank c && ·) ih

/-- A letter that the keyword has and no operator. -/
def letter : Keyword → Char
  | .or => 'O'
  | .and => 'A'

theorem count_operator_le (c : Char) (hc : c ≠ k.mark) :
    (' ' :: k.operator ++ [' ']).count c ≤ k.spaced.count c := by
  have hm : k.mark ≠ c := hc.symm
  by_cases hs : c = ' '
  · subst hs
    cases k <;> decide
  · simp [operator, hm, Ne.symm hs]

theorem count_replace_le (c : Char) (hc : c ≠ k.mark) (s : List Char) :
    (k.replace s).count c ≤ s.count c := by
  induction s using k.reading with
  | nil => rw [k.replace_nil]
  | spaced r ih =>
    have h := k.count_operator_le c hc
    rw [k.replace_spaced, List.append_cons]
    simp only [List.count_append] at h ⊢
    omega
  | cons a r hp ih =>
    rw [k.replace_cons a r hp]
    simp only [List.count_cons]
    omega

theorem count_replace_lt (s : List Char) (h : k.spaced <:+: s) :
    (k.replace s).count k.letter < s.count k.letter := by
  have hne : k.letter ≠ k.mark := by cases k <;> decide
  induction s using k.reading with
  | nil => cases k <;> simp [spaced] at h
  | spaced r =>
    have hlt : (' ' :: k.operator ++ [' ']).count k.letter < k.spaced.count k.letter := by
      cases k <;> decide
    have hr := k.count_replace_le k.letter hne r
    rw [k.replace_spaced, List.append_cons]
    simp only [List.count_append] at hlt ⊢
    omega
  | cons a r hp ih =>
    have hr := ih ((List.infix_cons_iff.1 h).resolve_left hp)
    rw [k.replace_cons a r hp]
    simp only [List.count_cons]
    omega

end Keyword

/-! ### Trimming -/

namespace Text

theorem isPrefix_trim (s : List Char) : trim s <+: trimStart s := by
  unfold trim trimEnd
  rw [← List.reverse_suffix, List.reverse_reverse]
  exact List.dropWhile_suffix _

theorem isInfix_trim (s : List Char) : trim s <:+: s :=
  (isPrefix_trim s).isInfix.trans (List.dropWhile_suffix _).isInfix

/-- A text that neither starts nor ends with white space. -/
def IsTrimmed (s : List Char) : Prop :=
  (∀ c ∈ s.head?, isBlank c = false) ∧ ∀ c ∈ s.getLast?, isBlank c = false

theorem head?_dropWhile {p : Char → Bool} {s : List Char} {c : Char}
    (h : c ∈ (s.dropWhile p).head?) : p c = false := by
  have hn := List.head?_dropWhile_not p s
  rw [Option.mem_def.1 h] at hn
  exact hn

theorem trim_eq_nil_iff (s : List Char) : trim s = [] ↔ isAllBlank s = true := by
  rw [← trimStart_eq_nil_iff]
  constructor
  · intro h
    have hend : isAllBlank (trimStart s).reverse = true := by
      rw [← trimStart_eq_nil_iff]
      exact List.reverse_eq_nil_iff.1 h
    rw [isAllBlank, List.all_reverse, ← isAllBlank] at hend
    cases hs : trimStart s with
    | nil => rfl
    | cons c r =>
      have hvisible : isBlank c = false := by
        refine head?_dropWhile (s := s) ?_
        rw [← trimStart, hs]
        rfl
      simp [hs, isAllBlank, hvisible] at hend
  · intro h
    rw [trim, h]
    rfl

theorem isTrimmed_trim (s : List Char) : IsTrimmed (trim s) := by
  constructor
  · intro c hc
    obtain ⟨t, ht⟩ := isPrefix_trim s
    refine head?_dropWhile (s := s) (c := c) ?_
    rw [← trimStart, ← ht, List.head?_append]
    rw [Option.mem_def.1 hc]
    rfl
  · intro c hc
    unfold trim trimEnd at hc
    rw [List.getLast?_reverse] at hc
    exact head?_dropWhile hc

theorem dropWhile_eq_self {p : Char → Bool} {s : List Char} (h : ∀ c ∈ s.head?, p c = false) :
    s.dropWhile p = s := by
  cases s with
  | nil => rfl
  | cons c r => simp [h c rfl]

theorem trim_eq_self {s : List Char} (h : IsTrimmed s) : trim s = s := by
  have hs : trimStart s = s := dropWhile_eq_self h.1
  unfold trim trimEnd
  rw [hs, dropWhile_eq_self, List.reverse_reverse]
  rw [List.head?_reverse]
  exact h.2

end Text

/-! ### Normal forms -/

theorem normalChars_eq_nil_iff (s : List Char) : normalChars s = [] ↔ isAllBlank s = true := by
  rw [Keyword.normalChars_eq, trim_eq_nil_iff, Keyword.isAllBlank_replace,
    Keyword.isAllBlank_replace]

theorem isTrimmed_normalChars (s : List Char) : IsTrimmed (normalChars s) := isTrimmed_trim _

/-- A text without white space at its ends is its own normal form exactly if it has no keyword
    between spaces. -/
theorem normalChars_eq_self_iff {s : List Char} (h : IsTrimmed s) :
    normalChars s = s ↔ ∀ k : Keyword, ¬ k.spaced <:+: s := by
  constructor
  · intro hs
    -- every replacement that takes place costs a letter, and nothing brings one back
    have hor : ¬ Keyword.or.spaced <:+: s := by
      intro hin
      have h1 := Keyword.or.count_replace_lt s hin
      have h2 := Keyword.and.count_replace_le Keyword.or.letter (by decide) (Keyword.or.replace s)
      have h3 := (isInfix_trim (Keyword.and.replace (Keyword.or.replace s))).sublist.count_le
        Keyword.or.letter
      rw [← Keyword.normalChars_eq, hs] at h3
      omega
    intro k
    cases k with
    | or => exact hor
    | and =>
      intro hin
      have h1 := Keyword.and.count_replace_lt s hin
      have h2 := (isInfix_trim (Keyword.and.replace s)).sublist.count_le Keyword.and.letter
      rw [Keyword.normalChars_eq, Keyword.or.replace_eq_self s hor] at hs
      rw [hs] at h2
      omega
  · intro hk
    rw [Keyword.normalChars_eq, Keyword.or.replace_eq_self s (hk .or),
      Keyword.and.replace_eq_self s (hk .and)]
    exact trim_eq_self h

theorem toList_normalForm (text : String) : (normalForm text).toList = normalChars text.toList := by
  simp [normalForm]

theorem normalForm_eq_empty_iff (text : String) :
    normalForm text = "" ↔ isAllBlank text.toList = true := by
  rw [← normalChars_eq_nil_iff, ← toList_normalForm, String.toList_eq_nil_iff]

theorem normalForm_eq_self_iff {text : String} (h : IsTrimmed text.toList) :
    normalForm text = text ↔ ∀ k : Keyword, ¬ k.spaced <:+: text.toList := by
  rw [← normalChars_eq_self_iff h, ← toList_normalForm]
  exact String.toList_inj.symm

end ConditionRegistry
