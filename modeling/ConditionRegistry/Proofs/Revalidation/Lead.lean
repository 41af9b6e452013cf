import ConditionRegistry.Proofs.NormalForm
import ConditionRegistry.Proofs.Tokens
import Mathlib.Tactic.SplitIfs

set_option autoImplicit false

/-!
# What stands before the first space

Replacing changes nothing up to the first space of a text, and most tokens are found there: none but
strings and names between backticks can have a space in them.
-/

open ConditionRegistry.Language

namespace ConditionRegistry

/-- The same text up to the first space, and a space in both or in none. -/
inductive SameLead : List Char → List Char → Prop
  | nil : SameLead [] []
  | space (r t : List Char) : SameLead (' ' :: r) (' ' :: t)
  | cons {c : Char} {r t : List Char} (hc : c ≠ ' ') (h : SameLead r t) :
    SameLead (c :: r) (c :: t)

theorem Keyword.sameLead_replace (k : Keyword) (s : List Char) : SameLead s (k.replace s) := by
  induction s using k.reading with
  | nil =>
    rw [k.replace_nil]
    exact .nil
  | spaced r =>
    rw [k.replace_spaced]
    exact .space _ _
  | cons c r hp ih =>
    rw [k.replace_cons c r hp]
    by_cases hc : c = ' '
    · subst hc
      exact .space _ _
    · exact .cons hc ih

theorem symbol?_cons_cons (c d : Char) (r t : List Char) :
    symbol? (c :: d :: r) = symbol? (c :: d :: t) := by
  by_cases hequal : c ∈ ['<', '>', '=', '!']
  · simp only [List.mem_cons, List.not_mem_nil, or_false] at hequal
    by_cases hd : d = '='
    · subst hd
      rcases hequal with rfl | rfl | rfl | rfl <;> rfl
    · rcases hequal with rfl | rfl | rfl | rfl <;> simp [symbol?, hd]
  by_cases hand : c = '&'
  · subst hand
    by_cases hd : d = '&'
    · subst hd; rfl
    · simp [symbol?, hd]
  by_cases hor : c = '|'
  · subst hor
    by_cases hd : d = '|'
    · subst hd; rfl
    · simp [symbol?, hd]
  have hsingle : ∀ r, symbol? (c :: d :: r) = symbol? [c] := by
    intro r
    by_cases h : c ∈ ['*', '/', '%', '+', '-', '?', ':', '.', ',', '(', ')', '[', ']']
    · simp only [List.mem_cons, List.not_mem_nil, or_false] at h
      rcases h with rfl | rfl | rfl | rfl | rfl | rfl | rfl | rfl | rfl | rfl | rfl | rfl | rfl <;>
        rfl
    · simp only [List.mem_cons, List.not_mem_nil, or_false, not_or] at h hequal
      simp [symbol?, hequal, hand, hor, h]
  rw [hsingle, hsingle]

theorem hexadecimalLength_eq_zero {s : List Char} (h : ¬ ['0', 'x'] <+: s) :
    hexadecimalLength s = 0 := by
  unfold hexadecimalLength
  split
  · exact absurd ⟨_, rfl⟩ h
  · rfl

namespace SameLead
variable {s t : List Char}

theorem symm (h : SameLead s t) : SameLead t s := by
  induction h with
  | nil => exact .nil
  | space r t => exact .space t r
  | cons hc _ ih => exact .cons hc ih

theorem head?_eq (h : SameLead s t) : s.head? = t.head? := by
  cases h <;> rfl

theorem takeWhile_eq (h : SameLead s t) {p : Char → Bool} (hp : p ' ' = false) :
    s.takeWhile p = t.takeWhile p := by
  induction h with
  | nil => rfl
  | space r t => rw [List.takeWhile_cons, List.takeWhile_cons, hp]; rfl
  | cons _ _ ih => rw [List.takeWhile_cons, List.takeWhile_cons, ih]

theorem take_drop (h : SameLead s t) {n : Nat} (hn : ' ' ∉ s.take n) :
    s.take n = t.take n ∧ SameLead (s.drop n) (t.drop n) := by
  induction n generalizing s t with
  | zero => exact ⟨rfl, h⟩
  | succ n ih =>
    cases h with
    | nil => exact ⟨rfl, .nil⟩
    | space r t => exact absurd List.mem_cons_self hn
    | cons hc h =>
      obtain ⟨htake, hdrop⟩ := ih h fun hmem => hn (List.mem_cons_of_mem _ hmem)
      exact ⟨by rw [List.take_succ_cons, List.take_succ_cons, htake], hdrop⟩

theorem isPrefix (h : SameLead s t) {w : List Char} (hw : ' ' ∉ w.dropLast) (hs : w <+: s) :
    w <+: t := by
  induction h generalizing w with
  | nil => exact hs
  | space r t =>
    cases w with
    | nil => exact List.nil_prefix
    | cons c v =>
      obtain ⟨rfl, hv⟩ := List.cons_prefix_cons.1 hs
      cases v with
      | nil => exact List.cons_prefix_cons.2 ⟨rfl, List.nil_prefix⟩
      | cons d v => exact absurd List.mem_cons_self hw
  | cons hc h ih =>
    cases w with
    | nil => exact List.nil_prefix
    | cons c v =>
      obtain ⟨rfl, hv⟩ := List.cons_prefix_cons.1 hs
      refine List.cons_prefix_cons.2 ⟨rfl, ih ?_ hv⟩
      cases v with
      | nil => exact List.not_mem_nil
      | cons d v => exact fun hmem => hw (List.mem_cons_of_mem _ hmem)

theorem isPrefix_iff (h : SameLead s t) {w : List Char} (hw : ' ' ∉ w.dropLast) :
    w <+: s ↔ w <+: t :=
  ⟨h.isPrefix hw, h.symm.isPrefix hw⟩

/-! ### Tokens -/

theorem symbol?_eq (h : SameLead s t) : symbol? s = symbol? t := by
  cases h with
  | nil => rfl
  | space r t => rfl
  | cons hc h =>
    cases h with
    | nil => rfl
    | space r t => exact symbol?_cons_cons _ _ _ _
    | cons hd h => exact symbol?_cons_cons _ _ _ _

theorem word?_eq (h : SameLead s t) : word? s = word? t := by
  have htake := h.takeWhile_eq (p := isNameChar) (by decide)
  cases h with
  | nil => rfl
  | space r t => rfl
  | cons hc h => simp only [word?, htake]

theorem digitCount_eq (h : SameLead s t) : digitCount s = digitCount t := by
  rw [digitCount, digitCount, h.takeWhile_eq (by decide)]

theorem fractionLength_eq (h : SameLead s t) : fractionLength s = fractionLength t := by
  cases h with
  | nil => rfl
  | space r t => rfl
  | cons hc h =>
    rename_i c r t
    by_cases hdot : c = '.'
    · subst hdot
      simp only [fractionLength, h.digitCount_eq]
    · simp [fractionLength, hdot]

theorem exponentLength_eq (h : SameLead s t) : exponentLength s = exponentLength t := by
  cases h with
  | nil => rfl
  | space r t => rfl
  | cons hc h =>
    rename_i c r t
    cases h with
    | nil => rfl
    | space r t => rfl
    | cons hd h =>
      rename_i d r t
      have hdigits := h.digitCount_eq
      have hdigits' := (SameLead.cons hd h).digitCount_eq
      by_cases hsign : (d == '+' || d == '-') = true
      · simp only [exponentLength, hsign, if_true, List.drop_succ_cons, List.drop_zero, hdigits]
      · simp only [exponentLength, hsign, Bool.false_eq_true, if_false, List.drop_zero, hdigits']

theorem hexadecimalLength_eq (h : SameLead s t) : hexadecimalLength s = hexadecimalLength t := by
  by_cases hx : ['0', 'x'] <+: s
  · obtain ⟨r, rfl⟩ := hx
    cases h with
    | cons _ h =>
      cases h with
      | cons _ h =>
        have hr : SameLead r _ := h
        have hdigits := hr.takeWhile_eq (p := isHexDigit) (by decide)
        simp only [List.cons_append, List.nil_append, hexadecimalLength, hdigits]
  · rw [hexadecimalLength_eq_zero hx,
      hexadecimalLength_eq_zero fun ht => hx (h.symm.isPrefix (by decide) ht)]

end SameLead

/-! ### The characters of numbers -/

def watchedChars : List Char := ['=', '&', '|', '(', ')']

/-- Characters that no name and no number has. -/
def guardedChars : List Char := ' ' :: watchedChars

def isPlainChar (c : Char) : Bool := !guardedChars.contains c

def PlainTo (s : List Char) (n : Nat) : Prop :=
  n ≤ s.length ∧ (s.take n).all isPlainChar = true

theorem notMem_of_class {p : Char → Bool} {w : List Char} (hw : w.any p = false) {c : Char}
    (hc : p c = true) : c ∉ w := by
  intro hmem
  rw [List.any_eq_true.2 ⟨c, hmem, hc⟩] at hw
  cases hw

theorem isPlainChar_of_class {p : Char → Bool} (hp : guardedChars.any p = false) {c : Char}
    (hc : p c = true) : isPlainChar c = true := by
  simp [isPlainChar, notMem_of_class hp hc]

namespace PlainTo
variable {s : List Char} {m n : Nat}

theorem zero (s : List Char) : PlainTo s 0 := ⟨Nat.zero_le _, rfl⟩

theorem cons {c : Char} (hc : isPlainChar c = true) (h : PlainTo s n) :
    PlainTo (c :: s) (n + 1) := by
  refine ⟨Nat.succ_le_succ h.1, ?_⟩
  rw [List.take_succ_cons, List.all_cons, hc, h.2]
  rfl

theorem add (hm : PlainTo s m) (hn : PlainTo (s.drop m) n) : PlainTo s (m + n) := by
  have hlength := hn.1
  have hbound := hm.1
  rw [List.length_drop] at hlength
  refine ⟨by omega, ?_⟩
  rw [List.take_add, List.all_append, hm.2, hn.2]
  rfl

theorem notMem_of_guarded (h : PlainTo s n) {c : Char} (hc : c ∈ guardedChars) :
    c ∉ s.take n := by
  intro hmem
  have hplain := List.all_eq_true.1 h.2 c hmem
  simp [isPlainChar, hc] at hplain

theorem notMem (h : PlainTo s n) : ' ' ∉ s.take n := h.notMem_of_guarded List.mem_cons_self

theorem takeWhile {p : Char → Bool} (hp : guardedChars.any p = false) (s : List Char) :
    PlainTo s (s.takeWhile p).length := by
  refine ⟨(List.takeWhile_prefix p).length_le, ?_⟩
  rw [← List.prefix_iff_eq_take.1 (List.takeWhile_prefix p), List.all_eq_true]
  intro c hc
  exact isPlainChar_of_class hp (List.mem_takeWhile_imp hc)

theorem digits (s : List Char) : PlainTo s (digitCount s) :=
  takeWhile (by decide) s

theorem fraction (s : List Char) : PlainTo s (fractionLength s) := by
  unfold fractionLength
  split
  · split
    · exact zero _
    · exact (digits _).cons rfl
  · exact zero _

theorem exponent (s : List Char) : PlainTo s (exponentLength s) := by
  cases s with
  | nil => exact zero _
  | cons c r =>
    by_cases hmark : (c == 'e' || c == 'E') = true
    · have hc : isPlainChar c = true :=
        isPlainChar_of_class (p := fun c => c == 'e' || c == 'E') (by decide) hmark
      cases r with
      | nil =>
        simp only [exponentLength, hmark, if_true]
        exact zero _
      | cons d t =>
        by_cases hd : (d == '+' || d == '-') = true
        · have hplain : isPlainChar d = true :=
            isPlainChar_of_class (p := fun d => d == '+' || d == '-') (by decide) hd
          simp only [exponentLength, hmark, if_true, hd, List.drop_succ_cons, List.drop_zero]
          split
          · exact zero _
          · rw [Nat.add_comm]
            exact ((digits t).cons hplain).cons hc
        · simp only [exponentLength, hmark, if_true, hd, Bool.false_eq_true, if_false,
            List.drop_zero]
          split
          · exact zero _
          · rw [Nat.add_comm]
            exact (digits _).cons hc
    · simp only [exponentLength, hmark, Bool.false_eq_true, if_false]
      exact zero _

theorem hexadecimal (s : List Char) : PlainTo s (hexadecimalLength s) := by
  unfold hexadecimalLength
  split
  · rename_i r
    split
    · exact zero _
    · have hdigits : PlainTo r (r.takeWhile isHexDigit).length :=
        takeWhile (by decide) r
      exact (hdigits.cons rfl).cons rfl
  · exact zero _

end PlainTo

theorem SameLead.suffixed_eq {s t : List Char} (h : SameLead s t) {n : Nat} (hn : PlainTo s n) :
    suffixed s n = suffixed t n := by
  obtain ⟨htake, hdrop⟩ := h.take_drop hn.notMem
  have hhead := hdrop.head?_eq
  unfold suffixed
  rw [htake]
  cases hs : s.drop n with
  | nil =>
    cases ht : t.drop n with
    | nil => rfl
    | cons d u => rw [hs, ht] at hhead; cases hhead
  | cons c r =>
    cases ht : t.drop n with
    | nil => rw [hs, ht] at hhead; cases hhead
    | cons d u =>
      rw [hs, ht] at hhead
      cases hhead
      rfl

theorem SameLead.number?_eq {s t : List Char} (h : SameLead s t) : number? s = number? t := by
  have hwhole := PlainTo.digits s
  have hrest := hwhole.add (.fraction _)
  have hall := hrest.add (.exponent _)
  obtain ⟨-, hfraction⟩ := h.take_drop hwhole.notMem
  obtain ⟨-, hexponent⟩ := h.take_drop hrest.notMem
  obtain ⟨htake, -⟩ := h.take_drop hall.notMem
  simp only [number?, htake, h.suffixed_eq hwhole, h.suffixed_eq (.hexadecimal s)]
  rw [← h.digitCount_eq, ← h.hexadecimalLength_eq, ← hfraction.fractionLength_eq,
    ← hexponent.exponentLength_eq]

/-! ### Plain lexemes -/

def isQuoted : Token → Bool
  | .string _ | .bytes _ => true
  | _ => false

/-- A lexeme that the first space and the first mark of a keyword come after. -/
structure PlainLexeme (s : List Char) (l : Lexeme) : Prop where
  length : l.2 ≠ 0
  chars : PlainTo s l.2
  token : isQuoted l.1 = false

theorem word?_plain {s : List Char} {l : Lexeme} (h : word? s = some l) : PlainLexeme s l := by
  cases s with
  | nil => cases h
  | cons c r =>
    cases hc : isNameStart c with
    | false => rw [word?_cons_eq_none hc] at h; cases h
    | true =>
      simp only [word?, hc, if_true, Option.some.injEq] at h
      subst h
      have hchar : isNameChar c = true := by
        simp only [isNameStart, Bool.or_eq_true] at hc
        rcases hc with hc | hc
        · simp [isNameChar, Char.isAlphanum, hc]
        · simp [isNameChar, hc]
      refine ⟨by simp [hchar], .takeWhile (by decide) _, ?_⟩
      unfold word
      dsimp only
      split_ifs <;> rfl

theorem suffixed_plain {s : List Char} {n : Nat} (hn : n ≠ 0) (hall : PlainTo s n) :
    PlainLexeme s (suffixed s n) := by
  unfold suffixed
  cases hd : s.drop n with
  | nil => exact ⟨hn, hall, rfl⟩
  | cons c r =>
    dsimp only
    split
    · rename_i hc
      have hplain : isPlainChar c = true :=
        isPlainChar_of_class (p := fun c => c == 'u' || c == 'U') (by decide) hc
      refine ⟨by simp, hall.add ?_, rfl⟩
      rw [hd]
      exact (PlainTo.zero r).cons hplain
    · exact ⟨hn, hall, rfl⟩

theorem number?_plain {s : List Char} {l : Lexeme} (h : number? s = some l) : PlainLexeme s l := by
  have hall := ((PlainTo.digits s).add (.fraction _)).add (.exponent _)
  simp only [number?] at h
  split_ifs at h with hnone hfloat hhex
  · cases h
    exact ⟨by omega, hall, rfl⟩
  · cases h
    exact suffixed_plain (by omega) (.digits s)
  · cases h
    exact suffixed_plain hhex (.hexadecimal s)

/-! ### Escapes -/

theorem notMem_of_all {p : Char → Bool} (hp : p ' ' = false) {w : List Char}
    (h : w.all p = true) : ' ' ∉ w := by
  intro hmem
  rw [List.all_eq_true.1 h ' ' hmem] at hp
  cases hp

theorem SameLead.take_all_iff {s t : List Char} (h : SameLead s t) {p : Char → Bool}
    (hp : p ' ' = false) (n : Nat) :
    ((s.take n).length = n ∧ (s.take n).all p = true) ↔
      ((t.take n).length = n ∧ (t.take n).all p = true) := by
  constructor
  · rintro ⟨hlength, hall⟩
    rw [← (h.take_drop (notMem_of_all hp hall)).1]
    exact ⟨hlength, hall⟩
  · rintro ⟨hlength, hall⟩
    rw [← (h.symm.take_drop (notMem_of_all hp hall)).1]
    exact ⟨hlength, hall⟩

theorem SameLead.escapeLength?_eq {s t : List Char} (h : SameLead s t) :
    escapeLength? s = escapeLength? t := by
  cases h with
  | nil => rfl
  | space r t => rfl
  | cons hc h =>
    simp only [escapeLength?, h.take_all_iff (p := isHexDigit) (by decide),
      h.take_all_iff (p := isOctalDigit) (by decide)]

theorem escapeLength?_some {s : List Char} {n : Nat} (h : escapeLength? s = some n) :
    ' ' ∉ s.take n ∧ n ≤ s.length := by
  cases s with
  | nil => cases h
  | cons c r =>
    have hc : ' ' ≠ c := by
      rintro rfl
      have hnone : escapeLength? (' ' :: r) = none := rfl
      rw [hnone] at h
      cases h
    have hdigits : ∀ {p : Char → Bool} (m : Nat), p ' ' = false →
        ((r.take m).length = m ∧ (r.take m).all p = true) →
        ' ' ∉ (c :: r).take (m + 1) ∧ m + 1 ≤ (c :: r).length := by
      rintro p m hp ⟨hlength, hall⟩
      refine ⟨?_, ?_⟩
      · rw [List.take_succ_cons, List.mem_cons, not_or]
        exact ⟨hc, notMem_of_all hp hall⟩
      · rw [List.length_take] at hlength
        rw [List.length_cons]
        omega
    simp only [escapeLength?] at h
    split_ifs at h with h1 h2 hx h3 hu h4 hU h5 hoctal
    · cases h
      exact ⟨by simp [hc], by simp⟩
    · cases h
      exact hdigits 2 (by decide) hx
    · cases h
      exact hdigits 4 (by decide) hu
    · cases h
      exact hdigits 8 (by decide) hU
    · cases h
      exact hdigits 2 (by decide) hoctal

end ConditionRegistry
