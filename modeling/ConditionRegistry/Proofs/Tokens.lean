import ConditionRegistry.Language.Literal
import ConditionRegistry.Proofs.NormalForm
import Mathlib.Data.List.TakeWhile

set_option autoImplicit false

/-!
# Cutting texts into tokens

A text is cut gap by gap and token by token; what has been cut off plays no part in how the rest is
cut.
-/

namespace ConditionRegistry.Language

theorem tokensAfter_eq (n : Nat) (s : List Char) : tokensAfter n s = tokens? (s.drop n) := by
  induction s generalizing n with
  | nil => cases n <;> rfl
  | cons c r ih =>
    cases n with
    | zero => rfl
    | succ n => exact ih n

theorem tokens?_of_gap {s : List Char} (h : gapLength s ≠ 0) :
    tokens? s = tokens? (s.drop (gapLength s)) := by
  cases s with
  | nil => exact absurd rfl h
  | cons c r =>
    obtain ⟨n, hn⟩ := Nat.exists_eq_succ_of_ne_zero h
    rw [hn, List.drop_succ_cons, ← tokensAfter_eq]
    simp only [tokens?, tokensAfter, hn]

theorem tokens?_of_lexeme {s : List Char} {t : Token} {n : Nat} (hgap : gapLength s = 0)
    (h : lexeme? s = some (t, n + 1)) : tokens? s = (tokens? (s.drop (n + 1))).map (t :: ·) := by
  cases s with
  | nil => cases h
  | cons c r =>
    rw [List.drop_succ_cons, ← tokensAfter_eq]
    simp only [tokens?, tokensAfter, hgap, h]
    rfl

theorem tokens?_of_none {s : List Char} (hs : s ≠ []) (hgap : gapLength s = 0)
    (h : lexeme? s = none) : tokens? s = none := by
  cases s with
  | nil => exact absurd rfl hs
  | cons c r => simp only [tokens?, tokensAfter, hgap, h]

/-- `s` is cut into `ts` before `r`. -/
def ReadsAs (s : List Char) (ts : List Token) (r : List Char) : Prop :=
  tokens? (s ++ r) = (tokens? r).map (ts ++ ·)

namespace ReadsAs
variable {s t r : List Char} {ts us : List Token}

theorem append (hs : ReadsAs s ts (t ++ r)) (ht : ReadsAs t us r) :
    ReadsAs (s ++ t) (ts ++ us) r := by
  unfold ReadsAs at hs ht ⊢
  rw [List.append_assoc, hs, ht, Option.map_map]
  congr 1
  funext vs
  exact (List.append_assoc ts us vs).symm

theorem of_lexeme {a : Token} (hs : s ≠ []) (hgap : gapLength (s ++ r) = 0)
    (h : lexeme? (s ++ r) = some (a, s.length)) : ReadsAs s [a] r := by
  obtain ⟨n, hn⟩ := Nat.exists_eq_succ_of_ne_zero (List.length_pos_iff.2 hs).ne'
  rw [hn] at h
  unfold ReadsAs
  rw [tokens?_of_lexeme hgap h, ← Nat.succ_eq_add_one, ← hn, List.drop_left]
  rfl

theorem nil (r : List Char) : ReadsAs [] [] r := by
  unfold ReadsAs
  cases h : tokens? r <;> simp [h]

theorem tokens?_eq (h : ReadsAs s ts []) : tokens? s = some ts := by
  unfold ReadsAs at h
  rw [List.append_nil] at h
  rw [h]
  exact congrArg some (List.append_nil ts)

theorem space (h : ReadsAs s ts r) : ReadsAs (' ' :: s) ts r :=
  (tokens?_of_gap (s := ' ' :: (s ++ r)) Nat.one_ne_zero).trans h

theorem openParen (h : ReadsAs s ts r) : ReadsAs ('(' :: s) (.symbol .openParen :: ts) r :=
  append (s := ['(']) (of_lexeme (List.cons_ne_nil _ _) rfl rfl) h

theorem operator (k : Keyword) (r : List Char) : ReadsAs k.operator [.symbol k.symbol] r := by
  cases k <;> exact .of_lexeme (List.cons_ne_nil _ _) rfl rfl

theorem closeParen (h : ReadsAs s ts r) : ReadsAs (')' :: s) (.symbol .closeParen :: ts) r :=
  append (s := [')']) (of_lexeme (List.cons_ne_nil _ _) rfl rfl) h

end ReadsAs

/-! ### Which lexeme it can be -/

theorem ne_of_class {p : Char → Bool} {c d : Char} (hc : p c = true) (hd : p d = false) :
    c ≠ d := by
  rintro rfl
  rw [hc] at hd
  cases hd

theorem gapLength_cons {c : Char} (h : c ≠ '/') (r : List Char) :
    gapLength (c :: r) = if isSpace c then 1 else 0 := by
  unfold gapLength
  split
  · rename_i heq
    injection heq with hc _
    exact absurd hc h
  · rename_i heq
    injection heq with hc _
    rw [hc]
  · rename_i heq
    cases heq

theorem gapLength_of_isNameChar {c : Char} (h : isNameChar c = true) (r : List Char) :
    gapLength (c :: r) = 0 := by
  have hspace : isSpace c = false := by
    have h1 : c ≠ ' ' := ne_of_class h (by decide)
    have h2 : c ≠ '\t' := ne_of_class h (by decide)
    have h3 : c ≠ '\n' := ne_of_class h (by decide)
    have h4 : c ≠ '\r' := ne_of_class h (by decide)
    have h5 : c ≠ Char.ofNat 12 := ne_of_class h (by decide)
    simp [isSpace, h1, h2, h3, h4, h5]
  rw [gapLength_cons (ne_of_class h (by decide)), hspace]
  rfl

theorem isMark_of_isNameChar {c : Char} (h : isNameChar c = true) : isMark c = false := by
  have h1 : c ≠ '"' := ne_of_class h (by decide)
  have h2 : c ≠ '\'' := ne_of_class h (by decide)
  simp [isMark, h1, h2]

theorem stringLength?_eq_none {raw : Bool} {s : List Char} (h : ∀ c ∈ s.head?, isMark c = false) :
    stringLength? raw s = none := by
  cases s with
  | nil => rfl
  | cons c r =>
    have hc : (c == '"' || c == '\'') = false := h c rfl
    rw [stringLength?, hc]
    rfl

theorem prefixedLength?_eq_none {s : List Char} (h : ∀ c ∈ s.take 2, isMark c = false) :
    prefixedLength? s = none := by
  cases s with
  | nil => rfl
  | cons c r =>
    have hc : stringLength? false (c :: r) = none :=
      stringLength?_eq_none fun d hd => h d (by cases hd; simp)
    have hr : stringLength? true r = none := stringLength?_eq_none fun d hd => h d (by
      cases r with
      | nil => cases hd
      | cons e t => cases hd; simp)
    rw [prefixedLength?, hc, hr]
    split <;> rfl

theorem string?_eq_none {s : List Char} (h : ∀ c ∈ s.take 3, isMark c = false) :
    string? s = none := by
  cases s with
  | nil => rfl
  | cons c r =>
    have hs : prefixedLength? (c :: r) = none := prefixedLength?_eq_none fun d hd =>
      h d (List.take_subset_take_left _ (by decide) hd)
    have hr : prefixedLength? r = none := prefixedLength?_eq_none fun d hd =>
      h d (by simp [hd])
    simp only [string?, hs, hr, Option.map_none, ite_self]

theorem string?_cons_eq_none {c : Char} (h : c ∉ ['b', 'B', 'r', 'R', '"', '\'']) (r : List Char) :
    string? (c :: r) = none := by
  simp only [List.mem_cons, List.not_mem_nil, not_or, or_false] at h
  simp [string?, prefixedLength?, stringLength?, h]

theorem takeWhile_append_stop {p : Char → Bool} {w r : List Char} (hall : w.all p = true)
    (hr : ∀ c ∈ r.head?, p c = false) : (w ++ r).takeWhile p = w := by
  rw [List.takeWhile_append_of_pos (List.all_eq_true.1 hall)]
  cases r with
  | nil => simp
  | cons c t =>
    have hc := hr c rfl
    simp [hc]

theorem exists_span (p : Char → Bool) (s : List Char) :
    ∃ u v, s = u ++ v ∧ u.all p = true ∧ ∀ c ∈ v.head?, p c = false :=
  ⟨s.takeWhile p, s.dropWhile p, (List.takeWhile_append_dropWhile).symm,
    List.all_eq_true.2 fun _ hc => List.mem_takeWhile_imp hc, fun _ hc => Text.head?_dropWhile hc⟩

theorem word?_append {w r : List Char} (hstart : w.head?.any isNameStart = true)
    (hall : w.all isNameChar = true) (hr : ∀ c ∈ r.head?, isNameChar c = false) :
    word? (w ++ r) = some (word w, w.length) := by
  cases w with
  | nil => cases hstart
  | cons c t =>
    have hc : isNameStart c = true := hstart
    have htake := takeWhile_append_stop hall hr
    rw [List.cons_append] at htake ⊢
    simp only [word?, hc, if_true, htake]

theorem word?_cons_eq_none {c : Char} (h : isNameStart c = false) (r : List Char) :
    word? (c :: r) = none := by
  rw [word?, h]
  rfl

theorem number?_append {ds r : List Char} (hne : ds ≠ []) (hall : ds.all Char.isDigit = true)
    (hr : ∀ c ∈ r.head?, c.isDigit = false ∧ c ∉ ['.', 'e', 'E', 'x', 'u', 'U']) :
    number? (ds ++ r) = some (.integer ds, ds.length) := by
  have hwhole : digitCount (ds ++ r) = ds.length := by
    rw [digitCount, takeWhile_append_stop hall fun c hc => (hr c hc).1]
  have hfraction : fractionLength r = 0 := by
    unfold fractionLength
    split
    · exact absurd (by simp) (hr '.' rfl).2
    · rfl
  have hexponent : exponentLength r = 0 := by
    cases r with
    | nil => rfl
    | cons c t =>
      have hc := (hr c rfl).2
      simp only [List.mem_cons, List.not_mem_nil, not_or, or_false] at hc
      simp [exponentLength, hc]
  have hhex : hexadecimalLength (ds ++ r) = 0 := by
    unfold hexadecimalLength
    split
    · rename_i t ht
      cases ds with
      | nil => exact absurd rfl hne
      | cons d ds' =>
        injection ht with hd ht
        cases ds' with
        | nil =>
          subst ht
          exact absurd (by simp) (hr 'x' rfl).2
        | cons e ds'' =>
          injection ht with he _
          subst he
          simp at hall
    · rfl
  have hsuffix : suffixed (ds ++ r) ds.length = (.integer ds, ds.length) := by
    unfold suffixed
    rw [List.drop_left, List.take_left]
    cases r with
    | nil => rfl
    | cons c t =>
      have hc := (hr c rfl).2
      simp only [List.mem_cons, List.not_mem_nil, not_or, or_false] at hc
      simp [hc]
  have hlength : ds.length ≠ 0 := by simpa using hne
  simp only [number?, hwhole, List.drop_left, hfraction, Nat.add_zero, hexponent, hhex, hsuffix,
    hlength, Nat.lt_irrefl, if_false, if_true]

end ConditionRegistry.Language
