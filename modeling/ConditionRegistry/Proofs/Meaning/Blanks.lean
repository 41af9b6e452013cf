import ConditionRegistry.Proofs.Formula.Spelling
import ConditionRegistry.Proofs.Revalidation.Tokens

set_option autoImplicit false

/-!
# White space behind a text

No token depends on white space behind the text, so a text that can be cut into tokens is cut the
same with the white space at its ends removed.
-/

namespace ConditionRegistry.Language
open Text

theorem takeWhile_concat {p : Char → Bool} {c : Char} (hc : p c = false) (v : List Char) :
    (v ++ [c]).takeWhile p = v.takeWhile p := by
  induction v with
  | nil => simp [hc]
  | cons d r ih => rw [List.cons_append, List.takeWhile_cons, List.takeWhile_cons, ih]

theorem isPrefix_concat_iff {c : Char} {w : List Char} (hw : c ∉ w) (v : List Char) :
    w <+: v ++ [c] ↔ w <+: v := by
  rw [List.prefix_concat_iff]
  refine or_iff_right ?_
  rintro rfl
  exact hw (by simp)

theorem take_all_concat_iff {p : Char → Bool} {c : Char} (hp : p c = false) (v : List Char)
    (n : Nat) :
    (((v ++ [c]).take n).length = n ∧ ((v ++ [c]).take n).all p = true) ↔
      ((v.take n).length = n ∧ (v.take n).all p = true) := by
  rcases Nat.lt_or_ge v.length n with hn | hn
  · rw [List.take_of_length_le (by simpa [Nat.add_one_le_iff] using hn),
      List.take_of_length_le (Nat.le_of_lt hn)]
    constructor
    · rintro ⟨-, hall⟩
      simp [hp] at hall
    · rintro ⟨hlength, -⟩
      omega
  · rw [List.take_append_of_le_length hn]

/-! ### Cutting any text -/

theorem gapLength_le (v : List Char) : gapLength v ≤ v.length := by
  unfold gapLength
  split
  · have hbody := (List.takeWhile_prefix (l := ‹List Char›) (· != '\n')).length_le
    simp only [List.length_cons]
    omega
  · split
    · simp
    · exact Nat.zero_le _
  · exact Nat.zero_le _

theorem prefixedLength?_le {s : List Char} {n : Nat} (h : prefixedLength? s = some n) :
    n ≤ s.length := by
  cases carried_prefixedLength? .or s with
  | missing hnone =>
    rw [hnone] at h
    cases h
  | found u v hs hlength =>
    rw [hlength] at h
    cases h
    rw [hs, List.length_append]
    omega

theorem escaped?_length {s : List Char} {a : Token} {n : Nat} (h : escaped? s = some (a, n)) :
    n ≠ 0 ∧ n ≤ s.length := by
  cases s with
  | nil => cases h
  | cons d r =>
    simp only [escaped?] at h
    split_ifs at h with hclosed
    cases h
    simp only [Bool.and_eq_true, beq_iff_eq] at hclosed
    obtain ⟨t, ht⟩ := List.head?_eq_some_iff.1 hclosed.2
    have hlength := congrArg List.length ht
    rw [List.length_drop, List.length_cons] at hlength
    refine ⟨by simp, ?_⟩
    rw [List.length_cons]
    omega

theorem lexeme?_length {s : List Char} {a : Token} {n : Nat} (h : lexeme? s = some (a, n)) :
    n ≠ 0 ∧ n ≤ s.length := by
  rcases lexeme?_cases h with h | h | h | h | ⟨m, hm, hl⟩
  · cases carried_string? .or s with
    | missing hnone =>
      rw [hnone] at h
      cases h
    | found b u v hu hs hl =>
      rw [hl] at h
      cases h
      refine ⟨(List.length_pos_iff.2 hu).ne', ?_⟩
      rw [hs, List.length_append]
      omega
  · exact ⟨(word?_plain h).length, (word?_plain h).chars.1⟩
  · exact ⟨(number?_plain h).length, (number?_plain h).chars.1⟩
  · exact escaped?_length h
  · cases hl
    exact ⟨(symbol?_some hm).1, (symbol?_some hm).2.2⟩

/-- Induction along a text as it is cut into gaps and tokens. -/
theorem cutting {P : List Char → Prop} (nil : P [])
    (gap : ∀ u v, u ≠ [] → gapLength (u ++ v) = u.length → P v → P (u ++ v))
    (token : ∀ a u v, u ≠ [] → gapLength (u ++ v) = 0 → lexeme? (u ++ v) = some (a, u.length) →
      P v → P (u ++ v))
    (stuck : ∀ s, s ≠ [] → gapLength s = 0 → lexeme? s = none → P s) (s : List Char) : P s := by
  induction hlength : s.length using Nat.strongRecOn generalizing s with
  | _ n ih =>
    subst hlength
    have htake : ∀ {m}, m ≤ s.length → (s.take m).length = m := List.length_take_of_le
    have hrest : ∀ {m}, m ≠ 0 → m ≤ s.length → P (s.drop m) := fun hm hle =>
      ih _ (by rw [List.length_drop]; omega) _ rfl
    have hne : ∀ {m}, m ≠ 0 → m ≤ s.length → s.take m ≠ [] := by
      intro m hm hle hnil
      rw [← List.length_eq_zero_iff, htake hle] at hnil
      exact hm hnil
    by_cases hs : s = []
    · rw [hs]
      exact nil
    by_cases hgap : gapLength s = 0
    · cases hl : lexeme? s with
      | none => exact stuck s hs hgap hl
      | some l =>
        obtain ⟨a, m⟩ := l
        obtain ⟨hm, hle⟩ := lexeme?_length hl
        have hcut := token a (s.take m) (s.drop m) (hne hm hle)
        rw [List.take_append_drop, htake hle] at hcut
        exact hcut hgap hl (hrest hm hle)
    · have hle := gapLength_le s
      have hcut := gap (s.take (gapLength s)) (s.drop (gapLength s)) (hne hgap hle)
      rw [List.take_append_drop, htake hle] at hcut
      exact hcut rfl (hrest hgap hle)

/-- Induction along a text and its tokens. -/
theorem cuttingTokens {P : List Char → List Token → Prop} (nil : P [] [])
    (gap : ∀ u v ts, u ≠ [] → gapLength (u ++ v) = u.length → P v ts → P (u ++ v) ts)
    (token : ∀ a u v ts, u ≠ [] → lexeme? (u ++ v) = some (a, u.length) → P v ts →
      P (u ++ v) (a :: ts))
    {s : List Char} {ts : List Token} (h : tokens? s = some ts) : P s ts := by
  induction s using cutting generalizing ts with
  | nil =>
    cases h
    exact nil
  | gap u v hu hgap ih =>
    rw [tokens?_gap hu hgap] at h
    exact gap u v ts hu hgap (ih h)
  | token a u v hu hgap hl ih =>
    have hcut : tokens? (u ++ v) = (tokens? v).map (a :: ·) := ReadsAs.of_lexeme hu hgap hl
    rw [hcut] at h
    obtain ⟨us, hus, rfl⟩ := Option.map_eq_some_iff.1 h
    exact token a u v us hu hl (ih hus)
  | stuck s hs hgap hl =>
    rw [tokens?_of_none hs hgap hl] at h
    cases h

/-! ### White space is no part of a token -/

section
variable {c : Char}

theorem isNameChar_of_isBlank (hc : isBlank c = true) : isNameChar c = false := by
  cases h : isNameChar c with
  | false => rfl
  | true =>
    rw [isBlank_of_isNameChar h] at hc
    cases hc

theorem isNameStart_of_isBlank (hc : isBlank c = true) : isNameStart c = false := by
  have h := isNameChar_of_isBlank hc
  simp only [isNameChar, Char.isAlphanum, Bool.or_eq_false_iff] at h
  simp [isNameStart, h]

theorem isDigit_of_isBlank (hc : isBlank c = true) : c.isDigit = false := by
  have h := isNameChar_of_isBlank hc
  simp only [isNameChar, Char.isAlphanum, Bool.or_eq_false_iff] at h
  exact h.1.2

theorem outside_of_isBlank (hc : isBlank c = true) : c.toNat < 0x30 ∨ 0x7A < c.toNat := by
  by_contra h
  rw [isBlank_of_range (by omega)] at hc
  cases hc

theorem isHexDigit_of_isBlank (hc : isBlank c = true) : isHexDigit c = false := by
  have hout := outside_of_isBlank hc
  by_contra h
  rw [Bool.not_eq_false, isHexDigit, Bool.or_eq_true, Bool.or_eq_true] at h
  rcases h with (h | h) | h
  · have hrange := toNat_of_isDigit h
    omega
  · obtain ⟨hlow, hhigh⟩ : 'a' ≤ c ∧ c ≤ 'f' := by simpa using h
    have hrange : 97 ≤ c.toNat ∧ c.toNat ≤ 102 := ⟨hlow, hhigh⟩
    omega
  · obtain ⟨hlow, hhigh⟩ : 'A' ≤ c ∧ c ≤ 'F' := by simpa using h
    have hrange : 65 ≤ c.toNat ∧ c.toNat ≤ 70 := ⟨hlow, hhigh⟩
    omega

theorem isOctalDigit_of_isBlank (hc : isBlank c = true) : isOctalDigit c = false := by
  have hout := outside_of_isBlank hc
  by_contra h
  obtain ⟨hlow, hhigh⟩ : '0' ≤ c ∧ c ≤ '7' := by simpa [isOctalDigit] using h
  have hrange : 48 ≤ c.toNat ∧ c.toNat ≤ 55 := ⟨hlow, hhigh⟩
  omega

theorem notMem_of_isBlank (hc : isBlank c = true) {w : List Char}
    (hw : w.all (fun d => !isBlank d) = true) : c ∉ w := by
  intro h
  have hvisible := List.all_eq_true.1 hw c h
  rw [hc] at hvisible
  cases hvisible

theorem isMark_of_isBlank (hc : isBlank c = true) : isMark c = false := by
  have h : c ∉ ['"', '\''] := notMem_of_isBlank hc (by decide)
  simpa [isMark] using h

theorem number?_cons_eq_none (hdigit : c.isDigit = false) (hdot : c ≠ '.') (r : List Char) :
    number? (c :: r) = none := by
  simp [number?, digitCount, fractionLength, hdigit, hdot]

theorem symbol?_cons_eq_none (hc : isBlank c = true) (r : List Char) :
    symbol? (c :: r) = none := by
  have h : c ∉ ['<', '>', '=', '!', '&', '|', '*', '/', '%', '+', '-', '?', ':', '.', ',', '(',
      ')', '[', ']', Char.ofNat 0x7B, Char.ofNat 0x7D] := notMem_of_isBlank hc (by decide)
  simp only [List.mem_cons, List.not_mem_nil, not_or, or_false] at h
  simp [symbol?, h]

theorem escaped?_of_notMem {r : List Char} (h : Char.ofNat 96 ∉ r) :
    escaped? (Char.ofNat 96 :: r) = none := by
  have hclosed : (r.drop (r.takeWhile isEscapedChar).length).head? ≠ some (Char.ofNat 96) :=
    fun hhead => h (List.mem_of_mem_drop (List.mem_of_mem_head? hhead))
  simp only [escaped?, beq_false_of_ne hclosed, Bool.and_false, Bool.false_eq_true, if_false]

theorem lexeme?_cons_eq_none (hc : isBlank c = true) (r : List Char) :
    lexeme? (c :: r) = none := by
  have hescaped : escaped? (c :: r) = none := escaped?_of_head fun d hd => by
    cases hd
    exact ne_of_class hc (by decide)
  rw [lexeme?, string?_cons_eq_none (notMem_of_isBlank hc (by decide)),
    word?_cons_eq_none (isNameStart_of_isBlank hc),
    number?_cons_eq_none (isDigit_of_isBlank hc) (ne_of_class hc (by decide)), hescaped,
    symbol?_cons_eq_none hc]
  rfl

end

/-! ### White space behind a token -/

section
variable {c : Char} (hc : isBlank c = true)
include hc

theorem word?_concat (v : List Char) : word? (v ++ [c]) = word? v := by
  cases v with
  | nil => exact word?_cons_eq_none (isNameStart_of_isBlank hc) []
  | cons d r =>
    have htake := takeWhile_concat (isNameChar_of_isBlank hc) (d :: r)
    rw [List.cons_append] at htake ⊢
    simp only [word?, htake]

theorem digitCount_concat (v : List Char) : digitCount (v ++ [c]) = digitCount v := by
  rw [digitCount, takeWhile_concat (isDigit_of_isBlank hc), digitCount]

theorem fractionLength_concat (v : List Char) : fractionLength (v ++ [c]) = fractionLength v := by
  cases v with
  | nil =>
    have hdot : c ≠ '.' := ne_of_class hc (by decide)
    simp [fractionLength, hdot]
  | cons d r =>
    by_cases hdot : d = '.'
    · subst hdot
      simp only [List.cons_append, fractionLength, digitCount_concat hc]
    · simp [fractionLength, hdot]

theorem exponentLength_concat (v : List Char) : exponentLength (v ++ [c]) = exponentLength v := by
  have hmark : c ∉ ['e', 'E', '+', '-'] := notMem_of_isBlank hc (by decide)
  simp only [List.mem_cons, List.not_mem_nil, not_or, or_false] at hmark
  have hdigits := digitCount_concat hc
  cases v with
  | nil => simp [exponentLength, hmark]
  | cons d r =>
    cases r with
    | nil =>
      have hnone : digitCount [c] = digitCount [] := hdigits []
      simp [exponentLength, hmark, hnone]
    | cons e t =>
      have hall := hdigits (e :: t)
      rw [List.cons_append] at hall
      by_cases hsign : (e == '+' || e == '-') = true
      · simp only [List.cons_append, exponentLength, hsign, if_true, List.drop_succ_cons,
          List.drop_zero, hdigits]
      · simp only [List.cons_append, exponentLength, hsign, Bool.false_eq_true, if_false,
          List.drop_zero, hall]

theorem hexadecimalLength_concat (v : List Char) :
    hexadecimalLength (v ++ [c]) = hexadecimalLength v := by
  have hhex := isHexDigit_of_isBlank hc
  have hx := isPrefix_concat_iff (notMem_of_isBlank hc (w := ['0', 'x']) (by decide)) v
  by_cases h : ['0', 'x'] <+: v
  · obtain ⟨r, rfl⟩ := h
    have htake := takeWhile_concat hhex r
    simp only [List.cons_append, List.nil_append, hexadecimalLength, htake]
  · rw [hexadecimalLength_eq_zero h, hexadecimalLength_eq_zero (mt hx.1 h)]

theorem suffixed_concat {v : List Char} {n : Nat} (hn : n ≤ v.length) :
    suffixed (v ++ [c]) n = suffixed v n := by
  have hsuffix : c ∉ ['u', 'U'] := notMem_of_isBlank hc (by decide)
  simp only [List.mem_cons, List.not_mem_nil, not_or, or_false] at hsuffix
  unfold suffixed
  rw [List.take_append_of_le_length hn, List.drop_append_of_le_length hn]
  cases v.drop n with
  | nil => simp [hsuffix]
  | cons d r => rfl

theorem number?_concat (v : List Char) : number? (v ++ [c]) = number? v := by
  have hwhole := PlainTo.digits v
  have hrest := hwhole.add (.fraction _)
  have hall := hrest.add (.exponent _)
  have hhex := PlainTo.hexadecimal v
  simp only [number?, digitCount_concat hc, List.drop_append_of_le_length hwhole.1,
    fractionLength_concat hc, List.drop_append_of_le_length hrest.1, exponentLength_concat hc,
    List.take_append_of_le_length hall.1,
    hexadecimalLength_concat hc, suffixed_concat hc hwhole.1, suffixed_concat hc hhex.1]

theorem symbol?_concat (v : List Char) : symbol? (v ++ [c]) = symbol? v := by
  cases v with
  | nil => exact symbol?_cons_eq_none hc []
  | cons d r =>
    cases r with
    | nil =>
      have hsecond : c ∉ ['=', '&', '|'] := notMem_of_isBlank hc (by decide)
      simp only [List.mem_cons, List.not_mem_nil, not_or, or_false] at hsecond
      by_cases h : d ∈ ['<', '>', '=', '!', '&', '|', '*', '/', '%', '+', '-', '?', ':', '.', ',',
          '(', ')', '[', ']']
      · simp only [List.mem_cons, List.not_mem_nil, or_false] at h
        rcases h with rfl | rfl | rfl | rfl | rfl | rfl | rfl | rfl | rfl | rfl | rfl | rfl | rfl |
          rfl | rfl | rfl | rfl | rfl | rfl <;> simp [symbol?, hsecond]
      · simp only [List.mem_cons, List.not_mem_nil, not_or, or_false] at h
        simp [symbol?, h]
    | cons e t => exact symbol?_cons_cons _ _ _ _

/-! ### White space behind a string -/

theorem escapeLength?_concat (v : List Char) : escapeLength? (v ++ [c]) = escapeLength? v := by
  cases v with
  | nil =>
    have h : c ∉ [Char.ofNat 96, 'a', 'b', 'f', 'n', 'r', 't', 'v', '"', '\'', '\\', '?'] :=
      notMem_of_isBlank hc (by decide)
    simp only [List.mem_cons, List.not_mem_nil, not_or, or_false] at h
    simp [escapeLength?, h]
  | cons d r =>
    simp only [List.cons_append, escapeLength?, take_all_concat_iff (isHexDigit_of_isBlank hc),
      take_all_concat_iff (isOctalDigit_of_isBlank hc)]

theorem isPrefixOf_marks_concat {d : Char} (hd : isMark d = true) (n : Nat) (v : List Char) :
    (List.replicate n d).isPrefixOf (v ++ [c]) = (List.replicate n d).isPrefixOf v := by
  have hmark : c ∉ List.replicate n d := fun h =>
    ne_of_class hd (isMark_of_isBlank hc) (List.eq_of_mem_replicate h).symm
  rw [Bool.eq_iff_iff, List.isPrefixOf_iff_prefix, List.isPrefixOf_iff_prefix,
    isPrefix_concat_iff hmark]

theorem Quoting.closes_concat {q : Quoting} (hq : isMark q.mark = true) (v : List Char) :
    q.closes (v ++ [c]) = q.closes v :=
  isPrefixOf_marks_concat hc hq q.width v

theorem Quoting.unit?_concat (q : Quoting) (d : Char) (v : List Char) :
    q.unit? d (v ++ [c]) = q.unit? d v := by
  unfold unit?
  rw [escapeLength?_concat hc]

theorem Quoting.bodyLength?_concat {q : Quoting} (hq : isMark q.mark = true) (n : Nat)
    (v : List Char) : q.bodyLength? n (v ++ [c]) = q.bodyLength? n v := by
  induction v generalizing n with
  | nil =>
    cases n with
    | succ n => cases n <;> rfl
    | zero =>
      have hopen : q.closes [c] = false :=
        closes_cons_of_ne (ne_of_class hq (isMark_of_isBlank hc)).symm []
      rw [List.nil_append, bodyLength?_cons hopen]
      cases q.unit? c [] with
      | none => rfl
      | some k => cases k <;> rfl
  | cons d r ih =>
    cases n with
    | succ n => rw [List.cons_append, bodyLength?, ih, bodyLength?]
    | zero =>
      have hclose := closes_concat hc hq (d :: r)
      rw [List.cons_append] at hclose ⊢
      rw [bodyLength?, bodyLength?, hclose, unit?_concat hc]
      simp only [ih]

theorem stringLength?_concat (raw : Bool) (v : List Char) :
    stringLength? raw (v ++ [c]) = stringLength? raw v := by
  cases v with
  | nil =>
    refine stringLength?_eq_none fun d hd => ?_
    cases hd
    exact isMark_of_isBlank hc
  | cons d r =>
    cases hd : isMark d with
    | false =>
      rw [stringLength?_eq_none fun e he => by cases he; exact hd,
        stringLength?_eq_none fun e he => by cases he; exact hd]
    | true =>
      obtain ⟨x, hx⟩ := exists_eq_marks_append raw d r
      have hopen : quotingOf raw d (d :: r ++ [c]) = quotingOf raw d (d :: r) := by
        rw [quotingOf, quotingOf, isPrefixOf_marks_concat hc hd]
      generalize hquoting : quotingOf raw d (d :: r) = q at hx hopen
      have hmark : isMark q.mark = true := by
        rw [← hquoting]
        exact hd
      have hraw : q.raw = raw := by rw [← hquoting]; rfl
      subst hraw
      rw [stringLength?_marks hd rfl hquoting hx,
        stringLength?_marks (x := x ++ [c]) hd rfl hopen (by rw [hx, List.append_assoc]),
        Quoting.bodyLength?_concat hc hmark]

theorem prefixedLength?_concat (v : List Char) :
    prefixedLength? (v ++ [c]) = prefixedLength? v := by
  cases v with
  | nil =>
    refine prefixedLength?_eq_none fun d hd => ?_
    rw [List.mem_singleton.1 hd]
    exact isMark_of_isBlank hc
  | cons d r =>
    have hwhole := stringLength?_concat hc false (d :: r)
    rw [List.cons_append] at hwhole ⊢
    simp only [prefixedLength?, stringLength?_concat hc, hwhole]

theorem string?_concat (v : List Char) : string? (v ++ [c]) = string? v := by
  cases v with
  | nil =>
    refine string?_eq_none fun d hd => ?_
    rw [List.mem_singleton.1 hd]
    exact isMark_of_isBlank hc
  | cons d r =>
    have htake : ∀ n, prefixedLength? (d :: r) = some n →
        (d :: (r ++ [c])).take n = (d :: r).take n := fun n hn => by
      rw [← List.cons_append, List.take_append_of_le_length (prefixedLength?_le hn)]
    have htake' : ∀ n, prefixedLength? r = some n →
        (d :: (r ++ [c])).take (n + 1) = (d :: r).take (n + 1) := fun n hn => by
      rw [List.take_succ_cons, List.take_append_of_le_length (prefixedLength?_le hn),
        List.take_succ_cons]
    have hwhole := prefixedLength?_concat hc (d :: r)
    rw [List.cons_append] at hwhole ⊢
    simp only [string?, prefixedLength?_concat hc, hwhole]
    congr 1
    · cases hn : prefixedLength? r with
      | none => rfl
      | some n => rw [Option.map_some, Option.map_some, htake' n hn]
    · cases hn : prefixedLength? (d :: r) with
      | none => rfl
      | some n => rw [Option.map_some, Option.map_some, htake n hn]

/-! ### White space behind a name between backticks -/

theorem escaped?_concat (v : List Char) : escaped? (v ++ [c]) = escaped? v := by
  have htick : c ≠ Char.ofNat 96 := ne_of_class hc (by decide)
  cases v with
  | nil =>
    refine escaped?_of_head fun d hd => ?_
    cases hd
    exact htick
  | cons d r =>
    by_cases hd : d = Char.ofNat 96
    · subst hd
      obtain ⟨body, rest, rfl, hbody, hrest⟩ := exists_span isEscapedChar r
      cases rest with
      | nil =>
        have hnone : Char.ofNat 96 ∉ body := fun h =>
          ne_of_class (List.all_eq_true.1 hbody _ h) (by decide) rfl
        rw [List.append_nil, List.cons_append, escaped?_of_notMem hnone, escaped?_of_notMem]
        simpa [htick.symm] using hnone
      | cons e t =>
        have hlength : body.length + 2 ≤ (Char.ofNat 96 :: (body ++ e :: t)).length := by
          simp
        have hlong : escaped? (Char.ofNat 96 :: (body ++ (e :: t ++ [c]))) = _ :=
          escaped?_append hbody hrest
        rw [← List.append_assoc, ← List.cons_append, List.take_append_of_le_length hlength] at hlong
        exact hlong.trans (escaped?_append hbody hrest).symm
    · rw [escaped?_of_head fun e he => by cases he; exact hd,
        escaped?_of_head fun e he => by cases he; exact hd]

theorem lexeme?_concat (v : List Char) : lexeme? (v ++ [c]) = lexeme? v := by
  simp only [lexeme?, string?_concat hc, word?_concat hc, number?_concat hc, escaped?_concat hc,
    symbol?_concat hc]

/-! ### White space behind a text -/

theorem gapLength_concat (v : List Char) :
    gapLength (v ++ [c]) = gapLength v ∨
      gapLength v = v.length ∧ gapLength (v ++ [c]) = v.length + 1 := by
  have hstart := isPrefix_concat_iff (notMem_of_isBlank hc (w := ['/', '/']) (by decide)) v
  by_cases hcomment : ['/', '/'] <+: v
  · obtain ⟨t, rfl⟩ := hcomment
    change 2 + ((t ++ [c]).takeWhile (· != '\n')).length = 2 + (t.takeWhile (· != '\n')).length ∨
      2 + (t.takeWhile (· != '\n')).length = t.length + 2 ∧
        2 + ((t ++ [c]).takeWhile (· != '\n')).length = t.length + 2 + 1
    rw [List.takeWhile_append]
    split
    · by_cases hline : c = '\n'
      · refine .inl ?_
        simp [*]
      · refine .inr ?_
        simp [*]
        omega
    · exact .inl rfl
  · cases v with
    | nil =>
      rw [List.nil_append, gapLength_of_not_comment (mt hstart.1 hcomment)]
      cases isSpace c with
      | true => exact .inr ⟨rfl, rfl⟩
      | false => exact .inl rfl
    | cons d r =>
      rw [gapLength_of_not_comment hcomment]
      exact .inl (gapLength_of_not_comment (mt hstart.1 hcomment))

/-- White space behind a text can only spoil it. -/
theorem tokens?_concat (v : List Char) :
    tokens? (v ++ [c]) = tokens? v ∨ isSpace c = false ∧ tokens? (v ++ [c]) = none := by
  -- what has been cut off does not see `c`, unless it is a comment up to the end
  induction v using cutting with
  | nil =>
    have hlone : tokens? [c] = if isSpace c then some [] else none := by
      have hgap := gapLength_cons (ne_of_class hc (by decide)) []
      cases hspace : isSpace c with
      | true =>
        rw [hspace] at hgap
        rw [tokens?_of_gap (by rw [hgap]; decide), hgap]
        rfl
      | false =>
        rw [hspace] at hgap
        exact tokens?_of_none (List.cons_ne_nil _ _) hgap (lexeme?_cons_eq_none hc [])
    rw [List.nil_append, hlone]
    cases isSpace c with
    | true => exact .inl rfl
    | false => exact .inr ⟨rfl, rfl⟩
  | gap u v hu hgap ih =>
    rw [tokens?_gap hu hgap]
    rcases gapLength_concat hc (u ++ v) with h | ⟨hall, h⟩
    · rw [hgap, List.append_assoc] at h
      rw [List.append_assoc, tokens?_gap hu h]
      exact ih
    · have hv : v = [] := by
        rw [hgap, List.length_append] at hall
        exact List.length_eq_zero_iff.1 (by omega)
      subst hv
      rw [List.append_nil] at h ⊢
      refine .inl ?_
      rw [tokens?_of_gap (by rw [h]; omega), h, List.drop_of_length_le (by simp)]
  | token a u v hu hgap hl ih =>
    have hgap' : gapLength (u ++ (v ++ [c])) = 0 := by
      rcases gapLength_concat hc (u ++ v) with h | ⟨hall, -⟩
      · rw [← List.append_assoc, h, hgap]
      · rw [hgap, List.length_append] at hall
        have hpos := List.length_pos_iff.2 hu
        omega
    have hl' : lexeme? (u ++ (v ++ [c])) = some (a, u.length) := by
      rw [← List.append_assoc, lexeme?_concat hc, hl]
    have hcut : tokens? (u ++ v) = (tokens? v).map (a :: ·) := ReadsAs.of_lexeme hu hgap hl
    have hcut' : tokens? (u ++ (v ++ [c])) = (tokens? (v ++ [c])).map (a :: ·) :=
      ReadsAs.of_lexeme hu hgap' hl'
    rw [List.append_assoc, hcut, hcut']
    rcases ih with h | ⟨hspace, h⟩
    · exact .inl (by rw [h])
    · exact .inr ⟨hspace, by rw [h]; rfl⟩
  | stuck s hs hgap hl =>
    have hgap' : gapLength (s ++ [c]) = 0 := by
      rcases gapLength_concat hc s with h | ⟨hall, -⟩
      · rw [h, hgap]
      · rw [hgap] at hall
        exact absurd hall.symm (List.length_pos_iff.2 hs).ne'
    rw [tokens?_of_none hs hgap hl,
      tokens?_of_none (by simp) hgap' (by rw [lexeme?_concat hc, hl])]
    exact .inl rfl

end

/-! ### White space at both ends of a text -/

theorem tokens?_space (r : List Char) : tokens? (' ' :: r) = tokens? r :=
  tokens?_gap (u := [' ']) (List.cons_ne_nil _ _) rfl

theorem tokens?_append_space (s : List Char) : tokens? (s ++ [' ']) = tokens? s :=
  (tokens?_concat (c := ' ') rfl s).elim id fun h => by cases h.1

theorem trimEnd_concat {c : Char} (hc : isBlank c = true) (v : List Char) :
    trimEnd (v ++ [c]) = trimEnd v := by
  simp [trimEnd, hc]

theorem trimEnd_of_visible {c : Char} (hc : isBlank c = false) (v : List Char) :
    trimEnd (v ++ [c]) = v ++ [c] := by
  simp [trimEnd, hc]

theorem tokens?_trimEnd {s : List Char} {ts : List Token} (h : tokens? s = some ts) :
    tokens? (trimEnd s) = some ts := by
  induction s using List.reverseRecOn with
  | nil => exact h
  | append_singleton v c ih =>
    cases hc : isBlank c with
    | true =>
      rw [trimEnd_concat hc]
      rcases tokens?_concat hc v with heq | ⟨-, hnone⟩
      · exact ih (heq ▸ h)
      · rw [hnone] at h
        cases h
    | false => rwa [trimEnd_of_visible hc]

theorem trimStart_cons {c : Char} (hc : isBlank c = true) (r : List Char) :
    trimStart (c :: r) = trimStart r := by
  simp [trimStart, hc]

theorem trimStart_of_visible {c : Char} (hc : isBlank c = false) (r : List Char) :
    trimStart (c :: r) = c :: r := by
  simp [trimStart, hc]

theorem tokens?_trimStart {s : List Char} {ts : List Token} (h : tokens? s = some ts) :
    tokens? (trimStart s) = some ts := by
  induction s with
  | nil => exact h
  | cons c r ih =>
    cases hc : isBlank c with
    | true =>
      rw [trimStart_cons hc]
      have hgap := gapLength_cons (ne_of_class hc (by decide)) r
      cases hspace : isSpace c with
      | true =>
        rw [hspace] at hgap
        rw [tokens?_of_gap (by rw [hgap]; decide), hgap] at h
        exact ih h
      | false =>
        rw [hspace] at hgap
        rw [tokens?_of_none (List.cons_ne_nil _ _) hgap (lexeme?_cons_eq_none hc r)] at h
        cases h
    | false => rwa [trimStart_of_visible hc]

theorem tokens?_trimEnd_space (s : List Char) :
    tokens? (trimEnd (' ' :: s)) = tokens? (trimEnd s) := by
  induction s using List.reverseRecOn with
  | nil => rfl
  | append_singleton r c ih =>
    rw [← List.cons_append]
    cases hc : isBlank c with
    | true => rw [trimEnd_concat hc, trimEnd_concat hc, ih]
    | false => rw [trimEnd_of_visible hc, trimEnd_of_visible hc, List.cons_append, tokens?_space]

theorem tokens?_trim_space {c : Char} (hc : isBlank c = false) (r : List Char) :
    tokens? (trim (' ' :: c :: r)) = tokens? (trimEnd (' ' :: c :: r)) := by
  rw [tokens?_trimEnd_space, trim, trimStart_cons (by decide), trimStart_of_visible hc]

theorem tokens?_trim {s : List Char} {ts : List Token} (h : tokens? s = some ts) :
    tokens? (trim s) = some ts :=
  tokens?_trimEnd (tokens?_trimStart h)

end ConditionRegistry.Language
