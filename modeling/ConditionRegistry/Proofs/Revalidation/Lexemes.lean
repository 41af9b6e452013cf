import ConditionRegistry.Proofs.Revalidation.Strings

set_option autoImplicit false

/-!
# Lexemes in which a keyword is replaced

In a settled text every lexeme is found again after replacing. Only a string can have changed, and
what follows a lexeme is replaced by itself.
-/

open ConditionRegistry.Language

namespace ConditionRegistry
open Text

theorem Keyword.respelled_of_unquoted (k : Keyword) {a : Token} (h : isQuoted a = false) :
    k.respelled a = a := by
  cases a <;> first | rfl | cases h

theorem CarriedLexeme.of_sameLead (k : Keyword) {f : List Char → Option Lexeme}
    (hsame : ∀ {s t}, SameLead s t → f s = f t)
    (hsome : ∀ {s l}, f s = some l →
      isQuoted l.1 = false ∧ l.2 ≠ 0 ∧ ' ' ∉ s.take l.2 ∧ l.2 ≤ s.length)
    (s : List Char) : CarriedLexeme k f s := by
  have hf := hsame (k.sameLead_replace s)
  cases h : f s with
  | none => exact .missing h (by rw [← hf, h])
  | some l =>
    obtain ⟨a, n⟩ := l
    obtain ⟨ha, hpos, hspace, hn⟩ := hsome h
    have htake : (s.take n).length = n := List.length_take_of_le hn
    have hself := k.replace_of_notMem hspace
    have hne : s.take n ≠ [] := by
      intro hnil
      rw [hnil] at htake
      exact hpos htake.symm
    refine .found a (s.take n) (s.drop n) hne (List.take_append_drop n s).symm ?_ ?_ ?_
    · rw [h, htake]
    · rw [hself]
      exact k.replace_take_append hspace
    · rw [← hf, h, hself, htake, k.respelled_of_unquoted ha]

theorem CarriedLexeme.orElse {k : Keyword} {f g : List Char → Option Lexeme} {s : List Char}
    (hf : CarriedLexeme k f s) (hg : CarriedLexeme k g s) :
    CarriedLexeme k (fun s => f s <|> g s) s := by
  cases hf with
  | missing h h' =>
    cases hg with
    | missing i i' => exact .missing (by rw [h, i]; rfl) (by rw [h', i']; rfl)
    | found a u v hu hs i hr i' =>
      exact .found a u v hu hs (by rw [h, i]; rfl) hr (by rw [h', i']; rfl)
  | found a u v hu hs h hr h' => exact .found a u v hu hs (by rw [h]; rfl) hr (by rw [h']; rfl)

theorem CarriedLexeme.of_plain (k : Keyword) {f : List Char → Option Lexeme}
    (hsame : ∀ {s t}, SameLead s t → f s = f t)
    (hplain : ∀ {s l}, f s = some l → PlainLexeme s l) (s : List Char) : CarriedLexeme k f s := by
  refine .of_sameLead k hsame (fun h => ?_) s
  exact ⟨(hplain h).token, (hplain h).length, (hplain h).chars.notMem, (hplain h).chars.1⟩

theorem carried_word? (k : Keyword) (s : List Char) : CarriedLexeme k word? s :=
  .of_plain k SameLead.word?_eq word?_plain s

theorem carried_number? (k : Keyword) (s : List Char) : CarriedLexeme k number? s :=
  .of_plain k SameLead.number?_eq number?_plain s

theorem symbol?_some {s : List Char} {l : Symbol × Nat} (h : symbol? s = some l) :
    l.2 ≠ 0 ∧ ' ' ∉ s.take l.2 ∧ l.2 ≤ s.length := by
  unfold symbol? at h
  split at h
  case h_23 =>
    split_ifs at h with hopen hclose
    · cases h
      rw [eq_of_beq hopen]
      simp
    · cases h
      rw [eq_of_beq hclose]
      simp
  case h_24 => cases h
  all_goals
    cases h
    simp

theorem carried_symbol? (k : Keyword) (s : List Char) :
    CarriedLexeme k (fun s => (symbol? s).map fun l => (.symbol l.1, l.2)) s := by
  refine .of_sameLead k (fun h => by rw [h.symbol?_eq]) (fun {s l} h => ?_) s
  obtain ⟨m, hm, rfl⟩ := Option.map_eq_some_iff.1 h
  exact ⟨rfl, symbol?_some hm⟩

/-! ### Names between backticks -/

theorem Keyword.replace_escaped_append (k : Keyword) {c : Char} {body rest : List Char}
    (hbody : body.all isEscapedChar = true) (h : k.SettledAfter (some c) (body ++ rest))
    (hc : c ≠ k.mark) : k.replace (body ++ rest) = body ++ k.replace rest := by
  induction body generalizing c with
  | nil => rfl
  | cons d t ih =>
    obtain ⟨hd, ht⟩ : isEscapedChar d = true ∧ t.all isEscapedChar = true := by
      simpa using hbody
    have hp : ¬ k.spaced <+: d :: (t ++ rest) := fun hp => hc (Option.some.inj (h.1 hp))
    have hmark : d ≠ k.mark := ne_of_class hd (by cases k <;> decide)
    rw [List.cons_append, k.replace_cons d _ hp, ih ht h.2 hmark]
    rfl

theorem escaped?_of_head {s : List Char} (h : ∀ c ∈ s.head?, c ≠ Char.ofNat 96) :
    escaped? s = none := by
  cases s with
  | nil => rfl
  | cons c r =>
    have hc := h c rfl
    simp [escaped?, hc]

theorem escaped?_append {body rest : List Char} (hbody : body.all isEscapedChar = true)
    (hrest : ∀ c ∈ rest.head?, isEscapedChar c = false) :
    escaped? (Char.ofNat 96 :: (body ++ rest)) =
      if !body.isEmpty && rest.head? == some (Char.ofNat 96) then
        some (.escaped (String.ofList ((Char.ofNat 96 :: (body ++ rest)).take (body.length + 2))),
          body.length + 2)
      else none := by
  simp only [escaped?, takeWhile_append_stop hbody hrest, List.drop_left, beq_self_eq_true,
    Bool.true_and]

theorem carried_escaped?_of_self (k : Keyword) {body rest : List Char}
    (hbody : body.all isEscapedChar = true)
    (hrest : ∀ d ∈ rest.head?, isEscapedChar d = false) (hself : k.replace body = body)
    (hr : k.replace (body ++ rest) = body ++ k.replace rest) :
    CarriedLexeme k escaped? (Char.ofNat 96 :: (body ++ rest)) := by
  have hcons : ∀ t, k.replace (Char.ofNat 96 :: t) = Char.ofNat 96 :: k.replace t := fun t =>
    k.replace_cons _ t (k.not_spaced_of_ne (by decide) t)
  have hhead := (k.sameLead_replace rest).head?_eq
  have hes := escaped?_append hbody hrest
  have her := escaped?_append hbody (hhead ▸ hrest)
  rw [← hhead] at her
  cases hcond : (!body.isEmpty && rest.head? == some (Char.ofNat 96)) with
  | false =>
    rw [hcond] at hes her
    exact .missing hes (by rw [hcons, hr]; exact her)
  | true =>
    rw [hcond] at hes her
    obtain ⟨v, rfl⟩ : ∃ v, rest = Char.ofNat 96 :: v := by
      rw [Bool.and_eq_true, beq_iff_eq] at hcond
      exact List.head?_eq_some_iff.1 hcond.2
    have hu : k.replace (Char.ofNat 96 :: (body ++ [Char.ofNat 96])) =
        Char.ofNat 96 :: (body ++ [Char.ofNat 96]) := by
      rw [hcons, k.replace_append_cons (by cases k <;> decide), hself, k.replace_nil]
    have htake : ∀ v, (Char.ofNat 96 :: (body ++ Char.ofNat 96 :: v)).take (body.length + 2) =
        Char.ofNat 96 :: (body ++ [Char.ofNat 96]) := by
      intro v
      rw [List.take_succ_cons, List.append_cons, List.take_left' (by simp)]
    have hlength : body.length + 2 = (Char.ofNat 96 :: (body ++ [Char.ofNat 96])).length := by
      simp
    rw [hcons] at her
    rw [htake] at hes her
    refine .found (.escaped (String.ofList (Char.ofNat 96 :: (body ++ [Char.ofNat 96]))))
      (Char.ofNat 96 :: (body ++ [Char.ofNat 96])) v (by simp) (by simp) ?_ ?_ ?_
    · rw [← hlength]
      exact hes
    · rw [hu, hcons, hr, hcons]
      simp
    · rw [hu, hcons, hr, hcons, ← hlength]
      exact her

/-- In a settled text a name between backticks has no keyword in it that is replaced. -/
theorem carried_escaped?_backtick (k : Keyword) {r : List Char}
    (h : k.SettledAfter (some (Char.ofNat 96)) r) :
    CarriedLexeme k escaped? (Char.ofNat 96 :: r) := by
  have hmark : Char.ofNat 96 ≠ k.mark := by cases k <;> decide
  obtain ⟨body, rest, rfl, hbody, hrest⟩ := exists_span isEscapedChar r
  have hself : k.replace (body ++ []) = body ++ k.replace [] :=
    k.replace_escaped_append hbody (by rw [List.append_nil]; exact h.of_append) hmark
  rw [k.replace_nil, List.append_nil] at hself
  exact carried_escaped?_of_self k hbody hrest hself (k.replace_escaped_append hbody h hmark)

theorem carried_escaped?_of_head (k : Keyword) {s : List Char}
    (hs : ∀ c ∈ s.head?, c ≠ Char.ofNat 96) : CarriedLexeme k escaped? s := by
  have hnone := escaped?_of_head hs
  rw [(k.sameLead_replace s).head?_eq] at hs
  exact .missing hnone (escaped?_of_head hs)

theorem carried_escaped? (k : Keyword) {s : List Char} {before : Option Char}
    (h : k.SettledAfter before s) : CarriedLexeme k escaped? s := by
  by_cases hs : ∀ c ∈ s.head?, c ≠ Char.ofNat 96
  · exact carried_escaped?_of_head k hs
  · push Not at hs
    obtain ⟨c, hc, rfl⟩ := hs
    obtain ⟨r, rfl⟩ := List.head?_eq_some_iff.1 hc
    exact carried_escaped?_backtick k h.2

theorem carried_lexeme?_of_escaped (k : Keyword) {s : List Char} (h : CarriedLexeme k escaped? s) :
    CarriedLexeme k lexeme? s :=
  (carried_string? k s).orElse ((carried_word? k s).orElse ((carried_number? k s).orElse
    (h.orElse (carried_symbol? k s))))

theorem carried_lexeme? (k : Keyword) {s : List Char} {before : Option Char}
    (h : k.SettledAfter before s) : CarriedLexeme k lexeme? s :=
  carried_lexeme?_of_escaped k (carried_escaped? k h)

/-! ### How lexemes end -/

def EndsIn (p : Char → Bool) (s : List Char) : Prop := ∃ w c, s = w ++ [c] ∧ p c = true

theorem EndsIn.cons {p : Char → Bool} {s : List Char} (h : EndsIn p s) (c : Char) :
    EndsIn p (c :: s) := by
  obtain ⟨w, d, rfl, hd⟩ := h
  exact ⟨c :: w, d, rfl, hd⟩

theorem EndsIn.getLast?_ne {p : Char → Bool} {s : List Char} (h : EndsIn p s) {c : Char}
    (hc : p c = false) : s.getLast? ≠ some c := by
  obtain ⟨w, d, rfl, hd⟩ := h
  rw [List.getLast?_concat]
  exact fun heq => ne_of_class hd hc (Option.some.inj heq)

theorem endsIn_of_stringLength? {raw : Bool} {s : List Char} {n : Nat}
    (h : stringLength? raw s = some n) : EndsIn isMark (s.take n) := by
  obtain ⟨q, u, v, -, hmark, rfl, rfl, -⟩ := exists_of_stringLength? h
  have hmarks : q.marks = List.replicate (q.width - 1) q.mark ++ [q.mark] := by
    unfold Quoting.marks Quoting.width
    split <;> rfl
  refine ⟨q.marks ++ (u ++ List.replicate (q.width - 1) q.mark), q.mark, ?_, hmark⟩
  rw [List.take_left, List.append_assoc, List.append_assoc, ← hmarks]

theorem endsIn_of_prefixedLength? {s : List Char} {n : Nat} (h : prefixedLength? s = some n) :
    EndsIn isMark (s.take n) := by
  cases s with
  | nil => cases h
  | cons c r =>
    simp only [prefixedLength?] at h
    split_ifs at h
    · obtain ⟨m, hm, rfl⟩ := Option.map_eq_some_iff.1 h
      exact (endsIn_of_stringLength? hm).cons c
    · exact endsIn_of_stringLength? h

theorem endsIn_of_string? {s : List Char} {l : Lexeme} (h : string? s = some l) :
    EndsIn isMark (s.take l.2) := by
  cases s with
  | nil => cases h
  | cons c r =>
    simp only [string?] at h
    split_ifs at h
    · obtain ⟨m, hm, rfl⟩ := Option.map_eq_some_iff.1 h
      exact (endsIn_of_prefixedLength? hm).cons c
    · obtain ⟨m, hm, rfl⟩ := Option.map_eq_some_iff.1 h
      exact endsIn_of_prefixedLength? hm

theorem PlainLexeme.endsIn {s : List Char} {l : Lexeme} (h : PlainLexeme s l) :
    EndsIn isPlainChar (s.take l.2) := by
  have hne : s.take l.2 ≠ [] := by
    intro hnil
    have hlength := List.length_take_of_le h.chars.1
    rw [hnil] at hlength
    exact h.length hlength.symm
  refine ⟨(s.take l.2).dropLast, (s.take l.2).getLast hne,
    (List.dropLast_append_getLast hne).symm, ?_⟩
  exact List.all_eq_true.1 h.chars.2 _ (List.getLast_mem hne)

theorem endsIn_of_escaped? {s : List Char} {l : Lexeme} (h : escaped? s = some l) :
    EndsIn (· == Char.ofNat 96) (s.take l.2) := by
  cases s with
  | nil => cases h
  | cons c r =>
    simp only [escaped?] at h
    split_ifs at h with hcond
    cases h
    simp only [Bool.and_eq_true, beq_iff_eq] at hcond
    obtain ⟨t, ht⟩ := List.head?_eq_some_iff.1 hcond.2
    have hend : EndsIn (· == Char.ofNat 96) (r.take ((r.takeWhile isEscapedChar).length + 1)) := by
      refine ⟨r.take (r.takeWhile isEscapedChar).length, Char.ofNat 96, ?_, rfl⟩
      rw [List.take_add, ht]
      rfl
    exact hend.cons c

theorem eq_symbol_of_symbol? {k : Keyword} {s : List Char} {l : Symbol × Nat}
    (h : symbol? s = some l) (hlast : (s.take l.2).getLast? = some k.mark) : l.1 = k.symbol := by
  unfold symbol? at h
  split at h
  case h_23 =>
    split_ifs at h with hopen hclose
    · cases h
      rw [eq_of_beq hopen] at hlast
      cases k <;> simp [Keyword.mark] at hlast
    · cases h
      rw [eq_of_beq hclose] at hlast
      cases k <;> simp [Keyword.mark] at hlast
  case h_24 => cases h
  all_goals
    cases h
    cases k <;> first | rfl | simp [Keyword.mark] at hlast

theorem lexeme?_cases {s : List Char} {l : Lexeme} (h : lexeme? s = some l) :
    string? s = some l ∨ word? s = some l ∨ number? s = some l ∨ escaped? s = some l ∨
      ∃ m, symbol? s = some m ∧ l = (.symbol m.1, m.2) := by
  unfold lexeme? at h
  cases hstring : string? s with
  | some m => exact .inl (by rw [hstring] at h; exact h)
  | none =>
    cases hword : word? s with
    | some m => exact .inr (.inl (by rw [hstring, hword] at h; exact h))
    | none =>
      cases hnumber : number? s with
      | some m => exact .inr (.inr (.inl (by rw [hstring, hword, hnumber] at h; exact h)))
      | none =>
        rw [hstring, hword, hnumber] at h
        cases hescaped : escaped? s with
        | some m => exact .inr (.inr (.inr (.inl (by rw [hescaped] at h; exact h))))
        | none =>
          rw [hescaped] at h
          obtain ⟨m, hm, rfl⟩ := Option.map_eq_some_iff.1 h
          exact .inr (.inr (.inr (.inr ⟨m, hm, rfl⟩)))

theorem eq_symbol_of_lexeme? {k : Keyword} {s : List Char} {l : Lexeme} (h : lexeme? s = some l)
    (hlast : (s.take l.2).getLast? = some k.mark) : l.1 = .symbol k.symbol := by
  have hplain : isPlainChar k.mark = false := by cases k <;> decide
  rcases lexeme?_cases h with h | h | h | h | ⟨m, hm, rfl⟩
  · exact absurd hlast ((endsIn_of_string? h).getLast?_ne (by cases k <;> decide))
  · exact absurd hlast ((word?_plain h).endsIn.getLast?_ne hplain)
  · exact absurd hlast ((number?_plain h).endsIn.getLast?_ne hplain)
  · exact absurd hlast ((endsIn_of_escaped? h).getLast?_ne (by cases k <;> decide))
  · rw [eq_symbol_of_symbol? hm hlast]

end ConditionRegistry
