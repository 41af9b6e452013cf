import ConditionRegistry.Proofs.Meaning.Blanks

set_option autoImplicit false

/-!
# Back from replaced keywords

If a text can be cut into tokens with a keyword replaced, it can be cut into tokens itself, and
token by token the two differ in strings and in names that are the keyword.
-/

open ConditionRegistry.Language

namespace ConditionRegistry
open Text

namespace Keyword
variable (k : Keyword)

/-- What can become of a token where the keyword is replaced: it stays what it is, or it was a name
    and is an operator now. -/
def Respelling (a c : Token) : Prop :=
  c = k.respelled a ∨ a = .name (String.ofList k.word) ∧ c = .symbol k.symbol

/-! ### Names between backticks -/

theorem mark_mem_replace {s : List Char} (h : k.spaced <:+: s) : k.mark ∈ k.replace s := by
  induction s using k.reading with
  | nil => cases k <;> simp [spaced] at h
  | spaced r =>
    rw [k.replace_spaced_append]
    exact List.mem_append_left _ (by simp [operator])
  | cons c r hp ih =>
    rw [k.replace_cons c r hp]
    exact List.mem_cons_of_mem _ (ih ((List.infix_cons_iff.1 h).resolve_left hp))

theorem escaped?_replace_of_infix {body : List Char} (hbody : body.all isEscapedChar = true)
    (h : k.spaced <:+: body) (rest : List Char) :
    escaped? (Char.ofNat 96 :: (k.replace body ++ rest)) = none := by
  have hmark : isEscapedChar k.mark = false := by cases k <;> decide
  obtain ⟨u, v, hsplit, hkept, hstop⟩ := exists_span isEscapedChar (k.replace body)
  have hmem := k.mark_mem_replace h
  rw [hsplit] at hmem ⊢
  cases v with
  | nil =>
    rw [List.append_nil] at hmem
    rw [List.all_eq_true.1 hkept _ hmem] at hmark
    cases hmark
  | cons c t =>
    have hc : c = k.mark := by
      refine (k.mem_replace (c := c) (s := body) ?_).resolve_left fun hin => ?_
      · rw [hsplit]
        simp
      · exact ne_of_class (List.all_eq_true.1 hbody c hin) (hstop c rfl) rfl
    have htick : k.mark ≠ Char.ofNat 96 := by cases k <;> decide
    have hopen : escaped? (Char.ofNat 96 :: (u ++ (c :: t ++ rest))) = _ :=
      escaped?_append hkept hstop
    rw [List.append_assoc, hopen, hc]
    simp [htick]

/-- A name between backticks is found again, or it is lost with the keyword in it. -/
theorem carried_or_lost_escaped? (r : List Char) :
    CarriedLexeme k escaped? (Char.ofNat 96 :: r) ∨
      escaped? (k.replace (Char.ofNat 96 :: r)) = none := by
  obtain ⟨body, rest, rfl, hbody, hrest⟩ := exists_span isEscapedChar r
  have hspaced : k.spaced.all isEscapedChar = true := by cases k <;> decide
  have hreplace : k.replace (body ++ rest) = k.replace body ++ k.replace rest :=
    k.replace_append_stop (fun c hc hin =>
      ne_of_class (List.all_eq_true.1 hspaced c hin) (hrest c hc) rfl) body
  by_cases h : k.spaced <:+: body
  · refine .inr ?_
    rw [k.replace_cons _ _ (k.not_spaced_of_ne (by decide) _), hreplace]
    exact k.escaped?_replace_of_infix hbody h _
  · have hself := k.replace_eq_self body h
    rw [hself] at hreplace
    exact .inl (carried_escaped?_of_self k hbody hrest hself hreplace)

theorem lexeme?_tick (r : List Char) :
    lexeme? (Char.ofNat 96 :: r) = escaped? (Char.ofNat 96 :: r) := by
  have hsymbol : symbol? (Char.ofNat 96 :: r) = none := rfl
  rw [lexeme?, string?_cons_eq_none (by decide), word?_cons_eq_none (by decide),
    number?_cons_eq_none (by decide) (by decide), hsymbol]
  cases escaped? (Char.ofNat 96 :: r) <;> rfl

theorem carried_or_lost_lexeme? (s : List Char) :
    CarriedLexeme k lexeme? s ∨ lexeme? (k.replace s) = none := by
  by_cases hs : ∀ c ∈ s.head?, c ≠ Char.ofNat 96
  · exact .inl (carried_lexeme?_of_escaped k (carried_escaped?_of_head k hs))
  · push Not at hs
    obtain ⟨c, hc, rfl⟩ := hs
    obtain ⟨r, rfl⟩ := List.head?_eq_some_iff.1 hc
    refine (k.carried_or_lost_escaped? r).imp (carried_lexeme?_of_escaped k) fun hlost => ?_
    rw [k.replace_cons _ _ (k.not_spaced_of_ne (by decide) _)] at hlost ⊢
    rw [lexeme?_tick, hlost]

/-! ### Texts -/

theorem tokens?_spaced (r : List Char) :
    tokens? (k.spaced ++ r) = (tokens? r).map (.name (String.ofList k.word) :: ·) := by
  have hword : ReadsAs k.word [.name (String.ofList k.word)] (' ' :: r) := by
    cases k <;> exact .of_lexeme (List.cons_ne_nil _ _) rfl rfl
  rw [k.spaced_append, hword.space, tokens?_space]
  rfl

theorem tokens?_replace_spaced (r : List Char) :
    tokens? (k.replace (k.spaced ++ r)) = (tokens? (k.replace r)).map (.symbol k.symbol :: ·) := by
  rw [k.replace_spaced, (ReadsAs.operator k _).space, tokens?_space]
  rfl

/-- Induction along a text as it is cut into tokens, and with it the text in which the keyword is
    replaced, as long as that can be cut. -/
theorem cuttingBoth {P : List Char → Prop} (nil : P []) (spaced : ∀ r, P r → P (k.spaced ++ r))
    (gap : ∀ s v, tokens? s = tokens? v → tokens? (k.replace s) = tokens? (k.replace v) →
      P v → P s)
    (token : ∀ a s v, tokens? s = (tokens? v).map (a :: ·) →
      tokens? (k.replace s) = (tokens? (k.replace v)).map (k.respelled a :: ·) → P v → P s)
    (lost : ∀ s, tokens? (k.replace s) = none → P s) (s : List Char) : P s := by
  induction hlength : s.length using Nat.strongRecOn generalizing s with
  | _ n ih =>
    subst hlength
    have hrest : ∀ {u v}, s = u ++ v → u ≠ [] → P v := by
      rintro u v rfl hu
      refine ih v.length ?_ v rfl
      have hpos := List.length_pos_iff.2 hu
      rw [List.length_append]
      omega
    by_cases hs : s = []
    · rw [hs]
      exact nil
    by_cases hp : k.spaced <+: s
    · obtain ⟨r, rfl⟩ := hp
      exact spaced r (hrest rfl (List.cons_ne_nil _ _))
    -- gaps are carried over in every text, tokens but for names between backticks
    obtain ⟨u, v, huv, hgap⟩ := exists_carriedGap k hp
    by_cases hu : u = []
    · subst hu
      rw [List.nil_append] at huv
      subst huv
      have hzero := hgap.replaced
      rw [k.replace_nil, List.nil_append] at hzero
      have hlost : lexeme? (k.replace s) = none → P s := fun hnone =>
        lost s (tokens?_of_none (k.replace_ne_nil hs) hzero hnone)
      rcases k.carried_or_lost_lexeme? s with hlexeme | hnone
      · cases hlexeme with
        | missing _ hnone => exact hlost hnone
        | found a u v hu huv hl hr hl' =>
          refine token a s v ?_ ?_ (hrest huv hu)
          · subst huv
            exact ReadsAs.of_lexeme hu hgap.length hl
          · rw [hr] at hzero hl' ⊢
            exact ReadsAs.of_lexeme (k.replace_ne_nil hu) hzero hl'
      · exact hlost hnone
    · refine gap s v ?_ ?_ (hrest huv hu)
      · rw [huv, tokens?_gap hu hgap.length]
      · rw [huv, hgap.replace, tokens?_gap (k.replace_ne_nil hu) hgap.replaced]

theorem exists_tokens?_of_replace {s : List Char} {us : List Token}
    (h : tokens? (k.replace s) = some us) :
    ∃ ts, tokens? s = some ts ∧ List.Forall₂ k.Respelling ts us := by
  induction s using k.cuttingBoth generalizing us with
  | nil =>
    rw [k.replace_nil] at h
    cases h
    exact ⟨[], rfl, .nil⟩
  | spaced r ih =>
    rw [tokens?_replace_spaced] at h
    obtain ⟨vs, hvs, rfl⟩ := Option.map_eq_some_iff.1 h
    obtain ⟨ts, hts, hrel⟩ := ih hvs
    exact ⟨_, by rw [tokens?_spaced, hts]; rfl, .cons (.inr ⟨rfl, rfl⟩) hrel⟩
  | gap s v hs hr ih =>
    rw [hr] at h
    rw [hs]
    exact ih h
  | token a s v hs hr ih =>
    rw [hr] at h
    obtain ⟨vs, hvs, rfl⟩ := Option.map_eq_some_iff.1 h
    obtain ⟨ts, hts, hrel⟩ := ih hvs
    exact ⟨_, by rw [hs, hts]; rfl, .cons (.inl rfl) hrel⟩
  | lost s hnone =>
    rw [hnone] at h
    cases h

/-! ### White space at the ends -/

theorem replace_concat (s : List Char) (c : Char) :
    k.replace (s ++ [c]) = k.replace s ++ [c] ∨
      ∃ y, s ++ [c] = y ++ k.spaced ∧
        k.replace (s ++ [c]) = k.replace y ++ (' ' :: k.operator ++ [' ']) := by
  induction s using k.reading with
  | nil =>
    have hshort : ¬ k.spaced <+: [c] := fun hp => by
      have hlength := hp.length_le
      cases k <;> simp [spaced, word] at hlength
    exact .inl (by rw [List.nil_append, k.replace_cons c [] hshort, k.replace_nil]; rfl)
  | spaced r ih =>
    rw [List.append_assoc, k.replace_spaced_append, k.replace_spaced_append]
    rcases ih with h | ⟨y, hy, h⟩
    · exact .inl (by rw [h, ← List.append_assoc])
    · refine .inr ⟨k.spaced ++ y, by rw [hy, List.append_assoc], ?_⟩
      rw [h, k.replace_spaced_append, ← List.append_assoc]
  | cons d r hp ih =>
    by_cases hend : d :: r ++ [c] = k.spaced
    · refine .inr ⟨[], hend, ?_⟩
      have hblock := k.replace_spaced_append []
      rw [List.append_nil, k.replace_nil, List.append_nil, ← hend] at hblock
      rw [hblock, k.replace_nil]
      rfl
    · have hkeep : ¬ k.spaced <+: d :: r ++ [c] := fun h =>
        (List.prefix_concat_iff.1 h).elim (fun h => hend h.symm) hp
      rw [List.cons_append] at hkeep ⊢
      rw [k.replace_cons d _ hkeep, k.replace_cons d r hp]
      rcases ih with h | ⟨y, hy, h⟩
      · exact .inl (by rw [h]; rfl)
      · have hy' : ¬ k.spaced <+: d :: y := fun h =>
          hkeep (h.trans ⟨k.spaced, by rw [hy]; rfl⟩)
        refine .inr ⟨d :: y, by rw [hy]; rfl, ?_⟩
        rw [h, k.replace_cons d y hy']
        rfl

theorem exists_tokens?_of_trimEnd_replace {s : List Char} {us : List Token}
    (h : tokens? (trimEnd (k.replace s)) = some us) :
    ∃ ts, tokens? (trimEnd s) = some ts ∧ List.Forall₂ k.Respelling ts us := by
  induction s using List.reverseRecOn with
  | nil =>
    rw [k.replace_nil] at h
    cases h
    exact ⟨[], rfl, .nil⟩
  | append_singleton r c ih =>
    cases hc : isBlank c with
    | true =>
      rw [trimEnd_concat hc]
      rcases k.replace_concat r c with hkeep | ⟨y, hy, hrep⟩
      · rw [hkeep, trimEnd_concat hc] at h
        exact ih h
      · have hsplit : y ++ k.spaced = (y ++ ' ' :: k.word) ++ [' '] := by simp [spaced]
        rw [hsplit] at hy
        obtain ⟨rfl, hlast⟩ := List.append_inj' hy rfl
        cases hlast
        -- a space behind the operator does not matter, so nothing has to be removed
        have hspace : k.replace y ++ (' ' :: k.operator ++ [' ']) =
            (k.replace y ++ [' ', k.mark]) ++ [k.mark] ++ [' '] := by simp [operator]
        have hmark : isBlank k.mark = false := by cases k <;> decide
        rw [hrep, hspace, trimEnd_concat hc, trimEnd_of_visible hmark, ← tokens?_append_space,
          ← hspace, ← hrep] at h
        obtain ⟨ts, hts, hrel⟩ := k.exists_tokens?_of_replace h
        have htrim := tokens?_trimEnd hts
        rw [trimEnd_concat hc] at htrim
        exact ⟨ts, htrim, hrel⟩
    | false =>
      have hlast := k.getLast?_replace (r ++ [c])
      rw [List.getLast?_concat, List.getLast?_eq_some_iff] at hlast
      obtain ⟨x, hx⟩ := hlast
      rw [hx, trimEnd_of_visible hc, ← hx] at h
      rw [trimEnd_of_visible hc]
      exact k.exists_tokens?_of_replace h

theorem exists_tokens?_of_trim_replace {s : List Char} {us : List Token}
    (h : tokens? (trim (k.replace s)) = some us) :
    ∃ ts, tokens? (trim s) = some ts ∧ List.Forall₂ k.Respelling ts us := by
  induction s using k.reading with
  | nil =>
    rw [k.replace_nil] at h
    cases h
    exact ⟨[], rfl, .nil⟩
  | spaced r =>
    -- in both texts a visible character follows the space, which is all that goes
    have hmark : isBlank k.mark = false := by cases k <;> decide
    have hletter : tokens? (trim (k.spaced ++ r)) = tokens? (trimEnd (k.spaced ++ r)) := by
      cases k <;> exact tokens?_trim_space (by decide) _
    have hreplaced : tokens? (trim (k.replace (k.spaced ++ r))) =
        tokens? (trimEnd (k.replace (k.spaced ++ r))) := by
      rw [k.replace_spaced]
      exact tokens?_trim_space hmark _
    rw [hreplaced] at h
    rw [hletter]
    exact k.exists_tokens?_of_trimEnd_replace h
  | cons c r hp ih =>
    cases hc : isBlank c with
    | true =>
      rw [k.replace_cons c r hp, trim, trimStart_cons hc] at h
      rw [trim, trimStart_cons hc]
      exact ih h
    | false =>
      have hr := k.replace_cons c r hp
      rw [hr, trim, trimStart_of_visible hc, ← hr] at h
      rw [trim, trimStart_of_visible hc]
      exact k.exists_tokens?_of_trimEnd_replace h

end Keyword

/-- The tokens of a text and those of its normal form, with the tokens between the replacements. -/
theorem exists_tokens?_between {s : List Char} {ts us : List Token} (hs : tokens? s = some ts)
    (h : tokens? (normalChars s) = some us) :
    ∃ vs, List.Forall₂ Keyword.or.Respelling ts vs ∧ List.Forall₂ Keyword.and.Respelling vs us := by
  rw [Keyword.normalChars_eq] at h
  obtain ⟨vs, hvs, hand⟩ := Keyword.and.exists_tokens?_of_trim_replace h
  obtain ⟨ws, hws, hor⟩ := Keyword.or.exists_tokens?_of_trim_replace hvs
  rw [tokens?_trim hs] at hws
  cases hws
  exact ⟨vs, hor, hand⟩

end ConditionRegistry
