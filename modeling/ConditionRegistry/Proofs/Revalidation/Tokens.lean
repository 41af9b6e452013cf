import ConditionRegistry.Proofs.Revalidation.Literals

set_option autoImplicit false

/-!
# Loose keywords

A keyword is loose in a text if it stands between spaces outside of strings and comments. Replacing
it in a settled text leaves all tokens as they are, up to the content of strings, if it is not
loose; and it puts two operators side by side if it is.
-/

open ConditionRegistry.Language

namespace ConditionRegistry
open Text

namespace Keyword
variable (k : Keyword)

/-- Whether the keyword stands between spaces where a token or a gap begins. The first `skip`
    characters belong to a token or gap that has been found. -/
def looseAfter (k : Keyword) : Nat → List Char → Bool
  | _, [] => false
  | skip + 1, _ :: r => k.looseAfter skip r
  | 0, c :: r =>
    k.spaced.isPrefixOf (c :: r) ||
      match gapLength (c :: r) with
      | n + 1 => k.looseAfter n r
      | 0 =>
        match lexeme? (c :: r) with
        | some (_, n) => k.looseAfter (n - 1) r
        | none => false

def isLoose (s : List Char) : Bool := k.looseAfter 0 s

theorem looseAfter_eq (n : Nat) (s : List Char) : k.looseAfter n s = k.isLoose (s.drop n) := by
  induction s generalizing n with
  | nil => cases n <;> rfl
  | cons c r ih =>
    cases n with
    | zero => rfl
    | succ n => exact ih n

theorem isPrefixOf_spaced_eq_false {s : List Char} (h : ¬ k.spaced <+: s) :
    k.spaced.isPrefixOf s = false := by
  rw [← Bool.not_eq_true, List.isPrefixOf_iff_prefix]
  exact h

theorem isLoose_of_spaced {s : List Char} (h : k.spaced <+: s) : k.isLoose s = true := by
  cases s with
  | nil => cases k <;> simp [spaced] at h
  | cons c r =>
    rw [isLoose, looseAfter, List.isPrefixOf_iff_prefix.2 h]
    rfl

theorem isLoose_gap {u v : List Char} (hu : u ≠ []) (hs : ¬ k.spaced <+: u ++ v)
    (h : gapLength (u ++ v) = u.length) : k.isLoose (u ++ v) = k.isLoose v := by
  cases u with
  | nil => exact absurd rfl hu
  | cons c r =>
    have hp := k.isPrefixOf_spaced_eq_false hs
    have hrest := k.looseAfter_eq r.length (r ++ v)
    rw [List.drop_left] at hrest
    rw [List.cons_append, List.length_cons] at h
    rw [List.cons_append] at hp ⊢
    rw [← hrest]
    simp only [isLoose, looseAfter, h, hp, Bool.false_or]

theorem isLoose_token {a : Token} {u v : List Char} (hu : u ≠ []) (hs : ¬ k.spaced <+: u ++ v)
    (hgap : gapLength (u ++ v) = 0) (h : lexeme? (u ++ v) = some (a, u.length)) :
    k.isLoose (u ++ v) = k.isLoose v := by
  cases u with
  | nil => exact absurd rfl hu
  | cons c r =>
    have hp := k.isPrefixOf_spaced_eq_false hs
    have hrest := k.looseAfter_eq r.length (r ++ v)
    rw [List.drop_left] at hrest
    rw [List.cons_append, List.length_cons] at h
    rw [List.cons_append] at hgap hp ⊢
    rw [← hrest]
    simp only [isLoose, looseAfter, hgap, h, hp, Bool.false_or]
    rfl

theorem isLoose_of_none {s : List Char} (hs : ¬ k.spaced <+: s) (hgap : gapLength s = 0)
    (h : lexeme? s = none) : k.isLoose s = false := by
  cases s with
  | nil => rfl
  | cons c r =>
    have hp := k.isPrefixOf_spaced_eq_false hs
    simp only [isLoose, looseAfter, hgap, h, hp, Bool.false_or]

end Keyword

/-! ### Gaps -/

theorem tokens?_gap {u v : List Char} (hu : u ≠ []) (h : gapLength (u ++ v) = u.length) :
    tokens? (u ++ v) = tokens? v := by
  have hpos : u.length ≠ 0 := (List.length_pos_iff.2 hu).ne'
  rw [← h] at hpos
  rw [tokens?_of_gap hpos, h, List.drop_left]

/-- A gap, and where it ends after replacing. In a settled text no keyword is next. -/
structure CarriedGap (k : Keyword) (u v : List Char) : Prop where
  length : gapLength (u ++ v) = u.length
  replace : k.replace (u ++ v) = k.replace u ++ k.replace v
  replaced : gapLength (k.replace u ++ k.replace v) = (k.replace u).length
  next : ∀ {before}, k.SettledAfter before (u ++ v) → u ≠ [] → ¬ k.spaced <+: v

theorem CarriedGap.nil {k : Keyword} {s : List Char} (h : gapLength s = 0)
    (h' : gapLength (k.replace s) = 0) : CarriedGap k [] s where
  length := h
  replace := by
    rw [k.replace_nil]
    rfl
  replaced := by
    rw [k.replace_nil]
    exact h'
  next := fun _ hne => absurd rfl hne

theorem gapLength_of_not_comment {c : Char} {r : List Char} (h : ¬ ['/', '/'] <+: c :: r) :
    gapLength (c :: r) = if isSpace c then 1 else 0 := by
  unfold gapLength
  split
  · rename_i t heq
    rw [heq] at h
    exact absurd ⟨t, rfl⟩ h
  · rename_i heq
    injection heq with hc _
    rw [hc]
  · rename_i heq
    cases heq

theorem carriedGap_comment (k : Keyword) {body rest : List Char}
    (hbody : body.all (· != '\n') = true) (hrest : ∀ c ∈ rest.head?, (c != '\n') = false) :
    CarriedGap k ('/' :: '/' :: body) rest := by
  have hcons : ∀ t, k.replace ('/' :: '/' :: t) = '/' :: '/' :: k.replace t := fun t => by
    rw [k.replace_cons _ _ (k.not_spaced_of_ne (by decide) _),
      k.replace_cons _ _ (k.not_spaced_of_ne (by decide) _)]
  have hgap : ∀ {body rest : List Char}, body.all (· != '\n') = true →
      (∀ c ∈ rest.head?, (c != '\n') = false) →
      gapLength ('/' :: '/' :: (body ++ rest)) = body.length + 2 := by
    intro body rest hbody hrest
    rw [gapLength, takeWhile_append_stop hbody hrest, Nat.add_comm]
  have hsplit : k.replace (body ++ rest) = k.replace body ++ k.replace rest := by
    refine k.replace_append_stop (fun c hc => ?_) body
    have hline : c = '\n' := by simpa using hrest c hc
    rw [hline]
    cases k <;> decide
  have hbody' : (k.replace body).all (· != '\n') = true := by
    rw [List.all_eq_true] at hbody ⊢
    intro c hc
    rcases k.mem_replace hc with hc | rfl
    · exact hbody c hc
    · cases k <;> decide
  refine ⟨hgap hbody hrest, ?_, ?_, fun _ _ hp => ?_⟩
  · rw [List.cons_append, List.cons_append, hcons, hcons, hsplit]
    rfl
  · rw [hcons, List.cons_append, List.cons_append,
      hgap hbody' ((k.sameLead_replace rest).head?_eq ▸ hrest)]
    rfl
  · obtain ⟨t, rfl⟩ := hp
    have hspace := hrest ' ' rfl
    cases hspace

theorem exists_carriedGap (k : Keyword) {s : List Char} (hs : ¬ k.spaced <+: s) :
    ∃ u v, s = u ++ v ∧ CarriedGap k u v := by
  cases s with
  | nil =>
    exact ⟨[], [], rfl, .nil rfl (by rw [k.replace_nil]; rfl)⟩
  | cons c r =>
    by_cases hcomment : ['/', '/'] <+: c :: r
    · obtain ⟨t, ht⟩ := hcomment
      obtain ⟨body, rest, rfl, hbody, hrest⟩ := exists_span (· != '\n') t
      exact ⟨'/' :: '/' :: body, rest, ht.symm, carriedGap_comment k hbody hrest⟩
    · have hr := k.replace_cons c r hs
      have hcomment' : ¬ ['/', '/'] <+: c :: k.replace r := by
        rw [← hr, ← (k.sameLead_replace (c :: r)).isPrefix_iff (by decide)]
        exact hcomment
      have hgap := gapLength_of_not_comment hcomment
      have hgap' := gapLength_of_not_comment hcomment'
      cases hspace : isSpace c with
      | true =>
        rw [hspace] at hgap hgap'
        have hone : k.replace [c] = [c] := by
          rw [k.replace_cons c [] fun hp => hs (hp.trans ⟨r, rfl⟩), k.replace_nil]
        refine ⟨[c], r, rfl, hgap, ?_, ?_, fun h _ hp => ?_⟩
        · rw [List.singleton_append, hr, hone]
          rfl
        · rw [hone, List.singleton_append, hgap']
          rfl
        · have hc : c = k.mark := Option.some.inj (h.2.before_eq hp)
          rw [hc] at hspace
          cases k <;> cases hspace
      | false =>
        rw [hspace] at hgap hgap'
        exact ⟨[], c :: r, rfl, .nil hgap (by rw [hr, hgap']; rfl)⟩

/-! ### Cutting a settled text -/

structure CarriedToken (k : Keyword) (a : Token) (u v : List Char) : Prop where
  gap : gapLength (u ++ v) = 0
  lexeme : lexeme? (u ++ v) = some (a, u.length)
  replace : k.replace (u ++ v) = k.replace u ++ k.replace v
  gap_replaced : gapLength (k.replace u ++ k.replace v) = 0
  lexeme_replaced :
    lexeme? (k.replace u ++ k.replace v) = some (k.respelled a, (k.replace u).length)
  alike : Alike a (k.respelled a)
  next : k.spaced <+: v → a = .symbol k.symbol

namespace Keyword
variable (k : Keyword)

theorem replace_ne_nil {s : List Char} (h : s ≠ []) : k.replace s ≠ [] := by
  intro hnil
  have hhead := (k.sameLead_replace s).head?_eq
  rw [hnil, List.head?_nil, List.head?_eq_none_iff] at hhead
  exact h hhead

/-- Induction along a settled text as it is cut into tokens. -/
theorem cutting {P : List Char → Prop} (nil : P []) (spaced : ∀ r, P (k.spaced ++ r))
    (gap : ∀ u v, u ≠ [] → ¬ k.spaced <+: u ++ v → CarriedGap k u v → ¬ k.spaced <+: v → P v →
      P (u ++ v))
    (token : ∀ a u v, u ≠ [] → ¬ k.spaced <+: u ++ v → CarriedToken k a u v → P v → P (u ++ v))
    (stuck : ∀ s, s ≠ [] → ¬ k.spaced <+: s → gapLength s = 0 → gapLength (k.replace s) = 0 →
      lexeme? s = none → lexeme? (k.replace s) = none → P s)
    {s : List Char} {before : Option Char} (h : k.SettledAfter before s) : P s := by
  induction hlength : s.length using Nat.strongRecOn generalizing s before with
  | _ n ih =>
    subst hlength
    have hrest : ∀ {u v}, s = u ++ v → u ≠ [] → P v := by
      rintro u v rfl hu
      refine ih v.length ?_ h.append rfl
      have hpos := List.length_pos_iff.2 hu
      rw [List.length_append]
      omega
    by_cases hs : s = []
    · rw [hs]
      exact nil
    by_cases hp : k.spaced <+: s
    · obtain ⟨r, rfl⟩ := hp
      exact spaced r
    obtain ⟨u, v, huv, hgap⟩ := exists_carriedGap k hp
    by_cases hu : u = []
    · subst hu
      rw [List.nil_append] at huv
      subst huv
      have hzero := hgap.replaced
      rw [k.replace_nil] at hzero
      cases carried_lexeme? k h with
      | missing hnone hnone' => exact stuck _ hs hp hgap.length hzero hnone hnone'
      | found a u v hu huv hl hr hl' =>
        rw [hr] at hzero hl'
        rw [huv] at h hl hr hp hgap ⊢
        refine token a u v hu hp ⟨hgap.length, hl, hr, hzero, hl', alike_respelled k hu h hl, ?_⟩
          (hrest huv hu)
        -- the text is settled, so a keyword right after the token makes it end in the mark
        intro hv
        have hlast := h.append.before_eq hv
        rw [List.getLast?_eq_some_getLast hu, Option.some_or,
          ← List.getLast?_eq_some_getLast hu] at hlast
        refine eq_symbol_of_lexeme? hl ?_
        rw [List.take_left]
        exact hlast
    · rw [huv] at h hp ⊢
      exact gap u v hu hp hgap (hgap.next h hu) (hrest huv hu)

end Keyword

/-! ### What becomes of the tokens -/

namespace CarriedToken
variable {k : Keyword} {a : Token} {u v : List Char}

theorem tokens?_eq (h : CarriedToken k a u v) (hu : u ≠ []) :
    tokens? (u ++ v) = (tokens? v).map (a :: ·) :=
  ReadsAs.of_lexeme hu h.gap h.lexeme

theorem tokens?_replaced (h : CarriedToken k a u v) (hu : u ≠ []) :
    tokens? (k.replace (u ++ v)) = (tokens? (k.replace v)).map (k.respelled a :: ·) := by
  rw [h.replace]
  exact ReadsAs.of_lexeme (k.replace_ne_nil hu) h.gap_replaced h.lexeme_replaced

end CarriedToken

def isOperator : Token → Bool
  | .symbol .and | .symbol .or => true
  | _ => false

/-- Whether operators stand between what they join. `after` tells if one stands before, or
    nothing. -/
def isProper (after : Bool) : List Token → Bool
  | [] => !after
  | a :: r => !(after && isOperator a) && isProper (isOperator a) r

namespace Keyword
variable (k : Keyword)

/-- A keyword that is not loose can only be replaced in strings and comments. -/
theorem alike_tokens? {s : List Char} {before : Option Char} (h : k.SettledAfter before s)
    (hs : k.isLoose s = false) :
    Option.Rel (List.Forall₂ Alike) (tokens? s) (tokens? (k.replace s)) := by
  revert hs
  refine k.cutting (P := fun s => k.isLoose s = false →
    Option.Rel (List.Forall₂ Alike) (tokens? s) (tokens? (k.replace s))) ?nil ?spaced ?gap ?token
    ?stuck h
  case nil =>
    intro _
    rw [k.replace_nil]
    exact .some .nil
  case spaced =>
    intro r hs
    rw [k.isLoose_of_spaced (List.prefix_append _ r)] at hs
    cases hs
  case gap =>
    intro u v hu hp hgap _ ih hs
    rw [k.isLoose_gap hu hp hgap.length] at hs
    rw [hgap.replace, tokens?_gap hu hgap.length, tokens?_gap (k.replace_ne_nil hu) hgap.replaced]
    exact ih hs
  case token =>
    intro a u v hu hp htoken ih hs
    rw [k.isLoose_token hu hp htoken.gap htoken.lexeme] at hs
    rw [htoken.tokens?_eq hu, htoken.tokens?_replaced hu]
    have hrest := ih hs
    generalize tokens? v = ts at hrest ⊢
    generalize tokens? (k.replace v) = us at hrest ⊢
    cases hrest with
    | none => exact .none
    | some hrest => exact .some (.cons htoken.alike hrest)
  case stuck =>
    intro s hne hp hgap hgap' hnone hnone' _
    rw [tokens?_of_none hne hgap hnone, tokens?_of_none (k.replace_ne_nil hne) hgap' hnone']
    exact .none

theorem isOperator_respelled (a : Token) : isOperator (k.respelled a) = isOperator a := by
  cases a <;> rfl

/-- A loose keyword stands after its operator, so that its own makes two of them. -/
theorem isProper_tokens?_of_isLoose {s : List Char} {before : Option Char}
    (h : k.SettledAfter before s) (hs : k.isLoose s = true) {after : Bool}
    (hafter : k.spaced <+: s → after = true) {ts : List Token}
    (hts : tokens? (k.replace s) = some ts) : isProper after ts = false := by
  revert after ts
  revert hs
  refine k.cutting (P := fun s => k.isLoose s = true → ∀ {after : Bool},
    (k.spaced <+: s → after = true) → ∀ {ts}, tokens? (k.replace s) = some ts →
      isProper after ts = false) ?nil ?spaced ?gap ?token ?stuck h
  case nil =>
    intro hs
    cases hs
  case spaced =>
    intro r _ after hafter ts hts
    have hread : ReadsAs (' ' :: k.operator) [.symbol k.symbol] (' ' :: k.replace r) :=
      (ReadsAs.operator k _).space
    rw [k.replace_spaced, hread] at hts
    obtain ⟨rest, -, rfl⟩ := Option.map_eq_some_iff.1 hts
    rw [hafter (List.prefix_append _ r)]
    cases k <;> rfl
  case gap =>
    intro u v hu hp hgap hnext ih hs after _ ts hts
    rw [k.isLoose_gap hu hp hgap.length] at hs
    rw [hgap.replace, tokens?_gap (k.replace_ne_nil hu) hgap.replaced] at hts
    exact ih hs (fun hv => absurd hv hnext) hts
  case token =>
    intro a u v hu hp htoken ih hs after _ ts hts
    rw [k.isLoose_token hu hp htoken.gap htoken.lexeme] at hs
    rw [htoken.tokens?_replaced hu] at hts
    obtain ⟨rest, hrest, rfl⟩ := Option.map_eq_some_iff.1 hts
    have hv : k.spaced <+: v → isOperator (k.respelled a) = true := by
      intro hv
      rw [isOperator_respelled, htoken.next hv]
      cases k <;> rfl
    rw [isProper, ih hs hv hrest, Bool.and_false]
  case stuck =>
    intro s _ hp hgap _ hnone _ hs
    rw [k.isLoose_of_none hp hgap hnone] at hs
    cases hs

theorem spaced_isPrefix_replace_iff (j : Keyword) {s : List Char} (hp : ¬ k.spaced <+: s) :
    j.spaced <+: k.replace s ↔ j.spaced <+: s := by
  cases s with
  | nil => rw [k.replace_nil]
  | cons c r =>
    rw [k.replace_cons c r hp]
    exact (j.spaced_isPrefix_cons_iff (k.sameLead_replace r) c).symm

theorem isLoose_replace_of_start (j : Keyword) {s : List Char} (hp : ¬ k.spaced <+: s)
    (h : ¬ j.spaced <+: s → ¬ j.spaced <+: k.replace s → j.isLoose (k.replace s) = j.isLoose s) :
    j.isLoose (k.replace s) = j.isLoose s := by
  have hstart := k.spaced_isPrefix_replace_iff j hp
  by_cases hj : j.spaced <+: s
  · rw [j.isLoose_of_spaced hj, j.isLoose_of_spaced (hstart.2 hj)]
  · exact h hj (mt hstart.1 hj)

theorem isLoose_replace (j : Keyword) {s : List Char} {before : Option Char}
    (h : k.SettledAfter before s) (hs : k.isLoose s = false) :
    j.isLoose (k.replace s) = j.isLoose s := by
  revert hs
  refine k.cutting (P := fun s => k.isLoose s = false → j.isLoose (k.replace s) = j.isLoose s)
    ?nil ?spaced ?gap ?token ?stuck h
  case nil =>
    intro _
    rw [k.replace_nil]
  case spaced =>
    intro r hs
    rw [k.isLoose_of_spaced (List.prefix_append _ r)] at hs
    cases hs
  case gap =>
    intro u v hu hp hgap _ ih hs
    rw [k.isLoose_gap hu hp hgap.length] at hs
    refine k.isLoose_replace_of_start j hp fun hj hj' => ?_
    rw [hgap.replace] at hj' ⊢
    rw [j.isLoose_gap hu hj hgap.length, j.isLoose_gap (k.replace_ne_nil hu) hj' hgap.replaced]
    exact ih hs
  case token =>
    intro a u v hu hp htoken ih hs
    rw [k.isLoose_token hu hp htoken.gap htoken.lexeme] at hs
    refine k.isLoose_replace_of_start j hp fun hj hj' => ?_
    rw [htoken.replace] at hj' ⊢
    rw [j.isLoose_token hu hj htoken.gap htoken.lexeme,
      j.isLoose_token (k.replace_ne_nil hu) hj' htoken.gap_replaced htoken.lexeme_replaced]
    exact ih hs
  case stuck =>
    intro s hne hp hgap hgap' hnone hnone' _
    refine k.isLoose_replace_of_start j hp fun hj hj' => ?_
    rw [j.isLoose_of_none hj hgap hnone, j.isLoose_of_none hj' hgap' hnone']

end Keyword

end ConditionRegistry
