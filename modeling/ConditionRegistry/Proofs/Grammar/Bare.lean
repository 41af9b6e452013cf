import ConditionRegistry.Proofs.Grammar.Nesting
import ConditionRegistry.Proofs.Guards
import ConditionRegistry.Proofs.Meaning.Blanks

set_option autoImplicit false

/-!
# Texts without strings and comments

The guards look at characters wherever they stand, in strings and comments too. In a text without
these they refuse nothing that can be read, except for its depth: every operator that they know is
joined where it is a token, and parentheses have their partners wherever they are groups or argument
lists.
-/

open ConditionRegistry.Language

namespace ConditionRegistry
open Guard

namespace Language

/-! ### Parentheses of tokens -/

def Token.paren? : Token → Option Char
  | .symbol .openParen => some '('
  | .symbol .closeParen => some ')'
  | _ => none

def parensOf (ts : List Token) : List Char := ts.filterMap Token.paren?

theorem parensOf_append (ts us : List Token) :
    parensOf (ts ++ us) = parensOf ts ++ parensOf us :=
  List.filterMap_append

theorem NoParens.parensOf_eq {ts : List Token} (h : NoParens ts) : parensOf ts = [] := by
  refine List.filterMap_eq_nil_iff.2 fun t ht => ?_
  have hparen := h t ht
  cases t with
  | symbol s => cases s <;> first | rfl | cases hparen
  | _ => rfl

theorem Nested.groups {d : Nat} {ts : List Token} (h : Nested d ts) :
    ∃ g : Groups, parensOf ts = g.text := by
  induction h with
  | flat h => exact ⟨.none, h.parensOf_eq⟩
  | append _ _ ih ih' =>
    obtain ⟨g, hg⟩ := ih
    obtain ⟨g', hg'⟩ := ih'
    exact ⟨g.append g', by rw [parensOf_append, hg, hg', Groups.text_append]⟩
  | inParens _ ih =>
    obtain ⟨g, hg⟩ := ih
    refine ⟨.group g .none, ?_⟩
    rw [parensOf_append, Groups.text, ← hg]
    rfl

/-! ### What the guards see of a token -/

/-- Text in which the guards see no lone operator, and no parentheses but those of the tokens. -/
structure SeenAs (w : List Char) (ts : List Token) : Prop where
  comparison : Quiet '=' isComparisonChar w
  and : Quiet '&' (· == '&') w
  or : Quiet '|' (· == '|') w
  parens : w.filter isParen = parensOf ts

namespace SeenAs
variable {w v : List Char} {ts us : List Token} {t : Token}

theorem append (h : SeenAs w ts) (h' : SeenAs v us) : SeenAs (w ++ v) (ts ++ us) where
  comparison := h.comparison.append h'.comparison
  and := h.and.append h'.and
  or := h.or.append h'.or
  parens := by rw [List.filter_append, h.parens, h'.parens, parensOf_append]

theorem hasLoneOperator_eq_false (h : SeenAs w ts) : hasLoneOperator w = false := by
  rw [hasLoneOperator, hasLoneAssignment, hasLone, hasLone, h.comparison.standsAlone_eq_false,
    h.and.standsAlone_eq_false, h.or.standsAlone_eq_false]
  rfl

theorem isBalanced (h : SeenAs w ts) {d : Nat} (hts : Nested d ts) : isBalanced w = true := by
  obtain ⟨g, hg⟩ := hts.groups
  exact isBalanced_of_groups (h.parens.trans hg)

theorem of_unwatched (hw : ∀ c ∈ watchedChars, c ∉ w) (hts : NoParens ts) : SeenAs w ts where
  comparison := .of_notMem (hw '=' (by decide))
  and := .of_notMem (hw '&' (by decide))
  or := .of_notMem (hw '|' (by decide))
  parens := by
    rw [hts.parensOf_eq, List.filter_eq_nil_iff]
    intro c hc hparen
    simp only [isParen, Bool.or_eq_true, beq_iff_eq] at hparen
    rcases hparen with rfl | rfl
    · exact hw '(' (by decide) hc
    · exact hw ')' (by decide) hc

theorem of_class {p : Char → Bool} (hp : watchedChars.any p = false)
    (hw : ∀ c ∈ w, p c = true) (hts : NoParens ts) : SeenAs w ts :=
  of_unwatched (fun c hc hmem => notMem_of_class hp (hw c hmem) hc) hts

theorem comparisonOp {d : Char} (hd : isComparisonChar d = true) (ht : t.isParen = false) :
    SeenAs [d, '='] [t] where
  comparison := .joined rfl hd
  and := .of_notMem (by simpa using (ne_of_class hd rfl).symm)
  or := .of_notMem (by simpa using (ne_of_class hd rfl).symm)
  parens := by
    have hopen : d ≠ '(' := ne_of_class hd rfl
    have hclose : d ≠ ')' := ne_of_class hd rfl
    rw [(NoParens.one ht).parensOf_eq]
    simp [isParen, hopen, hclose]

theorem andOp : SeenAs ['&', '&'] [.symbol .and] where
  comparison := .of_notMem (by decide)
  and := .joined rfl rfl
  or := .of_notMem (by decide)
  parens := rfl

theorem orOp : SeenAs ['|', '|'] [.symbol .or] where
  comparison := .of_notMem (by decide)
  and := .of_notMem (by decide)
  or := .joined rfl rfl
  parens := rfl

theorem paren {c : Char} (hc : isParen c = true) (ht : t.paren? = some c) :
    SeenAs [c] [t] where
  comparison := .of_notMem (by simpa using (ne_of_class hc rfl).symm)
  and := .of_notMem (by simpa using (ne_of_class hc rfl).symm)
  or := .of_notMem (by simpa using (ne_of_class hc rfl).symm)
  parens := by simp [parensOf, hc, ht]

end SeenAs

section
variable {s : List Char} {l : Lexeme}

theorem seenAs_symbol {m : Symbol × Nat} (h : symbol? s = some m) :
    SeenAs (s.take m.2) [.symbol m.1] := by
  have hother {c : Char} {x : Symbol} (hc : c ∉ watchedChars)
      (hx : (Token.symbol x).isParen = false) : SeenAs [c] [.symbol x] :=
    .of_unwatched (fun d hd hmem => hc (List.mem_singleton.1 hmem ▸ hd)) (.one hx)
  unfold symbol? at h
  split at h
  case h_1 | h_2 | h_3 | h_4 =>
    cases h
    exact .comparisonOp rfl rfl
  case h_5 =>
    cases h
    exact .andOp
  case h_6 =>
    cases h
    exact .orOp
  case h_19 | h_20 =>
    cases h
    exact .paren rfl rfl
  case h_23 =>
    split_ifs at h with hopen hclose
    · cases h
      rw [eq_of_beq hopen]
      exact hother (by decide) rfl
    · cases h
      rw [eq_of_beq hclose]
      exact hother (by decide) rfl
  case h_24 => cases h
  all_goals
    cases h
    exact hother (by decide) rfl

theorem seenAs_plain (h : PlainLexeme s l) (hl : l.1.isParen = false) :
    SeenAs (s.take l.2) [l.1] :=
  .of_unwatched (fun _ hc => h.chars.notMem_of_guarded (List.mem_cons_of_mem _ hc)) (.one hl)

theorem seenAs_escaped (h : escaped? s = some l) : SeenAs (s.take l.2) [l.1] := by
  have hl := isParen_of_escaped? h
  cases s with
  | nil => cases h
  | cons c r =>
    by_cases hc : c = Char.ofNat 96
    · subst hc
      obtain ⟨body, rest, rfl, hbody, hrest⟩ := exists_span isEscapedChar r
      rw [escaped?_append hbody hrest] at h
      split_ifs at h with hclosed
      cases h
      rw [Bool.and_eq_true, beq_iff_eq] at hclosed
      obtain ⟨t, rfl⟩ := List.head?_eq_some_iff.1 hclosed.2
      refine .of_class (p := fun c => isEscapedChar c || c == Char.ofNat 96) (by decide)
        (fun c hmem => ?_) (.one hl)
      simp only [List.take_succ_cons, List.take_length_add_append, List.take_zero, List.mem_cons,
        List.mem_append, List.not_mem_nil, or_false] at hmem
      rcases hmem with rfl | hmem | rfl
      · rfl
      · rw [List.all_eq_true.1 hbody c hmem, Bool.true_or]
      · rfl
    · rw [escaped?_of_head (by simpa using hc)] at h
      cases h

theorem seenAs_lexeme (hs : ∀ c ∈ s, isMark c = false) (h : lexeme? s = some l) :
    SeenAs (s.take l.2) [l.1] := by
  rcases lexeme?_cases h with h | h | h | h | ⟨m, hm, rfl⟩
  · rw [string?_eq_none fun c hc => hs c (List.mem_of_mem_take hc)] at h
    cases h
  · exact seenAs_plain (word?_plain h) (isParen_of_word? h)
  · exact seenAs_plain (number?_plain h) (isParen_of_number? h)
  · exact seenAs_escaped h
  · exact seenAs_symbol hm

end

/-! ### Along the text -/

structure IsBare (s : List Char) : Prop where
  single : '\'' ∉ s
  double : '"' ∉ s
  comment : ¬ ['/', '/'] <:+: s

namespace IsBare
variable {s u v : List Char}

theorem of_append (h : IsBare (u ++ v)) : IsBare v where
  single hv := h.single (List.mem_append_right u hv)
  double hv := h.double (List.mem_append_right u hv)
  comment hv := h.comment (hv.trans (List.suffix_append u v).isInfix)

theorem isMark_eq_false (h : IsBare s) {c : Char} (hc : c ∈ s) : isMark c = false := by
  have hsingle : c ≠ '\'' := ne_of_mem_of_not_mem hc h.single
  have hdouble : c ≠ '"' := ne_of_mem_of_not_mem hc h.double
  simp [isMark, hsingle, hdouble]

end IsBare

theorem seenAs_gap {u v : List Char} (hu : u ≠ []) (hgap : gapLength (u ++ v) = u.length)
    (hbare : IsBare (u ++ v)) : SeenAs u [] := by
  cases u with
  | nil => exact absurd rfl hu
  | cons c r =>
    have hcomment : ¬ ['/', '/'] <+: c :: (r ++ v) := fun hp => hbare.comment hp.isInfix
    rw [List.cons_append, gapLength_of_not_comment hcomment] at hgap
    split_ifs at hgap with hspace
    obtain rfl : r = [] := List.eq_nil_of_length_eq_zero (Nat.succ.inj hgap.symm)
    exact .of_class (p := isSpace) (by decide) (by simpa using hspace) .nil

theorem seenAs_of_tokens? {s : List Char} {ts : List Token} (h : tokens? s = some ts) :
    IsBare s → SeenAs s ts := by
  refine cuttingTokens (P := fun s ts => IsBare s → SeenAs s ts) ?_ ?_ ?_ h
  · exact fun _ => .of_unwatched (fun _ _ => List.not_mem_nil) .nil
  · intro u v ts hu hgap ih hbare
    exact (seenAs_gap hu hgap hbare).append (ih hbare.of_append)
  · intro a u v ts _ hl ih hbare
    have hseen := seenAs_lexeme (fun _ => hbare.isMark_eq_false) hl
    rw [List.take_left] at hseen
    exact hseen.append (ih hbare.of_append)

end Language

/-- Of the texts without strings and comments that can be read, the guards refuse those in which
    some part opens too much, and no others: none for its operators, and none for partners that its
    parentheses lack. -/
theorem accepted_iff_shallow_of_bare (order : MapOrder) (text : String) (h : IsBare text.toList) :
    ((∃ e, (engine order).parse text = .ok e) →
        checkOperators text = .ok () ∧ checkAssignment text = .ok () ∧
          checkBalance text = .ok ()) ∧
      (checkNormal (engine order) text = .ok () ↔ (∃ e, (engine order).parse text = .ok e) ∧
        ∀ w, w <:+: text.toList → w.count '(' ≤ w.count ')' + maxDepth) := by
  have hguards : (∃ e, (engine order).parse text = .ok e) →
      hasLoneOperator text.toList = false ∧ isBalanced text.toList = true := by
    intro hparse
    obtain ⟨e, he⟩ := Option.isSome_iff_exists.1 ((parse_eq_ok_iff order text).1 hparse)
    obtain ⟨ts, n, hts, hn⟩ := exists_reading he
    have hseen := seenAs_of_tokens? hts h
    exact ⟨hseen.hasLoneOperator_eq_false, hseen.isBalanced hn.nested⟩
  have hpresent : (∃ e, (engine order).parse text = .ok e) → text.isEmpty = false := by
    intro hparse
    rw [parse_eq_ok_iff] at hparse
    by_contra hempty
    rw [Bool.not_eq_false, String.isEmpty_iff] at hempty
    rw [hempty] at hparse
    cases hparse
  refine ⟨fun hparse => ?_, ?_⟩
  · obtain ⟨hoperator, hbalanced⟩ := hguards hparse
    simp only [checkOperators, checkAssignment, checkBalance, hoperator,
      hasLoneAssignment_of_paired hoperator, hbalanced]
    exact ⟨rfl, rfl, rfl⟩
  · rw [checkNormal_eq_ok_iff, ← isTooDeep_eq_false_iff]
    constructor
    · exact fun hacc => ⟨hacc.readable, hacc.shallow⟩
    · rintro ⟨hparse, hshallow⟩
      obtain ⟨hoperator, hbalanced⟩ := hguards hparse
      exact ⟨hpresent hparse, hoperator, hbalanced, hshallow, hparse⟩

/-- Operators of all kinds, and parentheses of groups and of argument lists. -/
theorem accepted_iff_shallow_of_bare_mixed :
    IsBare "a.b(x <= 1, [y]) != {1: (z)}[1] || (w == 2 && v >= 3)".toList ∧
      checkNormal engine "a.b(x <= 1, [y]) != {1: (z)}[1] || (w == 2 && v >= 3)" = .ok () := by
  have hbare : IsBare "a.b(x <= 1, [y]) != {1: (z)}[1] || (w == 2 && v >= 3)".toList :=
    ⟨by decide, by decide, by decide⟩
  have hparse := (parse_eq_ok_iff .inserted
    "a.b(x <= 1, [y]) != {1: (z)}[1] || (w == 2 && v >= 3)").2 (by decide +kernel)
  exact ⟨hbare, (accepted_iff_shallow_of_bare .inserted _ hbare).2.2
    ⟨hparse, (isTooDeep_eq_false_iff _).1 (by decide +kernel)⟩⟩

/-- In a string the guards find what is no operator. -/
example : (parse? "x == '='".toList).isSome = true ∧
    checkNormal engine "x == '='" = .error .loneOperator := by
  decide +kernel

end ConditionRegistry
