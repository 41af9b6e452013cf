import ConditionRegistry.Proofs.Grammar.Readings
import ConditionRegistry.Proofs.Guards.Parentheses
import ConditionRegistry.Proofs.Revalidation

set_option autoImplicit false

/-!
# How deep accepted conditions nest

The guard bounds how many parentheses are open at a time. So it bounds how deep groups and argument
lists stand within each other, as far as no parenthesis is closed in a string or a comment; list and
map literals it does not see.
-/

open ConditionRegistry.Language

namespace ConditionRegistry
open Guard

namespace Language

/-! ### Literals in a program -/

mutual

/-- How deep list and map literals stand within each other. -/
def Expr.literalDepth : Expr → Nat
  | .literal _ | .variable _ => 0
  | .field e _ | .hasField e _ | .not e | .negate e => e.literalDepth
  | .binary _ a b | .and a b | .or a b => max a.literalDepth b.literalDepth
  | .choose c a b => max c.literalDepth (max a.literalDepth b.literalDepth)
  | .call _ args => exprsDepth args
  | .method target _ args => max target.literalDepth (exprsDepth args)
  | .list items => exprsDepth items + 1
  | .map entries => entriesDepth entries + 1
  | .message _ fields => fieldsDepth fields
  | .loop _ _ range body => max range.literalDepth body.literalDepth
  | .mapWhere _ range condition body =>
    max range.literalDepth (max condition.literalDepth body.literalDepth)

def exprsDepth : List Expr → Nat
  | [] => 0
  | e :: r => max e.literalDepth (exprsDepth r)

def entriesDepth : List (Expr × Expr) → Nat
  | [] => 0
  | (a, b) :: r => max (max a.literalDepth b.literalDepth) (entriesDepth r)

def fieldsDepth : List (String × Expr) → Nat
  | [] => 0
  | (_, e) :: r => max e.literalDepth (fieldsDepth r)

end

def Part.literalDepth : Part → Nat
  | .expr e => e.literalDepth
  | .entry a b => max a.literalDepth b.literalDepth
  | .field _ e => e.literalDepth

def partsDepth : List Part → Nat
  | [] => 0
  | p :: r => max p.literalDepth (partsDepth r)

theorem partsDepth_singleton (p : Part) : partsDepth [p] = p.literalDepth := Nat.max_zero _

theorem partsDepth_exprs (es : List Expr) : partsDepth (es.map .expr) = exprsDepth es := by
  induction es with
  | nil => rfl
  | cons e r ih => rw [List.map_cons, partsDepth, ih, exprsDepth, Part.literalDepth]

theorem partsDepth_entries (es : List (Expr × Expr)) :
    partsDepth (es.map fun p => .entry p.1 p.2) = entriesDepth es := by
  induction es with
  | nil => rfl
  | cons p r ih => rw [List.map_cons, partsDepth, ih, entriesDepth, Part.literalDepth]

theorem partsDepth_fields (fs : List (String × Expr)) :
    partsDepth (fs.map fun p => .field p.1 p.2) = fieldsDepth fs := by
  induction fs with
  | nil => rfl
  | cons p r ih => rw [List.map_cons, partsDepth, ih, fieldsDepth, Part.literalDepth]

theorem literalDepth_of_called {dotted : Bool} {f : String} {args : List Expr} {e : Expr}
    (h : called dotted f args = some e) : e.literalDepth = exprsDepth args := by
  unfold called globalCall at h
  split at h
  · cases h
    rfl
  · split at h
    · split at h
      · split at h <;> cases h <;> simp [exprsDepth, Expr.literalDepth]
      · cases h
        rfl
    · cases h
      rfl

theorem literalDepth_of_methodCall {a : Expr} {f : String} {args : List Expr} {e : Expr}
    (h : methodCall a f args = some e) : e.literalDepth = max a.literalDepth (exprsDepth args) := by
  unfold methodCall at h
  split at h
  · split at h <;> cases h
    simp [exprsDepth, Expr.literalDepth]
  · split at h <;> cases h
    simp [exprsDepth, Expr.literalDepth]
  · cases h
    rfl

theorem Spells.brackets_eq {ps : List Part} {ts : List Token} {n : Nesting} (h : Spells ps ts n) :
    n.brackets = partsDepth ps := by
  induction h with
  | none | literal | negative | var => rfl
  | more h hs ih ihs =>
    rw [Nesting.brackets_join, ih, ihs, partsDepth_singleton]
    rfl
  | field hf h ih => exact ih
  | group h ih => exact ih
  | access h hf ih => exact ih
  | negate k h ih => exact ih
  | not k h ih => exact ih
  | list comma h ih =>
    rw [Nesting.brackets_inBrackets, ih, partsDepth_exprs, partsDepth_singleton]
    rfl
  | map comma h ih =>
    rw [Nesting.brackets_inBrackets, ih, partsDepth_entries, partsDepth_singleton]
    rfl
  | message dotted comma hx h ih =>
    rw [ih, partsDepth_fields, partsDepth_singleton]
    rfl
  | call dotted h he ih =>
    rw [Nesting.brackets_inParens, ih, partsDepth_exprs, partsDepth_singleton, Part.literalDepth,
      literalDepth_of_called he]
  | method ha h he iha ih =>
    rw [Nesting.brackets_join, Nesting.brackets_inParens, iha, ih, partsDepth_exprs,
      partsDepth_singleton, partsDepth_singleton, Part.literalDepth, Part.literalDepth,
      literalDepth_of_methodCall he]
  | choose hc ha hb ihc iha ihb =>
    simp only [Nesting.brackets_join, ihc, iha, ihb, partsDepth_singleton]
    rfl
  | entry _ _ iha ihb | index _ _ iha ihb | binary _ _ _ iha ihb | and _ _ iha ihb
  | or _ _ iha ihb =>
    simp only [Nesting.brackets_join, iha, ihb, partsDepth_singleton]
    rfl

/-! ### Parentheses among tokens -/

def Token.isParen : Token → Bool
  | .symbol .openParen | .symbol .closeParen => true
  | _ => false

def NoParens (ts : List Token) : Prop := ∀ t ∈ ts, t.isParen = false

namespace NoParens
variable {t : Token} {ts us : List Token}

theorem nil : NoParens [] := fun _ h => by cases h

theorem cons (ht : t.isParen = false) (h : NoParens ts) : NoParens (t :: ts) :=
  List.forall_mem_cons.2 ⟨ht, h⟩

theorem one (ht : t.isParen = false) : NoParens [t] := nil.cons ht

theorem append (h : NoParens ts) (h' : NoParens us) : NoParens (ts ++ us) :=
  List.forall_mem_append.2 ⟨h, h'⟩

theorem count_eq_zero (h : NoParens ts) {t : Token} (ht : t.isParen = true) : ts.count t = 0 :=
  List.count_eq_zero.2 fun hmem => by
    rw [h t hmem] at ht
    cases ht

theorem perhaps {s : Symbol} (hs : (Token.symbol s).isParen = false) (b : Bool) :
    NoParens (Language.perhaps b s) := by
  cases b with
  | true => exact one hs
  | false => exact nil

theorem dotted {x : String} (h : Dotted x ts) : NoParens ts := by
  induction h with
  | one n => exact one rfl
  | more n h ih => exact (ih.cons rfl).cons rfl

theorem replicate {s : Symbol} (hs : (Token.symbol s).isParen = false) (k : Nat) :
    NoParens (List.replicate k (.symbol s)) := fun _ ht => by
  rwa [List.eq_of_mem_replicate ht]

end NoParens

section
variable {t : Token} {v : Literal} {f : String} {op : BinaryOp}

theorem isParen_of_literal? (h : t.literal? = some v) : t.isParen = false := by
  cases t with
  | symbol s => cases s <;> first | rfl | cases h
  | _ => rfl

theorem isParen_of_negative? (h : t.negative? = some v) : t.isParen = false := by
  cases t with
  | symbol s => cases h
  | _ => rfl

theorem isParen_of_field? (h : t.field? = some f) : t.isParen = false := by
  cases t with
  | symbol s => cases h
  | _ => rfl

theorem isParen_of_binary? (h : t.binary? = some op) : t.isParen = false := by
  cases t with
  | symbol s => cases s <;> first | rfl | cases h
  | _ => rfl

end

/-- Tokens in which all parentheses have their partners, `d` pairs within each other. -/
inductive Nested : Nat → List Token → Prop
  | flat {ts : List Token} (h : NoParens ts) : Nested 0 ts
  | append {d e : Nat} {ts us : List Token} (h : Nested d ts) (h' : Nested e us) :
    Nested (max d e) (ts ++ us)
  | inParens {d : Nat} {ts : List Token} (h : Nested d ts) :
    Nested (d + 1) (.symbol .openParen :: ts ++ [.symbol .closeParen])

namespace Nested
variable {d e : Nat} {ts us : List Token}

theorem after (h : Nested d ts) (hus : NoParens us) : Nested d (us ++ ts) := by
  have happend := (flat hus).append h
  rwa [Nat.zero_max] at happend

theorem before (h : Nested d ts) (hus : NoParens us) : Nested d (ts ++ us) := by
  have happend := h.append (flat hus)
  rwa [Nat.max_zero] at happend

theorem join (h : Nested d ts) {t : Token} (ht : t.isParen = false) (h' : Nested e us) :
    Nested (max d e) (ts ++ t :: us) :=
  h.append (h'.after (.one ht))

end Nested

theorem Spells.nested {ps : List Part} {ts : List Token} {n : Nesting} (h : Spells ps ts n) :
    Nested n.parens ts := by
  induction h with
  | none => exact .flat .nil
  | literal hv => exact .flat (.one (isParen_of_literal? hv))
  | negative hv => exact .flat (.cons rfl (.one (isParen_of_negative? hv)))
  | var dotted x => exact .flat ((NoParens.perhaps rfl dotted).append (.one rfl))
  | field hf h ih => exact ih.after (.cons (isParen_of_field? hf) (.one rfl))
  | group h ih => exact ih.inParens
  | access h hf ih => exact ih.before (.cons rfl (.one (isParen_of_field? hf)))
  | negate k h ih => exact ih.after (.replicate rfl _)
  | not k h ih => exact ih.after (.replicate rfl _)
  | list comma h ih =>
    exact ((ih.before (.perhaps rfl comma)).after (.one rfl)).before (.one rfl)
  | map comma h ih =>
    exact ((ih.before (.perhaps rfl comma)).after (.one rfl)).before (.one rfl)
  | message dotted comma hx h ih =>
    exact (((ih.before (.perhaps rfl comma)).after (.one rfl)).before (.one rfl)).after
      ((NoParens.perhaps rfl dotted).append (.dotted hx))
  | call dotted h he ih =>
    exact ih.inParens.after ((NoParens.perhaps rfl dotted).append (.one rfl))
  | method ha h he iha ih =>
    exact iha.append (ih.inParens.after (.cons rfl (.one rfl)))
  | index ha hb iha ihb => exact iha.append ((ihb.after (.one rfl)).before (.one rfl))
  | choose hc ha hb ihc iha ihb => exact ihc.join rfl (iha.join rfl ihb)
  | binary hop ha hb iha ihb => exact iha.join (isParen_of_binary? hop) ihb
  | more _ _ iha ihb | entry _ _ iha ihb | and _ _ iha ihb | or _ _ iha ihb =>
    exact iha.join rfl ihb

/-- All parentheses have their partners, and at some place `d` are open. -/
structure OpensTo (d : Nat) (ts : List Token) : Prop where
  balanced : ts.count (.symbol .openParen) = ts.count (.symbol .closeParen)
  reaches : ∃ us vs, ts = us ++ vs ∧
    us.count (.symbol .closeParen) + d ≤ us.count (.symbol .openParen)

namespace OpensTo
variable {d e : Nat} {ts us : List Token}

theorem of_noParens (h : NoParens ts) : OpensTo 0 ts where
  balanced := by rw [h.count_eq_zero rfl, h.count_eq_zero rfl]
  reaches := ⟨[], ts, rfl, Nat.le_refl 0⟩

theorem append (h : OpensTo d ts) (h' : OpensTo e us) : OpensTo (max d e) (ts ++ us) where
  balanced := by rw [List.count_append, List.count_append, h.balanced, h'.balanced]
  reaches := by
    obtain ⟨vs, ws, hts, hreach⟩ := h.reaches
    obtain ⟨vs', ws', hus, hreach'⟩ := h'.reaches
    rcases Nat.le_total d e with hde | hed
    · -- what stands before `us` opens as much as it closes
      refine ⟨ts ++ vs', ws', by rw [hus, List.append_assoc], ?_⟩
      rw [Nat.max_eq_right hde, List.count_append, List.count_append, h.balanced]
      omega
    · refine ⟨vs, ws ++ us, by rw [hts, List.append_assoc], ?_⟩
      rwa [Nat.max_eq_left hed]

theorem inParens (h : OpensTo d ts) :
    OpensTo (d + 1) (.symbol .openParen :: ts ++ [.symbol .closeParen]) where
  balanced := by simp [h.balanced]
  reaches := by
    obtain ⟨vs, ws, hts, hreach⟩ := h.reaches
    refine ⟨.symbol .openParen :: vs, ws ++ [.symbol .closeParen], by simp [hts], ?_⟩
    rw [List.count_cons_of_ne (by decide), List.count_cons_self]
    omega

end OpensTo

/-- Where tokens are nested deepest, all those parentheses are open at once. -/
theorem Nested.opensTo {d : Nat} {ts : List Token} (h : Nested d ts) : OpensTo d ts := by
  induction h with
  | flat h => exact .of_noParens h
  | append _ _ ih ih' => exact ih.append ih'
  | inParens _ ih => exact ih.inParens

/-! ### Parentheses in the text -/

section
variable {s : List Char} {l : Lexeme}

theorem isParen_of_string? (h : string? s = some l) : l.1.isParen = false := by
  unfold string? at h
  split at h
  · split at h
    · obtain ⟨n, -, rfl⟩ := Option.map_eq_some_iff.1 h
      rfl
    · obtain ⟨n, -, rfl⟩ := Option.map_eq_some_iff.1 h
      rfl
  · cases h

theorem isParen_word (w : List Char) : (word w).isParen = false := by
  unfold word
  dsimp only
  split_ifs <;> rfl

theorem isParen_of_word? (h : word? s = some l) : l.1.isParen = false := by
  unfold word? at h
  split at h
  · split at h <;> cases h
    exact isParen_word _
  · cases h

theorem isParen_suffixed (s : List Char) (n : Nat) : (suffixed s n).1.isParen = false := by
  unfold suffixed
  repeat' split
  all_goals rfl

theorem isParen_of_number? (h : number? s = some l) : l.1.isParen = false := by
  unfold number? at h
  dsimp only at h
  split at h
  · cases h
  · split at h
    · cases h
      rfl
    · split at h <;> cases h <;> exact isParen_suffixed s _

theorem isParen_of_escaped? (h : escaped? s = some l) : l.1.isParen = false := by
  unfold escaped? at h
  split at h
  · dsimp only at h
    split at h <;> cases h
    rfl
  · cases h

theorem head_of_symbol? {m : Symbol × Nat} (h : symbol? s = some m) :
    (m.1 = .openParen → s.head? = some '(') ∧ (m.1 = .closeParen → s.head? = some ')') := by
  unfold symbol? at h
  split at h
  case h_23 => split_ifs at h <;> cases h <;> simp
  case h_24 => cases h
  all_goals
    cases h
    simp

theorem head_of_lexeme? (h : lexeme? s = some l) :
    (l.1 = .symbol .openParen → s.head? = some '(') ∧
      (l.1 = .symbol .closeParen → s.head? = some ')') := by
  have hother (hno : l.1.isParen = false) : (l.1 = .symbol .openParen → s.head? = some '(') ∧
      (l.1 = .symbol .closeParen → s.head? = some ')') := by
    constructor <;> intro he <;> rw [he] at hno <;> cases hno
  rcases lexeme?_cases h with h | h | h | h | ⟨m, hm, rfl⟩
  · exact hother (isParen_of_string? h)
  · exact hother (isParen_of_word? h)
  · exact hother (isParen_of_number? h)
  · exact hother (isParen_of_escaped? h)
  · exact ⟨fun he => (head_of_symbol? hm).1 (Token.symbol.inj he),
      fun he => (head_of_symbol? hm).2 (Token.symbol.inj he)⟩

end

/-- Tokens before and behind a place are found before and behind a place of the text, with their
    parentheses. -/
def SplitsAs (s : List Char) (us vs : List Token) : Prop :=
  ∃ p q, s = p ++ q ∧ us.count (.symbol .openParen) ≤ p.count '(' ∧
    vs.count (.symbol .closeParen) ≤ q.count ')'

namespace SplitsAs
variable {s : List Char} {us vs : List Token}

theorem cons (h : SplitsAs s us vs) (c : Char) : SplitsAs (c :: s) us vs := by
  obtain ⟨p, q, rfl, hp, hq⟩ := h
  exact ⟨c :: p, q, rfl, Nat.le_trans hp (List.count_le_count_cons ..), hq⟩

theorem before (h : SplitsAs s us vs) {c : Char} {t : Token}
    (ht : t = .symbol .openParen → c = '(') : SplitsAs (c :: s) (t :: us) vs := by
  obtain ⟨p, q, rfl, hp, hq⟩ := h
  refine ⟨c :: p, q, rfl, ?_, hq⟩
  by_cases hopen : t = .symbol .openParen
  · rw [hopen, ht hopen, List.count_cons_self, List.count_cons_self]
    exact Nat.succ_le_succ hp
  · rw [List.count_cons_of_ne hopen]
    exact Nat.le_trans hp (List.count_le_count_cons ..)

theorem behind (h : SplitsAs s [] vs) {c : Char} {t : Token}
    (ht : t = .symbol .closeParen → c = ')') : SplitsAs (c :: s) [] (t :: vs) := by
  obtain ⟨p, q, rfl, -, hq⟩ := h
  refine ⟨[], c :: (p ++ q), rfl, Nat.le_refl 0, ?_⟩
  have hvs : vs.count (.symbol .closeParen) ≤ (p ++ q).count ')' := by
    rw [List.count_append]
    omega
  by_cases hclose : t = .symbol .closeParen
  · rw [hclose, ht hclose, List.count_cons_self, List.count_cons_self]
    exact Nat.succ_le_succ hvs
  · rw [List.count_cons_of_ne hclose]
    exact Nat.le_trans hvs (List.count_le_count_cons ..)

end SplitsAs

theorem splitsAs_of_tokensAfter (s : List Char) {k : Nat} {us vs : List Token}
    (h : tokensAfter k s = some (us ++ vs)) : SplitsAs s us vs := by
  induction s generalizing k us vs with
  | nil =>
    have hnil : us ++ vs = [] := by
      cases k <;> exact (Option.some.inj h).symm
    obtain ⟨rfl, rfl⟩ := List.append_eq_nil_iff.1 hnil
    exact ⟨[], [], rfl, Nat.le_refl 0, Nat.le_refl 0⟩
  | cons c r ih =>
    cases k with
    | succ k => exact (ih h).cons c
    | zero =>
      rw [tokensAfter] at h
      split at h
      · exact (ih h).cons c
      · split at h
        · next t n hl =>
          obtain ⟨ts, hts, heq⟩ := Option.map_eq_some_iff.1 h
          obtain ⟨hopen, hclose⟩ := head_of_lexeme? hl
          cases us with
          | nil =>
            subst heq
            exact (ih hts).behind fun ht => Option.some.inj (hclose ht)
          | cons u us =>
            obtain ⟨rfl, rfl⟩ := List.cons.inj heq
            exact (ih hts).before fun ht => Option.some.inj (hopen ht)
        · cases h

/-- Parentheses in strings and comments that the guard takes to close something. -/
def hiddenClosers (s : List Char) (ts : List Token) : Nat :=
  s.count ')' - ts.count (.symbol .closeParen)

end Language

theorem parens_le_of_shallow {s : List Char} {ts : List Token} {d : Nat}
    (hs : isTooDeep s = false) (hts : tokens? s = some ts) (h : OpensTo d ts) :
    d ≤ maxDepth + hiddenClosers s ts := by
  obtain ⟨us, vs, rfl, hreach⟩ := h.reaches
  obtain ⟨p, q, rfl, hp, hq⟩ := splitsAs_of_tokensAfter s hts
  have hguard := (isTooDeep_eq_false_iff _).1 hs p (List.prefix_append p q).isInfix
  rw [hiddenClosers, List.count_append, List.count_append]
  omega

/-- However the program of an accepted text is read, its groups and argument lists stand at most as
    deep within each other as the guard allows, and one level deeper for each parenthesis that is
    closed in a string or a comment; its list and map literals come on top of that. -/
theorem nesting_le_of_accepted (order : MapOrder) (raw : String)
    (h : check (engine order) raw = .ok ()) :
    ∃ e ts, parseText (normalForm raw) = .ok e ∧ tokens? (normalForm raw).toList = some ts ∧
      (∃ n, Spells [.expr e] ts n) ∧
      ∀ n, Spells [.expr e] ts n →
        n.parens ≤ maxDepth + hiddenClosers (normalForm raw).toList ts ∧
        n.levels ≤ maxDepth + hiddenClosers (normalForm raw).toList ts + e.literalDepth := by
  obtain ⟨-, hacc⟩ := (check_eq_ok_iff (engine order) raw).1 h
  obtain ⟨e, he⟩ := Option.isSome_iff_exists.1 ((parse_eq_ok_iff order _).1 hacc.readable)
  obtain ⟨ts, n, hts, hn⟩ := exists_reading he
  refine ⟨e, ts, by rw [parseText, he], hts, ⟨n, hn⟩, fun m hm => ?_⟩
  have hparens := parens_le_of_shallow hacc.shallow hts hm.nested.opensTo
  have hbrackets : m.brackets = e.literalDepth := hm.brackets_eq.trans (partsDepth_singleton _)
  have hlevels := m.levels_le
  exact ⟨hparens, by omega⟩

/-- A parenthesis closed in a string, and a list in an argument list in a group. -/
theorem nesting_le_of_accepted_mixed :
    check engine "(size([(x)]) > 0 AND y == ')(')" = .ok () ∧
      ∃ e ts, parseText (normalForm "(size([(x)]) > 0 AND y == ')(')") = .ok e ∧
        tokens? (normalForm "(size([(x)]) > 0 AND y == ')(')").toList = some ts ∧
        (∃ n, Spells [.expr e] ts n) ∧
        ∀ n, Spells [.expr e] ts n →
          n.parens ≤ maxDepth +
            hiddenClosers (normalForm "(size([(x)]) > 0 AND y == ')(')").toList ts ∧
          n.levels ≤ maxDepth +
            hiddenClosers (normalForm "(size([(x)]) > 0 AND y == ')(')").toList ts +
            e.literalDepth :=
  ⟨by decide +kernel, nesting_le_of_accepted .inserted _ (by decide +kernel)⟩

/-- List literals, 33 of them within each other. -/
def nestedLists : String := "[[[[[[[[[[[[[[[[[[[[[[[[[[[[[[[[[]]]]]]]]]]]]]]]]]]]]]]]]]]]]]]]]]"

/-- The guard does not see how deep literals stand. -/
theorem nestedLists_accepted :
    check engine nestedLists = .ok () ∧
      ∃ e ts, parseText (normalForm nestedLists) = .ok e ∧
        tokens? (normalForm nestedLists).toList = some ts ∧ (∃ n, Spells [.expr e] ts n) ∧
        ∀ n, Spells [.expr e] ts n → maxDepth < n.levels := by
  have hdepth : (parse? (normalForm nestedLists).toList).map Expr.literalDepth = some 33 := by
    decide +kernel
  obtain ⟨e, he, hlists⟩ := Option.map_eq_some_iff.1 hdepth
  obtain ⟨ts, n, hts, hn⟩ := exists_reading he
  refine ⟨by decide +kernel, e, ts, by rw [parseText, he], hts, ⟨n, hn⟩, fun m hm => ?_⟩
  have hbrackets : m.brackets = e.literalDepth := hm.brackets_eq.trans (partsDepth_singleton _)
  have hle := m.brackets_le
  rw [hbrackets, hlists] at hle
  exact hle

end ConditionRegistry
