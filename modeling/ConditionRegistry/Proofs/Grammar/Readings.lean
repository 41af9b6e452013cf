import ConditionRegistry.Language.Parser

set_option autoImplicit false

/-!
# Readings

A reading finds an expression in a list of tokens by the rules of the grammar alone, whatever binds
tighter. It tells how deep grouping constructs stand within each other, which the expression itself
no longer does. What the parser makes of tokens always comes from a reading of them.
-/

namespace ConditionRegistry.Language

/-! ### How deep a reading goes -/

/-- How many grouping constructs stand within each other. -/
structure Nesting where
  /-- groups and argument lists in parentheses, list literals and map literals -/
  levels : Nat
  /-- of these, only the ones in parentheses -/
  parens : Nat
  /-- of these, only the literals -/
  brackets : Nat
  parens_le : parens ≤ levels
  brackets_le : brackets ≤ levels
  levels_le : levels ≤ parens + brackets
  deriving DecidableEq, Repr

namespace Nesting

def flat : Nesting := ⟨0, 0, 0, by omega, by omega, by omega⟩

def join (n m : Nesting) : Nesting where
  levels := max n.levels m.levels
  parens := max n.parens m.parens
  brackets := max n.brackets m.brackets
  parens_le := by
    have hn := n.parens_le
    have hm := m.parens_le
    omega
  brackets_le := by
    have hn := n.brackets_le
    have hm := m.brackets_le
    omega
  levels_le := by
    have hn := n.levels_le
    have hm := m.levels_le
    omega

def inParens (n : Nesting) : Nesting where
  levels := n.levels + 1
  parens := n.parens + 1
  brackets := n.brackets
  parens_le := Nat.succ_le_succ n.parens_le
  brackets_le := Nat.le_succ_of_le n.brackets_le
  levels_le := by
    have h := n.levels_le
    omega

def inBrackets (n : Nesting) : Nesting where
  levels := n.levels + 1
  parens := n.parens
  brackets := n.brackets + 1
  parens_le := Nat.le_succ_of_le n.parens_le
  brackets_le := Nat.succ_le_succ n.brackets_le
  levels_le := Nat.succ_le_succ n.levels_le

theorem brackets_join (n m : Nesting) : (n.join m).brackets = max n.brackets m.brackets := rfl

theorem brackets_inParens (n : Nesting) : n.inParens.brackets = n.brackets := rfl

theorem brackets_inBrackets (n : Nesting) : n.inBrackets.brackets = n.brackets + 1 := rfl

end Nesting

/-! ### Single tokens -/

def Token.literal? : Token → Option Literal
  | .symbol .true => some (.bool true)
  | .symbol .false => some (.bool false)
  | .symbol .null => some .null
  | .integer t => integerLiteral? false t
  | .unsigned t => unsignedLiteral? t
  | .float t => floatLiteral? false t
  | .string t => stringLiteral? t
  | .bytes t => bytesLiteral? t
  | _ => none

def Token.negative? : Token → Option Literal
  | .integer t => integerLiteral? true t
  | .float t => floatLiteral? true t
  | _ => none

def Token.field? : Token → Option String
  | .name n | .escaped n => some n
  | _ => none

def Token.binary? (t : Token) : Option BinaryOp := productOp? t <|> sumOp? t <|> relationOp? t

def perhaps (b : Bool) (s : Symbol) : List Token := if b then [.symbol s] else []

inductive Dotted : String → List Token → Prop
  | one (n : String) : Dotted n [.name n]
  | more (n : String) {m : String} {ts : List Token} (h : Dotted m ts) :
    Dotted (n ++ "." ++ m) (.name n :: .symbol .dot :: ts)

/-! ### The rules -/

inductive Part where
  | expr (e : Expr)
  | entry (key value : Expr)
  | field (name : String) (value : Expr)

def called (dotted : Bool) (f : String) (args : List Expr) : Option Expr :=
  if dotted then some (.call ("." ++ f) args) else globalCall f args

/-- The tokens are the parts, with commas between them. -/
inductive Spells : List Part → List Token → Nesting → Prop
  | none : Spells [] [] .flat
  | more {p q : Part} {ps : List Part} {ts us : List Token} {n m : Nesting}
    (h : Spells [p] ts n) (hs : Spells (q :: ps) us m) :
    Spells (p :: q :: ps) (ts ++ .symbol .comma :: us) (n.join m)
  | entry {a b : Expr} {ts us : List Token} {n m : Nesting}
    (ha : Spells [.expr a] ts n) (hb : Spells [.expr b] us m) :
    Spells [.entry a b] (ts ++ .symbol .colon :: us) (n.join m)
  | field {t : Token} {f : String} {e : Expr} {ts : List Token} {n : Nesting}
    (hf : t.field? = some f) (h : Spells [.expr e] ts n) :
    Spells [.field f e] (t :: .symbol .colon :: ts) n
  | literal {t : Token} {v : Literal} (hv : t.literal? = some v) :
    Spells [.expr (.literal v)] [t] .flat
  | negative {t : Token} {v : Literal} (hv : t.negative? = some v) :
    Spells [.expr (.literal v)] [.symbol .minus, t] .flat
  | var (dotted : Bool) (x : String) :
    Spells [.expr (.variable x)] (perhaps dotted .dot ++ [.name x]) .flat
  | group {e : Expr} {ts : List Token} {n : Nesting} (h : Spells [.expr e] ts n) :
    Spells [.expr e] (.symbol .openParen :: ts ++ [.symbol .closeParen]) n.inParens
  | list {es : List Expr} {ts : List Token} {n : Nesting} (comma : Bool)
    (h : Spells (es.map .expr) ts n) :
    Spells [.expr (.list es)]
      (.symbol .openBracket :: (ts ++ perhaps comma .comma) ++ [.symbol .closeBracket])
      n.inBrackets
  | map {es : List (Expr × Expr)} {ts : List Token} {n : Nesting} (comma : Bool)
    (h : Spells (es.map fun p => .entry p.1 p.2) ts n) :
    Spells [.expr (.map es)]
      (.symbol .openBrace :: (ts ++ perhaps comma .comma) ++ [.symbol .closeBrace]) n.inBrackets
  | message {x : String} {fs : List (String × Expr)} {ts us : List Token} {n : Nesting}
    (dotted comma : Bool) (hx : Dotted x us) (h : Spells (fs.map fun p => .field p.1 p.2) ts n) :
    Spells [.expr (.message x fs)]
      (perhaps dotted .dot ++ us ++
        (.symbol .openBrace :: (ts ++ perhaps comma .comma) ++ [.symbol .closeBrace])) n
  | call {f : String} {args : List Expr} {e : Expr} {ts : List Token} {n : Nesting}
    (dotted : Bool) (h : Spells (args.map .expr) ts n) (he : called dotted f args = some e) :
    Spells [.expr e]
      (perhaps dotted .dot ++ [.name f] ++ (.symbol .openParen :: ts ++ [.symbol .closeParen]))
      n.inParens
  | access {e : Expr} {t : Token} {f : String} {ts : List Token} {n : Nesting}
    (h : Spells [.expr e] ts n) (hf : t.field? = some f) :
    Spells [.expr (.field e f)] (ts ++ [.symbol .dot, t]) n
  | method {a : Expr} {f : String} {args : List Expr} {e : Expr} {ts us : List Token}
    {n m : Nesting} (ha : Spells [.expr a] ts n) (h : Spells (args.map .expr) us m)
    (he : methodCall a f args = some e) :
    Spells [.expr e]
      (ts ++ .symbol .dot :: .name f :: (.symbol .openParen :: us ++ [.symbol .closeParen]))
      (n.join m.inParens)
  | index {a b : Expr} {ts us : List Token} {n m : Nesting}
    (ha : Spells [.expr a] ts n) (hb : Spells [.expr b] us m) :
    Spells [.expr (.binary .index a b)]
      (ts ++ (.symbol .openBracket :: us ++ [.symbol .closeBracket])) (n.join m)
  | negate {e : Expr} {ts : List Token} {n : Nesting} (k : Nat) (h : Spells [.expr e] ts n) :
    Spells [.expr (.negate e)] (List.replicate (k + 1) (.symbol .minus) ++ ts) n
  | not {e : Expr} {ts : List Token} {n : Nesting} (k : Nat) (h : Spells [.expr e] ts n) :
    Spells [.expr (.not e)] (List.replicate (k + 1) (.symbol .not) ++ ts) n
  | binary {t : Token} {op : BinaryOp} {a b : Expr} {ts us : List Token} {n m : Nesting}
    (hop : t.binary? = some op) (ha : Spells [.expr a] ts n) (hb : Spells [.expr b] us m) :
    Spells [.expr (.binary op a b)] (ts ++ t :: us) (n.join m)
  | and {a b : Expr} {ts us : List Token} {n m : Nesting}
    (ha : Spells [.expr a] ts n) (hb : Spells [.expr b] us m) :
    Spells [.expr (.and a b)] (ts ++ .symbol .and :: us) (n.join m)
  | or {a b : Expr} {ts us : List Token} {n m : Nesting}
    (ha : Spells [.expr a] ts n) (hb : Spells [.expr b] us m) :
    Spells [.expr (.or a b)] (ts ++ .symbol .or :: us) (n.join m)
  | choose {c a b : Expr} {ts us vs : List Token} {n m l : Nesting}
    (hc : Spells [.expr c] ts n) (ha : Spells [.expr a] us m) (hb : Spells [.expr b] vs l) :
    Spells [.expr (.choose c a b)] (ts ++ .symbol .question :: (us ++ .symbol .colon :: vs))
      (n.join (m.join l))

/-! ### What the parser takes is read -/

/-- Whatever the parser takes from the front is a reading of what it finds. -/
def Sound {α : Type} (p : Parser α) (parts : α → List Part) : Prop :=
  ∀ ⦃ts : List Token⦄ ⦃a : α⦄ ⦃r : List Token⦄, p ts = some (a, r) →
    ∃ us n, ts = us ++ r ∧ Spells (parts a) us n

def SoundNext (p : Expr → Parser Expr) : Prop :=
  ∀ ⦃e : Expr⦄ ⦃us : List Token⦄ ⦃n : Nesting⦄, Spells [.expr e] us n →
    ∀ ⦃ts : List Token⦄ ⦃e' : Expr⦄ ⦃r : List Token⦄, p e ts = some (e', r) →
      ∃ vs m, ts = vs ++ r ∧ Spells [.expr e'] (us ++ vs) m

theorem Spells.stop {e : Expr} {us : List Token} {n : Nesting} (h : Spells [.expr e] us n)
    (ts : List Token) : ∃ vs m, ts = vs ++ ts ∧ Spells [.expr e] (us ++ vs) m :=
  ⟨[], n, rfl, by rwa [List.append_nil]⟩

theorem SoundNext.after {p : Expr → Parser Expr} (hp : SoundNext p) {e : Expr}
    {us vs : List Token} {n : Nesting} (hs : Spells [.expr e] (us ++ vs) n) {ts t : List Token}
    (hts : ts = vs ++ t) {e' : Expr} {r : List Token} (h : p e t = some (e', r)) :
    ∃ ws m, ts = ws ++ r ∧ Spells [.expr e'] (us ++ ws) m := by
  obtain ⟨ws, m, ht, hws⟩ := hp hs h
  refine ⟨vs ++ ws, m, by rw [hts, ht, List.append_assoc], ?_⟩
  rwa [← List.append_assoc]

theorem of_symbol {s : Symbol} {ts r : List Token} {u : Unit} (h : symbol s ts = some (u, r)) :
    ts = .symbol s :: r := by
  unfold symbol at h
  split at h
  · split at h
    · cases h
      subst_vars
      rfl
    · cases h
  · cases h

theorem of_name {ts r : List Token} {n : String} (h : name ts = some (n, r)) :
    ts = .name n :: r := by
  unfold name at h
  split at h <;> cases h
  rfl

theorem of_fieldName {ts r : List Token} {f : String} (h : fieldName ts = some (f, r)) :
    ∃ t, t.field? = some f ∧ ts = t :: r := by
  unfold fieldName at h
  split at h <;> cases h
  · exact ⟨_, rfl, rfl⟩
  · exact ⟨_, rfl, rfl⟩

section Items
variable {α β : Type} {part : α → Part} {item : Parser α}

theorem sound_separated (hitem : Sound item fun a => [part a]) (fuel : Nat) :
    ∀ {ts : List Token} {as : List α} {r : List Token},
      separated .comma item fuel ts = some (as, r) →
        ∃ a bs us n, as = a :: bs ∧ ts = us ++ r ∧ Spells ((a :: bs).map part) us n := by
  induction fuel with
  | zero => exact fun h => by cases h
  | succ fuel ih =>
    intro ts as r h
    rw [separated] at h
    split at h
    · cases h
    · next a t hi =>
      obtain ⟨us, n, hts, hus⟩ := hitem hi
      have hlast : some ([a], t) = some (as, r) →
          ∃ a bs us n, as = a :: bs ∧ ts = us ++ r ∧ Spells ((a :: bs).map part) us n := by
        intro h
        cases h
        exact ⟨a, [], us, n, rfl, hts, hus⟩
      split at h
      · exact hlast h
      · next u t' hs =>
        split at h
        · exact hlast h
        · next bs t'' hm =>
          cases h
          obtain ⟨b, cs, vs, m, rfl, ht', hvs⟩ := ih hm
          refine ⟨a, b :: cs, us ++ .symbol .comma :: vs, n.join m, rfl, ?_, .more hus hvs⟩
          rw [hts, of_symbol hs, ht', List.append_assoc, List.cons_append]

theorem of_close {close : Symbol} {a b : α} {ts r : List Token}
    (h : (symbol close ts).map (fun p => (a, p.2)) = some (b, r)) :
    a = b ∧ ts = .symbol close :: r := by
  obtain ⟨⟨u, t⟩, hs, heq⟩ := Option.map_eq_some_iff.1 h
  cases heq
  exact ⟨rfl, of_symbol hs⟩

theorem sound_arguments (hitem : Sound item fun a => [part a]) {close : Symbol} {fuel : Nat}
    {ts : List Token} {as : List α} {r : List Token}
    (h : arguments item close fuel ts = some (as, r)) :
    ∃ us n, ts = us ++ .symbol close :: r ∧ Spells (as.map part) us n := by
  rw [arguments] at h
  split at h
  · next u t hc =>
    cases h
    exact ⟨[], .flat, of_symbol hc, .none⟩
  · split at h
    · cases h
    · next bs t hs =>
      obtain ⟨rfl, rfl⟩ := of_close h
      obtain ⟨b, cs, us, n, rfl, hts, hus⟩ := sound_separated hitem fuel hs
      exact ⟨us, n, hts, hus⟩

theorem sound_elements (hitem : Sound item fun a => [part a]) {close : Symbol} {fuel : Nat}
    {ts : List Token} {as : List α} {r : List Token}
    (h : elements item close fuel ts = some (as, r)) :
    ∃ us n comma, ts = us ++ perhaps comma .comma ++ .symbol close :: r ∧
      Spells (as.map part) us n := by
  have hitems : ∃ bs t us n, (separated .comma item fuel ts).getD ([], ts) = (bs, t) ∧
      ts = us ++ t ∧ Spells (bs.map part) us n := by
    cases hs : separated .comma item fuel ts with
    | none => exact ⟨[], ts, [], .flat, rfl, rfl, .none⟩
    | some p =>
      obtain ⟨b, cs, us, n, hp, hts, hus⟩ := sound_separated hitem fuel hs
      exact ⟨b :: cs, p.2, us, n, Prod.ext hp rfl, hts, hus⟩
  obtain ⟨bs, t, us, n, heq, rfl, hus⟩ := hitems
  simp only [elements, heq] at h
  obtain ⟨rfl, hclose⟩ := of_close h
  refine ⟨us, n, ?_⟩
  split at hclose
  · next u t' hs => exact ⟨true, by rw [of_symbol hs, hclose, List.append_assoc]; rfl, hus⟩
  · exact ⟨false, by rw [hclose, List.append_assoc]; rfl, hus⟩

theorem sound_pair {β : Type} {first : Parser α} {second : Parser β} {ts : List Token} {p : α × β}
    {r : List Token} (h : pair first second ts = some (p, r)) :
    ∃ t t', first ts = some (p.1, .symbol .colon :: t) ∧ second t = some (p.2, t') ∧ r = t' := by
  rw [pair] at h
  split at h
  · cases h
  · next a t ha =>
    split at h
    · cases h
    · next u t' hs =>
      obtain ⟨⟨b, t''⟩, hb, heq⟩ := Option.map_eq_some_iff.1 h
      cases heq
      exact ⟨t', t'', by rw [ha, of_symbol hs], hb, rfl⟩

end Items

/-! ### Names, calls and messages -/

theorem sound_messageName (fuel : Nat) :
    ∀ {ts : List Token} {x : String} {r : List Token}, messageName fuel ts = some (x, r) →
      ∃ us, ts = us ++ .symbol .openBrace :: r ∧ Dotted x us := by
  induction fuel with
  | zero => exact fun h => by cases h
  | succ fuel ih =>
    intro ts x r h
    rw [messageName] at h
    split at h
    · cases h
    · next n t hn =>
      rw [of_name hn]
      split at h
      · cases h
        exact ⟨[.name x], rfl, .one x⟩
      · obtain ⟨⟨y, t'⟩, hy, heq⟩ := Option.map_eq_some_iff.1 h
        cases heq
        obtain ⟨us, hts, hus⟩ := ih hy
        exact ⟨.name n :: .symbol .dot :: us, by rw [hts]; rfl, .more n hus⟩
      · cases h

section Levels
variable {expr : Parser Expr} (hexpr : Sound expr fun e => [.expr e])
include hexpr

theorem sound_entry : Sound (pair expr expr) fun p => [.entry p.1 p.2] := by
  intro ts p r h
  obtain ⟨t, t', ha, hb, rfl⟩ := sound_pair h
  obtain ⟨us, n, hts, hus⟩ := hexpr ha
  obtain ⟨vs, m, ht, hvs⟩ := hexpr hb
  refine ⟨us ++ .symbol .colon :: vs, n.join m, ?_, .entry hus hvs⟩
  rw [hts, ht, List.append_assoc, List.cons_append]

theorem sound_field : Sound (pair fieldName expr) fun p => [.field p.1 p.2] := by
  intro ts p r h
  obtain ⟨t, t', hf, he, rfl⟩ := sound_pair h
  obtain ⟨a, ha, hts⟩ := of_fieldName hf
  obtain ⟨us, n, ht, hus⟩ := hexpr he
  refine ⟨a :: .symbol .colon :: us, n, ?_, .field ha hus⟩
  rw [hts, ht, List.cons_append, List.cons_append]

theorem sound_named {fuel : Nat} {dotted : Bool} {ts : List Token} {e : Expr} {r : List Token}
    (h : named expr fuel dotted ts = some (e, r)) :
    ∃ us n, perhaps dotted .dot ++ ts = us ++ r ∧ Spells [.expr e] us n := by
  unfold named at h
  split at h
  · next x t hx =>
    obtain ⟨us, hts, hus⟩ := sound_messageName fuel hx
    obtain ⟨⟨fs, t'⟩, hfs, heq⟩ := Option.map_eq_some_iff.1 h
    cases heq
    obtain ⟨vs, m, comma, ht, hvs⟩ := sound_elements (sound_field hexpr) hfs
    refine ⟨_, m, ?_, .message dotted comma hus hvs⟩
    rw [hts, ht]
    simp only [List.append_assoc, List.cons_append, List.nil_append]
  · split at h
    · next f t _ =>
      split at h
      · cases h
      · next args t' hargs =>
        obtain ⟨vs, m, ht, hvs⟩ := sound_arguments hexpr hargs
        have hcall : called dotted f args = some e ∧ t' = r := by
          cases dotted with
          | true =>
            cases h
            exact ⟨rfl, rfl⟩
          | false =>
            obtain ⟨e', he, heq⟩ := Option.map_eq_some_iff.1 h
            cases heq
            exact ⟨he, rfl⟩
        obtain ⟨he, rfl⟩ := hcall
        refine ⟨_, _, ?_, .call dotted hvs he⟩
        rw [ht]
        simp only [List.append_assoc, List.cons_append, List.nil_append]
    · next x t _ _ =>
      cases h
      exact ⟨_, _, by rw [List.append_assoc]; rfl, .var dotted x⟩
    · cases h

omit hexpr in
theorem sound_constant {o : Option Literal} {t : Token} (ho : ∀ v, o = some v → t.literal? = some v)
    {ts : List Token} {e : Expr} {r : List Token} (h : constant o ts = some (e, r)) :
    ∃ us n, t :: ts = us ++ r ∧ Spells [.expr e] us n := by
  obtain ⟨v, hv, heq⟩ := Option.map_eq_some_iff.1 h
  cases heq
  exact ⟨[t], .flat, rfl, .literal (ho v hv)⟩

theorem sound_primary (fuel : Nat) : Sound (primary expr fuel) fun e => [.expr e] := by
  intro ts e r h
  unfold primary at h
  split at h
  case h_1 t => exact sound_named hexpr h
  case h_2 t =>
    split at h
    · next e' t' he =>
      obtain ⟨us, n, ht, hus⟩ := hexpr he
      obtain ⟨rfl, hclose⟩ := of_close h
      refine ⟨_, _, ?_, .group hus⟩
      rw [ht, hclose, List.append_assoc]
      rfl
    · cases h
  case h_3 t =>
    obtain ⟨⟨es, t'⟩, hes, heq⟩ := Option.map_eq_some_iff.1 h
    cases heq
    obtain ⟨us, n, comma, ht, hus⟩ := sound_elements hexpr hes
    refine ⟨_, _, ?_, .list comma hus⟩
    simp only [ht, List.append_assoc, List.cons_append, List.nil_append]
  case h_4 t =>
    obtain ⟨⟨es, t'⟩, hes, heq⟩ := Option.map_eq_some_iff.1 h
    cases heq
    obtain ⟨us, n, comma, ht, hus⟩ := sound_elements (sound_entry hexpr) hes
    refine ⟨_, _, ?_, .map comma hus⟩
    simp only [ht, List.append_assoc, List.cons_append, List.nil_append]
  case h_13 => exact sound_named hexpr h
  all_goals exact sound_constant (fun _ hv => hv) h

theorem sound_postfixes (fuel : Nat) : SoundNext (postfixes expr fuel) := by
  induction fuel with
  | zero =>
    intro e us n hus ts e' r h
    cases h
    exact hus.stop _
  | succ fuel ih =>
    intro e us n hus ts e' r h
    unfold postfixes at h
    split at h
    · next f t =>
      split at h
      · cases h
      · next args t' hargs =>
        split at h
        · cases h
        · next e'' he =>
          obtain ⟨vs, m, ht, hvs⟩ := sound_arguments hexpr hargs
          refine ih.after (.method hus hvs he) ?_ h
          rw [ht, List.cons_append, List.cons_append, List.append_assoc, List.cons_append]
          rfl
    · next t _ =>
      split at h
      · cases h
      · next f t' hf =>
        obtain ⟨a, ha, ht⟩ := of_fieldName hf
        refine ih.after (.access hus ha) ?_ h
        rw [ht]
        rfl
    · next t =>
      split at h
      · cases h
      · next i t' hi =>
        split at h
        · cases h
        · next u t'' hs =>
          obtain ⟨vs, m, ht, hvs⟩ := hexpr hi
          refine ih.after (.index hus hvs) ?_ h
          rw [ht, of_symbol hs, List.append_assoc]
          rfl
    · cases h
      exact hus.stop _

theorem sound_member (fuel : Nat) : Sound (member expr fuel) fun e => [.expr e] := by
  intro ts e r h
  rw [member] at h
  split at h
  · cases h
  · next e' t he =>
    obtain ⟨us, n, hts, hus⟩ := sound_primary hexpr fuel he
    obtain ⟨vs, m, ht, hvs⟩ := sound_postfixes hexpr fuel hus h
    exact ⟨us ++ vs, m, by rw [hts, ht, List.append_assoc], hvs⟩

theorem sound_negative {fuel : Nat} {t : Token} {v : Literal} (hv : t.negative? = some v)
    {ts : List Token} {e : Expr} {r : List Token}
    (h : postfixes expr fuel (.literal v) ts = some (e, r)) :
    ∃ us n, .symbol .minus :: t :: ts = us ++ r ∧ Spells [.expr e] us n := by
  obtain ⟨vs, m, ht, hvs⟩ := sound_postfixes hexpr fuel (.negative hv) h
  exact ⟨_, m, by rw [ht]; rfl, hvs⟩

omit hexpr in
theorem sound_signed {s : Symbol} {wrap : Expr → Expr} {inner : Parser Expr}
    (hinner : Sound inner fun e => [.expr e])
    (hwrap : ∀ {e ts n} k, Spells [.expr e] ts n →
      Spells [.expr (wrap e)] (List.replicate (k + 1) (.symbol s) ++ ts) n)
    {ts : List Token} {e : Expr} {r : List Token} (h : signed s wrap inner ts = some (e, r)) :
    ∃ us n, .symbol s :: ts = us ++ r ∧ Spells [.expr e] us n := by
  obtain ⟨⟨e', t⟩, he, heq⟩ := Option.map_eq_some_iff.1 h
  cases heq
  obtain ⟨us, n, hts, hus⟩ := hinner he
  have hall : ∀ a ∈ ts.takeWhile (· == .symbol s), a = .symbol s := fun a ha =>
    eq_of_beq (List.all_eq_true.1 List.all_takeWhile a ha)
  have hsigns := List.eq_replicate_of_mem hall
  refine ⟨_, n, ?_, hwrap (ts.takeWhile (· == .symbol s)).length hus⟩
  rw [List.replicate_succ, ← hsigns, List.cons_append, List.cons_append, List.append_assoc, ← hts,
    List.takeWhile_append_dropWhile]

theorem sound_operand (fuel : Nat) : Sound (unary.operand expr fuel) fun e => [.expr e] := by
  intro ts e r h
  unfold unary.operand at h
  split at h
  · split at h
    · cases h
    · next v hv => exact sound_negative hexpr (t := .integer _) hv h
  · split at h
    · cases h
    · next v hv => exact sound_negative hexpr (t := .float _) hv h
  · exact sound_member hexpr fuel h

theorem sound_unary (fuel : Nat) : Sound (unary expr fuel) fun e => [.expr e] := by
  intro ts e r h
  unfold unary at h
  split at h
  · split at h
    · cases h
    · next v hv => exact sound_negative hexpr (t := .integer _) hv h
  · split at h
    · cases h
    · next v hv => exact sound_negative hexpr (t := .float _) hv h
  · exact sound_signed (sound_member hexpr fuel) .negate h
  · exact sound_signed (sound_operand hexpr fuel) .not h
  · exact sound_member hexpr fuel h

end Levels

/-! ### Operators -/

section
variable {t : Token} {op : BinaryOp}

theorem binary?_of_productOp? (h : productOp? t = some op) : t.binary? = some op := by
  rw [Token.binary?, h]
  rfl

theorem binary?_of_sumOp? (h : sumOp? t = some op) : t.binary? = some op := by
  unfold sumOp? at h
  split at h <;> cases h <;> rfl

theorem binary?_of_relationOp? (h : relationOp? t = some op) : t.binary? = some op := by
  unfold relationOp? at h
  split at h <;> cases h <;> rfl

end

section Operators
variable {operand : Parser Expr} (hoperand : Sound operand fun e => [.expr e]) (fuel : Nat)
include hoperand

theorem sound_leftChain {op? : Token → Option BinaryOp}
    (hop : ∀ {t op}, op? t = some op → t.binary? = some op) :
    SoundNext (leftChain op? operand fuel) := by
  induction fuel with
  | zero =>
    intro e us n hus ts e' r h
    cases h
    exact hus.stop _
  | succ fuel ih =>
    intro e us n hus ts e' r h
    unfold leftChain at h
    split at h
    · cases h
      exact hus.stop _
    · next t ts =>
      split at h
      · cases h
        exact hus.stop _
      · next op hop' =>
        split at h
        · cases h
        · next b t' hb =>
          obtain ⟨vs, m, ht, hvs⟩ := hoperand hb
          exact ih.after (.binary (hop hop') hus hvs) (by rw [ht]; rfl) h

theorem sound_leftAssociative {op? : Token → Option BinaryOp}
    (hop : ∀ {t op}, op? t = some op → t.binary? = some op) :
    Sound (leftAssociative op? operand fuel) fun e => [.expr e] := by
  intro ts e r h
  rw [leftAssociative] at h
  split at h
  · cases h
  · next e' t he =>
    obtain ⟨us, n, hts, hus⟩ := hoperand he
    obtain ⟨vs, m, ht, hvs⟩ := sound_leftChain hoperand fuel hop hus h
    exact ⟨us ++ vs, m, by rw [hts, ht, List.append_assoc], hvs⟩

theorem sound_joinedBy {s : Symbol} {join : Expr → Expr → Expr}
    (hjoin : ∀ {a b ts us n m}, Spells [.expr a] ts n → Spells [.expr b] us m →
      Spells [.expr (join a b)] (ts ++ .symbol s :: us) (n.join m)) :
    Sound (joinedBy s join operand fuel) fun e => [.expr e] := by
  induction fuel with
  | zero => exact fun _ _ _ h => by cases h
  | succ fuel ih =>
    intro ts e r h
    rw [joinedBy] at h
    split at h
    · cases h
    · next a t ha =>
      obtain ⟨us, n, hts, hus⟩ := hoperand ha
      split at h
      · cases h
        exact ⟨us, n, hts, hus⟩
      · next u t' hs =>
        obtain ⟨⟨b, t''⟩, hb, heq⟩ := Option.map_eq_some_iff.1 h
        cases heq
        obtain ⟨vs, m, ht, hvs⟩ := ih hb
        refine ⟨_, _, ?_, hjoin hus hvs⟩
        rw [hts, of_symbol hs, ht, List.append_assoc, List.cons_append]

end Operators

section Levels
variable {expr : Parser Expr} (hexpr : Sound expr fun e => [.expr e]) (fuel : Nat)
include hexpr

theorem sound_relation : Sound (relation expr fuel) fun e => [.expr e] := by
  have hproduct : Sound (product expr fuel) fun e => [.expr e] :=
    sound_leftAssociative (sound_unary hexpr fuel) fuel binary?_of_productOp?
  have hsum : Sound (sum expr fuel) fun e => [.expr e] :=
    sound_leftAssociative hproduct fuel binary?_of_sumOp?
  exact sound_leftAssociative hsum fuel binary?_of_relationOp?

theorem sound_disjunction : Sound (disjunction expr fuel) fun e => [.expr e] :=
  sound_joinedBy (sound_joinedBy (sound_relation hexpr fuel) fuel .and) fuel .or

theorem sound_choice : Sound (choice expr fuel) fun e => [.expr e] := by
  have hdisjunction := sound_disjunction hexpr fuel
  intro ts e r h
  rw [choice] at h
  split at h
  · cases h
  · next c t hc =>
    obtain ⟨us, n, hts, hus⟩ := hdisjunction hc
    split at h
    · cases h
      exact ⟨us, n, hts, hus⟩
    · next u t' hs =>
      obtain ⟨⟨p, t''⟩, hp, heq⟩ := Option.map_eq_some_iff.1 h
      cases heq
      obtain ⟨w, w', ha, hb, rfl⟩ := sound_pair hp
      obtain ⟨vs, m, ht, hvs⟩ := hdisjunction ha
      obtain ⟨ws, l, hw, hws⟩ := hexpr hb
      refine ⟨_, _, ?_, .choose hus hvs hws⟩
      simp only [hts, of_symbol hs, ht, hw, List.append_assoc, List.cons_append]

end Levels

theorem sound_expression (fuel : Nat) : Sound (expression fuel) fun e => [.expr e] := by
  induction fuel with
  | zero => exact fun _ _ _ h => by cases h
  | succ fuel ih => exact fun _ _ _ h => sound_choice ih (fuel + 1) h

/-- The program of a text comes from a reading of all its tokens. -/
theorem exists_reading {s : List Char} {e : Expr} (h : parse? s = some e) :
    ∃ ts n, tokens? s = some ts ∧ Spells [.expr e] ts n := by
  unfold parse? at h
  split at h
  · cases h
  · next ts hts =>
    split at h
    · next e' he =>
      cases h
      obtain ⟨us, n, hus, hn⟩ := sound_expression _ he
      rw [List.append_nil] at hus
      exact ⟨ts, n, hts, hus ▸ hn⟩
    · cases h

end ConditionRegistry.Language
