import ConditionRegistry.Language.Engine
import ConditionRegistry.Proofs.Formula.Reading

set_option autoImplicit false

/-!
# The expression of a formula

The parser reads the tokens of a formula as its expression and leaves what follows them. Its fuel
has to exceed the depth of the formula, and the number of tokens does.
-/

open ConditionRegistry.Language

namespace ConditionRegistry
open Decimal

def Keyword.expr : Keyword → Expr → Expr → Expr
  | .or => .or
  | .and => .and

namespace Formula

def expr : Formula → Expr
  | .compare v op n => .binary (.relation op.relation) (.variable v.name) (.literal (.int n))
  | .join k f g => k.expr f.expr g.expr

end Formula

/-! ### Where parsers stop -/

def endsOperand : Symbol → Bool
  | .less | .lessEqual | .greaterEqual | .greater | .equal | .notEqual => true
  | .and | .or | .closeParen => true
  | _ => false

def endsComparison : Symbol → Bool
  | .and | .or | .closeParen => true
  | _ => false

def StartsWith (p : Symbol → Bool) (ts : List Token) : Prop :=
  ∀ t ∈ ts.head?, ∃ s, t = .symbol s ∧ p s = true

theorem StartsWith.cons {p : Symbol → Bool} {s : Symbol} (h : p s = true) (ts : List Token) :
    StartsWith p (.symbol s :: ts) := by
  intro t ht
  cases ht
  exact ⟨s, rfl, h⟩

theorem StartsWith.imp {p q : Symbol → Bool} (hpq : ∀ s, p s = true → q s = true) {ts : List Token}
    (h : StartsWith p ts) : StartsWith q ts := by
  intro t ht
  obtain ⟨s, hs, hp⟩ := h t ht
  exact ⟨s, hs, hpq s hp⟩

section Stops
variable {expr : Parser Expr} {fuel : Nat} {ts rest : List Token} {e : Expr}

theorem postfixes_stop (h : StartsWith endsOperand rest) :
    postfixes expr fuel e rest = some (e, rest) := by
  cases fuel with
  | zero => rfl
  | succ fuel =>
    cases rest with
    | nil => rfl
    | cons t r =>
      obtain ⟨s, rfl, hs⟩ := h t rfl
      cases s <;> first | rfl | cases hs

theorem leftChain_stop {op? : Token → Option BinaryOp} {operand : Parser Expr}
    (h : ∀ t ∈ rest.head?, op? t = none) :
    leftChain op? operand fuel e rest = some (e, rest) := by
  cases fuel with
  | zero => rfl
  | succ fuel =>
    cases rest with
    | nil => rfl
    | cons t r => simp only [leftChain, h t rfl]

theorem leftAssociative_stop {op? : Token → Option BinaryOp} {operand : Parser Expr}
    (hts : operand ts = some (e, rest)) (h : ∀ t ∈ rest.head?, op? t = none) :
    leftAssociative op? operand fuel ts = some (e, rest) := by
  simp only [leftAssociative, hts, leftChain_stop h]

theorem sum_of_unary (hts : unary expr fuel ts = some (e, rest)) (h : StartsWith endsOperand rest) :
    sum expr fuel ts = some (e, rest) := by
  have hproduct : ∀ t ∈ rest.head?, productOp? t = none := by
    intro t ht
    obtain ⟨s, rfl, hs⟩ := h t ht
    cases s <;> first | rfl | cases hs
  have hsum : ∀ t ∈ rest.head?, sumOp? t = none := by
    intro t ht
    obtain ⟨s, rfl, hs⟩ := h t ht
    cases s <;> first | rfl | cases hs
  exact leftAssociative_stop (leftAssociative_stop hts hproduct) hsum

theorem relation_of_sum (hts : sum expr fuel ts = some (e, rest))
    (h : StartsWith endsComparison rest) : relation expr fuel ts = some (e, rest) := by
  refine leftAssociative_stop hts fun t ht => ?_
  obtain ⟨s, rfl, hs⟩ := h t ht
  cases s <;> first | rfl | cases hs

theorem endsOperand_of_endsComparison (s : Symbol) (h : endsComparison s = true) :
    endsOperand s = true := by
  cases s <;> first | rfl | cases h

/-! ### Operands -/

theorem unary_name (x : String) (h : StartsWith endsOperand rest) :
    unary expr fuel (.name x :: rest) = some (.variable x, rest) := by
  have hmessage : messageName fuel (.name x :: rest) = none := by
    cases fuel with
    | zero => rfl
    | succ fuel =>
      cases rest with
      | nil => rfl
      | cons t r =>
        obtain ⟨s, rfl, hs⟩ := h t rfl
        cases s <;> first | rfl | cases hs
  have hnamed : named expr fuel false (.name x :: rest) = some (.variable x, rest) := by
    simp only [named, hmessage]
    cases rest with
    | nil => rfl
    | cons t r =>
      obtain ⟨s, rfl, hs⟩ := h t rfl
      cases s <;> first | rfl | cases hs
  change member expr fuel _ = _
  have hprimary : primary expr fuel (.name x :: rest) = some (.variable x, rest) := hnamed
  simp only [member, hprimary, postfixes_stop h]

theorem integerLiteral?_toDigits (negative : Bool) (n : Nat) :
    integerLiteral? negative (Nat.toDigits 10 n) =
      (int64? (if negative then -(n : Int) else n)).map .int := by
  unfold integerLiteral?
  split
  · rename_i r h
    have hx : 'x'.isDigit = true := isDigit_of_mem_toDigits (n := n) (by simp [h])
    cases hx
  · rw [valueOf_toDigits]

theorem unary_number (n : Int64) (h : StartsWith endsOperand rest) :
    unary expr fuel (numberTokens n.toInt ++ rest) = some (.literal (.int n), rest) := by
  rw [numberTokens]
  by_cases hn : n.toInt < 0
  · have hliteral := integerLiteral?_toDigits true n.toInt.natAbs
    have habs : -(n.toInt.natAbs : Int) = n.toInt := by omega
    rw [if_pos rfl, habs, int64?_eq_some_iff.2 rfl] at hliteral
    rw [if_pos hn]
    simp only [List.cons_append, List.nil_append, unary, hliteral, Option.map_some,
      postfixes_stop h]
  · have hliteral := integerLiteral?_toDigits false n.toInt.natAbs
    have habs : (n.toInt.natAbs : Int) = n.toInt := by omega
    rw [if_neg (by decide), habs, int64?_eq_some_iff.2 rfl] at hliteral
    rw [if_neg hn]
    change member expr fuel (.integer (Nat.toDigits 10 n.toInt.natAbs) :: rest) = _
    simp only [member, primary, hliteral, constant, Option.map_some, postfixes_stop h]

/-! ### Comparisons and groups -/

theorem relationOp?_symbol (op : Comparison) :
    relationOp? (.symbol op.symbol) = some (.relation op.relation) := by
  cases op <;> rfl

theorem relation_compare (v : Identifier) (op : Comparison) (n : Int64)
    (h : StartsWith endsComparison rest) :
    relation expr (fuel + 1) ((Formula.compare v op n).tokens ++ rest) =
      some ((Formula.compare v op n).expr, rest) := by
  have hop : endsOperand op.symbol = true := by cases op <;> rfl
  have hv : sum expr (fuel + 1)
      (.name v.name :: .symbol op.symbol :: (numberTokens n.toInt ++ rest)) =
      some (.variable v.name, .symbol op.symbol :: (numberTokens n.toInt ++ rest)) :=
    sum_of_unary (unary_name v.name (.cons hop _)) (.cons hop _)
  have hn : sum expr (fuel + 1) (numberTokens n.toInt ++ rest) = some (.literal (.int n), rest) :=
    have hrest := h.imp endsOperand_of_endsComparison
    sum_of_unary (unary_number n hrest) hrest
  have hstop : ∀ t ∈ rest.head?, relationOp? t = none := by
    intro t ht
    obtain ⟨s, rfl, hs⟩ := h t ht
    cases s <;> first | rfl | cases hs
  simp only [Formula.tokens, List.cons_append, relation, leftAssociative, hv, leftChain,
    relationOp?_symbol, hn, leftChain_stop hstop, Formula.expr]

theorem relation_group (hts : expr (ts ++ .symbol .closeParen :: rest) =
      some (e, .symbol .closeParen :: rest)) (h : StartsWith endsComparison rest) :
    relation expr fuel (.symbol .openParen :: (ts ++ .symbol .closeParen :: rest)) =
      some (e, rest) := by
  have hprimary : primary expr fuel (.symbol .openParen :: (ts ++ .symbol .closeParen :: rest)) =
      some (e, rest) := by
    simp only [primary, hts, symbol, if_true, Option.map_some]
  have hrest := h.imp endsOperand_of_endsComparison
  have hunary : unary expr fuel (.symbol .openParen :: (ts ++ .symbol .closeParen :: rest)) =
      some (e, rest) := by
    change member expr fuel _ = _
    simp only [member, hprimary, postfixes_stop hrest]
  exact relation_of_sum (sum_of_unary hunary hrest) h

end Stops

/-! ### Whole formulas -/

def closesFormula (s : Symbol) : Bool := s == .closeParen

theorem endsComparison_of_closesFormula (s : Symbol) (h : closesFormula s = true) :
    endsComparison s = true := by
  cases s <;> first | rfl | cases h

theorem symbol_stop {s : Symbol} {p : Symbol → Bool} {rest : List Token} (h : StartsWith p rest)
    (hs : p s = false) : symbol s rest = none := by
  cases rest with
  | nil => rfl
  | cons t r =>
    obtain ⟨u, rfl, hu⟩ := h t rfl
    have hne : s ≠ u := by
      rintro rfl
      rw [hs] at hu
      cases hu
    simp only [symbol, if_neg hne]

section Joining
variable {s : Symbol} {join : Expr → Expr → Expr} {operand : Parser Expr} {fuel : Nat}
  {ts r rest : List Token} {e e' : Expr}

theorem joinedBy_stop (hts : operand ts = some (e, rest)) (h : symbol s rest = none) :
    joinedBy s join operand (fuel + 1) ts = some (e, rest) := by
  simp only [joinedBy, hts, h]

theorem joinedBy_cons (hts : operand ts = some (e, .symbol s :: r))
    (hr : joinedBy s join operand fuel r = some (e', rest)) :
    joinedBy s join operand (fuel + 1) ts = some (join e e', rest) := by
  simp only [joinedBy, hts, symbol, if_true, hr, Option.map_some]

end Joining

theorem expression_of_disjunction {fuel : Nat} {ts rest : List Token} {e : Expr}
    (hts : disjunction (expression fuel) (fuel + 1) ts = some (e, rest))
    (h : StartsWith closesFormula rest) : expression (fuel + 1) ts = some (e, rest) := by
  simp only [expression, choice, hts, symbol_stop h (s := .question) rfl]

theorem expression_of_relation {fuel : Nat} {ts rest : List Token} {e : Expr}
    (hts : relation (expression fuel) (fuel + 1) ts = some (e, rest))
    (h : StartsWith closesFormula rest) : expression (fuel + 1) ts = some (e, rest) :=
  expression_of_disjunction
    (joinedBy_stop (joinedBy_stop hts (symbol_stop h rfl)) (symbol_stop h rfl)) h

namespace Formula

theorem expression_tokens (f : Formula) (fuel : Nat) (hfuel : f.depth + 2 ≤ fuel)
    (rest : List Token) (h : StartsWith closesFormula rest) :
    expression fuel (f.tokens ++ rest) = some (f.expr, rest) := by
  induction f generalizing fuel rest with
  | compare v op n =>
    obtain ⟨m, rfl⟩ := Nat.exists_eq_add_of_le' hfuel
    exact expression_of_relation
      (relation_compare v op n (h.imp endsComparison_of_closesFormula)) h
  | join k f g ihf ihg =>
    rw [depth] at hfuel
    obtain ⟨m, rfl⟩ := Nat.exists_eq_add_of_le' (Nat.le_of_add_left_le hfuel)
    -- both parts are groups, and each ends where a comparison ends
    have hleft : ∀ r, relation (expression (m + 1)) (m + 2) (.symbol .openParen ::
        (f.tokens ++ .symbol .closeParen :: .symbol k.symbol :: r)) =
        some (f.expr, .symbol k.symbol :: r) := fun r =>
      relation_group (ihf (m + 1) (by omega) _ (.cons rfl _)) (.cons (by cases k <;> rfl) _)
    have hright : relation (expression (m + 1)) (m + 2) (.symbol .openParen ::
        (g.tokens ++ .symbol .closeParen :: rest)) = some (g.expr, rest) :=
      relation_group (ihg (m + 1) (by omega) _ (.cons rfl _))
        (h.imp endsComparison_of_closesFormula)
    have htokens : (join k f g).tokens ++ rest =
        .symbol .openParen :: (f.tokens ++ .symbol .closeParen :: .symbol k.symbol ::
          .symbol .openParen :: (g.tokens ++ .symbol .closeParen :: rest)) := by
      simp [tokens]
    rw [htokens]
    refine expression_of_disjunction ?_ h
    cases k with
    | and =>
      exact joinedBy_stop (joinedBy_cons (hleft _) (joinedBy_stop hright (symbol_stop h rfl)))
        (symbol_stop h rfl)
    | or =>
      exact joinedBy_cons (joinedBy_stop (hleft _) rfl)
        (joinedBy_stop (joinedBy_stop hright (symbol_stop h rfl)) (symbol_stop h rfl))

theorem depth_lt_length_tokens (f : Formula) : f.depth < f.tokens.length := by
  induction f with
  | compare v op n => simp [depth, tokens]
  | join k f g ihf ihg =>
    simp only [depth, tokens, List.length_cons, List.length_append]
    omega

theorem parseText_symbols (f : Formula) : parseText (String.ofList f.symbols) = .ok f.expr := by
  have htokens : tokens? f.symbols = some f.tokens :=
    (f.readsAs_symbols fun c hc => by cases hc).tokens?_eq
  have hexpr := f.expression_tokens (f.tokens.length + 1)
    (by have h := f.depth_lt_length_tokens; omega) [] fun t ht => by cases ht
  rw [List.append_nil] at hexpr
  simp only [parseText, String.toList_ofList, parse?, htokens, hexpr]

end Formula

end ConditionRegistry
