import ConditionRegistry.Language.Parser
import ConditionRegistry.Proofs.Revalidation.Tokens
import Mathlib.Data.List.Forall2

set_option autoImplicit false

/-!
# Parsing tokens that are alike

Whether tokens are an expression does not depend on what stands in their strings, only on whether
the strings have values. And no expression begins with an operator that joins conditions or has two
of them side by side.
-/

namespace ConditionRegistry.Language

/-- What the rest of the parser looks at in an expression that has been read. -/
inductive Shape where
  | variable (name : String)
  | field
  | other
  deriving DecidableEq

def Expr.shape : Expr → Shape
  | .variable x => .variable x
  | .field _ _ | .hasField _ _ => .field
  | _ => .other

/-- Outcomes of a parser on two lists of tokens that are alike. `proper` tells whether the first
    list is. -/
inductive SameReading {α κ : Type} (v : α → κ) (proper : Bool)
    (o o' : Option (α × List Token)) : Prop
  | failed (h : o = none) (h' : o' = none)
  | parsed (a a' : α) (r r' : List Token) (h : o = some (a, r)) (h' : o' = some (a', r'))
    (hv : v a = v a') (hr : List.Forall₂ Alike r r') (hproper : proper = isProper false r)

/-- A parser that reads lists of tokens alike if they are, and that leaves no operator without
    something to join. -/
def Uniform {α κ : Type} (v : α → κ) (p : Parser α) : Prop :=
  ∀ (after : Bool) {ts ts' : List Token}, List.Forall₂ Alike ts ts' →
    SameReading v (isProper after ts) (p ts) (p ts')

def UniformNext (p : Expr → Parser Expr) : Prop :=
  ∀ {e e' : Expr}, e.shape = e'.shape → ∀ {ts ts' : List Token}, List.Forall₂ Alike ts ts' →
    SameReading Expr.shape (isProper false ts) (p e ts) (p e' ts')

theorem isProper_cons {a : Token} (h : isOperator a = false) (after : Bool) (ts : List Token) :
    isProper after (a :: ts) = isProper false ts := by
  rw [isProper, h, Bool.and_false]
  rfl

namespace SameReading
variable {α β κ μ : Type} {v : α → κ} {w : β → μ} {proper : Bool}

theorem map {o o' : Option (α × List Token)} (h : SameReading v proper o o') {f g : α → β}
    (hf : ∀ a a', v a = v a' → w (f a) = w (g a')) :
    SameReading w proper (o.map fun p => (f p.1, p.2)) (o'.map fun p => (g p.1, p.2)) := by
  cases h with
  | failed h h' => exact .failed (by rw [h]; rfl) (by rw [h']; rfl)
  | parsed a a' r r' h h' hv hr hproper =>
    exact .parsed (f a) (g a') r r' (by rw [h]; rfl) (by rw [h']; rfl) (hf a a' hv) hr hproper

theorem of_map {o o' : Option α} (h : o.map v = o'.map v) {r r' : List Token}
    (hr : List.Forall₂ Alike r r') :
    SameReading v (isProper false r) (o.map fun a => (a, r)) (o'.map fun a => (a, r')) := by
  cases o with
  | none =>
    cases o' with
    | none => exact .failed rfl rfl
    | some a' => cases h
  | some a =>
    cases o' with
    | none => cases h
    | some a' => exact .parsed a a' r r' rfl rfl (Option.some.inj h) hr rfl

end SameReading

/-! ### Single tokens -/

theorem uniform_name : Uniform id name := by
  intro after ts ts' hts
  cases hts with
  | nil => exact .failed rfl rfl
  | cons ha hr =>
    cases ha with
    | string | bytes => exact .failed rfl rfl
    | refl =>
      rename_i a _ _
      cases a with
      | name n => exact .parsed n n _ _ rfl rfl rfl hr (isProper_cons rfl _ _)
      | _ => exact .failed rfl rfl

theorem uniform_fieldName : Uniform id fieldName := by
  intro after ts ts' hts
  cases hts with
  | nil => exact .failed rfl rfl
  | cons ha hr =>
    cases ha with
    | string | bytes => exact .failed rfl rfl
    | refl =>
      rename_i a _ _
      cases a with
      | name n | escaped n => exact .parsed n n _ _ rfl rfl rfl hr (isProper_cons rfl _ _)
      | _ => exact .failed rfl rfl

inductive SameSymbol (s : Symbol) (ts ts' : List Token) : Prop
  | missing (h : symbol s ts = none) (h' : symbol s ts' = none)
  | found (r r' : List Token) (hts : ts = .symbol s :: r) (h : symbol s ts = some ((), r))
    (h' : symbol s ts' = some ((), r')) (hr : List.Forall₂ Alike r r')

theorem sameSymbol (s : Symbol) {ts ts' : List Token} (hts : List.Forall₂ Alike ts ts') :
    SameSymbol s ts ts' := by
  cases hts with
  | nil => exact .missing rfl rfl
  | cons ha hr =>
    cases ha with
    | string | bytes => exact .missing rfl rfl
    | refl =>
      rename_i a _ _
      cases a with
      | symbol t =>
        by_cases ht : s = t
        · subst ht
          exact .found _ _ rfl (by simp [symbol]) (by simp [symbol]) hr
        · exact .missing (by simp [symbol, ht]) (by simp [symbol, ht])
      | _ => exact .missing rfl rfl

theorem uniform_symbol (s : Symbol) (hs : isOperator (.symbol s) = false) :
    Uniform (fun _ : Unit => ()) (symbol s) := by
  intro after ts ts' hts
  cases sameSymbol s hts with
  | missing h h' => exact .failed h h'
  | found r r' hts h h' hr =>
    refine .parsed () () r r' h h' rfl hr ?_
    rw [hts, isProper_cons hs]

/-! ### Lists of items -/

section Items
variable {α β κ μ : Type} {v : α → κ} {w : β → μ} {item : Parser α}

theorem uniform_separated (sep : Symbol) (hsep : isOperator (.symbol sep) = false)
    (hitem : Uniform v item) (fuel : Nat) : Uniform (List.map v) (separated sep item fuel) := by
  induction fuel with
  | zero => exact fun _ _ _ _ => .failed rfl rfl
  | succ fuel ih =>
    intro after ts ts' hts
    cases hitem after hts with
    | failed h h' => exact .failed (by simp only [separated, h]) (by simp only [separated, h'])
    | parsed a a' r r' h h' hv hr hproper =>
      rw [hproper]
      have hone : [a].map v = [a'].map v := congrArg (fun k => [k]) hv
      cases uniform_symbol sep hsep false hr with
      | failed hs hs' =>
        exact .parsed [a] [a'] r r' (by simp only [separated, h, hs])
          (by simp only [separated, h', hs']) hone hr rfl
      | parsed _ _ t t' hs hs' _ ht hproper =>
        cases ih false ht with
        | failed hi hi' =>
          exact .parsed [a] [a'] r r' (by simp only [separated, h, hs, hi])
            (by simp only [separated, h', hs', hi']) hone hr rfl
        | parsed as as' u u' hi hi' hvs hu hproper' =>
          refine .parsed (a :: as) (a' :: as') u u' (by simp only [separated, h, hs, hi])
            (by simp only [separated, h', hs', hi']) ?_ hu (hproper.trans hproper')
          rw [List.map_cons, List.map_cons, hv, hvs]

theorem sameReading_close {close : Symbol} (hclose : isOperator (.symbol close) = false) {a a' : α}
    (hv : v a = v a') (after : Bool) {ts ts' : List Token} (hts : List.Forall₂ Alike ts ts') :
    SameReading v (isProper after ts) ((symbol close ts).map fun p => (a, p.2))
      ((symbol close ts').map fun p => (a', p.2)) :=
  (uniform_symbol close hclose after hts).map fun _ _ _ => hv

theorem uniform_arguments (close : Symbol) (hclose : isOperator (.symbol close) = false)
    (hitem : Uniform v item) (fuel : Nat) : Uniform (List.map v) (arguments item close fuel) := by
  intro after ts ts' hts
  cases uniform_symbol close hclose after hts with
  | parsed _ _ r r' h h' _ hr hproper =>
    exact .parsed [] [] r r' (by simp only [arguments, h]) (by simp only [arguments, h']) rfl hr
      hproper
  | failed h h' =>
    cases uniform_separated .comma rfl hitem fuel after hts with
    | failed hi hi' =>
      exact .failed (by simp only [arguments, h, hi]) (by simp only [arguments, h', hi'])
    | parsed as as' r r' hi hi' hvs hr hproper =>
      simp only [arguments, h, h', hi, hi']
      rw [hproper]
      exact sameReading_close hclose hvs false hr

theorem uniform_elements (close : Symbol) (hclose : isOperator (.symbol close) = false)
    (hitem : Uniform v item) (fuel : Nat) : Uniform (List.map v) (elements item close fuel) := by
  intro after ts ts' hts
  have hitems : ∃ (as as' : List α) (r r' : List Token) (after' : Bool),
      (separated .comma item fuel ts).getD ([], ts) = (as, r) ∧
      (separated .comma item fuel ts').getD ([], ts') = (as', r') ∧ as.map v = as'.map v ∧
      List.Forall₂ Alike r r' ∧ isProper after ts = isProper after' r := by
    cases uniform_separated .comma rfl hitem fuel after hts with
    | failed h h' => exact ⟨[], [], ts, ts', after, by rw [h]; rfl, by rw [h']; rfl, rfl, hts, rfl⟩
    | parsed as as' r r' h h' hvs hr hproper =>
      exact ⟨as, as', r, r', false, by rw [h]; rfl, by rw [h']; rfl, hvs, hr, hproper⟩
  obtain ⟨as, as', r, r', after', h, h', hvs, hr, hproper⟩ := hitems
  rw [hproper]
  cases uniform_symbol .comma rfl after' hr with
  | failed hs hs' =>
    simp only [elements, h, h', hs, hs']
    exact sameReading_close hclose hvs after' hr
  | parsed _ _ t t' hs hs' _ ht hproper =>
    simp only [elements, h, h', hs, hs']
    rw [hproper]
    exact sameReading_close hclose hvs false ht

theorem uniform_pair {first : Parser α} {second : Parser β} (hfirst : Uniform v first)
    (hsecond : Uniform w second) :
    Uniform (fun p => (v p.1, w p.2)) (pair first second) := by
  intro after ts ts' hts
  cases hfirst after hts with
  | failed h h' => exact .failed (by simp only [pair, h]) (by simp only [pair, h'])
  | parsed a a' r r' h h' hv hr hproper =>
    cases uniform_symbol .colon rfl false hr with
    | failed hs hs' =>
      exact .failed (by simp only [pair, h, hs]) (by simp only [pair, h', hs'])
    | parsed _ _ t t' hs hs' _ ht hproper' =>
      simp only [pair, h, h', hs, hs']
      rw [hproper, hproper']
      exact (hsecond false ht).map fun b b' hw => by rw [hv, hw]

end Items

/-! ### Calls and messages -/

def globalShape (f : String) : List Shape → Option Shape
  | [a] => if f = "has" then (if a = .field then some .field else none) else some .other
  | _ => some .other

theorem shape_globalCall (f : String) (args : List Expr) :
    (globalCall f args).map Expr.shape = globalShape f (args.map Expr.shape) := by
  match args with
  | [] | _ :: _ :: _ => rfl
  | [a] =>
    by_cases hf : f = "has"
    · subst hf
      cases a <;> rfl
    · simp only [globalCall, globalShape, List.map_cons, List.map_nil, if_neg hf]
      rfl

def loopShape : Shape → Option Shape
  | .variable _ => some .other
  | _ => none

def methodShape (f : String) (args : List Shape) : Option Shape :=
  match loopKind? f, args with
  | some _, [v, _] => loopShape v
  | some .map, [v, _, _] => loopShape v
  | _, _ => some .other

theorem shape_methodCall (target : Expr) (f : String) (args : List Expr) :
    (methodCall target f args).map Expr.shape = methodShape f (args.map Expr.shape) := by
  unfold methodCall methodShape
  cases loopKind? f with
  | none => rfl
  | some k =>
    match args with
    | [] | [_] | _ :: _ :: _ :: _ :: _ => cases k <;> rfl
    | [v, body] => cases v <;> rfl
    | [v, condition, body] => cases k <;> cases v <;> rfl

theorem uniform_messageName (fuel : Nat) : Uniform id (messageName fuel) := by
  induction fuel with
  | zero => exact fun _ _ _ _ => .failed rfl rfl
  | succ fuel ih =>
    intro after ts ts' hts
    cases uniform_name after hts with
    | failed h h' => exact .failed (by simp only [messageName, h]) (by simp only [messageName, h'])
    | parsed n n' r r' h h' hn hr hproper =>
      cases hn
      simp only [messageName, h, h']
      rw [hproper]
      cases hr with
      | nil => exact .failed rfl rfl
      | cons ha hr =>
        cases ha with
        | string | bytes => exact .failed rfl rfl
        | refl =>
          rename_i a _ _
          cases a with
          | symbol s =>
            cases s with
            | openBrace => exact .parsed n n _ _ rfl rfl rfl hr (isProper_cons rfl _ _)
            | dot =>
              rw [isProper_cons rfl]
              exact (ih false hr).map fun m m' (hm : m = m') => by rw [hm]
            | _ => exact .failed rfl rfl
          | _ => exact .failed rfl rfl

theorem sameReading_constant {o o' : Option Literal} (h : o.isSome = o'.isSome) (after : Bool)
    {a : Token} (ha : isOperator a = false) {r r' : List Token} (hr : List.Forall₂ Alike r r') :
    SameReading Expr.shape (isProper after (a :: r)) (constant o r) (constant o' r') := by
  rw [isProper_cons ha]
  cases o with
  | none =>
    cases o' with
    | none => exact .failed rfl rfl
    | some v => cases h
  | some v =>
    cases o' with
    | none => cases h
    | some v' => exact .parsed _ _ _ _ rfl rfl rfl hr rfl

/-! ### The levels of the grammar -/

section Levels
variable {expr : Parser Expr} (hexpr : Uniform Expr.shape expr) (fuel : Nat)
include hexpr

theorem uniform_named (dotted : Bool) : Uniform Expr.shape (named expr fuel dotted) := by
  intro after ts ts' hts
  cases uniform_messageName fuel after hts with
  | parsed n n' r r' h h' hn hr hproper =>
    cases hn
    simp only [named, h, h']
    rw [hproper]
    have hfields : Uniform _ (elements (pair fieldName expr) .closeBrace fuel) :=
      uniform_elements .closeBrace rfl (uniform_pair uniform_fieldName hexpr) fuel
    exact (hfields false hr).map fun _ _ _ => rfl
  | failed h h' =>
    simp only [named, h, h']
    cases hts with
    | nil => exact .failed rfl rfl
    | cons ha hr =>
      cases ha with
      | string | bytes => exact .failed rfl rfl
      | refl =>
        rename_i a _ _
        cases a with
        | name n =>
          rw [isProper_cons rfl]
          have hvariable : ∀ {r r'}, List.Forall₂ Alike r r' →
              SameReading Expr.shape (isProper false r) (some (.variable n, r))
                (some (.variable n, r')) := fun hr => .parsed _ _ _ _ rfl rfl rfl hr rfl
          cases hr with
          | nil => exact hvariable .nil
          | cons hb hr =>
            cases hb with
            | string hb => exact hvariable (.cons (.string hb) hr)
            | bytes hb => exact hvariable (.cons (.bytes hb) hr)
            | refl =>
              rename_i b _ _
              cases b with
              | symbol s =>
                cases s with
                | openParen =>
                  rw [isProper_cons rfl]
                  cases uniform_arguments .closeParen rfl hexpr fuel false hr with
                  | failed hi hi' => exact .failed (by simp only [hi]) (by simp only [hi'])
                  | parsed as as' t t' hi hi' hvs ht hproper =>
                    simp only [hi, hi']
                    rw [hproper]
                    cases dotted with
                    | true => exact .parsed _ _ _ _ rfl rfl rfl ht rfl
                    | false =>
                      refine .of_map ?_ ht
                      rw [shape_globalCall, shape_globalCall, hvs]
                | _ => exact hvariable (.cons (.refl _) hr)
              | _ => exact hvariable (.cons (.refl _) hr)
        | _ => exact .failed rfl rfl

theorem uniform_primary : Uniform Expr.shape (primary expr fuel) := by
  intro after ts ts' hts
  cases hts with
  | nil => exact uniform_named hexpr fuel false after .nil
  | cons ha hr =>
    cases ha with
    | string h => exact sameReading_constant h after rfl hr
    | bytes h => exact sameReading_constant h after rfl hr
    | refl =>
      rename_i a _ _
      cases a with
      | integer | unsigned | float | string | bytes => exact sameReading_constant rfl after rfl hr
      | name | escaped => exact uniform_named hexpr fuel false after (.cons (.refl _) hr)
      | symbol s =>
        cases s with
        | «true» | «false» | null => exact sameReading_constant rfl after rfl hr
        | dot =>
          rw [isProper_cons rfl]
          exact uniform_named hexpr fuel true false hr
        | openParen =>
          rw [isProper_cons rfl]
          cases hexpr false hr with
          | failed h h' => exact .failed (by simp only [primary, h]) (by simp only [primary, h'])
          | parsed e e' r r' h h' hv hr hproper =>
            simp only [primary, h, h']
            rw [hproper]
            exact sameReading_close rfl hv false hr
        | openBracket =>
          rw [isProper_cons rfl]
          exact (uniform_elements .closeBracket rfl hexpr fuel false hr).map fun _ _ _ => rfl
        | openBrace =>
          rw [isProper_cons rfl]
          have hentries : Uniform _ (elements (pair expr expr) .closeBrace fuel) :=
            uniform_elements .closeBrace rfl (uniform_pair hexpr hexpr) fuel
          exact (hentries false hr).map fun _ _ _ => rfl
        | _ => exact uniform_named hexpr fuel false after (.cons (.refl _) hr)

theorem sameReading_call (hnext : UniformNext (postfixes expr fuel)) {e e' : Expr} (n : String)
    {r r' : List Token} (hr : List.Forall₂ Alike r r') :
    SameReading Expr.shape (isProper false r)
      (postfixes expr (fuel + 1) e (.symbol .dot :: .name n :: .symbol .openParen :: r))
      (postfixes expr (fuel + 1) e' (.symbol .dot :: .name n :: .symbol .openParen :: r')) := by
  cases uniform_arguments .closeParen rfl hexpr fuel false hr with
  | failed h h' => exact .failed (by simp only [postfixes, h]) (by simp only [postfixes, h'])
  | parsed as as' t t' h h' hvs ht hproper =>
    simp only [postfixes, h, h']
    rw [hproper]
    have hshape := shape_methodCall e n as
    rw [hvs, ← shape_methodCall e' n as'] at hshape
    generalize methodCall e n as = o at hshape ⊢
    generalize methodCall e' n as' = o' at hshape ⊢
    cases o with
    | none =>
      cases o' with
      | none => exact .failed rfl rfl
      | some d' => cases hshape
    | some d =>
      cases o' with
      | none => cases hshape
      | some d' => exact hnext (Option.some.inj hshape) ht

theorem sameReading_index (hnext : UniformNext (postfixes expr fuel)) {e e' : Expr}
    {r r' : List Token} (hr : List.Forall₂ Alike r r') :
    SameReading Expr.shape (isProper false r)
      (postfixes expr (fuel + 1) e (.symbol .openBracket :: r))
      (postfixes expr (fuel + 1) e' (.symbol .openBracket :: r')) := by
  cases hexpr false hr with
  | failed h h' => exact .failed (by simp only [postfixes, h]) (by simp only [postfixes, h'])
  | parsed i i' t t' h h' _ ht hproper =>
    rw [hproper]
    cases uniform_symbol .closeBracket rfl false ht with
    | failed hs hs' =>
      exact .failed (by simp only [postfixes, h, hs]) (by simp only [postfixes, h', hs'])
    | parsed _ _ u u' hs hs' _ hu hproper =>
      simp only [postfixes, h, h', hs, hs']
      rw [hproper]
      have hshape : (Expr.binary .index e i).shape = (Expr.binary .index e' i').shape := rfl
      exact hnext hshape hu

theorem uniformNext_postfixes : UniformNext (postfixes expr fuel) := by
  induction fuel with
  | zero => exact fun he _ _ hts => .parsed _ _ _ _ rfl rfl he hts rfl
  | succ fuel ih =>
    intro e e' he ts ts' hts
    have hfield : ∀ (n : String) {r r' : List Token}, List.Forall₂ Alike r r' →
        SameReading Expr.shape (isProper false r) (postfixes expr fuel (.field e n) r)
          (postfixes expr fuel (.field e' n) r') := by
      intro n r r' hr
      have hshape : (e.field n).shape = (e'.field n).shape := rfl
      exact ih hshape hr
    cases hts with
    | nil => exact .parsed e e' [] [] rfl rfl he .nil rfl
    | cons ha hr =>
      cases ha with
      | string h => exact .parsed e e' _ _ rfl rfl he (.cons (.string h) hr) rfl
      | bytes h => exact .parsed e e' _ _ rfl rfl he (.cons (.bytes h) hr) rfl
      | refl =>
        rename_i a _ _
        cases a with
        | symbol s =>
          cases s with
          | openBracket =>
            rw [isProper_cons rfl]
            exact sameReading_index hexpr fuel ih hr
          | dot =>
            rw [isProper_cons rfl]
            cases hr with
            | nil => exact .failed rfl rfl
            | cons hb hr =>
              cases hb with
              | string | bytes => exact .failed rfl rfl
              | refl =>
                rename_i b _ _
                cases b with
                | escaped n =>
                  rw [isProper_cons rfl]
                  exact hfield n hr
                | name n =>
                  rw [isProper_cons rfl]
                  cases hr with
                  | nil => exact hfield n .nil
                  | cons hc hr =>
                    cases hc with
                    | string h => exact hfield n (.cons (.string h) hr)
                    | bytes h => exact hfield n (.cons (.bytes h) hr)
                    | refl =>
                      rename_i c _ _
                      cases c with
                      | symbol s =>
                        cases s with
                        | openParen =>
                          rw [isProper_cons rfl]
                          exact sameReading_call hexpr fuel ih n hr
                        | _ => exact hfield n (.cons (.refl _) hr)
                      | _ => exact hfield n (.cons (.refl _) hr)
                | _ => exact .failed rfl rfl
          | _ => exact .parsed e e' _ _ rfl rfl he (.cons (.refl _) hr) rfl
        | _ => exact .parsed e e' _ _ rfl rfl he (.cons (.refl _) hr) rfl

theorem uniform_member : Uniform Expr.shape (member expr fuel) := by
  intro after ts ts' hts
  cases uniform_primary hexpr fuel after hts with
  | failed h h' => exact .failed (by simp only [member, h]) (by simp only [member, h'])
  | parsed e e' r r' h h' he hr hproper =>
    simp only [member, h, h']
    rw [hproper]
    exact uniformNext_postfixes hexpr fuel he hr

omit hexpr in
theorem uniform_signed {s : Symbol} (hs : isOperator (.symbol s) = false) {wrap : Expr → Expr}
    (hwrap : ∀ e e', (wrap e).shape = (wrap e').shape) {inner : Parser Expr}
    (hinner : Uniform Expr.shape inner) : Uniform Expr.shape (signed s wrap inner) := by
  intro after ts ts' hts
  refine SameReading.map (v := Expr.shape) ?_ fun e e' _ => hwrap e e'
  induction hts generalizing after with
  | nil => exact hinner after .nil
  | cons ha hr ih =>
    cases ha with
    | string h => exact hinner after (.cons (.string h) hr)
    | bytes h => exact hinner after (.cons (.bytes h) hr)
    | refl =>
      rename_i a _ _
      by_cases hsign : a = .symbol s
      · subst hsign
        rw [isProper_cons hs, List.dropWhile_cons_of_pos (by simp),
          List.dropWhile_cons_of_pos (by simp)]
        exact ih false
      · rw [List.dropWhile_cons_of_neg (by simpa using hsign),
          List.dropWhile_cons_of_neg (by simpa using hsign)]
        exact hinner after (.cons (.refl a) hr)

theorem sameReading_number {o : Option Literal} {r r' : List Token} (hr : List.Forall₂ Alike r r') :
    SameReading Expr.shape (isProper false r)
      (match o with | none => none | some v => postfixes expr fuel (.literal v) r)
      (match o with | none => none | some v => postfixes expr fuel (.literal v) r') := by
  cases o with
  | none => exact .failed rfl rfl
  | some v => exact uniformNext_postfixes hexpr fuel rfl hr

theorem uniform_operand : Uniform Expr.shape (unary.operand expr fuel) := by
  have hmember := uniform_member hexpr fuel
  intro after ts ts' hts
  cases hts with
  | nil => exact hmember after .nil
  | cons ha hr =>
    cases ha with
    | string h => exact hmember after (.cons (.string h) hr)
    | bytes h => exact hmember after (.cons (.bytes h) hr)
    | refl =>
      rename_i a _ _
      cases a with
      | symbol s =>
        cases s with
        | minus =>
          cases hr with
          | nil => exact hmember after (.cons (.refl _) .nil)
          | cons hb hr =>
            cases hb with
            | string h => exact hmember after (.cons (.refl _) (.cons (.string h) hr))
            | bytes h => exact hmember after (.cons (.refl _) (.cons (.bytes h) hr))
            | refl =>
              rename_i b _ _
              cases b with
              | integer | float =>
                rw [isProper_cons rfl, isProper_cons rfl]
                exact sameReading_number hexpr fuel hr
              | _ => exact hmember after (.cons (.refl _) (.cons (.refl _) hr))
        | _ => exact hmember after (.cons (.refl _) hr)
      | _ => exact hmember after (.cons (.refl _) hr)

theorem uniform_unary : Uniform Expr.shape (unary expr fuel) := by
  have hmember := uniform_member hexpr fuel
  have hnegate : Uniform Expr.shape (signed .minus .negate (member expr fuel)) :=
    uniform_signed rfl (fun _ _ => rfl) hmember
  have hnot : Uniform Expr.shape (signed .not .not (unary.operand expr fuel)) :=
    uniform_signed rfl (fun _ _ => rfl) (uniform_operand hexpr fuel)
  intro after ts ts' hts
  cases hts with
  | nil => exact hmember after .nil
  | cons ha hr =>
    cases ha with
    | string h => exact hmember after (.cons (.string h) hr)
    | bytes h => exact hmember after (.cons (.bytes h) hr)
    | refl =>
      rename_i a _ _
      cases a with
      | symbol s =>
        cases s with
        | not =>
          rw [isProper_cons rfl]
          exact hnot false hr
        | minus =>
          rw [isProper_cons rfl]
          cases hr with
          | nil => exact hnegate false .nil
          | cons hb hr =>
            cases hb with
            | string h => exact hnegate false (.cons (.string h) hr)
            | bytes h => exact hnegate false (.cons (.bytes h) hr)
            | refl =>
              rename_i b _ _
              cases b with
              | integer | float =>
                rw [isProper_cons rfl]
                exact sameReading_number hexpr fuel hr
              | _ => exact hnegate false (.cons (.refl _) hr)
        | _ => exact hmember after (.cons (.refl _) hr)
      | _ => exact hmember after (.cons (.refl _) hr)

end Levels

/-! ### Operators -/

section Operators
variable {operand : Parser Expr} (hoperand : Uniform Expr.shape operand) (fuel : Nat)
include hoperand

theorem uniformNext_leftChain {op? : Token → Option BinaryOp}
    (hop : ∀ {a a'}, Alike a a' → op? a = op? a')
    (hother : ∀ {a op}, op? a = some op → isOperator a = false) :
    UniformNext (leftChain op? operand fuel) := by
  induction fuel with
  | zero => exact fun he _ _ hts => .parsed _ _ _ _ rfl rfl he hts rfl
  | succ fuel ih =>
    intro e e' he ts ts' hts
    cases hts with
    | nil => exact .parsed e e' [] [] rfl rfl he .nil rfl
    | cons ha hr =>
      have hsame := hop ha
      rename_i a a' _ _
      cases h : op? a with
      | none =>
        rw [h] at hsame
        exact .parsed e e' _ _ (by simp only [leftChain, h]) (by simp only [leftChain, ← hsame]) he
          (.cons ha hr) rfl
      | some op =>
        rw [h] at hsame
        rw [isProper_cons (hother h)]
        cases hoperand false hr with
        | failed hb hb' =>
          exact .failed (by simp only [leftChain, h, hb]) (by simp only [leftChain, ← hsame, hb'])
        | parsed b b' r r' hb hb' _ hr hproper =>
          simp only [leftChain, h, ← hsame, hb, hb']
          rw [hproper]
          have hshape : (Expr.binary op e b).shape = (Expr.binary op e' b').shape := rfl
          exact ih hshape hr

theorem uniform_leftAssociative {op? : Token → Option BinaryOp}
    (hop : ∀ {a a'}, Alike a a' → op? a = op? a')
    (hother : ∀ {a op}, op? a = some op → isOperator a = false) :
    Uniform Expr.shape (leftAssociative op? operand fuel) := by
  intro after ts ts' hts
  cases hoperand after hts with
  | failed h h' =>
    exact .failed (by simp only [leftAssociative, h]) (by simp only [leftAssociative, h'])
  | parsed e e' r r' h h' he hr hproper =>
    simp only [leftAssociative, h, h']
    rw [hproper]
    exact uniformNext_leftChain hoperand fuel hop hother he hr

theorem uniform_joinedBy {s : Symbol} (hs : isOperator (.symbol s) = true)
    {join : Expr → Expr → Expr} (hjoin : ∀ a b a' b', (join a b).shape = (join a' b').shape) :
    Uniform Expr.shape (joinedBy s join operand fuel) := by
  induction fuel with
  | zero => exact fun _ _ _ _ => .failed rfl rfl
  | succ fuel ih =>
    intro after ts ts' hts
    cases hoperand after hts with
    | failed h h' => exact .failed (by simp only [joinedBy, h]) (by simp only [joinedBy, h'])
    | parsed e e' r r' h h' he hr hproper =>
      rw [hproper]
      cases sameSymbol s hr with
      | missing hs hs' =>
        exact .parsed e e' r r' (by simp only [joinedBy, h, hs]) (by simp only [joinedBy, h', hs'])
          he hr rfl
      | found t t' hrt hj hj' ht =>
        have hbehind : isProper false r = isProper true t := by
          rw [hrt, isProper, hs]
          rfl
        simp only [joinedBy, h, h', hj, hj']
        rw [hbehind]
        exact (ih true ht).map fun b b' _ => hjoin e b e' b'

end Operators

section Levels
variable {expr : Parser Expr} (hexpr : Uniform Expr.shape expr) (fuel : Nat)
include hexpr

theorem uniform_relation : Uniform Expr.shape (relation expr fuel) := by
  have hproduct : Uniform Expr.shape (product expr fuel) := by
    refine uniform_leftAssociative (uniform_unary hexpr fuel) fuel (fun h => by cases h <;> rfl) ?_
    intro a op h
    unfold productOp? at h
    split at h <;> first | rfl | cases h
  have hsum : Uniform Expr.shape (sum expr fuel) := by
    refine uniform_leftAssociative hproduct fuel (fun h => by cases h <;> rfl) ?_
    intro a op h
    unfold sumOp? at h
    split at h <;> first | rfl | cases h
  refine uniform_leftAssociative hsum fuel (fun h => by cases h <;> rfl) ?_
  intro a op h
  unfold relationOp? at h
  split at h <;> first | rfl | cases h

theorem uniform_disjunction : Uniform Expr.shape (disjunction expr fuel) := by
  have hconjunction : Uniform Expr.shape (conjunction expr fuel) :=
    uniform_joinedBy (uniform_relation hexpr fuel) fuel rfl fun _ _ _ _ => rfl
  exact uniform_joinedBy hconjunction fuel rfl fun _ _ _ _ => rfl

theorem uniform_choice : Uniform Expr.shape (choice expr fuel) := by
  have hdisjunction := uniform_disjunction hexpr fuel
  intro after ts ts' hts
  cases hdisjunction after hts with
  | failed h h' => exact .failed (by simp only [choice, h]) (by simp only [choice, h'])
  | parsed c c' r r' h h' hc hr hproper =>
    rw [hproper]
    cases uniform_symbol .question rfl false hr with
    | failed hs hs' =>
      exact .parsed c c' r r' (by simp only [choice, h, hs]) (by simp only [choice, h', hs']) hc hr
        rfl
    | parsed _ _ t t' hs hs' _ ht hproper' =>
      simp only [choice, h, h', hs, hs']
      rw [hproper']
      exact (uniform_pair hdisjunction hexpr false ht).map (w := Expr.shape)
        (f := fun p => .choose c p.1 p.2) (g := fun p => .choose c' p.1 p.2) fun _ _ _ => rfl

end Levels

theorem uniform_expression (fuel : Nat) : Uniform Expr.shape (expression fuel) := by
  induction fuel with
  | zero => exact fun _ _ _ _ => .failed rfl rfl
  | succ fuel ih => exact fun _ _ _ hts => uniform_choice ih (fuel + 1) _ hts

/-! ### Whole texts -/

theorem isSome_parse?_eq {s t : List Char}
    (h : Option.Rel (List.Forall₂ Alike) (tokens? s) (tokens? t)) :
    (parse? s).isSome = (parse? t).isSome := by
  unfold parse?
  generalize tokens? s = o at h
  generalize tokens? t = o' at h
  cases h with
  | none => rfl
  | some hts =>
    rename_i ts ts'
    have hlength := hts.length_eq
    cases uniform_expression (ts.length + 1) true hts with
    | failed h h' => simp only [← hlength, h, h']
    | parsed e e' r r' h h' _ hr _ =>
      simp only [← hlength, h, h']
      cases hr <;> rfl

theorem isProper_of_parse? {s : List Char} {ts : List Token} (hts : tokens? s = some ts)
    (h : (parse? s).isSome = true) : isProper true ts = true := by
  have hself : List.Forall₂ Alike ts ts := List.forall₂_same.2 fun a _ => .refl a
  simp only [parse?, hts] at h
  cases uniform_expression (ts.length + 1) true hself with
  | failed hnone =>
    simp only [hnone] at h
    cases h
  | parsed e e' r r' hsome _ _ _ hproper =>
    simp only [hsome] at h
    cases r with
    | nil => exact hproper
    | cons a t => cases h

/-- Replacing a keyword keeps a text readable exactly if the keyword is not loose in it. -/
theorem isSome_parse?_replace (k : Keyword) {s : List Char} {before : Option Char}
    (h : k.SettledAfter before s) :
    (parse? (k.replace s)).isSome = (!k.isLoose s && (parse? s).isSome) := by
  cases hs : k.isLoose s with
  | false => exact (isSome_parse?_eq (k.alike_tokens? h hs)).symm
  | true =>
    rw [Bool.not_true, Bool.false_and, ← Bool.not_eq_true]
    intro hparse
    cases hts : tokens? (k.replace s) with
    | none =>
      simp only [parse?, hts] at hparse
      cases hparse
    | some ts =>
      have hproper := isProper_of_parse? hts hparse
      rw [k.isProper_tokens?_of_isLoose h hs (fun _ => rfl) hts] at hproper
      cases hproper

end ConditionRegistry.Language
