import ConditionRegistry.Proofs.Scopes.Outcomes

set_option autoImplicit false

/-!
# One expression in two scopes

An evaluation takes nothing from its scope but the outcomes of the variables that the expression
reads. So every comparison that carries over to what is made of outcomes carries over from these
variables to the expression, under the same order of maps; and under any two orders if no map has
two entries to put in order.
-/

namespace ConditionRegistry.Language

/-! ### Variables that are read -/

mutual

/-- The variables that an evaluation can look up in its scope. The variable of a loop is looked up
    in the scope of its turns. -/
def Expr.reads : Expr → List String
  | .literal _ | .message _ _ => []
  | .variable x => [x]
  | .field e _ | .hasField e _ | .not e | .negate e => e.reads
  | .binary _ a b | .and a b | .or a b => a.reads ++ b.reads
  | .choose c a b => c.reads ++ (a.reads ++ b.reads)
  | .call _ args => readsOfAll args
  | .method target _ args => target.reads ++ readsOfAll args
  | .list items => readsOfAll items
  | .map entries => readsOfEntries entries
  | .loop _ x range body => range.reads ++ body.reads.filter (· != x)
  | .mapWhere x range condition body =>
    range.reads ++ (condition.reads ++ body.reads).filter (· != x)

def readsOfAll : List Expr → List String
  | [] => []
  | e :: r => e.reads ++ readsOfAll r

def readsOfEntries : List (Expr × Expr) → List String
  | [] => []
  | (a, b) :: r => a.reads ++ b.reads ++ readsOfEntries r

end

/-! ### Maps that are made -/

mutual

def Expr.hasSmallMaps : Expr → Bool
  | .literal _ | .variable _ | .message _ _ => true
  | .field e _ | .hasField e _ | .not e | .negate e => e.hasSmallMaps
  | .binary _ a b | .and a b | .or a b => a.hasSmallMaps && b.hasSmallMaps
  | .choose c a b => c.hasSmallMaps && (a.hasSmallMaps && b.hasSmallMaps)
  | .call _ args => haveSmallMaps args
  | .method target _ args => target.hasSmallMaps && haveSmallMaps args
  | .list items => haveSmallMaps items
  | .map entries => entries.length ≤ 1 && entriesHaveSmallMaps entries
  | .loop _ _ range body => range.hasSmallMaps && body.hasSmallMaps
  | .mapWhere _ range condition body =>
    range.hasSmallMaps && (condition.hasSmallMaps && body.hasSmallMaps)

def haveSmallMaps : List Expr → Bool
  | [] => true
  | e :: r => e.hasSmallMaps && haveSmallMaps r

def entriesHaveSmallMaps : List (Expr × Expr) → Bool
  | [] => true
  | (a, b) :: r => (a.hasSmallMaps && b.hasSmallMaps) && entriesHaveSmallMaps r

end

/-- Maps come in the same order, or they are too small to have one. -/
def OrderedAlike (order order' : MapOrder) (small : Bool) : Prop := order = order' ∨ small = true

section OrderedAlike
variable {order order' : MapOrder} {a b : Bool}

theorem OrderedAlike.left (h : OrderedAlike order order' (a && b)) : OrderedAlike order order' a :=
  h.imp_right fun h => (Bool.and_eq_true_iff.1 h).1

theorem OrderedAlike.right (h : OrderedAlike order order' (a && b)) : OrderedAlike order order' b :=
  h.imp_right fun h => (Bool.and_eq_true_iff.1 h).2

end OrderedAlike

/-- Two scopes in which the variables of a list have related outcomes. -/
def Related (R : OutcomeRelation) (xs : List String) (σ σ' : Scope) : Prop :=
  ∀ x ∈ xs, R Value (lookupVariable σ x) (lookupVariable σ' x)

namespace Related
variable {R : OutcomeRelation} {xs ys : List String} {σ σ' : Scope}

theorem left (h : Related R (xs ++ ys) σ σ') : Related R xs σ σ' :=
  fun x hx => h x (List.mem_append_left ys hx)

theorem right (h : Related R (xs ++ ys) σ σ') : Related R ys σ σ' :=
  fun x hx => h x (List.mem_append_right xs hx)

theorem turn (hR : CarriesOver R) {x : String} (h : Related R (xs.filter (· != x)) σ σ')
    (v : Value) : Related R xs ((x, v) :: σ) ((x, v) :: σ') := by
  intro y hy
  unfold lookupVariable
  rw [lookup_cons_eq_ite, lookup_cons_eq_ite]
  by_cases hyx : y = x
  · rw [if_pos hyx, if_pos hyx]
    exact hR.refl _
  · rw [if_neg hyx, if_neg hyx]
    exact h y (List.mem_filter.2 ⟨hy, bne_iff_ne.2 hyx⟩)

end Related

theorem eval_map_nil (order : MapOrder) (p : Origin) (σ : Scope) :
    eval order p σ (.map []) = .ok (.map p []) := by
  have harrange : order.arrange p [] = [] := order.arrange_eq_self p (Nat.zero_le 1)
  exact congrArg (fun es => (.ok (.map p es) : Result)) harrange

theorem eval_map_singleton (order : MapOrder) (p : Origin) (σ : Scope) (e : Expr × Expr) :
    eval order p σ (.map [e]) = evalEntry order (0 :: p) σ e >>= fun m => .ok (.map p [m]) := by
  have heval : eval order p σ (.map [e]) = (evalEntry order (0 :: p) σ e >>= fun m =>
      .ok (put m.1 m.2 [])) >>= fun made => .ok (.map p (order.arrange p made)) := rfl
  rw [heval]
  cases evalEntry order (0 :: p) σ e with
  | error s => rfl
  | ok m =>
    have harrange : order.arrange p [m] = [m] := order.arrange_eq_self p (Nat.le_refl 1)
    exact congrArg (fun es => (.ok (.map p es) : Result)) harrange

section Related
variable {R : OutcomeRelation} {order order' : MapOrder}

mutual

/-- Whatever carries over from the variables that an expression reads carries over to its
    outcome. -/
theorem eval_related (hR : CarriesOver R) (p : Origin) {σ σ' : Scope} :
    (e : Expr) → OrderedAlike order order' e.hasSmallMaps → Related R e.reads σ σ' →
      R Value (eval order p σ e) (eval order' p σ' e)
  | .literal _, _, _ => hR.refl _
  | .variable x, _, h => h x (List.mem_singleton_self x)
  | .field e _, ho, h => hR.bind (eval_related hR (0 :: p) e ho h) fun _ => hR.refl _
  | .hasField e _, ho, h => hR.bind (eval_related hR (0 :: p) e ho h) fun _ => hR.refl _
  | .not e, ho, h => hR.bind (eval_related hR (0 :: p) e ho h) fun _ => hR.refl _
  | .negate e, ho, h => hR.bind (eval_related hR (0 :: p) e ho h) fun _ => hR.refl _
  | .binary _ a b, ho, h => by
    have ha := eval_related hR (0 :: p) a ho.left h.left
    have hb := eval_related hR (1 :: p) b ho.right h.right
    exact hR.bind ha fun v => hR.bind hb fun w => hR.refl _
  | .and a b, ho, h => by
    have ha := eval_related hR (0 :: p) a ho.left h.left
    have hb := eval_related hR (1 :: p) b ho.right h.right
    exact hR.bind ha fun v =>
      CarriesOver.branch v.isTruthy (hR.bind hb fun w => hR.refl _) (hR.refl _)
  | .or a b, ho, h => by
    have ha := eval_related hR (0 :: p) a ho.left h.left
    have hb := eval_related hR (1 :: p) b ho.right h.right
    exact hR.bind ha fun v => CarriesOver.branch v.isTruthy (hR.refl _) hb
  | .choose c a b, ho, h => by
    have hc := eval_related hR (0 :: p) c ho.left h.left
    have ha := eval_related hR (1 :: p) a ho.right.left h.right.left
    have hb := eval_related hR (2 :: p) b ho.right.right h.right.right
    exact hR.bind hc fun v => CarriesOver.branch v.isTruthy ha hb
  | .call f args, ho, h => by
    have hfirst := evalFirst_related hR (2 :: p) args ho h
    exact hR.callFunction (evalAll_related hR p 0 args ho h) f hfirst .none
  | .method t f args, ho, h => by
    have hfirst := evalFirst_related hR (3 :: p) args ho.right h.right
    have ht := eval_related hR (0 :: p) t ho.left h.left
    exact hR.callFunction (evalAll_related hR p 1 args ho.right h.right) f hfirst (.some ht)
  | .list items, ho, h => by
    have hitems := evalAll_related hR p 0 items ho h
    exact hR.bind (hR.mapM_id hitems) fun vs => hR.refl _
  | .map [], _, _ => by
    rw [eval_map_nil, eval_map_nil]
    exact hR.refl _
  | .map [(a, b)], ho, h => by
    have hentry := evalEntry_related hR (0 :: p) (a, b) ho.right.left h.left
    rw [eval_map_singleton, eval_map_singleton]
    exact hR.bind hentry fun m => hR.refl _
  | .map (e :: d :: r), ho, h => by
    have hmade := evalEntries_related hR p 0 [] (e :: d :: r) ho.right h
    have horder : order = order' := ho.left.resolve_right (by simp)
    refine hR.bind hmade fun made => ?_
    rw [horder]
    exact hR.refl _
  | .message _ _, _, _ => hR.refl _
  | .loop k _ range body, ho, h => by
    have hrange := eval_related hR (0 :: p) range ho.left h.left
    have hbody (t : Turn) :=
      eval_related hR (t.2 :: 1 :: p) body ho.right (h.right.turn hR t.1)
    exact hR.bind hrange fun v => hR.bind (hR.refl (turnsOf v)) fun ts => hR.run hbody k p ts
  | .mapWhere _ range condition body, ho, h => by
    have hrange := eval_related hR (0 :: p) range ho.left h.left
    have hcondition (t : Turn) :=
      eval_related hR (t.2 :: 1 :: p) condition ho.right.left (h.right.turn hR t.1).left
    have hbody (t : Turn) :=
      eval_related hR (t.2 :: 2 :: p) body ho.right.right (h.right.turn hR t.1).right
    exact hR.bind hrange fun v => hR.bind (hR.refl (turnsOf v)) fun ts =>
      hR.bind (hR.loopMap hbody hcondition ts) fun ws => hR.refl _

theorem evalFirst_related (hR : CarriesOver R) (p : Origin) {σ σ' : Scope} :
    (es : List Expr) → OrderedAlike order order' (haveSmallMaps es) →
      Related R (readsOfAll es) σ σ' →
      R Unit (evalFirst order p σ es) (evalFirst order' p σ' es)
  | [], _, _ => hR.refl _
  | [a], ho, h => hR.map (eval_related hR p a ho.left h.left) _
  | [a, _], ho, h => hR.map (eval_related hR p a ho.left h.left) _
  | _ :: _ :: _ :: _, _, _ => hR.refl _

theorem evalAll_related (hR : CarriesOver R) (p : Origin) (i : Nat) {σ σ' : Scope} :
    (es : List Expr) → OrderedAlike order order' (haveSmallMaps es) →
      Related R (readsOfAll es) σ σ' →
      List.Forall₂ (R Value) (evalAll order p i σ es) (evalAll order' p i σ' es)
  | [], _, _ => .nil
  | e :: r, ho, h =>
    .cons (eval_related hR (i :: p) e ho.left h.left)
      (evalAll_related hR p (i + 1) r ho.right h.right)

theorem evalEntries_related (hR : CarriesOver R) (p : Origin) (i : Nat) {σ σ' : Scope}
    (done : List (Key × Value)) :
    (es : List (Expr × Expr)) → OrderedAlike order order' (entriesHaveSmallMaps es) →
      Related R (readsOfEntries es) σ σ' →
      R (List (Key × Value)) (evalEntries order p i σ done es) (evalEntries order' p i σ' done es)
  | [], _, _ => hR.refl _
  | (a, b) :: r, ho, h => by
    have hentry := evalEntry_related hR (i :: p) (a, b) ho.left h.left
    exact hR.bind hentry fun m =>
      evalEntries_related hR p (i + 1) (put m.1 m.2 done) r ho.right h.right

theorem evalEntry_related (hR : CarriesOver R) (p : Origin) {σ σ' : Scope} :
    (e : Expr × Expr) → OrderedAlike order order' (e.1.hasSmallMaps && e.2.hasSmallMaps) →
      Related R (e.1.reads ++ e.2.reads) σ σ' →
      R (Key × Value) (evalEntry order p σ e) (evalEntry order' p σ' e)
  | (a, b), ho, h => by
    have ha := eval_related hR (0 :: p) a ho.left h.left
    have hb := eval_related hR (1 :: p) b ho.right h.right
    have hkey := hR.bind ha fun v => hR.refl (keyOf v)
    exact hR.bind hkey fun k => hR.bind hb fun v => hR.refl _

end

end Related

end ConditionRegistry.Language
