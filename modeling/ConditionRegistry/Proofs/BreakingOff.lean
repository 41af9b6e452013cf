import ConditionRegistry.Language.Engine
import ConditionRegistry.Evaluation
import ConditionRegistry.Proofs.BreakingOff.Loops
import Mathlib.Control.Monad.Basic
import Mathlib.Logic.Relation

set_option autoImplicit false

/-!
# Where evaluations break off

An evaluation comes to the operands of an expression one after another, and to some of them only if
others have certain values. It breaks off exactly if it comes to an expression that breaks off by
itself: a message, a loop over what has no elements, or a call that breaks off on its values.
-/

open ConditionRegistry.Language

namespace ConditionRegistry.Language

structure Site where
  here : Origin
  scope : Scope
  expr : Expr

def Site.outcome (order : MapOrder) (s : Site) : Result := eval order s.here s.scope s.expr

/-- The operand that is evaluated before the others, which always happens. -/
def Expr.first? : Expr → Option Expr
  | .field e _ | .hasField e _ | .not e | .negate e | .binary _ e _ | .and e _ | .or e _
  | .choose e _ _ | .loop _ _ e _ | .mapWhere _ e _ _ => some e
  | _ => none

def Expr.second? : Expr → Value → Option (Nat × Expr)
  | .binary _ _ b, _ => some (1, b)
  | .and _ b, v => if v.isTruthy then some (1, b) else none
  | .or _ b, v => if v.isTruthy then none else some (1, b)
  | .choose _ a b, v => some (if v.isTruthy then (1, a) else (2, b))
  | _, _ => none

/-- The operand that a call meets before its function is looked up. -/
def meetsFirst? : List Expr → Option Expr
  | [a] | [a, _] => some a
  | _ => none

def Expr.isLoop : Expr → Bool
  | .loop _ _ _ _ | .mapWhere _ _ _ _ => true
  | _ => false

section Order
variable (order : MapOrder)

/-- The evaluation of an expression comes to that of one of its operands. -/
inductive Comes : Site → Site → Prop
  | first {p : Origin} {σ : Scope} {e d : Expr} (hd : e.first? = some d) :
    Comes ⟨p, σ, e⟩ ⟨0 :: p, σ, d⟩
  | second {p : Origin} {σ : Scope} {e d d' : Expr} {i : Nat} {v : Value}
      (hd : e.first? = some d) (hv : eval order (0 :: p) σ d = .ok v)
      (hs : e.second? v = some (i, d')) :
    Comes ⟨p, σ, e⟩ ⟨i :: p, σ, d'⟩
  | callFirst {p : Origin} {σ : Scope} {f : String} {args : List Expr} {d : Expr}
      (hd : meetsFirst? args = some d) : Comes ⟨p, σ, .call f args⟩ ⟨2 :: p, σ, d⟩
  | methodFirst {p : Origin} {σ : Scope} {t : Expr} {f : String} {args : List Expr} {d : Expr}
      (hd : meetsFirst? args = some d) : Comes ⟨p, σ, .method t f args⟩ ⟨3 :: p, σ, d⟩
  | target {p : Origin} {σ : Scope} {t : Expr} {f : String} {args : List Expr}
      (h : CallsTarget f (evalFirst order (3 :: p) σ args)) :
    Comes ⟨p, σ, .method t f args⟩ ⟨0 :: p, σ, t⟩
  | argument {p : Origin} {σ : Scope} {f : String} {args : List Expr} {i : Nat} {d : Expr}
      (hd : args[i]? = some d)
      (h : CallAsks f (evalFirst order (2 :: p) σ args) none (evalAll order p 0 σ args) i) :
    Comes ⟨p, σ, .call f args⟩ ⟨i :: p, σ, d⟩
  | methodArgument {p : Origin} {σ : Scope} {t : Expr} {f : String} {args : List Expr} {i : Nat}
      {d : Expr} (hd : args[i]? = some d)
      (h : CallAsks f (evalFirst order (3 :: p) σ args) (some (eval order (0 :: p) σ t))
        (evalAll order p 1 σ args) i) :
    Comes ⟨p, σ, .method t f args⟩ ⟨(1 + i) :: p, σ, d⟩
  | item {p : Origin} {σ : Scope} {items : List Expr} {i : Nat} {d : Expr}
      (hd : items[i]? = some d)
      (h : ∀ j < i, ∃ v, (evalAll order p 0 σ items)[j]? = some (.ok v)) :
    Comes ⟨p, σ, .list items⟩ ⟨i :: p, σ, d⟩
  | key {p : Origin} {σ : Scope} {before after : List (Expr × Expr)} {e : Expr × Expr}
      {done : List (Key × Value)} (h : evalEntries order p 0 σ [] before = .ok done) :
    Comes ⟨p, σ, .map (before ++ e :: after)⟩ ⟨0 :: before.length :: p, σ, e.1⟩
  | value {p : Origin} {σ : Scope} {before after : List (Expr × Expr)} {e : Expr × Expr}
      {done : List (Key × Value)} (h : evalEntries order p 0 σ [] before = .ok done) {v : Value}
      {k : Key}
      (hv : eval order (0 :: before.length :: p) σ e.1 = .ok v) (hk : v.key? = some k) :
    Comes ⟨p, σ, .map (before ++ e :: after)⟩ ⟨1 :: before.length :: p, σ, e.2⟩
  | turn {p : Origin} {σ : Scope} {k : LoopKind} {x : String} {range body : Expr} {v : Value}
      {ts : List Turn} {t : Turn} (hv : eval order (0 :: p) σ range = .ok v)
      (hts : turnsOf v = .ok ts)
      (ht : ComesTo (k.Passes fun t => eval order (t.2 :: 1 :: p) ((x, t.1) :: σ) body) ts t) :
    Comes ⟨p, σ, .loop k x range body⟩ ⟨t.2 :: 1 :: p, (x, t.1) :: σ, body⟩
  | conditionTurn {p : Origin} {σ : Scope} {x : String} {range condition body : Expr} {v : Value}
      {ts : List Turn} {t : Turn} (hv : eval order (0 :: p) σ range = .ok v)
      (hts : turnsOf v = .ok ts)
      (ht : ComesTo (MapPasses (fun t => eval order (t.2 :: 1 :: p) ((x, t.1) :: σ) condition)
        fun t => eval order (t.2 :: 2 :: p) ((x, t.1) :: σ) body) ts t) :
    Comes ⟨p, σ, .mapWhere x range condition body⟩ ⟨t.2 :: 1 :: p, (x, t.1) :: σ, condition⟩
  | bodyTurn {p : Origin} {σ : Scope} {x : String} {range condition body : Expr} {v : Value}
      {ts : List Turn} {t : Turn} (hv : eval order (0 :: p) σ range = .ok v)
      (hts : turnsOf v = .ok ts)
      (ht : ComesTo (MapPasses (fun t => eval order (t.2 :: 1 :: p) ((x, t.1) :: σ) condition)
        fun t => eval order (t.2 :: 2 :: p) ((x, t.1) :: σ) body) ts t)
      (hc : MapEnters (fun t => eval order (t.2 :: 1 :: p) ((x, t.1) :: σ) condition) t) :
    Comes ⟨p, σ, .mapWhere x range condition body⟩ ⟨t.2 :: 2 :: p, (x, t.1) :: σ, body⟩

/-- An expression that breaks off by itself. -/
inductive Site.IsFatal : Site → Prop
  | message {p : Origin} {σ : Scope} {name : String} {fields : List (String × Expr)} :
    IsFatal ⟨p, σ, .message name fields⟩
  | loop {p : Origin} {σ : Scope} {k : LoopKind} {x : String} {range body : Expr} {v : Value}
      (hv : eval order (0 :: p) σ range = .ok v) (hr : ¬ v.HasElements) :
    IsFatal ⟨p, σ, .loop k x range body⟩
  | mapWhere {p : Origin} {σ : Scope} {x : String} {range condition body : Expr} {v : Value}
      (hv : eval order (0 :: p) σ range = .ok v) (hr : ¬ v.HasElements) :
    IsFatal ⟨p, σ, .mapWhere x range condition body⟩
  | call {p : Origin} {σ : Scope} {f : String} {args : List Expr}
      (h : CallIsFatal f (evalFirst order (2 :: p) σ args) none (evalAll order p 0 σ args)) :
    IsFatal ⟨p, σ, .call f args⟩
  | method {p : Origin} {σ : Scope} {t : Expr} {f : String} {args : List Expr}
      (h : CallIsFatal f (evalFirst order (3 :: p) σ args) (some (eval order (0 :: p) σ t))
        (evalAll order p 1 σ args)) :
    IsFatal ⟨p, σ, .method t f args⟩

end Order

variable {order : MapOrder}

/-! ### Lists of operands -/

section Operands
variable {p : Origin} {σ : Scope}

theorem getElem?_evalAll (i j : Nat) (es : List Expr) :
    (evalAll order p i σ es)[j]? = es[j]?.map fun e => eval order ((i + j) :: p) σ e := by
  induction es generalizing i j with
  | nil => rfl
  | cons e r ih =>
    have hcons : evalAll order p i σ (e :: r) =
        eval order (i :: p) σ e :: evalAll order p (i + 1) σ r := rfl
    rw [hcons]
    cases j with
    | zero => rfl
    | succ j =>
      have hplace : i + 1 + j = i + (j + 1) := by omega
      rw [List.getElem?_cons_succ, ih, List.getElem?_cons_succ, hplace]

theorem getElem?_evalAll_eq_breaksOff_iff (i j : Nat) (es : List Expr) :
    (evalAll order p i σ es)[j]? = some breaksOff ↔
      ∃ d, es[j]? = some d ∧ eval order ((i + j) :: p) σ d = breaksOff := by
  rw [getElem?_evalAll, Option.map_eq_some_iff]

theorem evalEntries_cons (i : Nat) (done : List (Key × Value)) (e : Expr × Expr)
    (r : List (Expr × Expr)) :
    evalEntries order p i σ done (e :: r) =
      evalEntry order (i :: p) σ e >>= fun m =>
        evalEntries order p (i + 1) σ (put m.1 m.2 done) r := rfl

theorem evalEntries_eq_breaksOff_iff (i : Nat) (done : List (Key × Value))
    (es : List (Expr × Expr)) :
    evalEntries order p i σ done es = breaksOff ↔
      ∃ before e after made, es = before ++ e :: after ∧
        evalEntries order p i σ done before = .ok made ∧
        evalEntry order ((i + before.length) :: p) σ e = breaksOff := by
  induction es generalizing i done with
  | nil =>
    have hnil : evalEntries order p i σ done [] = .ok done := rfl
    simp [hnil]
  | cons e r ih =>
    have hplace : ∀ xs : List (Expr × Expr), i + 1 + xs.length = i + (e :: xs).length := by
      intro xs
      rw [List.length_cons]
      omega
    rw [evalEntries_cons, bind_eq_breaksOff_iff]
    constructor
    · rintro (he | ⟨m, he, hr⟩)
      · exact ⟨[], e, r, done, rfl, rfl, he⟩
      · obtain ⟨before, d, after, made, rfl, hmade, hd⟩ := (ih _ _).1 hr
        rw [hplace] at hd
        refine ⟨e :: before, d, after, made, rfl, ?_, hd⟩
        rw [evalEntries_cons, he]
        exact hmade
    · rintro ⟨before, d, after, made, hes, hmade, hd⟩
      cases before with
      | nil =>
        cases hes
        exact .inl hd
      | cons e' before =>
        cases hes
        rw [evalEntries_cons] at hmade
        cases he : evalEntry order (i :: p) σ e with
        | error s =>
          rw [he] at hmade
          cases hmade
        | ok m =>
          rw [he] at hmade
          rw [← hplace] at hd
          exact .inr ⟨m, rfl, (ih _ _).2 ⟨before, d, after, made, rfl, hmade, hd⟩⟩

theorem keyOf_eq_ok_iff (v : Value) (k : Key) : keyOf v = .ok k ↔ v.key? = some k := by
  unfold keyOf
  cases v.key? <;> simp [fails]

theorem evalEntry_eq_breaksOff_iff (e : Expr × Expr) :
    evalEntry order p σ e = breaksOff ↔ eval order (0 :: p) σ e.1 = breaksOff ∨
      ∃ v k, eval order (0 :: p) σ e.1 = .ok v ∧ v.key? = some k ∧
        eval order (1 :: p) σ e.2 = breaksOff := by
  obtain ⟨key, value⟩ := e
  have hentry : evalEntry order p σ (key, value) = eval order (0 :: p) σ key >>= keyOf >>= fun k =>
    eval order (1 :: p) σ value >>= fun v => .ok (k, v) := rfl
  have hvalue : ∀ k : Key, (eval order (1 :: p) σ value >>= fun v => .ok (k, v)) = breaksOff ↔
    eval order (1 :: p) σ value = breaksOff := fun k =>
      bind_eq_breaksOff_iff_left fun _ => ok_ne_breaksOff _
  rw [hentry, bind_eq_breaksOff_iff, bind_eq_breaksOff_iff_left keyOf_ne_breaksOff]
  refine or_congr_right ⟨?_, ?_⟩
  · rintro ⟨k, hk, h⟩
    cases hv : eval order (0 :: p) σ key with
    | error s =>
      rw [hv] at hk
      cases hk
    | ok v =>
      rw [hv] at hk
      exact ⟨v, k, rfl, (keyOf_eq_ok_iff v k).1 hk, (hvalue k).1 h⟩
  · rintro ⟨v, k, hv, hk, h⟩
    refine ⟨k, ?_, (hvalue k).2 h⟩
    rw [hv]
    exact (keyOf_eq_ok_iff v k).2 hk

end Operands

/-! ### Expressions of each kind -/

section Kinds
variable {p : Origin} {σ : Scope}

theorem exists_eval_eq_bind {e d : Expr} (hd : e.first? = some d) :
    ∃ next, eval order p σ e = eval order (0 :: p) σ d >>= next := by
  cases e <;> cases hd <;> exact ⟨_, rfl⟩

theorem operands_eq_breaksOff_iff {e d : Expr} (hd : e.first? = some d) (hloop : e.isLoop = false) :
    eval order p σ e = breaksOff ↔ eval order (0 :: p) σ d = breaksOff ∨
      ∃ v, eval order (0 :: p) σ d = .ok v ∧
        ∃ o, e.second? v = some o ∧ eval order (o.1 :: p) σ o.2 = breaksOff := by
  cases e with
  | field e n =>
    cases hd
    have heval : eval order p σ (.field d n) =
        eval order (0 :: p) σ d >>= fun v => fieldOf v n := rfl
    simp [heval, bind_eq_breaksOff_iff, fieldOf_ne_breaksOff, Expr.second?]
  | hasField e n =>
    cases hd
    have heval : eval order p σ (.hasField d n) =
      eval order (0 :: p) σ d >>= fun v => .ok (.bool (hasEntry v n)) := rfl
    simp [heval, bind_eq_breaksOff_iff, Expr.second?]
  | not e =>
    cases hd
    have heval : eval order p σ (.not d) =
      eval order (0 :: p) σ d >>= fun v => .ok (.bool (!v.isTruthy)) := rfl
    simp [heval, bind_eq_breaksOff_iff, Expr.second?]
  | negate e =>
    cases hd
    have heval : eval order p σ (.negate d) = eval order (0 :: p) σ d >>= negateValue := rfl
    simp [heval, bind_eq_breaksOff_iff, negateValue_ne_breaksOff, Expr.second?]
  | binary op a b =>
    cases hd
    have heval : eval order p σ (.binary op d b) = eval order (0 :: p) σ d >>= fun v =>
      eval order (1 :: p) σ b >>= fun w => op.apply p v w := rfl
    simp [heval, bind_eq_breaksOff_iff, BinaryOp.apply_ne_breaksOff, Expr.second?]
  | and a b =>
    cases hd
    have heval : eval order p σ (.and d b) = eval order (0 :: p) σ d >>= fun v =>
      if v.isTruthy then eval order (1 :: p) σ b >>= fun w => .ok (.bool w.isTruthy)
      else .ok (.bool false) := rfl
    rw [heval, bind_eq_breaksOff_iff]
    refine or_congr_right (exists_congr fun v => and_congr_right fun _ => ?_)
    cases ht : v.isTruthy <;> simp [Expr.second?, ht, bind_eq_breaksOff_iff]
  | or a b =>
    cases hd
    have heval : eval order p σ (.or d b) = eval order (0 :: p) σ d >>= fun v =>
      if v.isTruthy then .ok v else eval order (1 :: p) σ b := rfl
    rw [heval, bind_eq_breaksOff_iff]
    refine or_congr_right (exists_congr fun v => and_congr_right fun _ => ?_)
    cases ht : v.isTruthy <;> simp [Expr.second?, ht]
  | choose c a b =>
    cases hd
    have heval : eval order p σ (.choose d a b) = eval order (0 :: p) σ d >>= fun v =>
      if v.isTruthy then eval order (1 :: p) σ a else eval order (2 :: p) σ b := rfl
    rw [heval, bind_eq_breaksOff_iff]
    refine or_congr_right (exists_congr fun v => and_congr_right fun _ => ?_)
    cases ht : v.isTruthy <;> simp [Expr.second?, ht]
  | loop => cases hloop
  | mapWhere => cases hloop
  | _ => cases hd

theorem list_eq_breaksOff_iff (items : List Expr) :
    eval order p σ (.list items) = breaksOff ↔
      ∃ i d, items[i]? = some d ∧ eval order (i :: p) σ d = breaksOff ∧
        ∀ j < i, ∃ v, (evalAll order p 0 σ items)[j]? = some (.ok v) := by
  have heval : eval order p σ (.list items) =
    (evalAll order p 0 σ items).mapM id >>= fun vs => .ok (.list p vs) := rfl
  rw [heval, bind_eq_breaksOff_iff_left fun _ => ok_ne_breaksOff _, mapM_id_eq_breaksOff_iff]
  refine exists_congr fun i => ?_
  rw [getElem?_evalAll_eq_breaksOff_iff, Nat.zero_add]
  constructor
  · rintro ⟨⟨d, hd, hbroken⟩, hbefore⟩
    exact ⟨d, hd, hbroken, hbefore⟩
  · rintro ⟨d, hd, hbroken, hbefore⟩
    exact ⟨⟨d, hd, hbroken⟩, hbefore⟩

theorem map_eq_breaksOff_iff (es : List (Expr × Expr)) :
    eval order p σ (.map es) = breaksOff ↔
      ∃ before e after made, es = before ++ e :: after ∧
        evalEntries order p 0 σ [] before = .ok made ∧
        evalEntry order (before.length :: p) σ e = breaksOff := by
  have heval : eval order p σ (.map es) = evalEntries order p 0 σ [] es >>= fun made =>
    .ok (.map p (order.arrange p made)) := rfl
  rw [heval, bind_eq_breaksOff_iff_left fun _ => ok_ne_breaksOff _, evalEntries_eq_breaksOff_iff]
  simp only [Nat.zero_add]

theorem evalFirst_eq_breaksOff_iff (args : List Expr) :
    evalFirst order p σ args = breaksOff ↔
      ∃ d, meetsFirst? args = some d ∧ eval order p σ d = breaksOff := by
  have hmap : ∀ a : Result, a.map (fun _ => ()) = breaksOff ↔ a = breaksOff := by
    intro a
    cases a <;> simp [Except.map, breaksOff]
  obtain _ | ⟨a, _ | ⟨b, _ | ⟨d, r⟩⟩⟩ := args
  · simp [evalFirst, meetsFirst?]
  · simp [evalFirst, meetsFirst?, hmap]
  · simp [evalFirst, meetsFirst?, hmap]
  · simp [evalFirst, meetsFirst?]

theorem call_eq_breaksOff_iff (f : String) (args : List Expr) :
    eval order p σ (.call f args) = breaksOff ↔
      CallIsFatal f (evalFirst order (2 :: p) σ args) none (evalAll order p 0 σ args) ∨
        (∃ d, meetsFirst? args = some d ∧ eval order (2 :: p) σ d = breaksOff) ∨
        ∃ i d, args[i]? = some d ∧ eval order (i :: p) σ d = breaksOff ∧
          CallAsks f (evalFirst order (2 :: p) σ args) none (evalAll order p 0 σ args) i := by
  have heval : eval order p σ (.call f args) =
    callFunction f (evalFirst order (2 :: p) σ args) none (evalAll order p 0 σ args) := rfl
  rw [heval, callFunction_eq_breaksOff_iff, evalFirst_eq_breaksOff_iff]
  refine or_congr_right (or_congr_right ?_)
  constructor
  · rintro (⟨-, hnone⟩ | ⟨i, hi, hbroken⟩)
    · cases hnone
    · obtain ⟨d, hd, hbroken⟩ := (getElem?_evalAll_eq_breaksOff_iff 0 i args).1 hbroken
      rw [Nat.zero_add] at hbroken
      exact ⟨i, d, hd, hbroken, hi⟩
  · rintro ⟨i, d, hd, hbroken, hi⟩
    refine .inr ⟨i, hi, (getElem?_evalAll_eq_breaksOff_iff 0 i args).2 ⟨d, hd, ?_⟩⟩
    rwa [Nat.zero_add]

theorem method_eq_breaksOff_iff (t : Expr) (f : String) (args : List Expr) :
    eval order p σ (.method t f args) = breaksOff ↔
      CallIsFatal f (evalFirst order (3 :: p) σ args) (some (eval order (0 :: p) σ t))
          (evalAll order p 1 σ args) ∨
        (∃ d, meetsFirst? args = some d ∧ eval order (3 :: p) σ d = breaksOff) ∨
        (CallsTarget f (evalFirst order (3 :: p) σ args) ∧
          eval order (0 :: p) σ t = breaksOff) ∨
        ∃ i d, args[i]? = some d ∧ eval order ((1 + i) :: p) σ d = breaksOff ∧
          CallAsks f (evalFirst order (3 :: p) σ args) (some (eval order (0 :: p) σ t))
            (evalAll order p 1 σ args) i := by
  have heval : eval order p σ (.method t f args) =
    callFunction f (evalFirst order (3 :: p) σ args) (some (eval order (0 :: p) σ t))
      (evalAll order p 1 σ args) := rfl
  rw [heval, callFunction_eq_breaksOff_iff, Option.some_inj, evalFirst_eq_breaksOff_iff]
  refine or_congr_right (or_congr_right (or_congr_right (exists_congr fun i => ?_)))
  rw [getElem?_evalAll_eq_breaksOff_iff]
  constructor
  · rintro ⟨hi, d, hd, hbroken⟩
    exact ⟨d, hd, hbroken, hi⟩
  · rintro ⟨d, hd, hbroken, hi⟩
    exact ⟨hi, d, hd, hbroken⟩

theorem loop_eq_breaksOff_iff (k : LoopKind) (x : String) (range body : Expr) :
    eval order p σ (.loop k x range body) = breaksOff ↔ eval order (0 :: p) σ range = breaksOff ∨
      ∃ v, eval order (0 :: p) σ range = .ok v ∧ (¬ v.HasElements ∨
        ∃ ts, turnsOf v = .ok ts ∧
          ∃ t, ComesTo (k.Passes fun t => eval order (t.2 :: 1 :: p) ((x, t.1) :: σ) body) ts t ∧
            eval order (t.2 :: 1 :: p) ((x, t.1) :: σ) body = breaksOff) := by
  have heval : eval order p σ (.loop k x range body) = eval order (0 :: p) σ range >>= fun v =>
    turnsOf v >>= fun ts =>
      k.run p (fun t => eval order (t.2 :: 1 :: p) ((x, t.1) :: σ) body) ts := rfl
  simp only [heval, bind_eq_breaksOff_iff, turnsOf_eq_breaksOff_iff, LoopKind.run_eq_breaksOff_iff]

theorem mapWhere_eq_breaksOff_iff (x : String) (range condition body : Expr) :
    eval order p σ (.mapWhere x range condition body) = breaksOff ↔
      eval order (0 :: p) σ range = breaksOff ∨
      ∃ v, eval order (0 :: p) σ range = .ok v ∧ (¬ v.HasElements ∨
        ∃ ts, turnsOf v = .ok ts ∧
          ∃ t, ComesTo (MapPasses (fun t => eval order (t.2 :: 1 :: p) ((x, t.1) :: σ) condition)
              fun t => eval order (t.2 :: 2 :: p) ((x, t.1) :: σ) body) ts t ∧
            (eval order (t.2 :: 1 :: p) ((x, t.1) :: σ) condition = breaksOff ∨
              MapEnters (fun t => eval order (t.2 :: 1 :: p) ((x, t.1) :: σ) condition) t ∧
                eval order (t.2 :: 2 :: p) ((x, t.1) :: σ) body = breaksOff)) := by
  have heval : eval order p σ (.mapWhere x range condition body) =
    eval order (0 :: p) σ range >>= fun v =>
    turnsOf v >>= fun ts =>
      loopMap (fun t => eval order (t.2 :: 1 :: p) ((x, t.1) :: σ) condition)
        (fun t => eval order (t.2 :: 2 :: p) ((x, t.1) :: σ) body) ts >>= fun ws =>
          .ok (.list p ws) := rfl
  simp only [heval, bind_eq_breaksOff_iff, turnsOf_eq_breaksOff_iff, loopMap_eq_breaksOff_iff,
    ok_ne_breaksOff, and_false, exists_false, or_false]

end Kinds

/-! ### One step -/

section Step
variable {p : Origin} {σ : Scope}

theorem isLoop_of_second {e d : Expr} {i : Nat} {v : Value} (h : e.second? v = some (i, d)) :
    e.isLoop = false := by
  cases e with
  | loop => cases h
  | mapWhere => cases h
  | _ => rfl

theorem broken_of_comes {s d : Site} (h : Comes order s d) (hd : d.outcome order = breaksOff) :
    s.outcome order = breaksOff := by
  cases h with
  | first he =>
    obtain ⟨next, heval⟩ := exists_eval_eq_bind he
    rw [Site.outcome, heval]
    exact bind_eq_breaksOff_iff.2 (.inl hd)
  | second he hv hs =>
    exact (operands_eq_breaksOff_iff he (isLoop_of_second hs)).2 (.inr ⟨_, hv, _, hs, hd⟩)
  | callFirst he => exact (call_eq_breaksOff_iff _ _).2 (.inr (.inl ⟨_, he, hd⟩))
  | methodFirst he => exact (method_eq_breaksOff_iff _ _ _).2 (.inr (.inl ⟨_, he, hd⟩))
  | target h => exact (method_eq_breaksOff_iff _ _ _).2 (.inr (.inr (.inl ⟨h, hd⟩)))
  | argument he h => exact (call_eq_breaksOff_iff _ _).2 (.inr (.inr ⟨_, _, he, hd, h⟩))
  | methodArgument he h =>
    exact (method_eq_breaksOff_iff _ _ _).2 (.inr (.inr (.inr ⟨_, _, he, hd, h⟩)))
  | item he h => exact (list_eq_breaksOff_iff _).2 ⟨_, _, he, hd, h⟩
  | key h =>
    exact (map_eq_breaksOff_iff _).2
      ⟨_, _, _, _, rfl, h, (evalEntry_eq_breaksOff_iff _).2 (.inl hd)⟩
  | value h hv hk =>
    exact (map_eq_breaksOff_iff _).2
      ⟨_, _, _, _, rfl, h, (evalEntry_eq_breaksOff_iff _).2 (.inr ⟨_, _, hv, hk, hd⟩)⟩
  | turn hv hts ht =>
    exact (loop_eq_breaksOff_iff _ _ _ _).2 (.inr ⟨_, hv, .inr ⟨_, hts, _, ht, hd⟩⟩)
  | conditionTurn hv hts ht =>
    exact (mapWhere_eq_breaksOff_iff _ _ _ _).2
      (.inr ⟨_, hv, .inr ⟨_, hts, _, ht, .inl hd⟩⟩)
  | bodyTurn hv hts ht hc =>
    exact (mapWhere_eq_breaksOff_iff _ _ _ _).2
      (.inr ⟨_, hv, .inr ⟨_, hts, _, ht, .inr ⟨hc, hd⟩⟩⟩)

theorem broken_of_fatal {s : Site} (h : s.IsFatal order) : s.outcome order = breaksOff := by
  cases h with
  | message => rfl
  | loop hv hr => exact (loop_eq_breaksOff_iff _ _ _ _).2 (.inr ⟨_, hv, .inl hr⟩)
  | mapWhere hv hr => exact (mapWhere_eq_breaksOff_iff _ _ _ _).2 (.inr ⟨_, hv, .inl hr⟩)
  | call h => exact (call_eq_breaksOff_iff _ _).2 (.inl h)
  | method h => exact (method_eq_breaksOff_iff _ _ _).2 (.inl h)

/-- An expression breaks off by itself or where an operand does that its evaluation comes to. -/
def Site.Traced (order : MapOrder) (s : Site) : Prop :=
  s.IsFatal order ∨ ∃ d, Comes order s d ∧ d.outcome order = breaksOff

theorem traced_of_operands {e d : Expr} (hd : e.first? = some d) (hloop : e.isLoop = false)
    (h : eval order p σ e = breaksOff) : Site.Traced order ⟨p, σ, e⟩ := by
  obtain hfirst | ⟨v, hv, ⟨i, d'⟩, hs, hsecond⟩ := (operands_eq_breaksOff_iff hd hloop).1 h
  · exact .inr ⟨_, .first hd, hfirst⟩
  · exact .inr ⟨_, .second hd hv hs, hsecond⟩

theorem traced_of_broken {e : Expr} (h : eval order p σ e = breaksOff) :
    Site.Traced order ⟨p, σ, e⟩ := by
  cases e with
  | literal v => cases h
  | «variable» x =>
    have hlookup : lookupVariable σ x = breaksOff := h
    unfold lookupVariable at hlookup
    cases hx : σ.lookup x <;> simp [hx] at hlookup
  | field => exact traced_of_operands rfl rfl h
  | hasField => exact traced_of_operands rfl rfl h
  | not => exact traced_of_operands rfl rfl h
  | negate => exact traced_of_operands rfl rfl h
  | binary => exact traced_of_operands rfl rfl h
  | and => exact traced_of_operands rfl rfl h
  | or => exact traced_of_operands rfl rfl h
  | choose => exact traced_of_operands rfl rfl h
  | call f args =>
    obtain hfatal | ⟨d, hd, hbroken⟩ | ⟨i, d, hd, hbroken, hi⟩ :=
      (call_eq_breaksOff_iff f args).1 h
    · exact .inl (.call hfatal)
    · exact .inr ⟨_, .callFirst hd, hbroken⟩
    · exact .inr ⟨_, .argument hd hi, hbroken⟩
  | method t f args =>
    obtain hfatal | ⟨d, hd, hbroken⟩ | ⟨htarget, hbroken⟩ | ⟨i, d, hd, hbroken, hi⟩ :=
      (method_eq_breaksOff_iff t f args).1 h
    · exact .inl (.method hfatal)
    · exact .inr ⟨_, .methodFirst hd, hbroken⟩
    · exact .inr ⟨_, .target htarget, hbroken⟩
    · exact .inr ⟨_, .methodArgument hd hi, hbroken⟩
  | list items =>
    obtain ⟨i, d, hd, hbroken, hbefore⟩ := (list_eq_breaksOff_iff items).1 h
    exact .inr ⟨_, .item hd hbefore, hbroken⟩
  | map es =>
    obtain ⟨before, e, after, made, rfl, hmade, he⟩ := (map_eq_breaksOff_iff es).1 h
    obtain hkey | ⟨v, k, hv, hk, hvalue⟩ := (evalEntry_eq_breaksOff_iff e).1 he
    · exact .inr ⟨_, .key hmade, hkey⟩
    · exact .inr ⟨_, .value hmade hv hk, hvalue⟩
  | message name fields => exact .inl .message
  | loop k x range body =>
    obtain hrange | ⟨v, hv, hr | ⟨ts, hts, t, ht, hbroken⟩⟩ :=
      (loop_eq_breaksOff_iff k x range body).1 h
    · exact .inr ⟨_, .first rfl, hrange⟩
    · exact .inl (.loop hv hr)
    · exact .inr ⟨_, .turn hv hts ht, hbroken⟩
  | mapWhere x range condition body =>
    obtain hrange | ⟨v, hv, hr | ⟨ts, hts, t, ht, hbroken | ⟨hc, hbroken⟩⟩⟩ :=
      (mapWhere_eq_breaksOff_iff x range condition body).1 h
    · exact .inr ⟨_, .first rfl, hrange⟩
    · exact .inl (.mapWhere hv hr)
    · exact .inr ⟨_, .conditionTurn hv hts ht, hbroken⟩
    · exact .inr ⟨_, .bodyTurn hv hts ht hc, hbroken⟩

end Step

/-! ### The whole evaluation -/

theorem sizeOf_lt_of_first {e d : Expr} (h : e.first? = some d) : sizeOf d < sizeOf e := by
  cases e <;> cases h <;> simp <;> omega

theorem sizeOf_lt_of_second {e d : Expr} {i : Nat} {v : Value} (h : e.second? v = some (i, d)) :
    sizeOf d < sizeOf e := by
  cases e with
  | binary op a b =>
    cases h
    simp only [Expr.binary.sizeOf_spec]
    omega
  | and a b =>
    cases ht : v.isTruthy <;> simp [Expr.second?, ht] at h
    obtain ⟨-, rfl⟩ := h
    simp only [Expr.and.sizeOf_spec]
    omega
  | or a b =>
    cases ht : v.isTruthy <;> simp [Expr.second?, ht] at h
    obtain ⟨-, rfl⟩ := h
    simp only [Expr.or.sizeOf_spec]
    omega
  | choose c a b =>
    cases ht : v.isTruthy <;> simp [Expr.second?, ht] at h <;> obtain ⟨-, rfl⟩ := h <;>
      simp only [Expr.choose.sizeOf_spec] <;> omega
  | _ => cases h

theorem mem_of_meetsFirst {args : List Expr} {d : Expr} (h : meetsFirst? args = some d) :
    d ∈ args := by
  obtain _ | ⟨a, _ | ⟨b, _ | ⟨c, r⟩⟩⟩ := args <;> cases h <;> exact List.mem_cons_self

theorem sizeOf_lt_of_comes {s d : Site} (h : Comes order s d) : sizeOf d.expr < sizeOf s.expr := by
  have hentry : ∀ (before after : List (Expr × Expr)) (e : Expr × Expr),
      sizeOf e.1 < sizeOf (before ++ e :: after) ∧ sizeOf e.2 < sizeOf (before ++ e :: after) := by
    intro before after e
    have hmem : e ∈ before ++ e :: after := by simp
    have hlt := List.sizeOf_lt_of_mem hmem
    have he : sizeOf e = 1 + sizeOf e.1 + sizeOf e.2 := by
      cases e
      rfl
    omega
  cases h with
  | first hd => exact sizeOf_lt_of_first hd
  | second _ _ hs => exact sizeOf_lt_of_second hs
  | callFirst hd =>
    have hlt := List.sizeOf_lt_of_mem (mem_of_meetsFirst hd)
    simp only [Expr.call.sizeOf_spec]
    omega
  | methodFirst hd =>
    have hlt := List.sizeOf_lt_of_mem (mem_of_meetsFirst hd)
    simp only [Expr.method.sizeOf_spec]
    omega
  | target =>
    simp only [Expr.method.sizeOf_spec]
    omega
  | argument hd =>
    have hlt := List.sizeOf_lt_of_mem (List.mem_of_getElem? hd)
    simp only [Expr.call.sizeOf_spec]
    omega
  | methodArgument hd =>
    have hlt := List.sizeOf_lt_of_mem (List.mem_of_getElem? hd)
    simp only [Expr.method.sizeOf_spec]
    omega
  | item hd =>
    have hlt := List.sizeOf_lt_of_mem (List.mem_of_getElem? hd)
    simp only [Expr.list.sizeOf_spec]
    omega
  | @key p σ before after e =>
    have hlt := (hentry before after e).1
    simp only [Expr.map.sizeOf_spec]
    omega
  | @value p σ before after e =>
    have hlt := (hentry before after e).2
    simp only [Expr.map.sizeOf_spec]
    omega
  | turn =>
    simp only [Expr.loop.sizeOf_spec]
    omega
  | conditionTurn =>
    simp only [Expr.mapWhere.sizeOf_spec]
    omega
  | bodyTurn =>
    simp only [Expr.mapWhere.sizeOf_spec]
    omega

theorem comes_to_fatal {s : Site} (h : s.outcome order = breaksOff) :
    ∃ d, Relation.ReflTransGen (Comes order) s d ∧ d.IsFatal order := by
  obtain hfatal | ⟨d, hd, hbroken⟩ := traced_of_broken h
  · exact ⟨s, .refl, hfatal⟩
  · obtain ⟨d', hd', hfatal⟩ := comes_to_fatal hbroken
    exact ⟨d', .head hd hd', hfatal⟩
termination_by sizeOf s.expr
decreasing_by exact sizeOf_lt_of_comes hd

/-- An evaluation breaks off exactly if it comes to an expression that does so by itself. -/
theorem outcome_eq_breaksOff_iff (s : Site) :
    s.outcome order = breaksOff ↔
      ∃ d, Relation.ReflTransGen (Comes order) s d ∧ d.IsFatal order := by
  refine ⟨comes_to_fatal, ?_⟩
  rintro ⟨d, hd, hfatal⟩
  induction hd using Relation.ReflTransGen.head_induction_on with
  | refl => exact broken_of_fatal hfatal
  | head h _ ih => exact broken_of_comes h ih

theorem run_eq_broken_iff (e : Expr) (b : Bindings) :
    run order e b = .error .broken ↔ eval order [] (scopeOf b) e = breaksOff := by
  unfold run
  cases eval order [] (scopeOf b) e with
  | error s => cases s <;> simp [Stop.map, breaksOff]
  | ok v =>
    have hfault : ∀ s : Stop String, (scalarOfValue v).mapError Stop.fault = .error s →
        s ≠ .broken := by
      rintro s h rfl
      cases hs : scalarOfValue v <;> rw [hs] at h <;> cases h
    simp only [ok_ne_breaksOff, iff_false]
    exact fun h => hfault _ h rfl

end ConditionRegistry.Language

namespace ConditionRegistry

theorem truthOf_ne_broken (v : Scalar) : truthOf v ≠ .error .broken := by
  intro h
  cases v <;> cases h

theorem evaluate_eq_broken_iff {E : Engine} {text : String} {p : E.Program} {b : Bindings}
    (hp : E.parse text = .ok p) (hb : b.isEmpty = false) :
    evaluate E text b = .error .broken ↔ E.run p b = .error .broken := by
  simp only [evaluate, hb, hp, Bool.false_eq_true, if_false]
  cases E.run p b with
  | ok v => simp [truthOf_ne_broken]
  | error s => cases s <;> simp [refuse]

/-- A condition that can be read and has variables has a truth value, or its evaluation fails as
    such, or it breaks off. It breaks off exactly if the evaluation comes to a message, to a loop
    over what has no elements or to a call that breaks off on its values. -/
theorem evaluation_breaks_off_iff (order : MapOrder) {text : String} {e : Expr} {b : Bindings}
    (he : parseText text = .ok e) (hb : b.isEmpty = false) :
    ((∃ t, evaluate (engine order) text b = .ok t) ∨
        (∃ detail, evaluate (engine order) text b = .error (.fault ⟨.evaluation, detail⟩)) ∨
        evaluate (engine order) text b = .error .broken) ∧
      (evaluate (engine order) text b = .error .broken ↔
        ∃ s, Relation.ReflTransGen (Comes order) ⟨[], scopeOf b, e⟩ s ∧ s.IsFatal order) := by
  have hp : (engine order).parse text = .ok e := he
  refine ⟨?_, ?_⟩
  · cases h : evaluate (engine order) text b with
    | ok t => exact .inl ⟨t, rfl⟩
    | error s =>
      cases s with
      | broken => exact .inr (.inr rfl)
      | fault f =>
        obtain ⟨kind, detail⟩ := f
        cases kind_of_evaluate hp hb h
        exact .inr (.inl ⟨detail, rfl⟩)
  · rw [← outcome_eq_breaksOff_iff, Site.outcome, ← run_eq_broken_iff]
    exact evaluate_eq_broken_iff hp hb

def loopBehindTest : String := "x > 0 || x.all(y, y > 0)"

theorem evaluation_breaks_off_behindTest :
    ∃ e, parseText loopBehindTest = .ok e ∧
      evaluate engine loopBehindTest (.ofList [("x", .integer 1)]) = .ok true ∧
      (¬ ∃ s, Relation.ReflTransGen (Comes .inserted)
        ⟨[], scopeOf (.ofList [("x", .integer 1)]), e⟩ s ∧ s.IsFatal .inserted) ∧
      ∃ s, Relation.ReflTransGen (Comes .inserted)
        ⟨[], scopeOf (.ofList [("x", .integer 0)]), e⟩ s ∧ s.IsFatal .inserted := by
  have hok : (parseText loopBehindTest).isOk = true := by decide +kernel
  have htrue : evaluate engine loopBehindTest (.ofList [("x", .integer 1)]) = .ok true := by
    decide +kernel
  have hbroken : evaluate engine loopBehindTest (.ofList [("x", .integer 0)]) =
      .error .broken := by decide +kernel
  cases he : parseText loopBehindTest with
  | error detail =>
    rw [he] at hok
    cases hok
  | ok e =>
    have hone := (evaluation_breaks_off_iff .inserted he (b := .ofList [("x", .integer 1)]) rfl).2
    have hzero := (evaluation_breaks_off_iff .inserted he (b := .ofList [("x", .integer 0)]) rfl).2
    refine ⟨e, rfl, htrue, ?_, hzero.1 hbroken⟩
    rw [← hone, htrue]
    intro h
    cases h

/-- A condition that can be read, and a variable that it has, without any answer. -/
theorem loop_over_number_breaks_off :
    (parseText "x.all(y, y > 0)").isOk = true ∧
      (Bindings.ofList [("x", .integer 1)]).isEmpty = false ∧
      evaluate engine "x.all(y, y > 0)" (.ofList [("x", .integer 1)]) = .error .broken := by
  decide +kernel

end ConditionRegistry
