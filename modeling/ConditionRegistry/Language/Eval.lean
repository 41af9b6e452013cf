import ConditionRegistry.Entries
import ConditionRegistry.Language.Function

set_option autoImplicit false

/-!
# Evaluation

Operands are evaluated from the left, and the first that has no value decides the outcome. Loops and
the connectives go by whether values are truthy, so they can have values that are not Boolean.

Two things are assumed of the machine. Nothing is known of the seed of its hash tables, so the order
in which each map gives its entries is a parameter. And it has as much stack as an expression needs:
an evaluation breaks off where the interpreter does, never for its depth.
-/

namespace ConditionRegistry.Language

/-- The values of variables, the innermost first. -/
abbrev Scope := List (String × Value)

def Literal.value : Literal → Value
  | .int n => .int n
  | .uint n => .uint n
  | .float x => .float x
  | .string s => .string s
  | .bytes bs => .bytes bs
  | .bool b => .bool b
  | .null => .null

def lookupVariable (scope : Scope) (x : String) : Result :=
  match scope.lookup x with
  | some v => .ok v
  | none => fails (.undeclared x)

def keyOf (v : Value) : Except (Stop RunFault) Key :=
  match v.key? with
  | some k => .ok k
  | none => fails (.unusableKey v)

/-- The elements that a loop runs over. Other values have none, and a loop over them breaks off. -/
def rangeOf : Value → Except (Stop RunFault) (List Value)
  | .list _ vs => .ok vs
  | .map _ es => .ok (es.map fun e => e.1.value)
  | _ => breaksOff

/-! ### Loops -/

/-- A turn of a loop: an element and its place in the range. -/
abbrev Turn := Value × Nat

def turnsOf (v : Value) : Except (Stop RunFault) (List Turn) := do
  let vs ← rangeOf v
  .ok vs.zipIdx

def loopAll (body : Turn → Result) : List Turn → Result
  | [] => .ok (.bool true)
  | t :: r => do
    let w ← body t
    if w.isTruthy then loopAll body r else .ok (.bool false)

/-- `last` is the value at the element before. -/
def loopSome (body : Turn → Result) : Value → List Turn → Result
  | last, [] => .ok last
  | _, t :: r => do
    let w ← body t
    if w.isTruthy then .ok w else loopSome body w r

def loopCount (body : Turn → Result) : Nat → List Turn → Except (Stop RunFault) Nat
  | n, [] => .ok n
  | n, t :: r => do
    let w ← body t
    loopCount body (if w.isTruthy then n + 1 else n) r

def loopFilter (body : Turn → Result) : List Turn → Except (Stop RunFault) (List Value)
  | [] => .ok []
  | t :: r => do
    let w ← body t
    let rest ← loopFilter body r
    .ok (if w.isTruthy then t.1 :: rest else rest)

def loopMap (condition body : Turn → Result) : List Turn → Except (Stop RunFault) (List Value)
  | [] => .ok []
  | t :: r => do
    let c ← condition t
    if c.isTruthy then
      let w ← body t
      let rest ← loopMap condition body r
      .ok (w :: rest)
    else loopMap condition body r

def always (_ : Turn) : Result := .ok (.bool true)

def LoopKind.run (k : LoopKind) (here : Origin) (body : Turn → Result) (ts : List Turn) : Result :=
  match k with
  | .all => loopAll body ts
  | .some => loopSome body (.bool false) ts
  | .one => do
    let n ← loopCount body 0 ts
    .ok (.bool (n == 1))
  | .filter => do
    let ws ← loopFilter body ts
    .ok (.list here ws)
  | .map => do
    let ws ← loopMap always body ts
    .ok (.list here ws)

/-! ### Calls -/

/-- `first` is what a call comes to before its function is looked up. -/
def callFunction (f : String) (first : Except (Stop RunFault) Unit) (target : Option Result)
    (args : List Result) : Result := do
  first
  match Builtin.named? f with
  | none => fails (.undeclared f)
  | some b =>
    match target with
    | none => b.apply ⟨none, args⟩
    | some t => do
      let v ← t
      b.apply ⟨some v, args⟩

/-! ### Expressions -/

section Expressions
variable (order : MapOrder)

mutual

/-- `here` is the place of the expression, and the origin of a list or map that it makes. -/
def eval (here : Origin) (scope : Scope) : Expr → Result
  | .literal v => .ok v.value
  | .variable x => lookupVariable scope x
  | .field e n => do
    let v ← eval (0 :: here) scope e
    fieldOf v n
  | .hasField e n => do
    let v ← eval (0 :: here) scope e
    .ok (.bool (hasEntry v n))
  | .not e => do
    let v ← eval (0 :: here) scope e
    .ok (.bool (!v.isTruthy))
  | .negate e => do
    let v ← eval (0 :: here) scope e
    negateValue v
  | .binary op a b => do
    let v ← eval (0 :: here) scope a
    let w ← eval (1 :: here) scope b
    op.apply here v w
  | .and a b => do
    let v ← eval (0 :: here) scope a
    if v.isTruthy then
      let w ← eval (1 :: here) scope b
      .ok (.bool w.isTruthy)
    else .ok (.bool false)
  | .or a b => do
    let v ← eval (0 :: here) scope a
    if v.isTruthy then .ok v else eval (1 :: here) scope b
  | .choose c a b => do
    let v ← eval (0 :: here) scope c
    if v.isTruthy then eval (1 :: here) scope a else eval (2 :: here) scope b
  | .call f args =>
    callFunction f (evalFirst (2 :: here) scope args) none (evalAll here 0 scope args)
  | .method t f args =>
    callFunction f (evalFirst (3 :: here) scope args) (some (eval (0 :: here) scope t))
      (evalAll here 1 scope args)
  | .list items => do
    let vs ← (evalAll here 0 scope items).mapM id
    .ok (.list here vs)
  | .map entries => do
    let es ← evalEntries here 0 scope [] entries
    .ok (.map here (order.arrange here es))
  | .message _ _ => breaksOff
  | .loop k x range body => do
    let r ← eval (0 :: here) scope range
    let ts ← turnsOf r
    k.run here (fun t => eval (t.2 :: 1 :: here) ((x, t.1) :: scope) body) ts
  | .mapWhere x range condition body => do
    let r ← eval (0 :: here) scope range
    let ts ← turnsOf r
    let ws ← loopMap (fun t => eval (t.2 :: 1 :: here) ((x, t.1) :: scope) condition)
      (fun t => eval (t.2 :: 2 :: here) ((x, t.1) :: scope) body) ts
    .ok (.list here ws)

/-- Where a call has one or two arguments, the first of them must have a value before the function
    is looked up. The function evaluates it once more, so it is met here at a place of its own. -/
def evalFirst (here : Origin) (scope : Scope) : List Expr → Except (Stop RunFault) Unit
  | [a] => (eval here scope a).map fun _ => ()
  | [a, _] => (eval here scope a).map fun _ => ()
  | _ => .ok ()

/-- The outcomes of all of a list of operands; `i` is the number of those before. -/
def evalAll (here : Origin) (i : Nat) (scope : Scope) : List Expr → List Result
  | [] => []
  | e :: r => eval (i :: here) scope e :: evalAll here (i + 1) scope r

/-- `i` is the number of entries before, and `done` the map that they make up. -/
def evalEntries (here : Origin) (i : Nat) (scope : Scope) (done : List (Key × Value)) :
    List (Expr × Expr) → Except (Stop RunFault) (List (Key × Value))
  | [] => .ok done
  | e :: r => do
    let (k, v) ← evalEntry (i :: here) scope e
    evalEntries here (i + 1) scope (put k v done) r

def evalEntry (here : Origin) (scope : Scope) :
    Expr × Expr → Except (Stop RunFault) (Key × Value)
  | (key, value) => do
    let k ← eval (0 :: here) scope key >>= keyOf
    let v ← eval (1 :: here) scope value
    .ok (k, v)

end

end Expressions

end ConditionRegistry.Language
