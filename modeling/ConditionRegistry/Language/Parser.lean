import ConditionRegistry.Language.Expr

set_option autoImplicit false

/-!
# Parsing

A parser takes tokens from the front. Every level of the grammar is a parser that is given the
parser of whole expressions; the expression parser ties the knot, and its `fuel` bounds how deep
expressions stand within each other. A nested expression takes at least one token, so the number of
tokens is fuel enough.
-/

namespace ConditionRegistry.Language

abbrev Parser (α : Type) := List Token → Option (α × List Token)

def symbol (s : Symbol) : Parser Unit
  | .symbol t :: r => if s = t then some ((), r) else none
  | _ => none

def name : Parser String
  | .name n :: r => some (n, r)
  | _ => none

def fieldName : Parser String
  | .name n :: r => some (n, r)
  | .escaped n :: r => some (n, r)
  | _ => none

/-- At least one item, with the separator between items. Where no item follows a separator, that
    separator is left where it is. -/
def separated {α : Type} (sep : Symbol) (item : Parser α) : Nat → Parser (List α)
  | 0, _ => none
  | fuel + 1, ts =>
    match item ts with
    | none => none
    | some (a, r) =>
      match symbol sep r with
      | none => some ([a], r)
      | some (_, r') =>
        match separated sep item fuel r' with
        | none => some ([a], r)
        | some (as, r'') => some (a :: as, r'')

def arguments {α : Type} (item : Parser α) (close : Symbol) (fuel : Nat) : Parser (List α) :=
  fun ts =>
    match symbol close ts with
    | some (_, r) => some ([], r)
    | none =>
      match separated .comma item fuel ts with
      | none => none
      | some (as, r) => (symbol close r).map fun p => (as, p.2)

/-- Items as above, after which one more comma may stand, even if there are none. -/
def elements {α : Type} (item : Parser α) (close : Symbol) (fuel : Nat) : Parser (List α) :=
  fun ts =>
    let (as, r) := (separated .comma item fuel ts).getD ([], ts)
    let r := match symbol .comma r with
      | some (_, r') => r'
      | none => r
    (symbol close r).map fun p => (as, p.2)

def pair {α β : Type} (first : Parser α) (second : Parser β) : Parser (α × β) := fun ts =>
  match first ts with
  | none => none
  | some (a, r) =>
    match symbol .colon r with
    | none => none
    | some (_, r') => (second r').map fun p => ((a, p.1), p.2)

/-- A call, or the test whether there is a field. The test of a test is that test. -/
def globalCall (f : String) (args : List Expr) : Option Expr :=
  match args with
  | [a] =>
    if f = "has" then
      match a with
      | .field e n => some (.hasField e n)
      | .hasField e n => some (.hasField e n)
      | _ => none
    else some (.call f args)
  | _ => some (.call f args)

def loopKind? (f : String) : Option LoopKind :=
  if f = "all" then some .all
  else if f = "exists" then some .some
  else if f = "exists_one" ∨ f = "existsOne" then some .one
  else if f = "filter" then some .filter
  else if f = "map" then some .map
  else none

/-- A call on a target, or a loop over it. A loop takes a plain name to be its variable. -/
def methodCall (target : Expr) (f : String) (args : List Expr) : Option Expr :=
  match loopKind? f, args with
  | some k, [v, body] =>
    match v with
    | .variable x => some (.loop k x target body)
    | _ => none
  | some .map, [v, condition, body] =>
    match v with
    | .variable x => some (.mapWhere x target condition body)
    | _ => none
  | _, _ => some (.method target f args)

def messageName : Nat → Parser String
  | 0, _ => none
  | fuel + 1, ts =>
    match name ts with
    | none => none
    | some (n, r) =>
      match r with
      | .symbol .openBrace :: r' => some (n, r')
      | .symbol .dot :: r' => (messageName fuel r').map fun p => (n ++ "." ++ p.1, p.2)
      | _ => none

def named (expr : Parser Expr) (fuel : Nat) (dotted : Bool) : Parser Expr := fun ts =>
  match messageName fuel ts with
  | some (n, r) =>
    (elements (pair fieldName expr) .closeBrace fuel r).map fun p => (.message n p.1, p.2)
  | none =>
    match ts with
    | .name n :: .symbol .openParen :: r =>
      match arguments expr .closeParen fuel r with
      | none => none
      | some (args, r') =>
        if dotted then some (.call ("." ++ n) args, r')
        else (globalCall n args).map fun e => (e, r')
    | .name n :: r => some (.variable n, r)
    | _ => none

def constant (v : Option Literal) (r : List Token) : Option (Expr × List Token) :=
  v.map fun v => (.literal v, r)

def primary (expr : Parser Expr) (fuel : Nat) : Parser Expr
  | .symbol .dot :: r => named expr fuel true r
  | .symbol .openParen :: r =>
    match expr r with
    | some (e, r') => (symbol .closeParen r').map fun p => (e, p.2)
    | none => none
  | .symbol .openBracket :: r =>
    (elements expr .closeBracket fuel r).map fun p => (.list p.1, p.2)
  | .symbol .openBrace :: r =>
    (elements (pair expr expr) .closeBrace fuel r).map fun p => (.map p.1, p.2)
  | .symbol .true :: r => constant (some (.bool true)) r
  | .symbol .false :: r => constant (some (.bool false)) r
  | .symbol .null :: r => constant (some .null) r
  | .integer t :: r => constant (integerLiteral? false t) r
  | .unsigned t :: r => constant (unsignedLiteral? t) r
  | .float t :: r => constant (floatLiteral? false t) r
  | .string t :: r => constant (stringLiteral? t) r
  | .bytes t :: r => constant (bytesLiteral? t) r
  | ts => named expr fuel false ts

def postfixes (expr : Parser Expr) : Nat → Expr → Parser Expr
  | 0, e, ts => some (e, ts)
  | fuel + 1, e, ts =>
    match ts with
    | .symbol .dot :: .name n :: .symbol .openParen :: r =>
      match arguments expr .closeParen fuel r with
      | none => none
      | some (args, r') =>
        match methodCall e n args with
        | none => none
        | some e' => postfixes expr fuel e' r'
    | .symbol .dot :: r =>
      match fieldName r with
      | none => none
      | some (n, r') => postfixes expr fuel (.field e n) r'
    | .symbol .openBracket :: r =>
      match expr r with
      | none => none
      | some (i, r') =>
        match symbol .closeBracket r' with
        | none => none
        | some (_, r'') => postfixes expr fuel (.binary .index e i) r''
    | _ => some (e, ts)

def member (expr : Parser Expr) (fuel : Nat) : Parser Expr := fun ts =>
  match primary expr fuel ts with
  | none => none
  | some (e, r) => postfixes expr fuel e r

/-- Signs of one kind before a member, however many they are, count once. -/
def signed (s : Symbol) (wrap : Expr → Expr) (inner : Parser Expr) : Parser Expr := fun ts =>
  (inner (ts.dropWhile (· == .symbol s))).map fun p => (wrap p.1, p.2)

/-- A minus sign at the front belongs to a number that follows it. -/
def unary (expr : Parser Expr) (fuel : Nat) : Parser Expr
  | .symbol .minus :: .integer t :: r =>
    match integerLiteral? true t with
    | none => none
    | some v => postfixes expr fuel (.literal v) r
  | .symbol .minus :: .float t :: r =>
    match floatLiteral? true t with
    | none => none
    | some v => postfixes expr fuel (.literal v) r
  | .symbol .minus :: r => signed .minus .negate (member expr fuel) r
  | .symbol .not :: r => signed .not .not (operand expr fuel) r
  | ts => member expr fuel ts
where
  /-- After a negation a minus sign can only belong to a number. -/
  operand (expr : Parser Expr) (fuel : Nat) : Parser Expr
    | .symbol .minus :: .integer t :: r =>
      match integerLiteral? true t with
      | none => none
      | some v => postfixes expr fuel (.literal v) r
    | .symbol .minus :: .float t :: r =>
      match floatLiteral? true t with
      | none => none
      | some v => postfixes expr fuel (.literal v) r
    | ts => member expr fuel ts

def leftChain (op? : Token → Option BinaryOp) (operand : Parser Expr) : Nat → Expr → Parser Expr
  | 0, e, ts => some (e, ts)
  | fuel + 1, e, ts =>
    match ts with
    | [] => some (e, [])
    | t :: r =>
      match op? t with
      | none => some (e, ts)
      | some op =>
        match operand r with
        | none => none
        | some (b, r') => leftChain op? operand fuel (.binary op e b) r'

def leftAssociative (op? : Token → Option BinaryOp) (operand : Parser Expr) (fuel : Nat) :
    Parser Expr := fun ts =>
  match operand ts with
  | none => none
  | some (e, r) => leftChain op? operand fuel e r

def productOp? : Token → Option BinaryOp
  | .symbol .times => some (.arithmetic .times)
  | .symbol .divide => some (.arithmetic .divide)
  | .symbol .modulo => some (.arithmetic .modulo)
  | _ => none

def sumOp? : Token → Option BinaryOp
  | .symbol .plus => some (.arithmetic .plus)
  | .symbol .minus => some (.arithmetic .minus)
  | _ => none

def relationOp? : Token → Option BinaryOp
  | .symbol .less => some (.relation .less)
  | .symbol .lessEqual => some (.relation .lessEqual)
  | .symbol .greaterEqual => some (.relation .greaterEqual)
  | .symbol .greater => some (.relation .greater)
  | .symbol .equal => some (.relation .equal)
  | .symbol .notEqual => some (.relation .notEqual)
  | .symbol .member => some (.relation .member)
  | _ => none

def product (expr : Parser Expr) (fuel : Nat) : Parser Expr :=
  leftAssociative productOp? (unary expr fuel) fuel

def sum (expr : Parser Expr) (fuel : Nat) : Parser Expr :=
  leftAssociative sumOp? (product expr fuel) fuel

def relation (expr : Parser Expr) (fuel : Nat) : Parser Expr :=
  leftAssociative relationOp? (sum expr fuel) fuel

/-- Operands joined from the right; the outcome does not depend on how they are grouped. -/
def joinedBy (s : Symbol) (join : Expr → Expr → Expr) (operand : Parser Expr) : Nat → Parser Expr
  | 0, _ => none
  | fuel + 1, ts =>
    match operand ts with
    | none => none
    | some (e, r) =>
      match symbol s r with
      | none => some (e, r)
      | some (_, r') =>
        (joinedBy s join operand fuel r').map fun p => (join e p.1, p.2)

def conjunction (expr : Parser Expr) (fuel : Nat) : Parser Expr :=
  joinedBy .and .and (relation expr fuel) fuel

def disjunction (expr : Parser Expr) (fuel : Nat) : Parser Expr :=
  joinedBy .or .or (conjunction expr fuel) fuel

def choice (expr : Parser Expr) (fuel : Nat) : Parser Expr := fun ts =>
  match disjunction expr fuel ts with
  | none => none
  | some (c, r) =>
    match symbol .question r with
    | none => some (c, r)
    | some (_, r') =>
      (pair (disjunction expr fuel) expr r').map fun p => (.choose c p.1.1 p.1.2, p.2)

def expression : Nat → Parser Expr
  | 0, _ => none
  | fuel + 1, ts => choice (expression fuel) (fuel + 1) ts

def parse? (s : List Char) : Option Expr :=
  match tokens? s with
  | none => none
  | some ts =>
    match expression (ts.length + 1) ts with
    | some (e, []) => some e
    | _ => none

end ConditionRegistry.Language
