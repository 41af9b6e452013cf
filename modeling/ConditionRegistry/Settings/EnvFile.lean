import ConditionRegistry.Entries
import ConditionRegistry.Text.Blank
import ConditionRegistry.Text.Property

set_option autoImplicit false

/-!
# Files of variables

Each line may give a variable a value; the value may name variables that have one. A variable that
has a value keeps it. Reading ends at the first line that is not well formed, and what was read
before counts.
-/

namespace ConditionRegistry.Settings
open Text

abbrev Variables := List (String × String)

def isKeyStart (c : Char) : Bool := c.isAlpha || c == '_'
def isKeyChar (c : Char) : Bool := c.isAlphanum || c == '_' || c == '.'

/-- Where a reader of a value is. `weak` holds within double quotes. -/
inductive ValueState where
  | plain (weak : Bool)
  /-- within single quotes -/
  | strong
  /-- after a backslash -/
  | escape (weak : Bool)
  /-- in the name of a variable, which may stand in braces -/
  | name (weak braced : Bool) (read : List Char)
  /-- after the value -/
  | ended
  deriving DecidableEq, Repr

def escaped? (c : Char) : Option Char :=
  if c == '\\' || c == '\'' || c == '"' || c == '$' || c == ' ' then some c
  else if c == 'n' then some '\n'
  else none

def valueOf (vars : Variables) (name : List Char) : List Char :=
  ((vars.lookup (String.ofList name)).getD "").toList

def value? (vars : Variables) : ValueState → List Char → Option (List Char)
  | .plain weak, [] => if weak then none else some []
  | .strong, [] => none
  | .escape weak, [] => if weak then none else some []
  | .name weak braced n, [] => if weak || braced then none else some (valueOf vars n)
  | .ended, [] => some []
  | .plain weak, c :: r =>
    if c == '$' then value? vars (.name weak false []) r
    else if c == '\\' then value? vars (.escape weak) r
    else if c == '"' then value? vars (.plain (!weak)) r
    else if c == '\'' && !weak then value? vars .strong r
    else if (c == ' ' || c == '\t') && !weak then value? vars .ended r
    else (value? vars (.plain weak) r).map (c :: ·)
  | .strong, c :: r =>
    if c == '\'' then value? vars (.plain false) r else (value? vars .strong r).map (c :: ·)
  | .escape weak, c :: r =>
    match escaped? c with
    | some d => (value? vars (.plain weak) r).map (d :: ·)
    | none => none
  | .name weak true n, c :: r =>
    if c == Char.ofNat 0x7D then (value? vars (.plain weak) r).map (valueOf vars n ++ ·)
    else value? vars (.name weak true (n ++ [c])) r
  | .name weak false n, c :: r =>
    if isAlphanumeric c then value? vars (.name weak false (n ++ [c])) r
    else if c == Char.ofNat 0x7B && n.isEmpty then value? vars (.name weak true []) r
    else if c == '$' then (value? vars (.name weak false []) r).map (valueOf vars n ++ ·)
    else (value? vars (.plain weak) r).map fun v => valueOf vars n ++ c :: v
  | .ended, c :: r =>
    if c == ' ' || c == '\t' then value? vars .ended r
    else if c == '#' then some []
    else none

def key? (s : List Char) : Option (String × List Char) :=
  match s with
  | c :: _ =>
    if isKeyStart c then
      let k := s.takeWhile isKeyChar
      some (String.ofList k, trimStart (s.drop k.length))
    else none
  | [] => none

def afterEquals? : List Char → Option (List Char)
  | '=' :: r => some (trimStart r)
  | _ => none

/-- Key and value of a line. The word `export` may stand before the key; it may be a key itself. -/
def assignment? (s : List Char) : Option (String × List Char) :=
  match key? s with
  | none => none
  | some (k, r) =>
    match afterEquals? r with
    | some v => some (k, v)
    | none =>
      if k = "export" then
        match key? r with
        | some (k', r') => (afterEquals? r').map fun v => (k', v)
        | none => none
      else none

def isSkipped (s : List Char) : Bool := s.isEmpty || s.head? == some '#'

def line? (vars : Variables) (line : List Char) : Option (Option (String × String)) :=
  let s := trimStart (trimEnd line)
  if isSkipped s then some none
  else
    match assignment? s with
    | none => none
    | some (k, v) =>
      if isSkipped v then some (some (k, ""))
      else (value? vars (.plain false) v).map fun w => some (k, String.ofList w)

def linesOf (s : List Char) : List (List Char) := s.splitOn '\n'

def load : List (List Char) → Variables → Variables
  | [], vars => vars
  | l :: r, vars =>
    match line? vars l with
    | none => vars
    | some none => load r vars
    | some (some (k, v)) => load r (if (vars.lookup k).isSome then vars else put k v vars)

end ConditionRegistry.Settings
