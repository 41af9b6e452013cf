import ConditionRegistry.Language.Literal
import ConditionRegistry.Language.Stop

set_option autoImplicit false

/-!
# Expressions
-/

namespace ConditionRegistry.Language

inductive Relation where
  | less | lessEqual | greaterEqual | greater | equal | notEqual | member
  deriving DecidableEq, Repr

inductive BinaryOp where
  | arithmetic (op : ArithmeticOp)
  | relation (r : Relation)
  | index
  deriving DecidableEq, Repr

inductive LoopKind where
  /-- whether all are truthy -/
  | all
  /-- the first that is truthy, or else the last -/
  | some
  /-- whether exactly one is truthy -/
  | one
  /-- the elements at which they are truthy -/
  | filter
  /-- all of them -/
  | map
  deriving DecidableEq, Repr

inductive Expr where
  | literal (v : Literal)
  | variable (name : String)
  | field (e : Expr) (name : String)
  | hasField (e : Expr) (name : String)
  | not (e : Expr)
  | negate (e : Expr)
  | binary (op : BinaryOp) (a b : Expr)
  | and (a b : Expr)
  | or (a b : Expr)
  | choose (c a b : Expr)
  | call (f : String) (args : List Expr)
  | method (target : Expr) (f : String) (args : List Expr)
  | list (items : List Expr)
  | map (entries : List (Expr × Expr))
  | message (name : String) (fields : List (String × Expr))
  | loop (kind : LoopKind) (var : String) (range body : Expr)
  /-- the values of the body at the elements at which the condition is truthy -/
  | mapWhere (var : String) (range condition body : Expr)
  deriving Repr

end ConditionRegistry.Language
