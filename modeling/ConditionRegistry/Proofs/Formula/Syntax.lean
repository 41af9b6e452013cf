import ConditionRegistry.Decimal.Integer
import ConditionRegistry.Language.Parser
import ConditionRegistry.Proofs.NormalForm

set_option autoImplicit false

/-!
# Formulas

A formula compares a variable with an integer, or joins two formulas in parentheses by a keyword.
It is read from the left: the second part of two counts only if the first does not decide, and the
first variable that has no value ends the reading.
-/

open ConditionRegistry.Language

namespace ConditionRegistry
open Decimal

def reservedWords : List (List Char) :=
  [['i', 'n'], ['t', 'r', 'u', 'e'], ['f', 'a', 'l', 's', 'e'], ['n', 'u', 'l', 'l']]

structure Identifier where
  chars : List Char
  starts : chars.head?.any isNameStart = true
  continues : chars.all isNameChar = true
  free : chars ∉ reservedWords

def Identifier.name (v : Identifier) : String := String.ofList v.chars

inductive Comparison where
  | less | lessEqual | greaterEqual | greater | equal | notEqual
  deriving DecidableEq, Repr

namespace Comparison

def sign : Comparison → List Char
  | .less => ['<']
  | .lessEqual => ['<', '=']
  | .greaterEqual => ['>', '=']
  | .greater => ['>']
  | .equal => ['=', '=']
  | .notEqual => ['!', '=']

def symbol : Comparison → Symbol
  | .less => .less
  | .lessEqual => .lessEqual
  | .greaterEqual => .greaterEqual
  | .greater => .greater
  | .equal => .equal
  | .notEqual => .notEqual

def relation : Comparison → Relation
  | .less => .less
  | .lessEqual => .lessEqual
  | .greaterEqual => .greaterEqual
  | .greater => .greater
  | .equal => .equal
  | .notEqual => .notEqual

def holds (a b : Int64) : Comparison → Bool
  | .less => decide (a < b)
  | .lessEqual => decide (a ≤ b)
  | .greaterEqual => decide (b ≤ a)
  | .greater => decide (b < a)
  | .equal => a == b
  | .notEqual => a != b

end Comparison

inductive Formula where
  | compare (v : Identifier) (op : Comparison) (n : Int64)
  | join (k : Keyword) (f g : Formula)

namespace Formula

/-- The text of a formula, with the keywords as `write` says. -/
def spelled (write : Keyword → List Char) : Formula → List Char
  | .compare v op n => v.chars ++ (' ' :: op.sign ++ ' ' :: integerText n.toInt)
  | .join k f g =>
    '(' :: spelled write f ++ (')' :: ' ' :: write k ++ ' ' :: '(' :: spelled write g ++ [')'])

def text (f : Formula) : String := String.ofList (f.spelled Keyword.word)

/-- How many parentheses are open at once, at most. -/
def depth : Formula → Nat
  | .compare _ _ _ => 0
  | .join _ f g => max f.depth g.depth + 1

/-- The truth value of a formula, or else the first variable that has no value. -/
def reading (value : String → Option Int64) : Formula → Except String Bool
  | .compare v op n =>
    match value v.name with
    | some m => .ok (op.holds m n)
    | none => .error v.name
  | .join .and f g => do
    if ← f.reading value then g.reading value else .ok false
  | .join .or f g => do
    if ← f.reading value then .ok true else g.reading value

end Formula

end ConditionRegistry
