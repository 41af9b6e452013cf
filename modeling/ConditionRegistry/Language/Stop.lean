import ConditionRegistry.Language.Shown

set_option autoImplicit false

/-!
# When evaluation stops

An evaluation that has no value ends with a fault, which has a message, or is broken off.
-/

namespace ConditionRegistry.Language

inductive ArithmeticOp where
  | plus | minus | times | divide | modulo
  deriving DecidableEq, Repr

def ArithmeticOp.name : ArithmeticOp → String
  | .plus => "add"
  | .minus => "sub"
  | .times => "mul"
  | .divide => "div"
  | .modulo => "rem"

inductive Wanted where
  | string
  | timestamp
  deriving DecidableEq, Repr

def Wanted.name : Wanted → String
  | .string => "Arc<String>"
  | .timestamp => "chrono::DateTime<chrono::FixedOffset>"

inductive RunFault where
  | argumentCount (expected actual : Nat)
  | unusableKey (v : Value)
  | unexpectedType (v : Value) (want : Wanted)
  | noSuchKey (name : String)
  | undeclared (name : String)
  | missingTarget
  | incomparable (a b : Value)
  | unsupportedMinus (v : Value)
  | unsupported (op : ArithmeticOp) (a b : Value)
  | overflow (op : ArithmeticOp) (a b : Value)
  | divisionByZero (a : Value)
  | remainderByZero (a : Value)
  | mapIndex (v : Value)
  | listIndex (v : Value)
  | index (v i : Value)
  | inFunction (f : Builtin) (message : String)

def RunFault.message : RunFault → String
  | .argumentCount e a =>
    "Invalid argument count: expected " ++ intText e ++ ", got " ++ intText a
  | .unusableKey v => "Unable to use value '" ++ v.shown ++ "' as a key"
  | .unexpectedType v t => "Unexpected type: got '" ++ v.shown ++ "', want '" ++ t.name ++ "'"
  | .noSuchKey k => "No such key: " ++ k
  | .undeclared n => "Undeclared reference to '" ++ n ++ "'"
  | .missingTarget => "Missing argument or target"
  | .incomparable a b => a.shown ++ " can not be compared to " ++ b.shown
  | .unsupportedMinus v => "Unsupported unary operator 'minus': " ++ v.shown
  | .unsupported op a b =>
    "Unsupported binary operator '" ++ op.name ++ "': " ++ a.shown ++ ", " ++ b.shown
  | .overflow op a b =>
    "Overflow from binary operator '" ++ op.name ++ "': " ++ a.shown ++ ", " ++ b.shown
  | .divisionByZero a => "Division by zero of " ++ a.shown
  | .remainderByZero a => "Remainder by zero of " ++ a.shown
  | .mapIndex v => "Cannot use value as map index: " ++ v.shown
  | .listIndex v => "Cannot use value as list index: " ++ v.shown
  | .index v i => "Cannot use value " ++ v.shown ++ " to index " ++ i.shown
  | .inFunction f m => "Error executing function '" ++ f.name ++ "': " ++ m

inductive Stop (φ : Type) where
  | fault (f : φ)
  /-- there is no answer at all, not even a message -/
  | broken
  deriving DecidableEq, Repr

def Stop.map {φ ψ : Type} (g : φ → ψ) : Stop φ → Stop ψ
  | .fault f => .fault (g f)
  | .broken => .broken

abbrev Result := Except (Stop RunFault) Value

def fails {α : Type} (f : RunFault) : Except (Stop RunFault) α := .error (.fault f)

def breaksOff {α : Type} : Except (Stop RunFault) α := .error .broken

end ConditionRegistry.Language
