set_option autoImplicit false

/-!
# Faults

What goes wrong, as it is told to the caller.
-/

namespace ConditionRegistry

inductive FaultKind where
  | invalidArgument
  | invalidSyntax
  | evaluation
  | notFound
  | storage
  | internal
  | json
  | other
  deriving DecidableEq, Repr

structure Fault where
  kind : FaultKind
  /-- the message, or the id that was not found -/
  detail : String
  deriving DecidableEq, Repr

def FaultKind.preface : FaultKind → String
  | .invalidArgument | .invalidSyntax | .other => ""
  | .evaluation => "Error during expression evaluation: "
  | .notFound => "Expression not found for ID: "
  | .storage => "Storage error: "
  | .internal => "Internal error: "
  | .json => "JSON serialization error: "

def Fault.text (f : Fault) : String := f.kind.preface ++ f.detail

end ConditionRegistry
