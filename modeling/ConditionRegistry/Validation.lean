import ConditionRegistry.Engine
import ConditionRegistry.Fault
import ConditionRegistry.Guard.Operators
import ConditionRegistry.Guard.Parentheses
import ConditionRegistry.NormalForm

set_option autoImplicit false

/-!
# Validation

A condition is accepted if its normal form passes the guards and the engine can read it. The guards
come first, so that the engine never sees a text with deeply nested parentheses. The first check
that fails is the reason for the refusal.
-/

namespace ConditionRegistry
open Guard

inductive Refusal where
  /-- there is no text -/
  | missing
  /-- the normal form has no text -/
  | blank
  | loneOperator
  | loneAssignment
  | unbalanced
  | tooDeep
  /-- the engine cannot read the text -/
  | unreadable (detail : String)
  deriving DecidableEq, Repr

def Refusal.fault : Refusal → Fault
  | .missing => ⟨.invalidArgument, "Expression cannot be null or empty"⟩
  | .blank => ⟨.invalidArgument, "Expression cannot be null or empty."⟩
  | .loneOperator => ⟨.invalidSyntax, "Invalid operator or syntax found in expression."⟩
  | .loneAssignment =>
    ⟨.invalidSyntax, "Invalid operator '=' found. Use '==' for comparisons."⟩
  | .unbalanced => ⟨.invalidSyntax, "Unbalanced parentheses in expression."⟩
  | .tooDeep => ⟨.invalidSyntax, "Expression nesting is too deep (maximum 32 levels)."⟩
  | .unreadable detail => ⟨.invalidSyntax, "Invalid expression syntax: " ++ detail⟩

def refuseIf (b : Bool) (r : Refusal) : Except Refusal Unit := if b then .error r else .ok ()

/-- The normal form of a text that is not empty. It may be empty itself. -/
def normalize (raw : String) : Except Refusal String :=
  if raw.isEmpty then .error .missing else .ok (normalForm raw)

def checkOperators (text : String) : Except Refusal Unit :=
  refuseIf (hasLoneOperator text.toList) .loneOperator

def checkAssignment (text : String) : Except Refusal Unit :=
  refuseIf (hasLoneAssignment text.toList) .loneAssignment

def checkBalance (text : String) : Except Refusal Unit :=
  refuseIf (!isBalanced text.toList) .unbalanced

def checkDepth (text : String) : Except Refusal Unit := refuseIf (isTooDeep text.toList) .tooDeep

/-! ### What the engine is asked -/

/-- Checks that may give texts to an engine and go by whether it can read them. -/
inductive Examination (α : Type) where
  | done (a : α)
  | refuse (r : Refusal)
  | consult (text : String) (next : Except String Unit → Examination α)

namespace Examination
variable {α β : Type}

def bind : Examination α → (α → Examination β) → Examination β
  | .done a, f => f a
  | .refuse r, _ => .refuse r
  | .consult text next, f => .consult text fun reply => (next reply).bind f

instance : Monad Examination where
  pure := .done
  bind := bind

def ofExcept : Except Refusal α → Examination α
  | .ok a => .done a
  | .error r => .refuse r

instance : MonadLift (Except Refusal) Examination := ⟨ofExcept⟩

/-- The outcome with an engine, and the texts that the engine is given for it. -/
def run (E : Engine) : Examination α → Except Refusal α × List String
  | .done a => (.ok a, [])
  | .refuse r => (.error r, [])
  | .consult text next =>
    let (outcome, given) := (next ((E.parse text).map fun _ => ())).run E
    (outcome, text :: given)

end Examination

def examineSyntax (text : String) : Examination Unit :=
  .consult text fun reply => .ofExcept (reply.mapError .unreadable)

def examineNormal (text : String) : Examination Unit := do
  refuseIf text.isEmpty .blank
  checkOperators text
  checkAssignment text
  checkBalance text
  checkDepth text
  examineSyntax text

def examine (raw : String) : Examination Unit := do
  let text ← normalize raw
  examineNormal text

def checkSyntax (E : Engine) (text : String) : Except Refusal Unit :=
  ((examineSyntax text).run E).1

def checkNormal (E : Engine) (text : String) : Except Refusal Unit :=
  ((examineNormal text).run E).1

def check (E : Engine) (raw : String) : Except Refusal Unit := ((examine raw).run E).1

end ConditionRegistry
