import ConditionRegistry.Language.Engine
import ConditionRegistry.Proofs.Grammar.Readings
import ConditionRegistry.Proofs.Meaning.Blanks
import ConditionRegistry.Proofs.Scopes.Evaluation

set_option autoImplicit false

/-!
# The names in a text

Every variable that the expression of a text reads is a name among the tokens of the text, and every
name among the tokens stands in the text as it is.
-/

namespace ConditionRegistry.Language

def Part.reads : Part → List String
  | .expr e => e.reads
  | .entry a b => a.reads ++ b.reads
  | .field _ e => e.reads

end ConditionRegistry.Language
