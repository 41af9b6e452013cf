import ConditionRegistry.Bindings
import ConditionRegistry.Language.Stop

set_option autoImplicit false

/-!
# Engines

Whatever can read a text as a program and run a program on bindings. Running may break off without
an answer.
-/

namespace ConditionRegistry

export Language (Stop)

structure Engine where
  Program : Type
  parse : String → Except String Program
  run : Program → Bindings → Except (Stop String) Scalar

end ConditionRegistry
