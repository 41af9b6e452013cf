import ConditionRegistry.Text.Ranges

set_option autoImplicit false

/-!
# What a script is

A script has characters of its own, and it is written with some that belong to no script or to
another one.
-/

namespace ConditionRegistry.Text

structure Script where
  names : List String
  own : Ranges
  shared : Ranges

def Script.used (s : Script) : Ranges := s.own.union s.shared

end ConditionRegistry.Text
