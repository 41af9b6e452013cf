import ConditionRegistry.Text.Script.African
import ConditionRegistry.Text.Script.American
import ConditionRegistry.Text.Script.EastAsian
import ConditionRegistry.Text.Script.European
import ConditionRegistry.Text.Script.MiddleEastern
import ConditionRegistry.Text.Script.Shared
import ConditionRegistry.Text.Script.SouthAsian
import ConditionRegistry.Text.Script.SoutheastAsian

set_option autoImplicit false

/-!
# Scripts

The scripts of the character database. What belongs to no script, or to that of the character
before it, counts as two more scripts; they lose those characters of which it is known which
scripts they are written in.
-/

namespace ConditionRegistry.Text

def writtenScripts : List Script :=
  europeanScripts ++ middleEasternScripts ++ southAsianScripts ++ southeastAsianScripts ++
    eastAsianScripts ++ africanScripts ++ americanScripts

/-- The characters with a script of their own that are written in others too, and those with none
    of which it is known in which scripts they are written. -/
def writtenInOthers : Ranges := writtenScripts.foldr (fun s a => s.shared.union a) []

def scriptNamed? (isName : String → Bool) : Option Script :=
  (writtenScripts ++ sharedScripts).find? fun s => s.names.any isName

def charactersOf? (isName : String → Bool) : Option Ranges :=
  match writtenScripts.find? fun s => s.names.any isName with
  | some s => some s.used
  | none => (sharedScripts.find? fun s => s.names.any isName).map (·.own.without writtenInOthers)

end ConditionRegistry.Text
