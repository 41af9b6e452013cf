import ConditionRegistry.Text.Blank
import ConditionRegistry.Text.Category
import ConditionRegistry.Text.Property.Emoji
import ConditionRegistry.Text.Property.Format
import ConditionRegistry.Text.Property.Ideograph
import ConditionRegistry.Text.Property.Letter
import ConditionRegistry.Text.Property.Sign

set_option autoImplicit false

/-!
# Properties of characters

The properties that are made from general categories, with what they add to them.
-/

namespace ConditionRegistry.Text

def letterSet : Ranges := allOf Category.letters

def assigned : Ranges :=
  allOf (Category.letters ++ Category.marks ++ Category.numbers ++ Category.punctuation ++
    Category.symbols ++ Category.separators ++ [.control, .format, .privateUse])

def uppercase : Ranges := upperSet.union otherUpper

def smallLetters : Ranges := lowerSet.union otherLower

def cased : Ranges := (uppercase.union smallLetters).union titleRuns

def caseIgnorable : Ranges :=
  midWord.union (allOf [.nonspacing, .enclosing, .format, .modifierLetter, .modifierSymbol])

def alphabetic : Ranges := (letterSet.union letterNumberRuns).union otherAlphabetic

def wordSet : Ranges :=
  (alphabetic.union (allOf (Category.marks ++ [.decimal, .connector]))).union joiners

def mathematical : Ranges := mathRuns.union otherMath

def extending : Ranges := (allOf [.nonspacing, .enclosing]).union otherExtenders

def bases : Ranges :=
  (assigned.without (allOf [.control, .format, .privateUse, .line, .paragraph])).without extending

def nameStarts : Ranges :=
  ((letterSet.union letterNumberRuns).without [(0x2E2F, 0x2E2F)]).union otherNameStarts

def nameParts : Ranges :=
  (nameStarts.union (allOf [.nonspacing, .spacing, .decimal, .connector])).union otherNameParts

def isWordChar (c : Char) : Bool :=
  if c.toNat < 0x80 then c.isAlphanum || c == '_' else wordSet.has c

def isAlphanumeric (c : Char) : Bool :=
  if c.toNat < 0x80 then c.isAlphanum else alphabetic.has c || isOneOf Category.numbers c

end ConditionRegistry.Text
