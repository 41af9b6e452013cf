import ConditionRegistry.Text.Category.Letter
import ConditionRegistry.Text.Category.Mark
import ConditionRegistry.Text.Category.Number
import ConditionRegistry.Text.Category.Punctuation
import ConditionRegistry.Text.Category.Sign

set_option autoImplicit false

/-!
# General categories

The kind of each character.
-/

namespace ConditionRegistry.Text

inductive Category where
  | upper | lower | title | modifierLetter | otherLetter
  | nonspacing | spacing | enclosing
  | decimal | letterNumber | otherNumber
  | connector | dash | openBracket | closeBracket | initialQuote | finalQuote | otherPunctuation
  | math | currency | modifierSymbol | otherSymbol
  | space | line | paragraph
  | control | format | privateUse
  deriving DecidableEq, Repr

/-- In an alternating run the capitals stand at even distances from its start. -/
def upperSet : Ranges := upperRuns.union (alternatingRuns.everyOther 0)
def lowerSet : Ranges := lowerRuns.union (alternatingRuns.everyOther 1)

def Category.runs : Category → Ranges
  | .upper => upperSet
  | .lower => lowerSet
  | .title => titleRuns
  | .modifierLetter => modifierLetterRuns
  | .otherLetter => otherLetterRuns
  | .nonspacing => nonspacingRuns
  | .spacing => spacingRuns
  | .enclosing => enclosingRuns
  | .decimal => decimalRuns
  | .letterNumber => letterNumberRuns
  | .otherNumber => otherNumberRuns
  | .connector => connectorRuns
  | .dash => dashRuns
  | .openBracket => openRuns
  | .closeBracket => closeRuns
  | .initialQuote => initialQuoteRuns
  | .finalQuote => finalQuoteRuns
  | .otherPunctuation => otherPunctuationRuns
  | .math => mathRuns
  | .currency => currencyRuns
  | .modifierSymbol => modifierSymbolRuns
  | .otherSymbol => otherSymbolRuns
  | .space => spaceRuns
  | .line => lineRuns
  | .paragraph => paragraphRuns
  | .control => controlRuns
  | .format => formatRuns
  | .privateUse => privateRuns

def Category.has (k : Category) (c : Char) : Bool := k.runs.has c

def Category.letters : List Category := [.upper, .lower, .title, .modifierLetter, .otherLetter]
def Category.marks : List Category := [.nonspacing, .spacing, .enclosing]
def Category.numbers : List Category := [.decimal, .letterNumber, .otherNumber]
def Category.punctuation : List Category :=
  [.connector, .dash, .openBracket, .closeBracket, .initialQuote, .finalQuote, .otherPunctuation]
def Category.symbols : List Category := [.math, .currency, .modifierSymbol, .otherSymbol]
def Category.separators : List Category := [.space, .line, .paragraph]

def isOneOf (ks : List Category) (c : Char) : Bool := ks.any (·.has c)

def allOf (ks : List Category) : Ranges := ks.foldr (fun k a => k.runs.union a) []

def isAssigned (c : Char) : Bool :=
  isOneOf (Category.letters ++ Category.marks ++ Category.numbers ++ Category.punctuation ++
    Category.symbols ++ Category.separators ++ [.control, .format]) c

end ConditionRegistry.Text
