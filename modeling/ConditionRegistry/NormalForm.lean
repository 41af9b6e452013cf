import ConditionRegistry.Text.Blank

set_option autoImplicit false

/-!
# The normal form of conditions

The words `OR` and `AND` between spaces become operators, and white space at the ends is dropped.
A space belongs to one word only, so of two words with a single space between them the second stays.
-/

namespace ConditionRegistry
open Text

def replaceOr : List Char → List Char
  | ' ' :: 'O' :: 'R' :: ' ' :: r => ' ' :: '|' :: '|' :: ' ' :: replaceOr r
  | c :: r => c :: replaceOr r
  | [] => []

def replaceAnd : List Char → List Char
  | ' ' :: 'A' :: 'N' :: 'D' :: ' ' :: r => ' ' :: '&' :: '&' :: ' ' :: replaceAnd r
  | c :: r => c :: replaceAnd r
  | [] => []

def normalChars (s : List Char) : List Char := trim (replaceAnd (replaceOr s))

def normalForm (text : String) : String := String.ofList (normalChars text.toList)

end ConditionRegistry
