import ConditionRegistry.Text.Age
import ConditionRegistry.Text.Folding
import ConditionRegistry.Text.Script

set_option autoImplicit false

/-!
# Named sets of characters

Sets have the names of properties, general categories and scripts, and short forms of these names.
-/

namespace ConditionRegistry.Pattern
open Text

def asciiDigit : Ranges := [(0x30, 0x39)]
def asciiUpper : Ranges := [(0x41, 0x5A)]
def asciiLowerCase : Ranges := [(0x61, 0x7A)]
def asciiWord : Ranges := [(0x30, 0x39), (0x41, 0x5A), (0x5F, 0x5F), (0x61, 0x7A)]
def asciiSpace : Ranges := [(0x09, 0x0D), (0x20, 0x20)]

def posixSet? (name : String) : Option Ranges :=
  [("alnum", [(0x30, 0x39), (0x41, 0x5A), (0x61, 0x7A)]),
   ("alpha", [(0x41, 0x5A), (0x61, 0x7A)]),
   ("ascii", [(0, 0x7F)]),
   ("blank", [(0x09, 0x09), (0x20, 0x20)]),
   ("cntrl", [(0, 0x1F), (0x7F, 0x7F)]),
   ("digit", asciiDigit),
   ("graph", [(0x21, 0x7E)]),
   ("lower", asciiLowerCase),
   ("print", [(0x20, 0x7E)]),
   ("punct", [(0x21, 0x2F), (0x3A, 0x40), (0x5B, 0x60), (0x7B, 0x7E)]),
   ("space", asciiSpace),
   ("upper", asciiUpper),
   ("word", asciiWord),
   ("xdigit", [(0x30, 0x39), (0x41, 0x46), (0x61, 0x66)])].lookup name

/-- Case, spaces, hyphens, underscores and a leading `is` do not count in names. -/
def looseName (s : List Char) : String :=
  let counts (c : Char) : Bool := !(c == ' ' || c == '-' || c == '_') && c.toNat < 0x80
  let plain (s : List Char) : List Char := (s.filter counts).map Char.toLower
  match s with
  | a :: b :: r =>
    if a.toLower == 'i' && b.toLower == 's' then
      if plain r == ['c'] then "isc" else String.ofList (plain r)
    else String.ofList (plain s)
  | _ => String.ofList (plain s)

/-! ### General categories -/

def categoryNames : List (String × List Category) :=
  [("l", Category.letters), ("letter", Category.letters),
   ("lu", [.upper]), ("uppercaseletter", [.upper]),
   ("ll", [.lower]), ("lowercaseletter", [.lower]),
   ("lt", [.title]), ("titlecaseletter", [.title]),
   ("lc", [.upper, .lower, .title]), ("casedletter", [.upper, .lower, .title]),
   ("lm", [.modifierLetter]), ("modifierletter", [.modifierLetter]),
   ("lo", [.otherLetter]), ("otherletter", [.otherLetter]),
   ("m", Category.marks), ("mark", Category.marks), ("combiningmark", Category.marks),
   ("mn", [.nonspacing]), ("nonspacingmark", [.nonspacing]),
   ("mc", [.spacing]), ("spacingmark", [.spacing]),
   ("me", [.enclosing]), ("enclosingmark", [.enclosing]),
   ("n", Category.numbers), ("number", Category.numbers),
   ("nd", [.decimal]), ("decimalnumber", [.decimal]), ("digit", [.decimal]),
   ("nl", [.letterNumber]), ("letternumber", [.letterNumber]),
   ("no", [.otherNumber]), ("othernumber", [.otherNumber]),
   ("p", Category.punctuation), ("punctuation", Category.punctuation),
   ("punct", Category.punctuation),
   ("pc", [.connector]), ("connectorpunctuation", [.connector]),
   ("pd", [.dash]), ("dashpunctuation", [.dash]),
   ("ps", [.openBracket]), ("openpunctuation", [.openBracket]),
   ("pe", [.closeBracket]), ("closepunctuation", [.closeBracket]),
   ("pi", [.initialQuote]), ("initialpunctuation", [.initialQuote]),
   ("pf", [.finalQuote]), ("finalpunctuation", [.finalQuote]),
   ("po", [.otherPunctuation]), ("otherpunctuation", [.otherPunctuation]),
   ("s", Category.symbols), ("symbol", Category.symbols),
   ("sm", [.math]), ("mathsymbol", [.math]),
   ("sc", [.currency]), ("currencysymbol", [.currency]),
   ("sk", [.modifierSymbol]), ("modifiersymbol", [.modifierSymbol]),
   ("so", [.otherSymbol]), ("othersymbol", [.otherSymbol]),
   ("z", Category.separators), ("separator", Category.separators),
   ("zs", [.space]), ("spaceseparator", [.space]),
   ("zl", [.line]), ("lineseparator", [.line]),
   ("zp", [.paragraph]), ("paragraphseparator", [.paragraph]),
   ("cc", [.control]), ("control", [.control]), ("cntrl", [.control]),
   ("cf", [.format]), ("format", [.format]),
   ("co", [.privateUse]), ("privateuse", [.privateUse])]

/-- Sets of categories that are what is left over by others. -/
def leftOver? (name : String) : Option Ranges :=
  match name with
  | "any" => some [(0, lastCodePoint)]
  | "ascii" => some [(0, 0x7F)]
  | "assigned" => some assigned
  | "cn" | "unassigned" => some assigned.complement
  | "c" | "other" => some (assigned.complement.union (allOf [.control, .format, .privateUse]))
  | _ => none

def categorySet? (name : String) : Option Ranges :=
  (categoryNames.lookup name).map allOf <|> leftOver? name

/-! ### Properties -/

def letterPropertyNames : List (List String × Ranges) :=
  [(["alphabetic", "alpha"], alphabetic),
   (["otheralphabetic", "oalpha"], otherAlphabetic),
   (["uppercase", "upper"], uppercase),
   (["otheruppercase", "oupper"], otherUpper),
   (["lowercase", "lower"], smallLetters),
   (["otherlowercase", "olower"], otherLower),
   (["cased"], cased),
   (["caseignorable", "ci"], caseIgnorable),
   (["changeswhenlowercased", "cwl"], changedByLowering),
   (["changeswhenuppercased", "cwu"], changedByRaising),
   (["changeswhentitlecased", "cwt"], changedByTitling),
   (["changeswhencasemapped", "cwcm"],
    (changedByLowering.union changedByRaising).union changedByTitling),
   (["changeswhencasefolded", "cwcf"], changedByFolding),
   (["changeswhennfkccasefolded", "cwkcf"], changedByFolding.union compatible),
   (["softdotted", "sd"], softDotted),
   (["idstart", "ids"], nameStarts),
   (["otheridstart", "oids"], otherNameStarts),
   (["idcontinue", "idc"], nameParts),
   (["otheridcontinue", "oidc"], otherNameParts),
   (["xidstart", "xids"], nameStarts.without uncomposedStarts),
   (["xidcontinue", "xidc"], nameParts.without uncomposedParts),
   (["idcompatmathstart"], mathNameStarts),
   (["idcompatmathcontinue"], mathNameStarts.union raisedNameParts),
   (["ideographic", "ideo"], ideographs),
   (["unifiedideograph", "uideo"], unifiedIdeographs),
   (["radical"], radicals),
   (["idsunaryoperator", "idsu"], unaryDescriptions),
   (["idsbinaryoperator", "idsb"], binaryDescriptions),
   (["idstrinaryoperator", "idst"], ternaryDescriptions)]

def signPropertyNames : List (List String × Ranges) :=
  [(["whitespace", "wspace", "space"], blankRanges),
   (["dash"], dashSigns),
   (["hyphen"], hyphens),
   (["quotationmark", "qmark"], quotationMarks),
   (["sentenceterminal", "sterm"], sentenceEnds),
   (["terminalpunctuation", "term"], terminalSigns),
   (["diacritic", "dia"], diacritics),
   (["extender", "ext"], extenders),
   (["math"], mathematical),
   (["othermath", "omath"], otherMath),
   (["bidimirrored", "bidim"], mirrored),
   (["patternsyntax", "patsyn"], patternSigns),
   (["patternwhitespace", "patws"], patternBlanks),
   (["asciihexdigit", "ahex"], asciiHexDigits),
   (["hexdigit", "hex"], hexDigits),
   (["emoji"], pictures),
   (["emojicomponent", "ecomp"], pictureParts),
   (["emojimodifier", "emod"], pictureModifiers),
   (["emojimodifierbase", "ebase"], pictureBases),
   (["emojipresentation", "epres"], shownPictures),
   (["extendedpictographic", "extpict"], pictographs),
   (["regionalindicator", "ri"], flagLetters)]

def formatPropertyNames : List (List String × Ranges) :=
  [(["graphemebase", "grbase"], bases),
   (["graphemeextend", "grext"], extending),
   (["othergraphemeextend", "ogrext"], otherExtenders),
   (["graphemelink", "grlink"], graphemeLinks),
   (["prependedconcatenationmark", "pcm"], leadingMarks),
   (["modifiercombiningmark", "mcm"], modifierMarks),
   (["logicalorderexception", "loe"], reorderedVowels),
   (["joincontrol", "joinc"], joiners),
   (["bidicontrol", "bidic"], directionControls),
   (["variationselector", "vs"], variationSelectors),
   (["defaultignorablecodepoint", "di"], ignorable),
   (["otherdefaultignorablecodepoint", "odi"], otherIgnorable),
   (["deprecated", "dep"], deprecated),
   (["noncharactercodepoint", "nchar"], noncharacters)]

def propertySet? (name : String) : Option Ranges :=
  ((letterPropertyNames ++ signPropertyNames ++ formatPropertyNames).find? fun p =>
    p.1.contains name).map (·.2)

/-! ### Scripts and ages -/

def isLooseName (name written : String) : Bool := looseName written.toList == name

def scriptSet? (name : String) : Option Ranges := (scriptNamed? (isLooseName name)).map (·.own)

def addedUpTo? (isName : String → Bool) : List (String × Ranges) → Option Ranges
  | [] => none
  | a :: r => if isName a.1 then some a.2 else (addedUpTo? isName r).map a.2.union

/-- A version may also be written without its point and with a `v` in front. -/
def isVersion (name written : String) : Bool :=
  written == name || ('v' :: written.toList.filter Char.isDigit) == name.toList

/-! ### Names in patterns -/

def namedAlone? (name : String) : Option Ranges :=
  propertySet? name <|> categorySet? name <|> scriptSet? name

def valueSet? (property value : List Char) : Option Ranges :=
  let v := looseName value
  match looseName property with
  | "gc" | "generalcategory" => categorySet? v
  | "sc" | "script" => scriptSet? v
  | "scx" | "scriptextensions" => charactersOf? (isLooseName v)
  | "age" => addedUpTo? (isVersion v) ages
  | _ => none

def splitAt? (part : List Char) : List Char → Option (List Char × List Char)
  | [] => none
  | c :: r =>
    if part.isPrefixOf (c :: r) then some ([], (c :: r).drop part.length)
    else (splitAt? part r).map fun p => (c :: p.1, p.2)

/-- All three signs between a property and its value mean that the property has the value. -/
def namedSet? (s : List Char) : Option Ranges :=
  match splitAt? ['!', '='] s <|> splitAt? [':'] s <|> splitAt? ['='] s with
  | some (n, v) => valueSet? n v
  | none => namedAlone? (looseName s)

end ConditionRegistry.Pattern
