set_option autoImplicit false

/-!
# Media types

A media type is a type and a subtype with parameters after it. A body is JSON if its media type is
`application/json` or has the suffix `json`.
-/

namespace ConditionRegistry.Http

def isTokenChar (c : Char) : Bool :=
  c.isAlphanum || c == Char.ofNat 96 ||
    ['!', '#', '$', '%', '&', '\'', '*', '+', '-', '.', '^', '_', '|', '~'].contains c

inductive ParameterState where
  /-- before a name -/
  | start
  | name
  /-- after the equals sign -/
  | valueStart
  | value
  /-- after the opening quote, where a further quote is content -/
  | quoteStart
  | quoted
  | afterQuote
  deriving DecidableEq, Repr

def ParameterState.step (c : Char) : ParameterState → Option ParameterState
  | .start => if c == ' ' then some .start else if isTokenChar c then some .name else none
  | .name => if isTokenChar c then some .name else if c == '=' then some .valueStart else none
  | .valueStart =>
    if c == '"' then some .quoteStart else if isTokenChar c then some .value else none
  | .value => if isTokenChar c then some .value else if c == ';' then some .start else none
  | .quoteStart => if 0x1F < c.toNat && c.toNat < 0x7F then some .quoted else none
  | .quoted =>
    if c == '"' then some .afterQuote
    else if 0x1F < c.toNat && c.toNat < 0x7F then some .quoted
    else none
  | .afterQuote => if c == ';' then some .start else if c == ' ' then some .afterQuote else none

def ParameterState.isEnd : ParameterState → Bool
  | .start | .valueStart | .value | .afterQuote => true
  | .name | .quoteStart | .quoted => false

def ParameterState.accepts : ParameterState → List Char → Bool
  | p, [] => p.isEnd
  | p, c :: r =>
    match p.step c with
    | some q => q.accepts r
    | none => false

/-- A subtype is split at its last plus sign, except one at its front. -/
def splitSuffix (s : List Char) : List Char × Option (List Char) :=
  let suffix := (s.reverse.takeWhile (· != '+')).reverse
  let before := s.length - suffix.length
  if 1 < before then (s.take (before - 1), some suffix) else (s, none)

def jsonName : List Char := ['j', 's', 'o', 'n']

def isJsonSubtype (s : List Char) : Bool :=
  match splitSuffix (s.map Char.toLower) with
  | (main, some suffix) => main == jsonName || suffix == jsonName
  | (main, none) => main == jsonName

def isJsonMedia (s : List Char) : Bool :=
  let main := s.takeWhile isTokenChar
  match s.drop main.length with
  | '/' :: r =>
    let sub := r.takeWhile isTokenChar
    let wellFormed := match r.drop sub.length with
      | [] => true
      | c :: parameters => c == ';' && !sub.isEmpty && ParameterState.start.accepts parameters
    wellFormed && main.map Char.toLower == "application".toList && isJsonSubtype sub
  | _ => false

end ConditionRegistry.Http
