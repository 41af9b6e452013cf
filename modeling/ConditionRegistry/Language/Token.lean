set_option autoImplicit false

/-!
# Tokens

A condition is cut into tokens from the left, each as long as it can be. Literals are kept as they
are written; their values are read later.
-/

namespace ConditionRegistry.Language

inductive Symbol where
  | less | lessEqual | greaterEqual | greater | equal | notEqual | member
  | times | divide | modulo | plus | minus | not | and | or
  | question | colon | dot | comma
  | openParen | closeParen | openBracket | closeBracket | openBrace | closeBrace
  | true | false | null
  deriving DecidableEq, Repr

inductive Token where
  | name (text : String)
  /-- a field name between backticks, which belong to it -/
  | escaped (text : String)
  | integer (text : List Char)
  /-- without its suffix -/
  | unsigned (text : List Char)
  | float (text : List Char)
  /-- with prefix and quotes -/
  | string (text : List Char)
  | bytes (text : List Char)
  | symbol (s : Symbol)
  deriving DecidableEq, Repr

/-- A sub-lexer that finds a token tells how many characters it takes. -/
abbrev Lexeme := Token × Nat

def isSpace (c : Char) : Bool :=
  c == ' ' || c == '\t' || c == '\n' || c == '\r' || c == Char.ofNat 12

def isNameStart (c : Char) : Bool := c.isAlpha || c == '_'
def isNameChar (c : Char) : Bool := c.isAlphanum || c == '_'
def isEscapedChar (c : Char) : Bool := isNameChar c || c == '.' || c == '-' || c == '/' || c == ' '

def isHexDigit (c : Char) : Bool :=
  c.isDigit || ('a' ≤ c && c ≤ 'f') || ('A' ≤ c && c ≤ 'F')

def isOctalDigit (c : Char) : Bool := '0' ≤ c && c ≤ '7'

def escapeLength? : List Char → Option Nat
  | [] => none
  | c :: r =>
    let digits (n : Nat) : Option Nat :=
      if (r.take n).length = n ∧ (r.take n).all isHexDigit then some (n + 1) else none
    if c == Char.ofNat 96 ||
        ['a', 'b', 'f', 'n', 'r', 't', 'v', '"', '\'', '\\', '?'].contains c then some 1
    else if c == 'x' || c == 'X' then digits 2
    else if c == 'u' then digits 4
    else if c == 'U' then digits 8
    else if '0' ≤ c && c ≤ '3' then
      if (r.take 2).length = 2 ∧ (r.take 2).all isOctalDigit then some 3 else none
    else none

structure Quoting where
  mark : Char
  triple : Bool
  raw : Bool
  deriving DecidableEq, Repr

def Quoting.width (q : Quoting) : Nat := if q.triple then 3 else 1

def Quoting.closes (q : Quoting) (s : List Char) : Bool :=
  (List.replicate q.width q.mark).isPrefixOf s

def Quoting.unit? (q : Quoting) (c : Char) (r : List Char) : Option Nat :=
  if !q.raw && c == '\\' then escapeLength? r
  else if !q.triple && (c == '\n' || c == '\r') then none
  else some 0

/-- Characters before the closing marks. The first `skip` of them belong to an escape. -/
def Quoting.bodyLength? (q : Quoting) : Nat → List Char → Option Nat
  | _, [] => none
  | skip + 1, _ :: r => (bodyLength? q skip r).map (· + 1)
  | 0, c :: r =>
    if q.closes (c :: r) then some 0
    else
      match q.unit? c r with
      | none => none
      | some k => (bodyLength? q k r).map (· + 1)

def stringLength? (raw : Bool) (s : List Char) : Option Nat :=
  match s with
  | [] => none
  | c :: _ =>
    if c == '"' || c == '\'' then
      let q : Quoting := ⟨c, (List.replicate 3 c).isPrefixOf s, raw⟩
      (q.bodyLength? 0 (s.drop q.width)).map (· + 2 * q.width)
    else none

def prefixedLength? : List Char → Option Nat
  | c :: r =>
    if c == 'r' || c == 'R' then (stringLength? true r).map (· + 1)
    else stringLength? false (c :: r)
  | [] => none

def string? (s : List Char) : Option Lexeme :=
  match s with
  | c :: r =>
    if c == 'b' || c == 'B' then (prefixedLength? r).map fun n => (.bytes (s.take (n + 1)), n + 1)
    else (prefixedLength? s).map fun n => (.string (s.take n), n)
  | [] => none

def word (w : List Char) : Token :=
  let s := String.ofList w
  if s == "in" then .symbol .member
  else if s == "true" then .symbol .true
  else if s == "false" then .symbol .false
  else if s == "null" then .symbol .null
  else .name s

def word? (s : List Char) : Option Lexeme :=
  match s with
  | c :: _ =>
    if isNameStart c then let w := s.takeWhile isNameChar; some (word w, w.length) else none
  | [] => none

def digitCount (s : List Char) : Nat := (s.takeWhile Char.isDigit).length

def exponentLength (s : List Char) : Nat :=
  match s with
  | c :: r =>
    if c == 'e' || c == 'E' then
      let sign := match r with
        | d :: _ => if d == '+' || d == '-' then 1 else 0
        | [] => 0
      match digitCount (r.drop sign) with
      | 0 => 0
      | n => 1 + sign + n
    else 0
  | [] => 0

def fractionLength (s : List Char) : Nat :=
  match s with
  | '.' :: r => match digitCount r with
    | 0 => 0
    | n => n + 1
  | _ => 0

def suffixed (s : List Char) (n : Nat) : Lexeme :=
  match s.drop n with
  | c :: _ =>
    if c == 'u' || c == 'U' then (.unsigned (s.take n), n + 1) else (.integer (s.take n), n)
  | [] => (.integer (s.take n), n)

def hexadecimalLength (s : List Char) : Nat :=
  match s with
  | '0' :: 'x' :: r => match (r.takeWhile isHexDigit).length with
    | 0 => 0
    | n => n + 2
  | _ => 0

def number? (s : List Char) : Option Lexeme :=
  let whole := digitCount s
  let fraction := fractionLength (s.drop whole)
  let n := whole + fraction + exponentLength (s.drop (whole + fraction))
  if whole + fraction = 0 then none
  else if whole < n then some (.float (s.take n), n)
  else if hexadecimalLength s = 0 then some (suffixed s whole)
  else some (suffixed s (hexadecimalLength s))

def escaped? (s : List Char) : Option Lexeme :=
  match s with
  | c :: r =>
    let body := r.takeWhile isEscapedChar
    let closed := (r.drop body.length).head? == some (Char.ofNat 96)
    if c == Char.ofNat 96 && !body.isEmpty && closed then
      some (.escaped (String.ofList (s.take (body.length + 2))), body.length + 2)
    else none
  | [] => none

def symbol? : List Char → Option (Symbol × Nat)
  | '<' :: '=' :: _ => some (.lessEqual, 2)
  | '>' :: '=' :: _ => some (.greaterEqual, 2)
  | '=' :: '=' :: _ => some (.equal, 2)
  | '!' :: '=' :: _ => some (.notEqual, 2)
  | '&' :: '&' :: _ => some (.and, 2)
  | '|' :: '|' :: _ => some (.or, 2)
  | '<' :: _ => some (.less, 1)
  | '>' :: _ => some (.greater, 1)
  | '!' :: _ => some (.not, 1)
  | '*' :: _ => some (.times, 1)
  | '/' :: _ => some (.divide, 1)
  | '%' :: _ => some (.modulo, 1)
  | '+' :: _ => some (.plus, 1)
  | '-' :: _ => some (.minus, 1)
  | '?' :: _ => some (.question, 1)
  | ':' :: _ => some (.colon, 1)
  | '.' :: _ => some (.dot, 1)
  | ',' :: _ => some (.comma, 1)
  | '(' :: _ => some (.openParen, 1)
  | ')' :: _ => some (.closeParen, 1)
  | '[' :: _ => some (.openBracket, 1)
  | ']' :: _ => some (.closeBracket, 1)
  | c :: _ =>
    if c == Char.ofNat 0x7B then some (.openBrace, 1)
    else if c == Char.ofNat 0x7D then some (.closeBrace, 1)
    else none
  | [] => none

/-- A string may begin like a name and a number like a dot, so these come first. -/
def lexeme? (s : List Char) : Option Lexeme :=
  string? s <|> word? s <|> number? s <|> escaped? s <|>
    (symbol? s).map fun p => (.symbol p.1, p.2)

/-- What lies between tokens: a space, or a comment up to the end of its line. -/
def gapLength (s : List Char) : Nat :=
  match s with
  | '/' :: '/' :: r => 2 + (r.takeWhile (· != '\n')).length
  | c :: _ => if isSpace c then 1 else 0
  | [] => 0

/-- The first `skip` characters belong to a token or gap that has been found. -/
def tokensAfter : Nat → List Char → Option (List Token)
  | _, [] => some []
  | skip + 1, _ :: r => tokensAfter skip r
  | 0, c :: r =>
    match gapLength (c :: r) with
    | n + 1 => tokensAfter n r
    | 0 =>
      match lexeme? (c :: r) with
      | some (t, n) => (tokensAfter (n - 1) r).map (t :: ·)
      | none => none

def tokens? (s : List Char) : Option (List Token) := tokensAfter 0 s

end ConditionRegistry.Language
