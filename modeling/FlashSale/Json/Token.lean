import FlashSale.Json.Quoted

/-!
# Tokens of JSON

A text is read one character at a time. A string runs to its closing quote, a word
or a number as far as its characters go; what they amount to is decided when they
are complete. Only the value of a whole number is kept: a number with a fraction
or an exponent is well-formed, and so is minus zero, but neither is a whole number.
-/

namespace FlashSale.Json

inductive Token where
  | openArray
  | closeArray
  | openObject
  | closeObject
  | comma
  | colon
  | null
  | bool (b : Bool)
  /-- A number, with its value if it is a whole one. -/
  | number (value : Option Int)
  /-- A string, with the text it denotes, if any. -/
  | string (content : Option String)
deriving DecidableEq, Repr

/-- The token that a word is. -/
def Token.ofWord? (cs : List Char) : Option Token :=
  if cs = "null".toList then some .null
  else if cs = "true".toList then some (.bool true)
  else if cs = "false".toList then some (.bool false)
  else none

/-- Whether the text is an exponent, or empty. -/
def isExponent : List Char → Bool
  | [] => true
  | e :: rest =>
    let digits := match rest with
      | '+' :: digits => digits
      | '-' :: digits => digits
      | digits => digits
    (e == 'e' || e == 'E') && !digits.isEmpty && digits.all Char.isDigit

/-- Whether the text is a fraction, an exponent, or both, or empty. -/
def isFraction : List Char → Bool
  | '.' :: rest =>
    !(rest.takeWhile Char.isDigit).isEmpty && isExponent (rest.dropWhile Char.isDigit)
  | cs => isExponent cs

/-- The token of a number without its sign. -/
def Token.ofUnsigned? (negative : Bool) (cs : List Char) : Option Token :=
  let whole := cs.takeWhile Char.isDigit
  let rest := cs.dropWhile Char.isDigit
  if whole.head? = some '0' ∧ whole ≠ ['0'] then none
  else
    match Digits.value? 10 whole with
    | none => none
    | some n =>
      if !isFraction rest then none
      else if !rest.isEmpty || (negative && n == 0) then some (.number none)
      else some (.number (some (if negative then -n else n)))

/-- The token that a run of number characters is. -/
def Token.ofNumber? : List Char → Option Token
  | '-' :: cs => ofUnsigned? true cs
  | cs => ofUnsigned? false cs

/-- What the characters read last have begun; each is kept in reverse. -/
inductive Pending where
  | nothing
  | word (letters : List Char)
  | number (chars : List Char)
  /-- The inside of a string, and whether a backslash was read last. -/
  | quoted (inside : Text) (escaped : Bool)
deriving DecidableEq, Repr

/-- The tokens read so far, the last one first, and what has been begun. -/
structure Lexer where
  tokens : List Token := []
  pending : Pending := .nothing
deriving DecidableEq, Repr

namespace Lexer

def isSpace (c : Char) : Bool := c == ' ' || c == '\t' || c == '\n' || c == '\r'

def isWordChar (c : Char) : Bool := c.isLower

def isNumberChar (c : Char) : Bool :=
  c.isDigit || c == '-' || c == '+' || c == '.' || c == 'e' || c == 'E'

/-- A token is complete. -/
def accept (l : Lexer) (t : Token) : Lexer := { tokens := t :: l.tokens }

/-- A character that does not go on with anything. -/
def start (l : Lexer) (c : Char) : Option Lexer :=
  if isSpace c then some { l with pending := .nothing }
  else if c = '"' then some { l with pending := .quoted [] false }
  else if c = '[' then some (l.accept .openArray)
  else if c = ']' then some (l.accept .closeArray)
  else if c = '{' then some (l.accept .openObject)
  else if c = '}' then some (l.accept .closeObject)
  else if c = ',' then some (l.accept .comma)
  else if c = ':' then some (l.accept .colon)
  else if isWordChar c then some { l with pending := .word [c] }
  else if c.isDigit || c == '-' then some { l with pending := .number [c] }
  else none

/-- A word or a number is complete; a string is not complete without its quote. -/
def flush (l : Lexer) : Option Lexer :=
  match l.pending with
  | .nothing => some l
  | .word cs => (Token.ofWord? cs.reverse).map l.accept
  | .number cs => (Token.ofNumber? cs.reverse).map l.accept
  | .quoted .. => none

/-- Reads one character outside of strings. -/
def readChar (l : Lexer) (c : Char) : Option Lexer :=
  match l.pending with
  | .word cs =>
    if isWordChar c then some { l with pending := .word (c :: cs) }
    else l.flush.bind (·.start c)
  | .number cs =>
    if isNumberChar c then some { l with pending := .number (c :: cs) }
    else l.flush.bind (·.start c)
  | _ => l.start c

def read (l : Lexer) (c : Option Char) : Option Lexer :=
  match l.pending with
  | .quoted inside true => some { l with pending := .quoted (c :: inside) false }
  | .quoted inside false =>
    if c = some '"' then (unquote? inside.reverse).map fun content => l.accept (.string content)
    else some { l with pending := .quoted (c :: inside) (c = some '\\') }
  | _ => c.bind l.readChar

end Lexer

/-- The tokens of a text, or `none` if it holds something that is no token. -/
def tokens? (text : Text) : Option (List Token) := do
  let l ← text.foldlM Lexer.read {}
  let l ← l.flush
  some l.tokens.reverse

end FlashSale.Json
