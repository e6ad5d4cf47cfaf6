/-!
# Media types

The value of a content-type header is a type and a subtype, each a token, and any
number of parameters. A subtype may have a suffix after its last plus sign, which
names the format that it is built on. The service reads bodies whose subtype or
suffix is `json`; case is of no importance.
-/

namespace FlashSale.Http.MediaType

/-- Whether the character may stand in a token. -/
def isTokenChar (c : Char) : Bool :=
  c.isAlphanum || "!#$%&'*+-.^_|~".toList.contains c || c.toNat == 96

/-- Whether the character may stand between quotes. -/
def isQuotedChar (c : Char) : Bool := 32 ≤ c.toNat && c.toNat ≤ 126

/-- What follows a quoted value: blanks and perhaps a semicolon. -/
def afterQuoted (cs : List Char) : Option (List Char) :=
  match cs.dropWhile (· == ' ') with
  | [] => some []
  | c :: rest => if c = ';' then some rest else none

/-- Passes the value of a parameter and the semicolon behind it. -/
def passValue? : List Char → Option (List Char)
  | '"' :: c :: rest =>
    if !isQuotedChar c then none
    else
      match rest.dropWhile fun c => isQuotedChar c && c != '"' with
      | '"' :: rest => afterQuoted rest
      | _ => none
  | cs =>
    match cs.dropWhile isTokenChar with
    | [] => some []
    | c :: rest => if c = ';' ∧ rest.length + 1 < cs.length then some rest else none

/-- Passes one parameter, or the blanks that stand for none. -/
def passParameter? (cs : List Char) : Option (List Char) :=
  match cs.dropWhile (· == ' ') with
  | [] => some []
  | cs =>
    match cs.dropWhile isTokenChar with
    | '=' :: rest => if (cs.takeWhile isTokenChar).isEmpty then none else passValue? rest
    | _ => none

/-- Whether the text is a list of at most `most` parameters. -/
def isParameters : (most : Nat) → List Char → Bool
  | _, [] => true
  | 0, _ => false
  | most + 1, cs =>
    match passParameter? cs with
    | none => false
    | some rest => isParameters most rest

/-- Whether the header value names a type of JSON. -/
def isJson (value : String) : Bool :=
  let cs := value.toList.map Char.toLower
  let type := cs.takeWhile isTokenChar
  match cs.dropWhile isTokenChar with
  | '/' :: rest =>
    let subtype := rest.takeWhile isTokenChar
    let parameters := rest.dropWhile isTokenChar
    -- a plus sign in front of everything else divides nothing
    let suffix := (subtype.drop 1).reverse.takeWhile (· != '+')
    let main :=
      if (subtype.drop 1).contains '+' then subtype.take (subtype.length - suffix.length - 1)
      else subtype
    let isJsonName := main = "json".toList ∨ main ≠ subtype ∧ suffix.reverse = "json".toList
    type = "application".toList && !subtype.isEmpty && isJsonName &&
      match parameters with
      | [] => true
      | c :: rest => c = ';' && isParameters rest.length rest
  | _ => false

example : isJson "application/json" ∧ isJson "Application/vnd.api+JSON; charset=utf-8" := by
  decide +kernel

example : ¬isJson "application/jsonx" ∧ ¬isJson "application/+json" ∧ ¬isJson "text/plain" := by
  decide +kernel

end FlashSale.Http.MediaType
