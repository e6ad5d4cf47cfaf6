import FlashSale.Text.Digits
import FlashSale.Text.Utf8

/-!
# Parts of a URL

A URL is a scheme, a host with a port, a path and a query; all but the scheme may be
absent. It is taken apart by the rules for schemes that browsers do not know: a host
is any name without signs of its own meaning, or an address in brackets.

A user named in front of the host is passed over, except that a host must follow.
-/

namespace FlashSale.KeyValue

structure Url where
  scheme : List Char
  /-- Empty if there is none. -/
  host : List Char
  port : Option UInt16
  path : List Char
  query : List Char
deriving DecidableEq, Repr

namespace Url

/-- The characters of a URL, without those that a line break or a careless copy left in it. -/
def cleaned (s : String) : List Char :=
  let outer (c : Char) : Bool := c.toNat ≤ 0x20
  let inner := ((s.toList.dropWhile outer).reverse.dropWhile outer).reverse
  inner.filter fun c => c != '\t' && c != '\n' && c != '\r'

/-- Reads a scheme in lower case, and passes the colon after it. -/
def scheme? (cs : List Char) : Option (List Char × List Char) :=
  let scheme := cs.takeWhile fun c => c.isAlphanum || c = '+' || c = '-' || c = '.'
  match cs.drop scheme.length, scheme.head? with
  | ':' :: rest, some c => if c.isAlpha then some (scheme.map Char.toLower, rest) else none
  | _, _ => none

/-- A port: empty for none, or digits. -/
def port? (cs : List Char) : Option (Option UInt16) :=
  match cs with
  | [] => some none
  | _ => do
    let n ← Digits.value? 10 cs
    if n < 65536 then some (some (.ofNat n)) else none

/-- What is before the last `@` and what is after it, if there is one. -/
def splitUser (cs : List Char) : Option (List Char × List Char) :=
  let host := (cs.reverse.takeWhile (· != '@')).reverse
  if host.length < cs.length then some (cs.take (cs.length - host.length - 1), host) else none

/-- The characters of a host up to the colon before the port. -/
def hostLength (bracketed : Bool) : List Char → Nat
  | [] => 0
  | ':' :: rest => if bracketed then hostLength true rest + 1 else 0
  | '[' :: rest => hostLength true rest + 1
  | ']' :: rest => hostLength false rest + 1
  | _ :: rest => hostLength bracketed rest + 1

/-- The parts between the colons. -/
def groups (cs : List Char) : List (List Char) := cs.splitOn ':'

def isHexGroup (g : List Char) : Bool :=
  g.length ≤ 4 && (Digits.value? 16 g).isSome

/-- Whether four numbers below 256 are joined by points. -/
def isFourNumbers (cs : List Char) : Bool :=
  let numbers := cs.splitOn '.'
  numbers.length = 4 &&
    numbers.all fun g => (g.length = 1 || g.head? != some '0') && (Digits.value? 10 g).any (· < 256)

/-- How many groups of an address are written, if each of them is one. -/
def groupCount? : List (List Char) → Option Nat
  | [] => some 0
  | [g] => if isHexGroup g then some 1 else if isFourNumbers g then some 2 else none
  | g :: rest => if isHexGroup g then (groupCount? rest).map (· + 1) else none

/-- The groups before and after the first double colon. -/
def splitDouble : List Char → Option (List Char × List Char)
  | ':' :: ':' :: rest => some ([], rest)
  | c :: rest => (splitDouble rest).map fun (a, b) => (c :: a, b)
  | [] => none

/-- The number of groups, and none of nothing. -/
def countIn? (cs : List Char) : Option Nat := if cs = [] then some 0 else groupCount? (groups cs)

/-- Whether eight groups are given, or fewer and a double colon for the others. -/
def isAddressOfGroups (cs : List Char) : Bool :=
  match splitDouble cs with
  | none => countIn? cs = some 8
  | some (a, b) =>
    match countIn? a, countIn? b with
    | some m, some n => m + n ≤ 7
    | _, _ => false

def isForbidden (c : Char) : Bool :=
  c.toNat = 0 || " #/:<>?@[\\]^|".toList.contains c

/-- Whether a host is a name, or an address in brackets. -/
def isHost (cs : List Char) : Bool :=
  match cs with
  | '[' :: rest => rest.getLast? = some ']' && isAddressOfGroups rest.dropLast
  | _ => cs.all fun c => !isForbidden c

/-- Reads the host and the port. `named` is whether a user is named in front of them. -/
def hostAndPort? (named : Bool) (cs : List Char) : Option (List Char × Option UInt16) := do
  let n := hostLength false cs
  let host := cs.take n
  if !isHost host then none
  else if host = [] ∧ (named ∨ cs ≠ []) then none
  else some (host, ← port? ((cs.drop n).drop 1))

/-- Reads what is between the two slashes and the path; `rest` is what follows. -/
def authority? (cs rest : List Char) : Option (List Char × Option UInt16) :=
  match splitUser cs with
  | none => hostAndPort? false cs
  | some ([], host) => if host = [] ∧ rest ≠ [] then none else hostAndPort? false host
  | some (user, host) => hostAndPort? (user ≠ [':']) host

/-- The path and the query, without what points into the document. -/
def pathAndQuery (cs : List Char) : List Char × List Char :=
  let cs := cs.takeWhile (· != '#')
  (cs.takeWhile (· != '?'), (cs.dropWhile (· != '?')).drop 1)

def ofString? (s : String) : Option Url := do
  let (scheme, rest) ← scheme? (cleaned s)
  match rest with
  | '/' :: '/' :: rest =>
    let authority := rest.takeWhile fun c => c != '/' && c != '?' && c != '#'
    let rest := rest.drop authority.length
    let (host, port) ← authority? authority rest
    let (path, query) := pathAndQuery rest
    some { scheme, host, port, path, query }
  | rest =>
    let (path, query) := pathAndQuery rest
    some { scheme, host := [], port := none, path, query }

/-- The bytes of a text in which a plus sign stands for a space and some bytes are numbers. -/
def formBytes : List Char → List UInt8
  | '+' :: rest => 32 :: formBytes rest
  | '%' :: a :: b :: rest =>
    match Digits.value? 16 [a, b] with
    | some n => .ofNat n :: formBytes rest
    | none => 37 :: formBytes (a :: b :: rest)
  | c :: rest => (String.singleton c).toUTF8.toList ++ formBytes rest
  | [] => []

def formDecoded (cs : List Char) : String :=
  let bytes := ByteArray.mk (formBytes cs).toArray
  String.ofList ((Utf8.decode bytes).map (·.getD '\ufffd'))

/-- The value that a name has in the query; the last one counts. -/
def queryValue? (u : Url) (name : String) : Option String :=
  let pairs := (u.query.splitOn '&').map fun pair =>
    (formDecoded (pair.takeWhile (· != '=')), formDecoded ((pair.dropWhile (· != '=')).drop 1))
  pairs.reverse.lookup name

end Url

end FlashSale.KeyValue
