import FlashSale.KeyValue.Reply
import FlashSale.Text.Digits

/-!
# The text of a reply

A reply begins with a sign that says what it is, and a line. A string is preceded by
its length in bytes and an array by the number of its items; a length of minus one
stands for nothing at all.

Reading goes from the front and leaves what follows. It spends a unit of fuel on each
reply and on each item of an array; these have characters of their own, so there is
enough fuel if there is as much of it as of characters.
-/

namespace FlashSale.KeyValue.Wire

/-- Reads a line without its end, and passes the end. -/
def line : List Char → Option (List Char × List Char)
  | [] => none
  | '\r' :: '\n' :: rest => some ([], rest)
  | c :: rest => (line rest).map fun (cs, rest) => (c :: cs, rest)

/-- The 64-bit word written on a line. -/
def word (cs : List Char) : Option Int64 := do
  word64? (← (Number.integer (String.ofList cs)).toOption)

/-- Reads characters of so many bytes together. -/
def bytes : Nat → List Char → Option (List Char × List Char)
  | 0, cs => some ([], cs)
  | _ + 1, [] => none
  | n + 1, c :: cs =>
    if c.utf8Size ≤ n + 1 then
      (bytes (n + 1 - c.utf8Size) cs).map fun (taken, rest) => (c :: taken, rest)
    else none

/-- A length, `none` for the length of nothing. -/
def length (cs : List Char) : Option (Option Nat) := do
  let n ← word cs
  if n.toInt = -1 then some none
  else if 0 ≤ n.toInt then some (some n.toInt.toNat)
  else none

/-- Reads a string of a given length and the end of its line. -/
def string (n : Nat) (cs : List Char) : Option (String × List Char) := do
  let (taken, rest) ← bytes n cs
  match rest with
  | '\r' :: '\n' :: rest => some (String.ofList taken, rest)
  | _ => none

def serverError (cs : List Char) : ServerError where
  code := String.ofList (cs.takeWhile (· != ' '))
  detail :=
    match cs.dropWhile (· != ' ') with
    | [] => none
    | _ :: detail => some (String.ofList detail)

def status (cs : List Char) : Reply :=
  if cs = ['O', 'K'] then .done else .status (String.ofList cs)

mutual

def value : Nat → List Char → Option (Reply × List Char)
  | 0, _ => none
  | _, [] => none
  | fuel + 1, sign :: cs => do
    let (head, rest) ← line cs
    match sign with
    | '+' => some (status head, rest)
    | '-' => some (.error (serverError head), rest)
    | ':' => (word head).map fun n => (.integer n, rest)
    | '$' =>
      match ← length head with
      | none => some (.nothing, rest)
      | some n => (string n rest).map fun (s, rest) => (.string s, rest)
    | '*' =>
      match ← length head with
      | none => some (.nothing, rest)
      | some n => (items fuel n rest).map fun (rs, rest) => (.array rs, rest)
    | _ => none

def items : Nat → Nat → List Char → Option (List Reply × List Char)
  | _, 0, cs => some ([], cs)
  | 0, _ + 1, _ => none
  | fuel + 1, n + 1, cs => do
    let (r, cs) ← value fuel cs
    let (rs, cs) ← items fuel n cs
    some (r :: rs, cs)

end

/-- The reply that a text is. -/
def reply? (s : String) : Option Reply :=
  match value s.length s.toList with
  | some (r, []) => some r
  | _ => none

end FlashSale.KeyValue.Wire
