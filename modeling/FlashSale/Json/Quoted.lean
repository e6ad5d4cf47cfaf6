import FlashSale.Text.Digits

/-!
# Quoted text

The inside of a JSON string. Writing escapes the quote, the backslash and the
control characters, and nothing else. Reading accepts every escape of the format;
a character beyond the basic plane is then two units in a row, a high and a low
surrogate.

Text arrives in bytes, and a byte need not be part of a character; `none` stands
for such a byte. Together with surrogates that have lost their partner it is the
reason why a well-formed string may denote no text at all. That is no error as
long as nobody asks for the text.
-/

namespace FlashSale.Json

/-- Text as it arrives: characters, and `none` for a byte that is part of none. -/
abbrev Text := List (Option Char)

/-- The escape of a character that has to have one. -/
def escape (c : Char) : List Char :=
  if c = '"' then ['\\', '"']
  else if c = '\\' then ['\\', '\\']
  else if c = '\n' then ['\\', 'n']
  else if c = '\r' then ['\\', 'r']
  else if c = '\t' then ['\\', 't']
  else if c = Char.ofNat 8 then ['\\', 'b']
  else if c = Char.ofNat 12 then ['\\', 'f']
  else if c.toNat < 32 then '\\' :: 'u' :: Digits.fixed 16 4 c.toNat
  else [c]

/-- A string with its quotes. -/
def quote (s : String) : List Char := '"' :: (s.toList.flatMap escape ++ ['"'])

/-- What one character or one escape of a string stands for. -/
inductive Piece where
  | char (c : Char)
  /-- A unit given by four hexadecimal digits. -/
  | unit (n : Nat)
  | stray
deriving DecidableEq, Repr

/-- The character that a backslash in front of `c` stands for. -/
def unescape? (c : Char) : Option Char :=
  if c = '"' ∨ c = '\\' ∨ c = '/' then some c
  else if c = 'n' then some '\n'
  else if c = 'r' then some '\r'
  else if c = 't' then some '\t'
  else if c = 'b' then some (Char.ofNat 8)
  else if c = 'f' then some (Char.ofNat 12)
  else none

/-- The number written by four hexadecimal digits. -/
def unit? (a b c d : Option Char) : Option Nat := do
  Digits.value? 16 [← a, ← b, ← c, ← d]

/-- The pieces of a string, or `none` if it is malformed. -/
def pieces? : Text → Option (List Piece)
  | [] => some []
  | none :: rest => (pieces? rest).map (.stray :: ·)
  | some '\\' :: some 'u' :: a :: b :: c :: d :: rest => do
    let n ← unit? a b c d
    (pieces? rest).map (.unit n :: ·)
  | some '\\' :: some c :: rest => do
    let c ← unescape? c
    (pieces? rest).map (.char c :: ·)
  | some c :: rest =>
    if c = '\\' ∨ c.toNat < 32 then none else (pieces? rest).map (.char c :: ·)

def isHighSurrogate (n : Nat) : Bool := 0xd800 ≤ n && n ≤ 0xdbff

def isLowSurrogate (n : Nat) : Bool := 0xdc00 ≤ n && n ≤ 0xdfff

/-- The characters that pieces denote, if they denote any. -/
def joinPieces? : List Piece → Option (List Char)
  | [] => some []
  | .stray :: _ => none
  | .char c :: rest => (joinPieces? rest).map (c :: ·)
  | .unit n :: .unit m :: rest =>
    if isHighSurrogate n && isLowSurrogate m then
      let c := Char.ofNat ((n - 0xd800) * 1024 + (m - 0xdc00) + 0x10000)
      (joinPieces? rest).map (c :: ·)
    else if isHighSurrogate n || isLowSurrogate n then none
    else (joinPieces? (.unit m :: rest)).map (Char.ofNat n :: ·)
  | .unit n :: rest =>
    if isHighSurrogate n || isLowSurrogate n then none
    else (joinPieces? rest).map (Char.ofNat n :: ·)

/-- Reads the inside of a string: `none` if it is malformed, else the text it denotes, if any. -/
def unquote? (inside : Text) : Option (Option String) :=
  (pieces? inside).map fun ps => (joinPieces? ps).map String.ofList

end FlashSale.Json
