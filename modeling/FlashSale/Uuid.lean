import FlashSale.Text.Digits

/-!
# Order identifiers

A universally unique identifier is 128 bits. Its text has 32 hexadecimal
digits in groups of 8, 4, 4, 4 and 12 joined by hyphens; reading also accepts
the digits alone, a pair of braces around the hyphenated form, and the
`urn:uuid:` name of it, each in either case.

An identifier drawn at random carries the version number four.
-/

namespace FlashSale

/-- A universally unique identifier. -/
structure Uuid where
  bits : BitVec 128
deriving DecidableEq, Repr

namespace Uuid

/-- The identifier made from random bits: version four, the standard variant. -/
def ofRandom (bits : BitVec 128) : Uuid :=
  let kept : BitVec 128 := 0xffffffffffff0fff3fffffffffffffff#128
  let fixed : BitVec 128 := 0x00000000000040008000000000000000#128
  ⟨bits &&& kept ||| fixed⟩

/-- The version number that the identifier carries. -/
def version (u : Uuid) : Nat := (u.bits.extractLsb' 76 4).toNat

/-- Groups of 8, 4, 4, 4 and 12 digits, joined by hyphens. -/
def hyphenate (ds : List Char) : List Char :=
  ds.take 8 ++ '-' :: ((ds.drop 8).take 4 ++ '-' :: ((ds.drop 12).take 4 ++
    '-' :: ((ds.drop 16).take 4 ++ '-' :: ds.drop 20)))

def toChars (u : Uuid) : List Char := hyphenate (Digits.fixed 16 32 u.bits.toNat)

def toString (u : Uuid) : String := String.ofList u.toChars

instance : ToString Uuid := ⟨toString⟩

/-- Reads 32 digits. -/
def ofDigits? (cs : List Char) : Option Uuid :=
  if cs.length = 32 then (Digits.value? 16 cs).map fun n => ⟨BitVec.ofNat 128 n⟩ else none

/-- Reads 32 digits grouped by hyphens. -/
def ofHyphenated? (cs : List Char) : Option Uuid :=
  let ds :=
    cs.take 8 ++ (cs.drop 9).take 4 ++ (cs.drop 14).take 4 ++ (cs.drop 19).take 4 ++ cs.drop 24
  if cs = hyphenate ds then ofDigits? ds else none

/-- Reads any of the four spellings. -/
def ofChars? (cs : List Char) : Option Uuid :=
  if cs.length = 32 then ofDigits? cs
  else if cs.length = 36 then ofHyphenated? cs
  else if cs.head? = some '{' ∧ cs.getLast? = some '}' then ofHyphenated? (cs.drop 1).dropLast
  else if (cs.take 9).map Char.toLower = "urn:uuid:".toList then ofHyphenated? (cs.drop 9)
  else none

def ofString? (s : String) : Option Uuid := ofChars? s.toList

example : ofString? "{550e8400-E29B-41d4-a716-446655440000}" =
    ofString? "550e8400e29b41d4a716446655440000" := by decide +kernel

example : (ofString? "URN:uuid:00000000-0000-4000-8000-00000000000A").map toString =
    some "00000000-0000-4000-8000-00000000000a" := by decide +kernel

end Uuid

end FlashSale
