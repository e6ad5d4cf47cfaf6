import FlashSale.KeyValue.Store
import Mathlib.Algebra.Group.Nat.Defs

/-!
# Digests of scripts

A server knows a script by the SHA-1 digest of its text, written with hexadecimal digits.
The digest that the reservation store sends is that of the script that it loads.

A message is cut into blocks of sixteen words. Each block goes through eighty rounds, and a
schedule of sixteen words moves along by one word with each of them.
-/

namespace FlashSale.KeyValue

namespace Digest

/-- The five words that a digest is computed in. -/
structure State where
  a : UInt32
  b : UInt32
  c : UInt32
  d : UInt32
  e : UInt32

/-- The words with which a digest begins. -/
def State.start : State := ⟨0x67452301, 0xefcdab89, 0x98badcfe, 0x10325476, 0xc3d2e1f0⟩

/-- The sum of two states, word by word. -/
def State.add (s t : State) : State :=
  ⟨s.a + t.a, s.b + t.b, s.c + t.c, s.d + t.d, s.e + t.e⟩

/-- The word with its bits moved round to the left. -/
def rotate (w n : UInt32) : UInt32 := w <<< n ||| w >>> (32 - n)

/-- The bytes of a number, most significant first. -/
def bytes (width n : Nat) : List UInt8 :=
  (List.range width).reverse.map fun i => UInt8.ofNat (n / 256 ^ i)

/-- A message filled up to whole blocks of 64 bytes, with its length in bits at the end. -/
def padded (message : List UInt8) : List UInt8 :=
  let zeros := (119 - message.length % 64) % 64
  message ++ 0x80 :: List.replicate zeros 0 ++ bytes 8 (8 * message.length)

/-- The words that bytes spell. -/
def words : List UInt8 → List UInt32
  | p :: q :: r :: s :: rest =>
    (p.toUInt32 <<< 24 ||| q.toUInt32 <<< 16 ||| r.toUInt32 <<< 8 ||| s.toUInt32) :: words rest
  | _ => []

/-- What round `i` makes of the three middle words, with its constant. -/
def mixed (i : Nat) (b c d : UInt32) : UInt32 :=
  if i < 20 then (b &&& c ||| ~~~b &&& d) + 0x5a827999
  else if i < 40 then (b ^^^ c ^^^ d) + 0x6ed9eba1
  else if i < 60 then (b &&& c ||| b &&& d ||| c &&& d) + 0x8f1bbcdc
  else (b ^^^ c ^^^ d) + 0xca62c1d6

/-- A round of a block, which uses one word of the schedule. -/
def round (s : State) (i : Nat) (w : UInt32) : State :=
  ⟨rotate s.a 5 + mixed i s.b s.c s.d + s.e + w, s.a, rotate s.b 30, s.c, s.d⟩

/-- The schedule after its first word has been used. -/
def advance : List UInt32 → List UInt32
  | w :: rest =>
    rest ++ [rotate (w ^^^ rest.getD 1 0 ^^^ rest.getD 7 0 ^^^ rest.getD 12 0) 1]
  | [] => []

/-- The last rounds of a block, as many as are left. -/
def rounds : (left : Nat) → List UInt32 → State → State
  | 0, _, s => s
  | left + 1, schedule, s => rounds left (advance schedule) (round s (79 - left) (schedule.headD 0))

/-- What blocks of words make of a state, one after the other. -/
def blocks : (count : Nat) → List UInt32 → State → State
  | 0, _, s => s
  | count + 1, words, s => blocks count (words.drop 16) (s.add (rounds 80 (words.take 16) s))

/-- The digest of a message. -/
def ofBytes (message : List UInt8) : State :=
  let spelled := words (padded message)
  blocks (spelled.length / 16) spelled .start

end Digest

/-- The digest of a script. -/
def scriptDigest (script : String) : String :=
  let s := Digest.ofBytes script.toUTF8.toList
  String.ofList ([s.a, s.b, s.c, s.d, s.e].flatMap fun w => Digits.fixed 16 8 w.toNat)

/-- The store asks for the script that it loads. So a server that has loaded it finds
it. -/
theorem scriptDigest_takeScript : scriptDigest takeScript = takeScriptDigest := by decide +kernel

example : scriptDigest "abc" = "a9993e364706816aba3e25717850c26c9cd0d89d" := by decide +kernel

end FlashSale.KeyValue
