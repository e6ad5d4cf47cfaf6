import FlashSale.Proofs.KeyValue.Digest
import FlashSale.Table

/-!
# A key-value server

What a key-value server answers to the commands of the reservation store, and how it
changes. Every value that these commands write is a number. A key may be given a time at
which it expires, in milliseconds of the server's clock; from that time on nothing is found
under it. A command is carried out undivided, and so is a script.

Scripts read numbers as floating-point numbers of 53 binary digits. The commands that a
script sends for itself compute with 64 bits, as others do.

The server counts how often it has run a script. It answers for the one script of the
store; what others would do is left open by refusing them.
-/

namespace FlashSale.KeyValue

/-- What is under a key. -/
structure Entry where
  amount : Int64
  /-- The time from which on it is gone, if it expires. -/
  expiry : Option Nat
deriving DecidableEq, Repr

structure Server where
  entries : Table String Entry := ∅
  /-- The texts of the scripts that the server has. -/
  scripts : List String := []
  /-- How often a script was run. -/
  runs : Nat := 0

/-- The number of 53 binary digits nearest to an integer, the even one of two. -/
def scriptNumber (n : Int) : Int :=
  let unit := 2 ^ (n.natAbs.log2 - 52)
  let whole := n.natAbs / unit
  let rest := n.natAbs % unit
  let nearest :=
    if 2 * rest < unit ∨ 2 * rest = unit ∧ whole % 2 = 0 then whole else whole + 1
  n.sign * (nearest * unit : Nat)

/-- An integer of 53 binary digits is exact, and so the script compares such numbers as
they are. -/
theorem scriptNumber_of_le {n : Int} (fits : n.natAbs ≤ 9007199254740992) : scriptNumber n = n := by
  have exact : n.natAbs % 2 ^ (n.natAbs.log2 - 52) = 0 := by
    rcases Nat.lt_or_eq_of_le fits with below | top
    · have short : n.natAbs.log2 < 53 := by
        by_cases zero : n.natAbs = 0
        · rw [zero]
          decide
        · exact (Nat.log2_lt zero).mpr below
      rw [show n.natAbs.log2 - 52 = 0 by omega]
      exact Nat.mod_one _
    · rw [top]
      decide
  have whole := Nat.div_mul_cancel (Nat.dvd_of_mod_eq_zero exact)
  have unit : 2 * 0 < 2 ^ (n.natAbs.log2 - 52) := Nat.two_pow_pos _
  simp only [scriptNumber, exact, if_pos (Or.inl unit), whole]
  exact Int.sign_mul_natAbs n

namespace Server

variable (s : Server) (now : Nat) (key : String)

/-- What is found under a key, which is nothing from the time on at which it expires. -/
def find? : Option Entry := (s.entries.get? key).filter fun e => !e.expiry.any (· ≤ now)

/-- Writes an entry under a key, over the one that is there. -/
def write (e : Entry) : Server := { s with entries := s.entries.insert key e }

/-- Adds to the number under a key, which is zero if nothing is there. -/
def add (amount : Int) : Reply × Server :=
  let found := s.find? now key
  match word64? ((found.elim 0 fun e => e.amount.toInt) + amount) with
  | none => (.error ⟨"ERR", some "increment or decrement would overflow"⟩, s)
  | some sum => (.integer sum, s.write key ⟨sum, found.bind Entry.expiry⟩)

/-- Runs `takeScript`, line by line. -/
def runTake (amount : Int32) : Reply × Server :=
  match s.find? now key with
  | none => (.integer 0, s)
  | some current =>
    -- Both sides of the comparison go through `tonumber`; `DECRBY` has the amount as it was sent.
    if scriptNumber amount.toInt ≤ scriptNumber current.amount.toInt then
      let (reply, s) := s.add now key (-amount.toInt)
      (if reply.error?.isSome then reply else .integer 1, s)
    else (.integer 0, s)

/-- The greatest time at which a key may expire. -/
def clockEnd : Nat := 9223372036854775807

/-- Carries out a command. -/
def serve (now : Nat) (s : Server) : Command → Reply × Server
  | .set key amount => (.done, s.write key ⟨amount.toInt64, none⟩)
  | .setOnce key seconds =>
    let expiry := now + 1000 * seconds
    if seconds = 0 ∨ clockEnd < expiry then
      (.error ⟨"ERR", some "invalid expire time in 'set' command"⟩, s)
    else if (s.find? now key).isSome then (.nothing, s)
    else (.done, s.write key ⟨1, some expiry⟩)
  | .increase key amount => s.add now key amount.toInt
  | .run digest key amount =>
    match s.scripts.find? (scriptDigest · = digest) with
    | none => (.error ⟨"NOSCRIPT", some "No matching script. Please use EVAL."⟩, s)
    | some script =>
      let s := { s with runs := s.runs + 1 }
      if script = takeScript then s.runTake now key amount
      else (.error ⟨"ERR", some "script is not supported"⟩, s)
  | .load script => (.string (scriptDigest script), { s with scripts := script :: s.scripts })

end Server

end FlashSale.KeyValue
