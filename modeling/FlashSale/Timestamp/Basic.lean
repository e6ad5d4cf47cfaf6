import FlashSale.Calendar

/-!
# Timestamps

A moment of universal time: whole seconds since the start of 1970 and the
nanoseconds past them. The nanoseconds run on past the last second of a minute
while a leap second is being counted. Moments are those of the years -262143 to
262142.

`ofMillis` is how the clock of a running service is shown: a moment outside
the range is shown as the nearest end of it.
-/

namespace FlashSale

/-- A representable moment of universal time. -/
structure Timestamp where
  seconds : Int
  nanos : Nat
  first_le : -8334601228800 ≤ seconds
  le_last : seconds ≤ 8210266876799
  leap : nanos < 1000000000 ∨ nanos < 2000000000 ∧ seconds % 60 = 59
deriving DecidableEq, Repr

namespace Timestamp

example : (⟨-262143, 1, 1⟩ : Date).toDays * 86400 = -8334601228800 := by decide

example : (⟨262142, 12, 31⟩ : Date).toDays * 86400 + 86399 = 8210266876799 := by decide

/-- The moment with these parts, if it is representable. -/
def of? (seconds : Int) (nanos : Nat) : Option Timestamp :=
  if h : (-8334601228800 ≤ seconds ∧ seconds ≤ 8210266876799) ∧
      (nanos < 1000000000 ∨ nanos < 2000000000 ∧ seconds % 60 = 59) then
    some ⟨seconds, nanos, h.1.1, h.1.2, h.2⟩
  else none

/-- The moment that many milliseconds after the start of 1970. -/
def ofMillis (ms : Int) : Timestamp where
  seconds := max (-8334601228800) (min 8210266876799 (ms / 1000))
  nanos := (ms % 1000).toNat * 1000000
  first_le := by omega
  le_last := by omega
  leap := by omega

/-- Milliseconds since the start of 1970. -/
def millis (t : Timestamp) : Int := t.seconds * 1000 + t.nanos / 1000000

theorem of?_self (t : Timestamp) : of? t.seconds t.nanos = some t := by
  unfold of?
  rw [dif_pos ⟨⟨t.first_le, t.le_last⟩, t.leap⟩]

end Timestamp

end FlashSale
