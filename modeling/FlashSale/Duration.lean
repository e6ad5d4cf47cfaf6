import FlashSale.Text.Digits

/-!
# Durations

A span of time in whole nanoseconds, and the text that error messages give it:
the largest unit of which it holds at least one, with the exact fraction.
-/

namespace FlashSale

/-- A span of time. -/
structure Duration where
  nanos : Nat
deriving DecidableEq, Repr

namespace Duration

def ofMillis (ms : Nat) : Duration := ⟨ms * 1000000⟩

def ofSeconds (s : Nat) : Duration := ⟨s * 1000000000⟩

/-- Whole seconds and the nanoseconds past them. -/
def parts (d : Duration) : Nat × Nat := (d.nanos / 1000000000, d.nanos % 1000000000)

/-- A digit string without the zeros at its end. -/
def trimZeros (cs : List Char) : List Char :=
  (cs.reverse.dropWhile (· == '0')).reverse

/-- An amount of `10 ^ places` nanoseconds each, exactly, with its unit. -/
def inUnit (nanos places : Nat) (unit : String) : String :=
  let whole := Digits.ofNat 10 (nanos / Nat.pow 10 places)
  let fraction := trimZeros (Digits.fixed 10 places (nanos % Nat.pow 10 places))
  String.ofList (whole ++ if fraction.isEmpty then [] else '.' :: fraction) ++ unit

/-- The largest unit that the span fills at least once, nanoseconds if none. -/
def text (d : Duration) : String :=
  if 1000000000 ≤ d.nanos then inUnit d.nanos 9 "s"
  else if 1000000 ≤ d.nanos then inUnit d.nanos 6 "ms"
  else if 1000 ≤ d.nanos then inUnit d.nanos 3 "µs"
  else inUnit d.nanos 0 "ns"

example : (ofMillis 1500).text = "1.5s" ∧ (ofMillis 0).text = "0ns" := by decide +kernel

example : (Duration.mk 30500000).text = "30.5ms" ∧ (Duration.mk 1001).text = "1.001µs" := by
  decide +kernel

end Duration

end FlashSale
