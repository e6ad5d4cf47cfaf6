import FlashSale.Reply
import FlashSale.Table
import FlashSale.Word

/-!
# The reservation store

A fast store of stock counters and request markers, held in memory. A counter
falls only while it covers the quantity asked for. A marker is written once and
holds until its time to live has passed; expired markers are swept out at most
once per time to live, and the sweep is never seen from outside.

Times are milliseconds since the service started. The clock ends with the
second numbered `2 ^ 63 - 1`; a marker that would outlive it cannot be written.

Two switches make calls fail, so that the paths that answer a failure can be
walked: one for all calls and one for putting stock back.
-/

namespace FlashSale

structure Reservations where
  /-- Time to live of a marker, in milliseconds. -/
  ttl : Nat
  counters : Table String Int64 := ∅
  /-- The time at which each marker expires. -/
  markers : Table String Nat := ∅
  nextSweep : Option Nat := none
  unavailable : Bool := false
  failIncrements : Bool := false

namespace Reservations

/-- The last millisecond of the clock. -/
def clockEnd : Nat := 9223372036854775807999

def stock? (s : Reservations) (item : String) : Option Int64 := s.counters.get? item

def setStock (s : Reservations) (item : String) (quantity : Int32) : Reply Unit × Reservations :=
  if s.unavailable then (.fault .setStock, s)
  else (.ok (), { s with counters := s.counters.insert item quantity.toInt64 })

/-- Takes stock for a purchase. The answer is whether there was enough. -/
def take (s : Reservations) (item : String) (quantity : Int32) : Reply Bool × Reservations :=
  if s.unavailable then (.fault .decrementStock, s)
  else
    match s.counters.get? item with
    | none => (.ok false, s)
    | some held =>
      if held.toInt < quantity.toInt then (.ok false, s)
      else
        match word64? (held.toInt - quantity.toInt) with
        | none => (.overflow, s)
        | some left => (.ok true, { s with counters := s.counters.insert item left })

/-- Puts stock back; an item without a counter starts from zero. -/
def putBack (s : Reservations) (item : String) (quantity : Int32) : Reply Unit × Reservations :=
  if s.unavailable || s.failIncrements then (.fault .incrementStock, s)
  else
    match word64? (((s.counters.get? item).getD 0).toInt + quantity.toInt) with
    | none => (.overflow, s)
    | some total => (.ok (), { s with counters := s.counters.insert item total })

/-- Whether a sweep is due. -/
def sweepDue (s : Reservations) (now : Nat) : Bool :=
  match s.nextSweep with
  | none => true
  | some time => time ≤ now

/-- Drops the markers that have expired. -/
def dropExpired (s : Reservations) (now : Nat) : Reservations :=
  { s with markers := s.markers.filter fun _ expiry => now < expiry }

/-- Writes a marker on a store that is swept. The answer is whether this call wrote it. -/
def markSwept (s : Reservations) (now : Nat) (key : String) : Reply Bool × Reservations :=
  if (s.markers.get? key).any (now < ·) then (.ok false, s)
  else if clockEnd < now + s.ttl then (.overflow, s)
  else (.ok true, { s with markers := s.markers.insert key (now + s.ttl) })

/-- Writes a marker unless a live one is there. The answer is whether this call wrote it. -/
def mark (s : Reservations) (now : Nat) (key : String) : Reply Bool × Reservations :=
  if s.unavailable then (.fault .setIdempotencyKey, s)
  else if s.sweepDue now then
    let swept := s.dropExpired now
    if clockEnd < now + s.ttl then (.overflow, swept)
    else markSwept { swept with nextSweep := some (now + s.ttl) } now key
  else markSwept s now key

end Reservations

end FlashSale
