import FlashSale.Duration
import FlashSale.Order.Basic

/-!
# Settling an order

A worker settles each order it receives by one attempt to commit it to the
durable store. If the commit fails or takes too long, the reserved stock is put
back, again with a limit on the time; if that fails too, the stock stays short
and the failure is reported with both causes. No order is tried twice.

The rules here say what follows from the way a store call ended. They neither
call a store nor read a clock, so they hold for any store.
-/

namespace FlashSale

inductive CommitError where
  | store (cause : StoreError)
  | timeout (limit : Duration)
deriving DecidableEq, Repr

def CommitError.message : CommitError → String
  | store cause => cause.message
  | timeout limit => "commit timed out after " ++ limit.text

/-- The reserved stock of an order could not be put back. -/
structure CompensationFailure where
  orderId : Uuid
  itemId : String
  quantity : Int32
  commit : CommitError
  cause : CommitError
deriving DecidableEq, Repr

def CompensationFailure.message (f : CompensationFailure) : String :=
  "compensation failed for order " ++ f.orderId.toString ++ " (" ++ toString f.quantity ++ " x " ++
    f.itemId ++ "): " ++ f.cause.message

inductive Outcome where
  | persisted
  | compensated (commit : CommitError)
  | compensationFailed (failure : CompensationFailure)
deriving DecidableEq, Repr

/-- How often each outcome came about. -/
structure Tally where
  persisted : Nat := 0
  compensated : Nat := 0
  compensationFailures : Nat := 0
deriving DecidableEq, Repr

namespace Tally

def record (t : Tally) : Outcome → Tally
  | .persisted => { t with persisted := t.persisted + 1 }
  | .compensated _ => { t with compensated := t.compensated + 1 }
  | .compensationFailed _ => { t with compensationFailures := t.compensationFailures + 1 }

def processed (t : Tally) : Nat := t.persisted + t.compensated + t.compensationFailures

/-- The number of outcomes, unless it needs more than 64 bits. -/
def processed? (t : Tally) : Option Nat :=
  if t.processed < 18446744073709551616 then some t.processed else none

end Tally

/-- How a call under a time limit ended: the store replied, or the time ran out. -/
inductive Awaited where
  | replied (result : Except StoreError Unit)
  | timedOut

namespace Settlement

/-- Where the settlement of an order stands. -/
inductive Stage where
  | opening
  | committing
  | restoring (commit : CommitError)
deriving DecidableEq, Repr

inductive Next where
  | go (stage : Stage)
  | done (outcome : Outcome)
deriving DecidableEq, Repr

/-- The error in the way a call ended, if there is one. -/
def error? (limit : Duration) : Awaited → Option CommitError
  | .replied (.ok ()) => none
  | .replied (.error cause) => some (.store cause)
  | .timedOut => some (.timeout limit)

/-- The commit ended. -/
def committed (limit : Duration) (ended : Awaited) : Next :=
  match error? limit ended with
  | none => .done .persisted
  | some commit => .go (.restoring commit)

/-- The attempt to put the stock of the order back ended. -/
def restored (limit : Duration) (order : Order) (commit : CommitError) (ended : Awaited) :
    Outcome :=
  match error? limit ended with
  | none => .compensated commit
  | some cause =>
    .compensationFailed
      { orderId := order.id, itemId := order.itemId, quantity := order.quantity, commit, cause }

end Settlement

end FlashSale
