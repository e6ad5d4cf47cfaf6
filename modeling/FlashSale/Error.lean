import FlashSale.Uuid

/-!
# Refusals

A store refuses a call when it cannot be reached, when a guard on version or
stock finds no row, or when it is given a negative stock. A purchase is refused
for one of these or for a reason of its own; the last two kinds listed are the
service's fault and not the buyer's.

Each kind of refusal has one wording, given here.
-/

namespace FlashSale

/-- The calls of the two stores, as their failures name them. -/
inductive StoreCall where
  | decrementStock
  | incrementStock
  | setStock
  | setIdempotencyKey
  | createOrder
  | getInventory
  | updateInventory
deriving DecidableEq, Repr

def StoreCall.phrase : StoreCall → String
  | decrementStock => "decrement stock"
  | incrementStock => "increment stock"
  | setStock => "set stock"
  | setIdempotencyKey => "set idempotency key"
  | createOrder => "create order"
  | getInventory => "get inventory"
  | updateInventory => "update inventory"

inductive StoreError where
  /-- The call could not be carried out; nothing was applied. -/
  | unavailable (reason : String)
  /-- A guard on version or stock matched no row; nothing was applied. -/
  | optimisticLockConflict
  | invalidStock (stock : Int32)
deriving DecidableEq, Repr

namespace StoreError

/-- The failure of a store that was switched to be unreachable. -/
def injectedFault (call : StoreCall) : StoreError :=
  .unavailable (call.phrase ++ " failed: injected fault")

def duplicateOrder (id : Uuid) : StoreError := .unavailable ("duplicate order id " ++ id.toString)

def message : StoreError → String
  | unavailable reason => "store unavailable: " ++ reason
  | optimisticLockConflict => "optimistic lock conflict"
  | invalidStock stock => s!"stock cannot be negative: {stock}"

end StoreError

inductive PurchaseError where
  | invalidQuantity (quantity : Int32)
  | duplicateRequest
  | insufficientStock
  | storeUnavailable (cause : StoreError)
  | queueClosed
deriving DecidableEq, Repr

namespace PurchaseError

def message : PurchaseError → String
  | invalidQuantity quantity => s!"quantity must be positive, got {quantity}"
  | duplicateRequest => "duplicate request"
  | insufficientStock => "insufficient stock"
  | storeUnavailable cause => cause.message
  | queueClosed => "admission queue is closed"

/-- Whether the buyer neither caused the refusal nor can do anything about it. -/
def isInternal : PurchaseError → Bool
  | storeUnavailable _ => true
  | queueClosed => true
  | _ => false

end PurchaseError

end FlashSale
