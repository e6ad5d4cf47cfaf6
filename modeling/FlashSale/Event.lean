import FlashSale.Settlement

/-!
# The log

What the service reports while it runs. An event is critical when stock was
taken from the reservation store and will not come back by itself.

A line names the level, the message and the fields of an event. Identifiers of
orders are written by a function of the reader's choice.
-/

namespace FlashSale

inductive Event where
  | duplicateRequest (requestId : String)
  | insufficientStock (requestId itemId : String) (quantity : Int32)
  | orderAdmitted (requestId : String) (orderId : Uuid) (itemId : String) (quantity : Int32)
  | admissionClosed (requestId : String) (orderId : Uuid)
  | releaseFailed (itemId : String) (quantity : Int32) (error : StoreError)
  | purchaseAbandoned (itemId : String) (quantity : Int32)
  | abandonedReleaseFailed (itemId : String) (quantity : Int32) (error : StoreError)
  | abandonedOutside (itemId : String) (quantity : Int32)
  | purchaseFailed (requestId : String) (error : PurchaseError)
  | orderSaved (orderId : Uuid)
  | stockRestored (order : Order) (commit : CommitError)
  | storesDiverged (failure : CompensationFailure)
  | queueDrained
  | workersStarted (workers : Nat)
  | workerCrashed
  | workersStopped (tally : Tally)
  | pipelineStarted (workers capacity timeoutMillis : Nat)
  | queueClosing (queued : Nat)
  | inventorySeeded (itemId : String) (stock : Int32)
  | orderCommitted (orderId : Uuid) (itemId : String)
deriving DecidableEq, Repr

namespace Event

inductive Level where
  | debug
  | info
  | warn
  | error
deriving DecidableEq, Repr

def Level.name : Level → String
  | debug => "DEBUG"
  | info => "INFO"
  | warn => "WARN"
  | error => "ERROR"

def level : Event → Level
  | duplicateRequest .. => .debug
  | insufficientStock .. => .debug
  | orderAdmitted .. => .debug
  | admissionClosed .. => .warn
  | releaseFailed .. => .error
  | purchaseAbandoned .. => .warn
  | abandonedReleaseFailed .. => .error
  | abandonedOutside .. => .error
  | purchaseFailed .. => .error
  | orderSaved .. => .debug
  | stockRestored .. => .warn
  | storesDiverged .. => .error
  | queueDrained => .debug
  | workersStarted .. => .info
  | workerCrashed => .error
  | workersStopped .. => .info
  | pipelineStarted .. => .info
  | queueClosing .. => .info
  | inventorySeeded .. => .info
  | orderCommitted .. => .debug

def message : Event → String
  | duplicateRequest .. => "Duplicate purchase request"
  | insufficientStock .. => "Insufficient stock"
  | orderAdmitted .. => "Order admitted"
  | admissionClosed .. => "Admission queue closed; releasing reservation"
  | releaseFailed .. => "Failed to release reservation; reservation store is now short"
  | purchaseAbandoned .. => "Purchase abandoned after reservation; releasing stock"
  | abandonedReleaseFailed .. =>
    "Failed to release abandoned reservation; reservation store is now short"
  | abandonedOutside .. => "Reservation abandoned outside a runtime; stock not released"
  | purchaseFailed .. => "Purchase failed"
  | orderSaved .. => "Saved order"
  | stockRestored .. => "Failed to save order; restored reserved stock"
  | storesDiverged .. =>
    "CRITICAL: failed to restore reserved stock; reservation and durable stores diverged"
  | queueDrained => "Admission queue drained; worker exiting"
  | workersStarted .. => "Started persistence workers"
  | workerCrashed => "Persistence worker terminated abnormally"
  | workersStopped .. => "Persistence workers stopped"
  | pipelineStarted .. => "Reservation pipeline started"
  | queueClosing .. => "Closing admission queue"
  | inventorySeeded .. => "Seeded durable inventory"
  | orderCommitted .. => "Order committed"

/-- The stock that a critical event reports as lost: an item and how much of it. -/
def loss? : Event → Option (String × Int32)
  | releaseFailed item quantity _ => some (item, quantity)
  | abandonedReleaseFailed item quantity _ => some (item, quantity)
  | abandonedOutside item quantity => some (item, quantity)
  | storesDiverged failure => some (failure.itemId, failure.quantity)
  | _ => none

def isCritical (e : Event) : Bool := e.loss?.isSome

/-- The fields of an event, apart from the mark of a critical one. -/
def fields (idName : Uuid → String) : Event → List (String × String)
  | duplicateRequest request => [("request_id", request)]
  | insufficientStock request item quantity =>
    [("request_id", request), ("item_id", item), ("quantity", toString quantity)]
  | orderAdmitted request id item quantity =>
    [("request_id", request), ("order_id", idName id), ("item_id", item),
      ("quantity", toString quantity)]
  | admissionClosed request id => [("request_id", request), ("order_id", idName id)]
  | releaseFailed item quantity e =>
    [("item_id", item), ("quantity", toString quantity), ("error", e.message)]
  | purchaseAbandoned item quantity => [("item_id", item), ("quantity", toString quantity)]
  | abandonedReleaseFailed item quantity e =>
    [("item_id", item), ("quantity", toString quantity), ("error", e.message)]
  | abandonedOutside item quantity => [("item_id", item), ("quantity", toString quantity)]
  | purchaseFailed request e => [("request_id", request), ("error", e.message)]
  | orderSaved id => [("order_id", idName id)]
  | stockRestored order commit =>
    [("order_id", idName order.id), ("item_id", order.itemId),
      ("quantity", toString order.quantity), ("error", commit.message)]
  | storesDiverged failure =>
    [("order_id", idName failure.orderId), ("item_id", failure.itemId),
      ("quantity", toString failure.quantity), ("commit_error", failure.commit.message),
      ("error", failure.cause.message)]
  | queueDrained => []
  | workersStarted workers => [("workers", toString workers)]
  | workerCrashed => [("error", "panicked")]
  | workersStopped tally =>
    [("persisted", toString tally.persisted), ("compensated", toString tally.compensated),
      ("compensation_failures", toString tally.compensationFailures)]
  | pipelineStarted workers capacity timeoutMillis =>
    [("workers", toString workers), ("queue_capacity", toString capacity),
      ("commit_timeout_ms", toString timeoutMillis)]
  | queueClosing queued => [("queued", toString queued)]
  | inventorySeeded item stock => [("item_id", item), ("stock", toString stock)]
  | orderCommitted id item => [("order_id", idName id), ("item_id", item)]

/-- The line of an event. -/
def line (idName : Uuid → String) (e : Event) : String :=
  let mark := if e.isCritical then [("critical", "true")] else []
  let fields := (mark ++ e.fields idName).map fun (name, value) => name ++ "=" ++ value
  e.level.name ++ " " ++ e.message ++ " | " ++ String.intercalate " " fields

end Event

end FlashSale
