import FlashSale.Event

/-!
# A purchase

A purchase marks its request, takes the stock, and puts an order for it into the
admission queue; each step decides whether the next is taken. The marker stays
whatever follows. Stock that was taken belongs to the purchase until the queue
has the order: if the queue refuses, the purchase puts the stock back itself,
and a purchase that is abandoned while it waits for the queue leaves the stock
to be put back.

The rules here say what follows from a reply. They neither call a store nor hold
a queue, so they hold for any of either.
-/

namespace FlashSale

/-- What a buyer asks for. -/
structure PurchaseRequest where
  requestId : String
  userId : String
  itemId : String
  quantity : Int32
deriving DecidableEq, Repr

namespace Purchase

/-- Where a purchase stands, and the order it is about once there is one. -/
inductive Stage where
  | entering
  | marking
  | reserving
  | admitting (order : Order)
  | releasing (order : Order)
deriving DecidableEq, Repr

inductive Next where
  | go (stage : Stage)
  | done (result : Except PurchaseError Uuid)

/-- What a purchase does on a reply: it reports events and goes on, or is done. -/
structure Move where
  next : Next
  events : List Event := []

def Move.go (stage : Stage) : Move := { next := .go stage }

/-- A refusal without an event. -/
def Move.refuse (e : PurchaseError) : Move := { next := .done (.error e) }

/-- The purchase begins. -/
def entered (r : PurchaseRequest) : Move :=
  if r.quantity ≤ 0 then .refuse (.invalidQuantity r.quantity) else .go .marking

/-- The attempt to write the marker ended. -/
def marked (r : PurchaseRequest) : Except StoreError Bool → Move
  | .error e => .refuse (.storeUnavailable e)
  | .ok true => .go .reserving
  | .ok false =>
    { next := .done (.error .duplicateRequest), events := [.duplicateRequest r.requestId] }

/-- The attempt to take the stock ended. -/
def reserved (r : PurchaseRequest) (id : Uuid) (now : Timestamp) : Except StoreError Bool → Move
  | .error e => .refuse (.storeUnavailable e)
  | .ok true => .go (.admitting (.pending id r.userId r.itemId r.quantity now))
  | .ok false =>
    { next := .done (.error .insufficientStock)
      events := [.insufficientStock r.requestId r.itemId r.quantity] }

/-- The queue has the order. -/
def admitted (r : PurchaseRequest) (order : Order) : Move :=
  { next := .done (.ok order.id)
    events := [.orderAdmitted r.requestId order.id r.itemId r.quantity] }

/-- The queue refused the order. -/
def refused (r : PurchaseRequest) (order : Order) : Move :=
  { next := .go (.releasing order), events := [.admissionClosed r.requestId order.id] }

/-- The attempt to put the stock back ended. -/
def released (r : PurchaseRequest) : Except StoreError Unit → Move
  | .ok () => { next := .done (.error .queueClosed) }
  | .error e =>
    { next := .done (.error .queueClosed), events := [.releaseFailed r.itemId r.quantity e] }

/-- The order whose stock a purchase would leave behind if it were abandoned now. -/
def Stage.held? : Stage → Option Order
  | admitting order => some order
  | _ => none

/-- What is reported of a purchase that came in over the web and failed inside the service. -/
def failureEvents (r : PurchaseRequest) : Except PurchaseError Uuid → List Event
  | .ok _ => []
  | .error e => if e.isInternal then [.purchaseFailed r.requestId e] else []

end Purchase

end FlashSale
