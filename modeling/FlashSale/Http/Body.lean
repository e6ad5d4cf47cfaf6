import FlashSale.Json.Record
import FlashSale.Purchase

/-!
# Bodies of the web interface

The JSON records that buyers send and receive. Every field of a purchase request
has a default, so that an incomplete one can be told from an unreadable one; of a
response only the order's identifier may be left out, and it is not written when
there is none.
-/

namespace FlashSale

open Json

namespace PurchaseRequest

def fieldNames : List String := ["request_id", "user_id", "item_id", "quantity"]

/-- A request from the values of its fields. -/
def ofFields? : List (Option Value) → Option PurchaseRequest
  | [requestId, userId, itemId, quantity] => do
    some
      { requestId := ← optional "" Value.string? requestId
        userId := ← optional "" Value.string? userId
        itemId := ← optional "" Value.string? itemId
        quantity := ← optional 0 Value.word32? quantity }
  | _ => none

def ofText? (text : Json.Text) : Option PurchaseRequest := do
  let v ← Value.ofText? text
  ofFields? (← v.fields? fieldNames)

def ofJson? (text : String) : Option PurchaseRequest := ofText? (text.toList.map some)

end PurchaseRequest

structure PurchaseResponse where
  success : Bool
  message : String
  orderId : Option Uuid
deriving DecidableEq, Repr

namespace PurchaseResponse

def fieldNames : List String := ["success", "message", "order_id"]

def toJson (r : PurchaseResponse) : String :=
  record <| fieldNames.zip
    (truth r.success :: quote r.message :: (r.orderId.map fun id => quote id.toString).toList)

/-- A response from the values of its fields. -/
def ofFields? : List (Option Value) → Option PurchaseResponse
  | [success, message, orderId] => do
    some
      { success := ← required Value.bool? success
        message := ← required Value.string? message
        orderId := ← optional none (nullable Value.uuid?) orderId }
  | _ => none

def ofJson? (text : String) : Option PurchaseResponse := do
  let v ← Value.ofString? text
  ofFields? (← v.fields? fieldNames)

end PurchaseResponse

structure HealthResponse where
  status : String
  queueDepth : UInt64
  queueCapacity : UInt64
deriving DecidableEq, Repr

namespace HealthResponse

def fieldNames : List String := ["status", "queue_depth", "queue_capacity"]

def toJson (r : HealthResponse) : String :=
  record <| fieldNames.zip
    [quote r.status, Digits.ofInt r.queueDepth.toNat, Digits.ofInt r.queueCapacity.toNat]

/-- A health response from the values of its fields. -/
def ofFields? : List (Option Value) → Option HealthResponse
  | [status, queueDepth, queueCapacity] => do
    some
      { status := ← required Value.string? status
        queueDepth := ← required Value.size64? queueDepth
        queueCapacity := ← required Value.size64? queueCapacity }
  | _ => none

def ofJson? (text : String) : Option HealthResponse := do
  let v ← Value.ofString? text
  ofFields? (← v.fields? fieldNames)

end HealthResponse

end FlashSale
