import FlashSale.Http.Body
import FlashSale.Http.MediaType
import FlashSale.Text.Utf8

/-!
# The web interface

Two resources are served: purchases, which are posted, and the health of the
service, which is read. A request is answered at once or is a purchase to be made;
the answer to a purchase follows from how the purchase ends.

Any page may use the service, so every answer allows all origins, and a request for
the options of a resource, known or not, is granted.
-/

namespace FlashSale.Http

structure Request where
  method : String
  target : String
  headers : List (String × String)
  body : ByteArray

structure Response where
  status : Nat
  /-- Names and values, sorted by name. -/
  headers : List (String × String)
  body : String
deriving DecidableEq, Repr

/-- The resource that the path of a request names. -/
inductive Resource where
  | purchases
  | health
  | unknown
deriving DecidableEq, Repr

namespace Resource

/-- The path of a target, without authority, query and fragment. -/
def pathOf (target : String) : List Char :=
  let path := target.toList.takeWhile fun c => c != '?' && c != '#'
  match path.dropWhile Char.isAlpha with
  | ':' :: '/' :: '/' :: rest => rest.dropWhile (· != '/')
  | _ => path

def ofTarget (target : String) : Resource :=
  let path := pathOf target
  if path = "/api/purchase".toList then purchases
  else if path = "/health".toList then health
  else unknown

/-- The methods that a resource has. -/
def allowed : Resource → Option String
  | purchases => some "POST"
  | health => some "GET,HEAD"
  | unknown => none

end Resource

/-- An answer with headers for its body; a body may be announced and yet not be sent. -/
def response (status : Nat) (extra : List (String × String)) (json : Option String)
    (send : Bool) : Response where
  status
  headers :=
    extra ++ [("content-length", toString (json.getD "").utf8ByteSize)] ++
      (if json.isSome then [("content-type", "application/json")] else []) ++
      [("vary", "origin, access-control-request-method, access-control-request-headers")]
  body := if send then json.getD "" else ""

def anyOrigin : String × String := ("access-control-allow-origin", "*")

/-- The header that lists the methods of a resource. -/
def allowHeader (r : Resource) : List (String × String) :=
  (r.allowed.map fun methods => ("allow", methods)).toList

/-- The answer with a JSON body. -/
def ofJson (status : Nat) (json : String) : Response := response status [anyOrigin] (some json) true

def options (r : Resource) : Response :=
  response 200
    ([("access-control-allow-headers", "*"), ("access-control-allow-methods", "*"), anyOrigin] ++
      allowHeader r) none true

def notFound : Response := response 404 [anyOrigin] none true

def methodNotAllowed (r : Resource) : Response :=
  response 405 (anyOrigin :: allowHeader r) none true

/-- The answer to a refused purchase. -/
def rejected (status : Nat) (message : String) : Response :=
  ofJson status (PurchaseResponse.toJson { success := false, message, orderId := none })

/-- The status and the message of a refusal; what went wrong inside is not told. -/
def statusOf : PurchaseError → Nat × String
  | .invalidQuantity _ => (400, "quantity must be positive")
  | .duplicateRequest => (409, "duplicate request")
  | .insufficientStock => (410, "sold out")
  | .storeUnavailable _ => (500, "internal error")
  | .queueClosed => (500, "internal error")

/-- The answer to a purchase that came to its end. -/
def purchased : Except PurchaseError Uuid → Response
  | .ok id =>
    ofJson 200
      (PurchaseResponse.toJson
        { success := true, message := "order placed successfully", orderId := some id })
  | .error e =>
    let (status, message) := statusOf e
    rejected status message

/-- Whether every field of a request has been filled in. -/
def isComplete (r : PurchaseRequest) : Bool :=
  !r.requestId.isEmpty && !r.userId.isEmpty && !r.itemId.isEmpty && 0 < r.quantity

/-- The greatest size of a body, in bytes. -/
def maxBodySize : Nat := 2097152

/-- Whether the first content-type header names a type of JSON. -/
def hasJsonType (headers : List (String × String)) : Bool :=
  match headers.find? fun h => h.1.map Char.toLower = "content-type" with
  | none => false
  | some (_, value) => MediaType.isJson value

/-- The purchase request in a body. -/
def readPurchase? (r : Request) : Option PurchaseRequest :=
  if hasJsonType r.headers && r.body.size ≤ maxBodySize then
    PurchaseRequest.ofText? (Utf8.decode r.body)
  else none

/-- What becomes of a request. -/
inductive Action where
  | answer (r : Response)
  | purchase (r : PurchaseRequest)

def route (queueDepth queueCapacity : Nat) (r : Request) : Action :=
  let resource := Resource.ofTarget r.target
  if r.method = "OPTIONS" then .answer (options resource)
  else
    match resource with
    | .unknown => .answer notFound
    | .health =>
      let health : HealthResponse :=
        { status := "ok"
          queueDepth := .ofNat queueDepth
          queueCapacity := .ofNat queueCapacity }
      if r.method = "GET" then .answer (ofJson 200 health.toJson)
      else if r.method = "HEAD" then .answer (response 200 [anyOrigin] (some health.toJson) false)
      else .answer (methodNotAllowed resource)
    | .purchases =>
      if r.method = "POST" then
        match readPurchase? r with
        | none => .answer (rejected 400 "invalid request body")
        | some request =>
          if isComplete request then .purchase request
          else .answer (rejected 400 "missing required fields")
      else .answer (methodNotAllowed resource)

end FlashSale.Http
