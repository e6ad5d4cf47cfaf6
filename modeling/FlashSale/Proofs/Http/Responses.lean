import FlashSale.Http.Router
import FlashSale.Proofs.Json.RoundTrip

/-!
# Answers of the web interface

The answer to a purchase has a status and a body, and both follow from how the purchase ended.
Success, the status 200 and the identifier of an order go together, in the answer as the buyer
reads it. A purchase that the web interface lets through is for a positive quantity, so that
nobody is ever told that it should be.
-/

namespace FlashSale

/-- A field was left out or left empty, or the quantity is not positive. A field that
was left out is read as an empty one. -/
def PurchaseRequest.Incomplete (r : PurchaseRequest) : Prop :=
  r.requestId = "" ∨ r.userId = "" ∨ r.itemId = "" ∨ r.quantity.toInt ≤ 0

namespace Http

/-- What the buyer reads in a body: success goes with the status 200 and with an
identifier. The message is never the one about quantities. -/
structure Response.Tells (response : Response) (orderId : Option Uuid) : Prop where
  status : response.status = 200 ↔ orderId.isSome = true
  body : ∃ message, message ≠ "quantity must be positive" ∧
    PurchaseResponse.ofJson? response.body =
      some { success := orderId.isSome, message, orderId }

variable {result : Except PurchaseError Uuid} {r : PurchaseRequest} {request : Request}

/-- The status says that the service failed just when that is to be reported. Refusals
that are the buyer's have statuses of their own. -/
theorem purchased_status_eq_500_iff {e : PurchaseError} :
    (purchased (.error e)).status = 500 ↔ e.isInternal = true := by
  cases e <;> simp [purchased, statusOf, rejected, ofJson, response, PurchaseError.isInternal]

/-- What the router looks for is that nothing is left out, left empty or not positive.
-/
theorem isComplete_iff : isComplete r = true ↔ ¬ r.Incomplete := by
  have empty (s : String) : s.isEmpty = true ↔ s = "" := String.isEmpty_iff
  have positive : 0 < r.quantity ↔ 0 < r.quantity.toInt := Int32.lt_iff_toInt_lt
  simp [isComplete, PurchaseRequest.Incomplete, positive, and_assoc]

/-- A purchase is made only of what is complete, so that its quantity is positive from
the beginning. -/
theorem complete_of_route {depth capacity : Nat}
    (let_through : route depth capacity request = .purchase r) : ¬ r.Incomplete := by
  rw [← isComplete_iff]
  unfold route at let_through
  dsimp only at let_through
  split at let_through
  · cases let_through
  split at let_through
  case h_1 => cases let_through
  case h_2 =>
    split at let_through
    · cases let_through
    split at let_through <;> cases let_through
  case h_3 =>
    split at let_through
    · split at let_through
      · cases let_through
      split at let_through
      · cases let_through
        assumption
      · cases let_through
    · cases let_through

end Http

end FlashSale
