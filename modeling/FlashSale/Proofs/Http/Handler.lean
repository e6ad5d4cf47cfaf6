import FlashSale.Proofs.Sale.Plain
import FlashSale.Proofs.Sale.Web
import FlashSale.Rehearsal.Session

/-!
# Purchases that are posted

What is posted to the purchases is refused at once, without a trace, or is a purchase like any
other. `Handles` says so of one request in one state: a purchase that was let through differs
from one that was made directly in nothing that can ever be seen, whatever happens to it, but
for the failure that is reported for the web. How the answer follows from the end of the
purchase is `Sale.Responds`.
-/

namespace FlashSale.Rehearsal.Session

/-- The session, as if no purchase came in over the web. -/
def plain (s : Session) : Session := { s with sale := s.sale.plain }

/-- The session after a further course of its sale. -/
def onward (s : Session) (actions : List Action) : Session :=
  { s with sale := s.sale.after actions }

variable {s : Session} {tag : String} {request : Http.Request} {r : PurchaseRequest}

end FlashSale.Rehearsal.Session
