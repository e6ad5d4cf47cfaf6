import FlashSale.Ledger
import FlashSale.Purchase

/-!
# Tasks

A running service is a number of tasks that take turns. A task is the point that
its work has reached, together with the data needed from there on; it holds no
closure, so two tasks can be compared and all of them can be counted.

Store calls may take time. A task that waits for one keeps the time at which the
call takes effect and, under a time limit, the time at which it gives up.
-/

namespace FlashSale

/-- On whose behalf a task receives or settles orders. -/
inductive Owner where
  | caller
  | worker
deriving DecidableEq, Repr

/-- A call of the reservation store. -/
inductive ReservationCall where
  | setStock (item : String) (quantity : Int32)
  | take (item : String) (quantity : Int32)
  | putBack (item : String) (quantity : Int32)
  | mark (key : String)
deriving DecidableEq, Repr

/-- A call of the ledger. -/
inductive LedgerCall where
  | commit (order : Order)
  | inventory (item : String)
  | update (item : String) (quantity version : Int32)
deriving DecidableEq, Repr

inductive Task where
  /-- A purchase; `web` tells whether it came in over the web. -/
  | purchase (request : PurchaseRequest) (web : Bool) (id : Uuid) (stage : Purchase.Stage)
      (due : Nat)
  /-- Puts back the stock of a purchase that was abandoned. -/
  | release (item : String) (quantity : Int32) (due : Nat)
  | settle (owner : Owner) (order : Order) (stage : Settlement.Stage) (due giveUp : Nat)
  | receive (owner : Owner)
  | send (order : Order)
  | reservation (call : ReservationCall) (due : Nat)
  /-- A call of the ledger; the time of its effect is fixed when it begins. -/
  | ledger (call : LedgerCall) (due : Option Nat)
  /-- Waits for all workers to end. -/
  | join
deriving DecidableEq, Repr

namespace Task

def isWorker : Task → Bool
  | settle .worker .. => true
  | receive .worker => true
  | _ => false

/-- Whether the task keeps the receiving end of the queue open. -/
def isReceiver : Task → Bool
  | settle .worker .. => true
  | receive _ => true
  | _ => false

def isJoin : Task → Bool
  | join => true
  | _ => false

end Task

/-- What a task hands back to whoever started it. -/
inductive Answer where
  /-- The end of a purchase; `web` tells whether it came in over the web. -/
  | purchased (request : PurchaseRequest) (web : Bool) (result : Except PurchaseError Uuid)
  | flag (result : Except StoreError Bool)
  | unit (result : Except StoreError Unit)
  | inventory (result : Except StoreError (Option Inventory))
  | received (order : Option Order)
  /-- The queue has the order. -/
  | sent (order : Order)
  /-- The queue is closed; the order is handed back. -/
  | notSent (order : Order)
  | settled (order : Order) (outcome : Outcome)
  | joined (tally : Tally)
  | ended
  | crashed

end FlashSale
