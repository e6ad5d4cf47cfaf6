import FlashSale.Http.Router
import FlashSale.Sale.Run

/-!
# Commands of a rehearsal

A rehearsal plays commands against a sale, one after another, on a clock that
moves only when a command says so. Most commands start a task under a tag; the
others look at something, throw a switch, or let time pass.
-/

namespace FlashSale.Rehearsal

/-- Which parts of a sale there are: each mode but the first has a queue. -/
inductive Mode where
  | stores
  | queue
  | service
  | pipeline
deriving DecidableEq, Repr

structure Setup where
  mode : Mode := .stores
  /-- Time to live of a request marker, in milliseconds. -/
  ttl : Nat := 86400000
  capacity : Nat := 10000
  workers : Nat := 10
  commitLimit : Nat := 5000
  /-- Items that are looked at after each command. -/
  watch : List String := []

/-- The calls of the reservation store that can be slowed down. -/
inductive SlowCall where
  | take
  | putBack
  | mark
deriving DecidableEq, Repr

/-- How an order is named: by its identifier, or by the tag of the purchase that made it. -/
inductive OrderRef where
  | id (id : Uuid)
  | tag (tag : String)

inductive Command where
  | reservation (call : ReservationCall)
  | stock (item : String)
  | reservationsUnavailable (on : Bool)
  | failIncrements (on : Bool)
  | slow (call : SlowCall) (ms : Nat)
  | seed (item : String) (stock : Int32)
  | ledger (call : LedgerCall)
  | findOrder (ref : OrderRef)
  | countOrders (item : String)
  | ledgerUnavailable (on : Bool)
  | commitDelay (ms : Nat)
  | faultyItem (item : Option String)
  | send (order : Order)
  | isClosed
  | receive
  | dropReceiver
  | close
  | capacity
  | purchase (r : PurchaseRequest)
  | abandonOutside (r : PurchaseRequest)
  | http (r : Http.Request)
  | process (order : Order)
  | shutdown
  | startWorkers (workers : Nat)
  | join
  | advance (ms : Nat)
  | cancel (tag : String)

/-- What a command comes to at once. -/
inductive Result where
  | ok
  | pending
  | cancelled
  | notPending
  | noReceiver
  | noPipeline
  | noPool
  | flag (b : Bool)
  | count (n : Nat)
  | stock (n : Option Int64)
  | order (o : Option Order)
  | response (r : Http.Response)
  | answer (a : Answer)
  /-- A sum left its range outside of any task, which ends the rehearsal. -/
  | overflow

/-- What can be seen of an item. -/
structure Glimpse where
  item : String
  stock : Option Int64
  inventory : Option Inventory
  orders : Nat

/-- What is written down after a command. -/
structure Entry where
  result : Result
  /-- The tasks of earlier commands that ended, by tag. -/
  done : List (String × Answer)
  /-- The lines of the log, sorted. -/
  log : List String
  now : Nat
  depth : Option Nat
  items : List Glimpse
  /-- How identifiers of orders are written. -/
  idName : Uuid → String

end FlashSale.Rehearsal
