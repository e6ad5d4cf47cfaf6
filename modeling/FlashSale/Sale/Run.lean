import FlashSale.Sale.Step

/-!
# Running a sale

The tasks that are ready run until none is; only then does time move, and only to
the next time that a task waits for. These are the actions from outside: starting
tasks, dropping them, closing the queue, and letting time pass.

A purchase that is dropped while it waits for the queue still owns stock. A task
of its own puts that stock back. Dropped outside the sale, it can start no task:
the loss is reported and the stock stays out.
-/

namespace FlashSale.Sale

/-- More steps than the ready tasks can take: a task takes few steps, and so does an order. -/
def budget (s : Sale) : Nat :=
  64 * (s.tasks.entries.length + s.queue.buffer.length + s.ready.length + 1)

def runFor : Nat → Sale → Sale
  | 0, s => s
  | n + 1, s => if s.ready.isEmpty then s else runFor n s.step

/-- Runs tasks until none is ready. -/
def run (s : Sale) : Sale := runFor s.budget s

/-- The earliest time of a timer after `time` and not after `finish`. -/
def nextDeadline? (timers : List (Nat × TaskId)) (time finish : Nat) : Option Nat :=
  ((timers.map Prod.fst).filter fun t => time < t && t ≤ finish).min?

theorem nextDeadline?_bounds {timers : List (Nat × TaskId)} {time finish t : Nat}
    (h : nextDeadline? timers time finish = some t) : time < t ∧ t ≤ finish := by
  have test := (List.mem_filter.1 (List.min?_mem h)).2
  simpa using test

/-- The clock shows a later time, and the tasks that waited for it are ready. -/
def fire (s : Sale) (time : Nat) : Sale :=
  let (due, timers) := s.timers.partition fun timer => timer.1 ≤ time
  { s with now := time, timers }.wake (due.map Prod.snd)

def advanceFrom (s : Sale) (time finish : Nat) : Sale :=
  match h : nextDeadline? s.timers time finish with
  | none => { s with now := finish }
  | some t =>
    have _ := nextDeadline?_bounds h
    advanceFrom (s.fire t).run t finish
termination_by finish - time

/-- Lets time pass; what is due at the end of it still happens. -/
def advance (s : Sale) (ms : Nat) : Sale := s.advanceFrom s.now (s.now + ms)

/-- A buyer leaves the line of the queue. -/
def withdraw (s : Sale) (id : TaskId) : Sale :=
  let (queue, woken) := s.queue.withdraw id
  { s with queue }.wake woken

/-- Stock that a dropped purchase owned is put back by a task of its own. -/
def releaseLater (s : Sale) (order : Order) : Sale :=
  (s.emit [.purchaseAbandoned order.itemId order.quantity]).spawn
    (.release order.itemId order.quantity (s.now + s.latency.putBack))

/-- Stock that a purchase owned when it was dropped outside the sale is lost. -/
def reportLoss (s : Sale) (order : Order) : Sale :=
  s.emit [.abandonedOutside order.itemId order.quantity]

/-- Drops a task; `leave` says what becomes of stock that it owns. -/
def drop (s : Sale) (id : TaskId) (leave : Sale → Order → Sale) : Sale :=
  match s.tasks.get? id with
  | none => s
  | some t =>
    match t with
    | .purchase _ _ _ stage _ =>
      match stage.held? with
      | none => s.retire id t
      | some order => leave ((s.retire id t).withdraw id) order
    | .send _ => (s.retire id t).withdraw id
    | .receive _ => (s.leaveLine id).retire id t
    | _ => s.retire id t

/-- Drops a task of a running sale. -/
def cancel (s : Sale) (id : TaskId) : Sale := s.drop id releaseLater

/-- Drops a task where no other task can be started. -/
def abandon (s : Sale) (id : TaskId) : Sale := s.drop id reportLoss

/-- Stops admitting orders. -/
def close (s : Sale) : Sale :=
  let (queue, woken) := s.queue.close
  { s with queue }.wake woken

/-- Whoever kept the receiving end of the queue open gives it up. -/
def dropReceiver (s : Sale) : Sale := { s with receiverHeld := false }.desertIfAlone

/-- Starts workers, at least one, and gives the receiving end of the queue to them. -/
def startWorkers (s : Sale) (workers : Nat) : Sale :=
  let count := max workers 1
  let s := (List.range count).foldl (fun s _ => s.spawn (.receive .worker)) s
  { s with receiverHeld := false }.emit [.workersStarted count]

/-- A sale over two stores, its workers started, unless the capacity of its queue is out of
range. -/
def pipeline? (reservations : Reservations) (ledger : Ledger) (workers capacity commitLimit : Nat) :
    Option Sale := do
  let queue ← AdmissionQueue.open? capacity
  let sale : Sale := { reservations, ledger, queue, commitLimit }
  some ((sale.startWorkers workers).emit [.pipelineStarted workers capacity commitLimit])

/-- Closes the queue and waits for the workers to end. -/
def shutdown (s : Sale) : Sale :=
  (s.emit [.queueClosing s.queue.depth]).close.spawn .join

end FlashSale.Sale
