import FlashSale.AdmissionQueue
import FlashSale.Reservations
import FlashSale.Sale.Task

/-!
# The state of a sale

A sale is everything that runs together: the clock, the two stores, the admission
queue, the tasks with the order in which they take turns, and what has been
reported so far. Times are milliseconds since the sale opened.

A task is ready, waits for a time, or waits to be woken. The functions here only
move tasks between these three; what a task does when its turn comes is the
subject of the next module.
-/

namespace FlashSale

/-- Milliseconds that calls of the reservation store wait before they take effect. -/
structure Latency where
  take : Nat := 0
  putBack : Nat := 0
  mark : Nat := 0

namespace Latency

/-- The wait of the call that a purchase makes at a stage. -/
def ofStage (l : Latency) : Purchase.Stage → Nat
  | .marking => l.mark
  | .reserving => l.take
  | .releasing _ => l.putBack
  | _ => 0

def ofCall (l : Latency) : ReservationCall → Nat
  | .setStock .. => 0
  | .take .. => l.take
  | .putBack .. => l.putBack
  | .mark .. => l.mark

end Latency

structure Sale where
  now : Nat := 0
  reservations : Reservations
  ledger : Ledger := {}
  queue : AdmissionQueue
  /-- The limit on each commit and on each attempt to put stock back, in milliseconds. -/
  commitLimit : Nat := 5000
  latency : Latency := {}
  /-- The item whose commits bring their task down, if there is one. -/
  faultyItem : Option String := none
  /-- Whether somebody who is no task keeps the receiving end of the queue open. -/
  receiverHeld : Bool := true
  tasks : Table TaskId Task := ∅
  /-- Tasks whose turn comes, the next one first. -/
  ready : List TaskId := []
  /-- Tasks that wait for a time, in the order in which they began to wait. -/
  timers : List (Nat × TaskId) := []
  nextTask : TaskId := 0
  tally : Tally := {}
  crashedWorkers : Nat := 0
  answers : List (TaskId × Answer) := []
  log : List Event := []

namespace Sale

/-- The time of day at which every sale opens, in milliseconds since the start of 1970. -/
def openingMillis : Int := 1704067200000

/-- The moment that the clock shows. -/
def clock (s : Sale) : Timestamp := .ofMillis (openingMillis + s.now)

def limit (s : Sale) : Duration := .ofMillis s.commitLimit

def emit (s : Sale) (events : List Event) : Sale := { s with log := s.log ++ events }

/-- Makes tasks ready that are not. -/
def wake (s : Sale) (ids : List TaskId) : Sale :=
  { s with ready := s.ready ++ ids.filter (· ∉ s.ready) }

/-- Starts a task; its turn comes after those of the tasks that are ready. -/
def spawn (s : Sale) (t : Task) : Sale :=
  { s with
    tasks := s.tasks.insert s.nextTask t
    ready := s.ready ++ [s.nextTask]
    nextTask := s.nextTask + 1 }

def hasWorkers (s : Sale) : Bool := s.tasks.entries.any fun e => e.2.isWorker

def hasReceivers (s : Sale) : Bool :=
  s.receiverHeld || s.tasks.entries.any fun e => e.2.isReceiver

/-- Deserts the queue if no receiver is left. -/
def desertIfAlone (s : Sale) : Sale :=
  if s.hasReceivers then s
  else
    let (queue, woken) := s.queue.desert
    { s with queue }.wake woken

/-- Wakes those who wait for the workers if none is left. -/
def wakeJoins (s : Sale) : Sale :=
  if s.hasWorkers then s
  else s.wake ((s.tasks.entries.filter fun e => e.2.isJoin).map Prod.fst)

/-- Takes a task out of the sale. -/
def remove (s : Sale) (id : TaskId) : Sale :=
  { s with
    tasks := s.tasks.erase id
    ready := s.ready.erase id
    timers := s.timers.filter fun timer => timer.2 != id }

/-- A task is over: the ends that it held are gone with it. -/
def retire (s : Sale) (id : TaskId) (t : Task) : Sale :=
  let s := s.remove id
  let s := if t.isReceiver then s.desertIfAlone else s
  if t.isWorker then s.wakeJoins else s

end Sale

end FlashSale
