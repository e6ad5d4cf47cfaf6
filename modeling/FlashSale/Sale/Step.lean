import FlashSale.Key
import FlashSale.Sale.State

/-!
# One step of a sale

In one step a task makes one call, or looks at one thing that it waits for. It
then goes on, waits, or is over. A task that goes on keeps its turn, so that
nothing else runs until it has to wait; that is a choice of the scheduler and not
of the tasks, and `stepTask` may be applied to any task that is ready.

A store call takes effect at once when its time has come. Under a limit the call
wins when its time and the limit come together.
-/

namespace FlashSale.Sale

/-- What a task does at the end of a step. -/
inductive Turn where
  | again (t : Task)
  /-- Waits for a time, or to be woken. -/
  | wait (time : Option Nat)
  | finish (a : Answer)
  | crash

/-- Reports what a purchase reports and goes where it goes. -/
def follow (s : Sale) (r : PurchaseRequest) (web : Bool) (id : Uuid) (m : Purchase.Move) :
    Sale × Turn :=
  let s := s.emit m.events
  match m.next with
  | .go stage => (s, .again (.purchase r web id stage (s.now + s.latency.ofStage stage)))
  | .done result =>
    (if web then s.emit (Purchase.failureEvents r result) else s, .finish (.purchased r web result))

/-- Puts an order into a slot and tells the receiver whose turn it is. -/
def deliver (s : Sale) (queue : AdmissionQueue) (order : Order) : Sale :=
  let queue := queue.put order
  { s with queue }.wake queue.front

/-- A task offers an order to the queue, for the first time or again. -/
def offer (s : Sale) (me : TaskId) (order : Order) : AdmissionQueue.Admission × Sale :=
  if me ∈ s.queue.granted then (.granted, s.deliver (s.queue.claim me) order)
  else if me ∈ s.queue.waiting then (.waiting, s)
  else
    match s.queue.request me with
    | (.granted, queue) => (.granted, s.deliver queue order)
    | (other, queue) => (other, { s with queue })

def stepPurchase (s : Sale) (me : TaskId) (r : PurchaseRequest) (web : Bool) (id : Uuid)
    (stage : Purchase.Stage) (due : Nat) : Sale × Turn :=
  if s.now < due then (s, .wait (some due))
  else
    match stage with
    | .entering => s.follow r web id (Purchase.entered r)
    | .marking =>
      let (reply, reservations) := s.reservations.mark s.now (idempotencyKey r.requestId)
      let s := { s with reservations }
      match reply with
      | .answer result => s.follow r web id (Purchase.marked r result)
      | .overflow => (s, .crash)
    | .reserving =>
      let (reply, reservations) := s.reservations.take r.itemId r.quantity
      let s := { s with reservations }
      match reply with
      | .answer result => s.follow r web id (Purchase.reserved r id s.clock result)
      | .overflow => (s, .crash)
    | .admitting order =>
      match s.offer me order with
      | (.granted, s) => s.follow r web id (Purchase.admitted r order)
      | (.refused, s) => s.follow r web id (Purchase.refused r order)
      | (.waiting, s) => (s, .wait none)
    | .releasing _ =>
      let (reply, reservations) := s.reservations.putBack r.itemId r.quantity
      let s := { s with reservations }
      match reply with
      | .answer result => s.follow r web id (Purchase.released r result)
      | .overflow => (s, .crash)

def stepRelease (s : Sale) (item : String) (quantity : Int32) (due : Nat) : Sale × Turn :=
  if s.now < due then (s, .wait (some due))
  else
    let (reply, reservations) := s.reservations.putBack item quantity
    let s := { s with reservations }
    match reply with
    | .answer (.ok ()) => (s, .finish .ended)
    | .answer (.error e) => (s.emit [.abandonedReleaseFailed item quantity e], .finish .ended)
    | .overflow => (s, .crash)

/-- The event that a worker reports for an outcome. -/
def outcomeEvent (order : Order) : Outcome → Event
  | .persisted => .orderSaved order.id
  | .compensated commit => .stockRestored order commit
  | .compensationFailed failure => .storesDiverged failure

/-- An order is settled: a caller is told, a worker counts it and receives again. -/
def conclude (s : Sale) (owner : Owner) (order : Order) (outcome : Outcome) : Sale × Turn :=
  match owner with
  | .caller => (s, .finish (.settled order outcome))
  | .worker =>
    ({ s with tally := s.tally.record outcome }.emit [outcomeEvent order outcome],
      .again (.receive .worker))

/-- The commit of an order ended. -/
def afterCommit (s : Sale) (owner : Owner) (order : Order) (ended : Awaited) : Sale × Turn :=
  match Settlement.committed s.limit ended with
  | .done outcome => s.conclude owner order outcome
  | .go stage =>
    (s, .again (.settle owner order stage (s.now + s.latency.putBack) (s.now + s.commitLimit)))

def stepSettle (s : Sale) (owner : Owner) (order : Order) (stage : Settlement.Stage)
    (due giveUp : Nat) : Sale × Turn :=
  match stage with
  | .opening =>
    if s.faultyItem = some order.itemId then (s, .crash)
    else
      (s, .again (.settle owner order .committing (s.now + s.ledger.commitDelay)
        (s.now + s.commitLimit)))
  | .committing =>
    if due ≤ s.now then
      let (reply, ledger) := s.ledger.commit s.clock order
      let s := { s with ledger }
      match reply with
      | .answer result => s.afterCommit owner order (.replied result)
      | .overflow => (s, .crash)
    else if giveUp ≤ s.now then s.afterCommit owner order .timedOut
    else (s, .wait (some (min due giveUp)))
  | .restoring commit =>
    if due ≤ s.now then
      let (reply, reservations) := s.reservations.putBack order.itemId order.quantity
      let s := { s with reservations }
      match reply with
      | .answer result =>
        s.conclude owner order (Settlement.restored s.limit order commit (.replied result))
      | .overflow => (s, .crash)
    else if giveUp ≤ s.now then
      s.conclude owner order (Settlement.restored s.limit order commit .timedOut)
    else (s, .wait (some (min due giveUp)))

/-- A receiver leaves the line and the next one's turn comes. -/
def leaveLine (s : Sale) (me : TaskId) : Sale :=
  let (queue, woken) := s.queue.leaveLine me
  { s with queue }.wake woken

def stepReceive (s : Sale) (me : TaskId) (owner : Owner) : Sale × Turn :=
  let s := { s with queue := s.queue.joinLine me }
  if s.queue.receivers.head? = some me then
    match s.queue.pop? with
    | some (order, queue, woken) =>
      let s := ({ s with queue := queue.uncount }.wake woken).leaveLine me
      match owner with
      | .caller => (s, .finish (.received (some order)))
      | .worker => (s, .again (.settle .worker order .opening s.now s.now))
    | none =>
      if s.queue.ended then
        let s := s.leaveLine me
        match owner with
        | .caller => (s, .finish (.received none))
        | .worker => (s.emit [.queueDrained], .finish .ended)
      else (s, .wait none)
  else (s, .wait none)

def stepSend (s : Sale) (me : TaskId) (order : Order) : Sale × Turn :=
  match s.offer me order with
  | (.granted, s) => (s, .finish (.sent order))
  | (.refused, s) => (s, .finish (.notSent order))
  | (.waiting, s) => (s, .wait none)

/-- Answers with what a store replied. -/
def answer {α : Type} (s : Sale) (make : Except StoreError α → Answer) : Reply α → Sale × Turn
  | .answer result => (s, .finish (make result))
  | .overflow => (s, .crash)

def stepReservation (s : Sale) (call : ReservationCall) (due : Nat) : Sale × Turn :=
  if s.now < due then (s, .wait (some due))
  else
    match call with
    | .setStock item quantity =>
      let (reply, reservations) := s.reservations.setStock item quantity
      { s with reservations }.answer .unit reply
    | .take item quantity =>
      let (reply, reservations) := s.reservations.take item quantity
      { s with reservations }.answer .flag reply
    | .putBack item quantity =>
      let (reply, reservations) := s.reservations.putBack item quantity
      { s with reservations }.answer .unit reply
    | .mark key =>
      let (reply, reservations) := s.reservations.mark s.now key
      { s with reservations }.answer .flag reply

def stepLedger (s : Sale) (call : LedgerCall) (due : Option Nat) : Sale × Turn :=
  match call with
  | .commit order =>
    match due with
    | none =>
      if s.faultyItem = some order.itemId then (s, .crash)
      else (s, .again (.ledger call (some (s.now + s.ledger.commitDelay))))
    | some due =>
      if s.now < due then (s, .wait (some due))
      else
        let (reply, ledger) := s.ledger.commit s.clock order
        { s with ledger }.answer .unit reply
  | .inventory item => s.answer .inventory (s.ledger.inventory? item)
  | .update item quantity version =>
    let (reply, ledger) := s.ledger.update s.clock item quantity version
    { s with ledger }.answer .unit reply

/-- Goes on when no worker is left, and reports how the workers fared. -/
def stepJoin (s : Sale) : Sale × Turn :=
  if s.hasWorkers then (s, .wait none)
  else
    (s.emit (List.replicate s.crashedWorkers .workerCrashed ++ [.workersStopped s.tally]),
      .finish (.joined s.tally))

def act (s : Sale) (me : TaskId) : Task → Sale × Turn
  | .purchase r web id stage due => s.stepPurchase me r web id stage due
  | .release item quantity due => s.stepRelease item quantity due
  | .settle owner order stage due giveUp => s.stepSettle owner order stage due giveUp
  | .receive owner => s.stepReceive me owner
  | .send order => s.stepSend me order
  | .reservation call due => s.stepReservation call due
  | .ledger call due => s.stepLedger call due
  | .join => s.stepJoin

/-- Puts a task where the end of its step says. -/
def place (s : Sale) (me : TaskId) (t : Task) : Turn → Sale
  | .again t => { s with tasks := s.tasks.insert me t }
  | .wait none => { s with ready := s.ready.erase me }
  | .wait (some time) =>
    { s with ready := s.ready.erase me, timers := s.timers ++ [(time, me)] }
  | .finish a => { s.retire me t with answers := s.answers ++ [(me, a)] }
  | .crash =>
    { s.retire me t with
      answers := s.answers ++ [(me, .crashed)]
      crashedWorkers := if t.isWorker then s.crashedWorkers + 1 else s.crashedWorkers }

/-- One step of a task. -/
def stepTask (s : Sale) (me : TaskId) : Sale :=
  match s.tasks.get? me with
  | none => { s with ready := s.ready.erase me }
  | some t =>
    let (s, turn) := s.act me t
    s.place me t turn

/-- One step of the task whose turn it is. -/
def step (s : Sale) : Sale :=
  match s.ready with
  | [] => s
  | me :: _ => s.stepTask me

end FlashSale.Sale
