import FlashSale.Proofs.AdmissionQueue.Stream
import FlashSale.Proofs.Reservations.Counters
import FlashSale.Proofs.Sale.Action

/-!
# What a task can do in one step

`Deed s me t s' turn` lists everything that the task `t`, named `me`, can do in one
step: the state `s'` in which it leaves the sale and where it stands afterwards. Each
case says what the task was told by the store or the queue, so that a property of
steps is proved by cases on deeds and never by opening the step functions. The
order in which tasks are ready is left open; nothing that follows depends on it.

`act_deed` proves that the list is complete.
-/

namespace FlashSale

namespace Purchase

/-- What is reported when a purchase ends, apart from its own events. -/
def endEvents (r : PurchaseRequest) (web : Bool) (result : Except PurchaseError Uuid) :
    List Event := if web then failureEvents r result else []

end Purchase

namespace Sale

open AdmissionQueue

/-- The ways in which an offer to the queue can go: the order has a slot, the queue is
closed, or the task stands in line. -/
theorem offer_cases (s : Sale) (me : TaskId) (order : Order) :
    (∃ queue ready, HasSlot s.queue me queue ∧
      s.offer me order = (.granted, { s with queue := queue.put order, ready })) ∨
    (s.queue.isClosed = true ∧ s.offer me order = (.refused, s)) ∨
    (∃ queue, StandsInLine s.queue me queue ∧ s.offer me order = (.waiting, { s with queue })) := by
  unfold offer
  by_cases given : me ∈ s.queue.granted
  · exact .inl ⟨_, _, .granted given, by rw [if_pos given]; rfl⟩
  by_cases standing : me ∈ s.queue.waiting
  · exact .inr (.inr ⟨_, .still standing, by rw [if_neg given, if_pos standing]⟩)
  rw [if_neg given, if_neg standing]
  obtain ⟨isClosed, eq⟩ | ⟨queue, line, eq⟩ | ⟨queue, slot, eq⟩ := s.queue.request_cases me
  · exact .inr (.inl ⟨isClosed, by rw [eq]⟩)
  · exact .inr (.inr ⟨queue, line, by rw [eq]⟩)
  · exact .inl ⟨queue, _, slot, by rw [eq]; rfl⟩

/-- What a task can do in one step. A case names what the task was told, and not the
test by which the code came there. -/
inductive Deed (s : Sale) (me : TaskId) : Task → Sale → Turn → Prop where
  /-- The time for which the task waits has not come. -/
  | asleep (t : Task) {time : Nat} (later : s.now < time) : Deed s me t s (.wait (some time))
  -- Purchases.
  | turnedAway {r web id due} (unfit : r.quantity ≤ 0) :
      Deed s me (.purchase r web id .entering due) s
        (.finish (.purchased r web (.error (.invalidQuantity r.quantity))))
  | entered {r web id due} (fit : ¬ r.quantity ≤ 0) :
      Deed s me (.purchase r web id .entering due) s
        (.again (.purchase r web id .marking (s.now + s.latency.mark)))
  | marked {r web id due reservations}
      (reply : s.reservations.mark s.now (idempotencyKey r.requestId) =
        (.answer (.ok true), reservations)) :
      Deed s me (.purchase r web id .marking due) { s with reservations }
        (.again (.purchase r web id .reserving (s.now + s.latency.take)))
  | duplicate {r web id due reservations}
      (reply : s.reservations.mark s.now (idempotencyKey r.requestId) =
        (.answer (.ok false), reservations)) :
      Deed s me (.purchase r web id .marking due)
        { s with reservations, log := s.log ++ [.duplicateRequest r.requestId] }
        (.finish (.purchased r web (.error .duplicateRequest)))
  | markRefused {r web id due reservations e}
      (reply : s.reservations.mark s.now (idempotencyKey r.requestId) =
        (.answer (.error e), reservations)) :
      Deed s me (.purchase r web id .marking due)
        { s with
          reservations
          log := s.log ++ Purchase.endEvents r web (.error (.storeUnavailable e)) }
        (.finish (.purchased r web (.error (.storeUnavailable e))))
  | markOverflowed {r web id due reservations}
      (reply : s.reservations.mark s.now (idempotencyKey r.requestId) = (.overflow, reservations)) :
      Deed s me (.purchase r web id .marking due) { s with reservations } .crash
  | reserved {r web id due reservations}
      (reply : s.reservations.take r.itemId r.quantity = (.answer (.ok true), reservations)) :
      Deed s me (.purchase r web id .reserving due) { s with reservations }
        (.again (.purchase r web id
          (.admitting (.pending id r.userId r.itemId r.quantity s.clock)) s.now))
  | soldOut {r web id due reservations}
      (reply : s.reservations.take r.itemId r.quantity = (.answer (.ok false), reservations)) :
      Deed s me (.purchase r web id .reserving due)
        { s with
          reservations
          log := s.log ++ [.insufficientStock r.requestId r.itemId r.quantity] }
        (.finish (.purchased r web (.error .insufficientStock)))
  | takeRefused {r web id due reservations e}
      (reply : s.reservations.take r.itemId r.quantity = (.answer (.error e), reservations)) :
      Deed s me (.purchase r web id .reserving due)
        { s with
          reservations
          log := s.log ++ Purchase.endEvents r web (.error (.storeUnavailable e)) }
        (.finish (.purchased r web (.error (.storeUnavailable e))))
  | takeOverflowed {r web id due reservations}
      (reply : s.reservations.take r.itemId r.quantity = (.overflow, reservations)) :
      Deed s me (.purchase r web id .reserving due) { s with reservations } .crash
  | admitted {r web id order due queue ready} (slot : HasSlot s.queue me queue) :
      Deed s me (.purchase r web id (.admitting order) due)
        { s with
          queue := queue.put order
          ready
          log := s.log ++ [.orderAdmitted r.requestId order.id r.itemId r.quantity] }
        (.finish (.purchased r web (.ok order.id)))
  | refused {r web id order due} (isClosed : s.queue.isClosed = true) :
      Deed s me (.purchase r web id (.admitting order) due)
        { s with log := s.log ++ [.admissionClosed r.requestId order.id] }
        (.again (.purchase r web id (.releasing order) (s.now + s.latency.putBack)))
  | inLine {r web id order due queue} (line : StandsInLine s.queue me queue) :
      Deed s me (.purchase r web id (.admitting order) due) { s with queue } (.wait none)
  | released {r web id order due reservations}
      (reply : s.reservations.putBack r.itemId r.quantity = (.answer (.ok ()), reservations)) :
      Deed s me (.purchase r web id (.releasing order) due)
        { s with
          reservations
          log := s.log ++ Purchase.endEvents r web (.error .queueClosed) }
        (.finish (.purchased r web (.error .queueClosed)))
  | releaseFailed {r web id order due reservations e}
      (reply : s.reservations.putBack r.itemId r.quantity = (.answer (.error e), reservations)) :
      Deed s me (.purchase r web id (.releasing order) due)
        { s with
          reservations
          log := s.log ++ .releaseFailed r.itemId r.quantity e ::
            Purchase.endEvents r web (.error .queueClosed) }
        (.finish (.purchased r web (.error .queueClosed)))
  | releaseOverflowed {r web id order due reservations}
      (reply : s.reservations.putBack r.itemId r.quantity = (.overflow, reservations)) :
      Deed s me (.purchase r web id (.releasing order) due) { s with reservations } .crash
  -- Stock of abandoned purchases.
  | returned {item quantity due reservations}
      (reply : s.reservations.putBack item quantity = (.answer (.ok ()), reservations)) :
      Deed s me (.release item quantity due) { s with reservations } (.finish .ended)
  | returnFailed {item quantity due reservations e}
      (reply : s.reservations.putBack item quantity = (.answer (.error e), reservations)) :
      Deed s me (.release item quantity due)
        { s with reservations, log := s.log ++ [.abandonedReleaseFailed item quantity e] }
        (.finish .ended)
  | returnOverflowed {item quantity due reservations}
      (reply : s.reservations.putBack item quantity = (.overflow, reservations)) :
      Deed s me (.release item quantity due) { s with reservations } .crash
  -- Settling an order.
  | collapsed {owner order due giveUp} (faulty : s.faultyItem = some order.itemId) :
      Deed s me (.settle owner order .opening due giveUp) s .crash
  | begun {owner order due giveUp} :
      Deed s me (.settle owner order .opening due giveUp) s
        (.again (.settle owner order .committing (s.now + s.ledger.commitDelay)
          (s.now + s.commitLimit)))
  | committed {owner order due giveUp ledger} (inTime : due ≤ s.now)
      (reply : s.ledger.commit s.clock order = (.answer (.ok ()), ledger)) :
      Deed s me (.settle owner order .committing due giveUp)
        ({ s with ledger }.conclude owner order .persisted).1
        ({ s with ledger }.conclude owner order .persisted).2
  | commitRefused {owner order due giveUp ledger e} (inTime : due ≤ s.now)
      (reply : s.ledger.commit s.clock order = (.answer (.error e), ledger)) :
      Deed s me (.settle owner order .committing due giveUp) { s with ledger }
        (.again (.settle owner order (.restoring (.store e)) (s.now + s.latency.putBack)
          (s.now + s.commitLimit)))
  | commitOverflowed {owner order due giveUp ledger} (inTime : due ≤ s.now)
      (reply : s.ledger.commit s.clock order = (.overflow, ledger)) :
      Deed s me (.settle owner order .committing due giveUp) { s with ledger } .crash
  | commitTimedOut {owner order due giveUp} (late : s.now < due) (ends : giveUp ≤ s.now) :
      Deed s me (.settle owner order .committing due giveUp) s
        (.again (.settle owner order (.restoring (.timeout s.limit)) (s.now + s.latency.putBack)
          (s.now + s.commitLimit)))
  | restored {owner order commit due giveUp reservations} (inTime : due ≤ s.now)
      (reply : s.reservations.putBack order.itemId order.quantity =
        (.answer (.ok ()), reservations)) :
      Deed s me (.settle owner order (.restoring commit) due giveUp)
        ({ s with reservations }.conclude owner order (.compensated commit)).1
        ({ s with reservations }.conclude owner order (.compensated commit)).2
  | restoreFailed {owner order commit due giveUp failure}
      (about : failure.orderId = order.id ∧ failure.itemId = order.itemId ∧
        failure.quantity = order.quantity) :
      Deed s me (.settle owner order (.restoring commit) due giveUp)
        (s.conclude owner order (.compensationFailed failure)).1
        (s.conclude owner order (.compensationFailed failure)).2
  | restoreOverflowed {owner order commit due giveUp reservations} (inTime : due ≤ s.now)
      (reply : s.reservations.putBack order.itemId order.quantity = (.overflow, reservations)) :
      Deed s me (.settle owner order (.restoring commit) due giveUp) { s with reservations } .crash
  -- The receiving end of the queue.
  | handed {order queue woken ready}
      (popped : (s.queue.joinLine me).pop? = some (order, queue, woken)) :
      Deed s me (.receive .worker) { s with queue := (queue.uncount.leaveLine me).1, ready }
        (.again (.settle .worker order .opening s.now s.now))
  | received {order queue woken ready}
      (popped : (s.queue.joinLine me).pop? = some (order, queue, woken)) :
      Deed s me (.receive .caller) { s with queue := (queue.uncount.leaveLine me).1, ready }
        (.finish (.received (some order)))
  | drained {ready} (ends : (s.queue.joinLine me).ended = true) :
      Deed s me (.receive .worker)
        { s with
          queue := ((s.queue.joinLine me).leaveLine me).1
          ready
          log := s.log ++ [.queueDrained] }
        (.finish .ended)
  | streamEnded {ready} (ends : (s.queue.joinLine me).ended = true) :
      Deed s me (.receive .caller)
        { s with queue := ((s.queue.joinLine me).leaveLine me).1, ready }
        (.finish (.received none))
  | idle {owner} :
      Deed s me (.receive owner) { s with queue := s.queue.joinLine me } (.wait none)
  -- The other tasks.
  | sent {order queue ready} (slot : HasSlot s.queue me queue) :
      Deed s me (.send order) { s with queue := queue.put order, ready } (.finish (.sent order))
  | notSent {order} (isClosed : s.queue.isClosed = true) :
      Deed s me (.send order) s (.finish (.notSent order))
  | sending {order queue} (line : StandsInLine s.queue me queue) :
      Deed s me (.send order) { s with queue } (.wait none)
  | called {call due turn} (ends : (∃ result, turn = .finish (.unit result)) ∨
        (∃ result, turn = .finish (.flag result)) ∨ turn = .crash) :
      Deed s me (.reservation call due)
        { s with reservations := s.reservations.call s.now call } turn
  | commitBegun {order} :
      Deed s me (.ledger (.commit order) none) s
        (.again (.ledger (.commit order) (some (s.now + s.ledger.commitDelay))))
  | commitCollapsed {order} : Deed s me (.ledger (.commit order) none) s .crash
  | commitCalled {order due turn} (ends : (∃ result, turn = .finish (.unit result)) ∨
        turn = .crash) :
      Deed s me (.ledger (.commit order) (some due))
        { s with ledger := (s.ledger.commit s.clock order).2 } turn
  | looked {item due turn} (ends : (∃ result, turn = .finish (.inventory result)) ∨
        turn = .crash) :
      Deed s me (.ledger (.inventory item) due) s turn
  | updated {item quantity version due turn} (ends : (∃ result, turn = .finish (.unit result)) ∨
        turn = .crash) :
      Deed s me (.ledger (.update item quantity version) due)
        { s with ledger := (s.ledger.update s.clock item quantity version).2 } turn
  | joined (alone : s.hasWorkers = false) :
      Deed s me .join
        { s with
          log := s.log ++ (List.replicate s.crashedWorkers .workerCrashed ++
            [.workersStopped s.tally]) }
        (.finish (.joined s.tally))
  | joining (busy : s.hasWorkers = true) : Deed s me .join s (.wait none)

open Purchase

variable (s : Sale) (me : TaskId)

theorem follow_go (r : PurchaseRequest) (web : Bool) (id : Uuid) (stage : Stage)
    (events : List Event) :
    s.follow r web id { next := .go stage, events } =
      ({ s with log := s.log ++ events },
        .again (.purchase r web id stage (s.now + s.latency.ofStage stage))) := rfl

/-- A purchase that is done reports its events and, if it came from the web, why it
failed. -/
theorem follow_done (r : PurchaseRequest) (web : Bool) (id : Uuid)
    (result : Except PurchaseError Uuid) (events : List Event) :
    s.follow r web id { next := .done result, events } =
      ({ s with log := s.log ++ (events ++ endEvents r web result) },
        .finish (.purchased r web result)) := by
  cases web <;> simp [follow, emit, endEvents]

/-- What a purchase does in one step, by its stage and by what the store or the queue
replies. -/
theorem stepPurchase_deed (r : PurchaseRequest) (web : Bool) (id : Uuid) (stage : Stage)
    (due : Nat) :
    Deed s me (.purchase r web id stage due) (s.stepPurchase me r web id stage due).1
      (s.stepPurchase me r web id stage due).2 := by
  by_cases later : s.now < due
  · simpa only [stepPurchase, if_pos later] using .asleep _ later
  simp only [stepPurchase, if_neg later]
  cases stage with
  | entering =>
      by_cases unfit : r.quantity ≤ 0
      · simpa [entered, unfit, Move.refuse, follow_done, endEvents, failureEvents,
          PurchaseError.isInternal] using Deed.turnedAway unfit
      · simpa [entered, unfit, Move.go, follow_go, Latency.ofStage] using Deed.entered unfit
  | marking =>
      rcases eq : s.reservations.mark s.now (idempotencyKey r.requestId) with ⟨reply, reservations⟩
      match reply with
      | .overflow => exact .markOverflowed eq
      | .answer (.ok true) =>
          simpa [Purchase.marked, Move.go, follow_go, Latency.ofStage] using .marked eq
      | .answer (.ok false) =>
          simpa [Purchase.marked, follow_done, endEvents, failureEvents,
            PurchaseError.isInternal] using .duplicate eq
      | .answer (.error e) =>
          simpa [Purchase.marked, Move.refuse, follow_done] using .markRefused eq
  | reserving =>
      rcases eq : s.reservations.take r.itemId r.quantity with ⟨reply, reservations⟩
      match reply with
      | .overflow => exact .takeOverflowed eq
      | .answer (.ok true) =>
          simpa [Purchase.reserved, Move.go, follow_go, Latency.ofStage, clock] using .reserved eq
      | .answer (.ok false) =>
          simpa [Purchase.reserved, follow_done, endEvents, failureEvents,
            PurchaseError.isInternal] using .soldOut eq
      | .answer (.error e) =>
          simpa [Purchase.reserved, Move.refuse, follow_done] using .takeRefused eq
  | admitting order =>
      obtain ⟨queue, ready, slot, eq⟩ | ⟨isClosed, eq⟩ | ⟨queue, line, eq⟩ := s.offer_cases me order
      · simpa [eq, Purchase.admitted, follow_done, endEvents, failureEvents] using .admitted slot
      · simpa [eq, Purchase.refused, follow_go, Latency.ofStage] using .refused isClosed
      · simpa [eq] using .inLine line
  | releasing order =>
      rcases eq : s.reservations.putBack r.itemId r.quantity with ⟨reply, reservations⟩
      match reply with
      | .overflow => exact .releaseOverflowed eq
      | .answer (.ok ()) => simpa [Purchase.released, follow_done] using .released eq
      | .answer (.error e) => simpa [Purchase.released, follow_done] using .releaseFailed eq

theorem stepRelease_deed (item : String) (quantity : Int32) (due : Nat) :
    Deed s me (.release item quantity due) (s.stepRelease item quantity due).1
      (s.stepRelease item quantity due).2 := by
  by_cases later : s.now < due
  · simpa only [stepRelease, if_pos later] using .asleep _ later
  simp only [stepRelease, if_neg later]
  rcases eq : s.reservations.putBack item quantity with ⟨reply, reservations⟩
  match reply with
  | .overflow => exact .returnOverflowed eq
  | .answer (.ok ()) => exact .returned eq
  | .answer (.error e) => exact .returnFailed eq

/-- What is done to settle an order in one step. At a stage that waits, the end of the
call is tried before the limit is. -/
theorem stepSettle_deed (owner : Owner) (order : Order) (stage : Settlement.Stage)
    (due giveUp : Nat) :
    Deed s me (.settle owner order stage due giveUp) (s.stepSettle owner order stage due giveUp).1
      (s.stepSettle owner order stage due giveUp).2 := by
  have sleeps : s.now < due → ¬ giveUp ≤ s.now → s.now < min due giveUp := by omega
  cases stage with
  | opening =>
      by_cases faulty : s.faultyItem = some order.itemId
      · simpa [stepSettle, faulty] using .collapsed faulty
      · simpa [stepSettle, faulty] using .begun
  | committing =>
      by_cases inTime : due ≤ s.now
      · simp only [stepSettle, if_pos inTime]
        rcases eq : s.ledger.commit s.clock order with ⟨reply, ledger⟩
        match reply with
        | .overflow => exact .commitOverflowed inTime eq
        | .answer (.ok ()) => exact .committed inTime eq
        | .answer (.error e) => exact .commitRefused inTime eq
      · simp only [stepSettle, if_neg inTime]
        by_cases ends : giveUp ≤ s.now
        · simpa only [if_pos ends] using .commitTimedOut (by omega) ends
        · simpa only [if_neg ends] using .asleep _ (sleeps (by omega) ends)
  | restoring commit =>
      by_cases inTime : due ≤ s.now
      · simp only [stepSettle, if_pos inTime]
        rcases eq : s.reservations.putBack order.itemId order.quantity with ⟨reply, reservations⟩
        match reply with
        | .overflow => exact .restoreOverflowed inTime eq
        | .answer (.ok ()) => exact .restored inTime eq
        | .answer (.error e) =>
            obtain rfl := Reservations.putBack_of_ne_ok eq (by simp)
            exact .restoreFailed ⟨rfl, rfl, rfl⟩
      · simp only [stepSettle, if_neg inTime]
        by_cases ends : giveUp ≤ s.now
        · simpa only [if_pos ends] using .restoreFailed ⟨rfl, rfl, rfl⟩
        · simpa only [if_neg ends] using .asleep _ (sleeps (by omega) ends)

/-- What a receiver does in one step. A worker goes on with the order that it takes, and
a caller returns it. -/
theorem stepReceive_deed (owner : Owner) :
    Deed s me (.receive owner) (s.stepReceive me owner).1 (s.stepReceive me owner).2 := by
  by_cases first : (s.queue.joinLine me).receivers.head? = some me
  · simp only [stepReceive, if_pos first]
    rcases popped : (s.queue.joinLine me).pop? with _ | ⟨order, queue, woken⟩
    · cases ends : (s.queue.joinLine me).ended with
      | true =>
          cases owner with
          | caller => exact .streamEnded ends
          | worker => exact .drained ends
      | false => simpa using .idle
    · cases owner with
      | caller => exact .received popped
      | worker => exact .handed popped
  · simpa only [stepReceive, if_neg first] using .idle

theorem stepSend_deed (order : Order) :
    Deed s me (.send order) (s.stepSend me order).1 (s.stepSend me order).2 := by
  obtain ⟨queue, ready, slot, eq⟩ | ⟨isClosed, eq⟩ | ⟨queue, line, eq⟩ := s.offer_cases me order
  · simpa only [stepSend, eq] using .sent slot
  · simpa only [stepSend, eq] using .notSent isClosed
  · simpa only [stepSend, eq] using .sending line

theorem answer_fst {α : Type} (make : Except StoreError α → Answer) (reply : Reply α) :
    (s.answer make reply).1 = s := by
  cases reply <;> rfl

theorem answer_snd {α : Type} (make : Except StoreError α → Answer) (reply : Reply α) :
    (∃ result, (s.answer make reply).2 = .finish (make result)) ∨
      (s.answer make reply).2 = .crash := by
  cases reply with
  | answer result => exact .inl ⟨result, rfl⟩
  | overflow => exact .inr rfl

theorem stepReservation_deed (call : ReservationCall) (due : Nat) :
    Deed s me (.reservation call due) (s.stepReservation call due).1
      (s.stepReservation call due).2 := by
  by_cases later : s.now < due
  · simpa only [stepReservation, if_pos later] using .asleep _ later
  simp only [stepReservation, if_neg later]
  cases call with
  | setStock item quantity =>
      rw [answer_fst]
      exact .called ((answer_snd ..).imp_right .inr)
  | take item quantity =>
      rw [answer_fst]
      exact .called (.inr (answer_snd ..))
  | putBack item quantity =>
      rw [answer_fst]
      exact .called ((answer_snd ..).imp_right .inr)
  | mark key =>
      rw [answer_fst]
      exact .called (.inr (answer_snd ..))

/-- What a call of the ledger from outside does in one step. A commit first finds out
how long it takes. -/
theorem stepLedger_deed (call : LedgerCall) (due : Option Nat) :
    Deed s me (.ledger call due) (s.stepLedger call due).1 (s.stepLedger call due).2 := by
  cases call with
  | commit order =>
      cases due with
      | none =>
          by_cases faulty : s.faultyItem = some order.itemId
          · simpa [stepLedger, faulty] using .commitCollapsed
          · simpa [stepLedger, faulty] using .commitBegun
      | some due =>
          by_cases later : s.now < due
          · simpa only [stepLedger, if_pos later] using .asleep _ later
          simp only [stepLedger, if_neg later]
          rw [answer_fst]
          exact .commitCalled (answer_snd ..)
  | inventory item =>
      simp only [stepLedger]
      rw [answer_fst]
      exact .looked (answer_snd ..)
  | update item quantity version =>
      simp only [stepLedger]
      rw [answer_fst]
      exact .updated (answer_snd ..)

theorem stepJoin_deed : Deed s me .join s.stepJoin.1 s.stepJoin.2 := by
  cases busy : s.hasWorkers with
  | true => simpa [stepJoin, busy] using .joining busy
  | false => simpa [stepJoin, busy, emit] using .joined busy

/-- Whatever a task does in one step is listed. With this the functions of the steps
need not be opened again. -/
theorem act_deed (t : Task) : Deed s me t (s.act me t).1 (s.act me t).2 := by
  cases t with
  | purchase r web id stage due => exact s.stepPurchase_deed me r web id stage due
  | release item quantity due => exact s.stepRelease_deed me item quantity due
  | settle owner order stage due giveUp => exact s.stepSettle_deed me owner order stage due giveUp
  | receive owner => exact s.stepReceive_deed me owner
  | send order => exact s.stepSend_deed me order
  | reservation call due => exact s.stepReservation_deed me call due
  | ledger call due => exact s.stepLedger_deed me call due
  | join => exact s.stepJoin_deed me

end Sale

end FlashSale
