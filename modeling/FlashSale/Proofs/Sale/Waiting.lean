import FlashSale.Proofs.AdmissionQueue.Slots
import FlashSale.Proofs.Sale.Turn

/-!
# What a task does with the queue

A deed leaves open which tasks are ready afterwards. Here this is told exactly, and in
exchange nothing is told of the stores: `QueueCall s me t s' turn` says how a step of the
task `t` changes the queue and whom it wakes, and why the task waits if it does.

A task waits for a time, for a slot, for its turn among the receivers or for the workers.
-/

namespace FlashSale

namespace Task

/-- The time that the task lets come before it goes on. A task that settles an order
goes on at the end of its call or at the limit, whichever comes first. -/
def wakeTime? : Task → Option Nat
  | purchase _ _ _ _ due => some due
  | release _ _ due => some due
  | settle _ _ .opening _ _ => none
  | settle _ _ _ due giveUp => some (min due giveUp)
  | reservation _ due => some due
  | ledger (.commit _) due => due
  | _ => none

/-- Whether the task has an order to put into the queue, and the time for it has come. -/
def offers (now : Nat) : Task → Bool
  | purchase _ _ _ (.admitting _) due => due ≤ now
  | send _ => true
  | _ => false

variable {t : Task} {now : Nat}

theorem offers_mono {later : Nat} (le : now ≤ later) (offers : t.offers now = true) :
    t.offers later = true := by
  cases t with
  | purchase r web uuid stage due =>
      cases stage with
      | admitting order => exact decide_eq_true ((of_decide_eq_true offers).trans le)
      | _ => cases offers
  | send => rfl
  | _ => cases offers

/-- A task that offers an order waits for no time. So it is woken by the queue, or it is
ready. -/
theorem wakeTime?_le (offers : t.offers now = true) {time : Nat} (sleeps : t.wakeTime? = some time) :
    time ≤ now := by
  cases t with
  | purchase r web uuid stage due =>
      cases sleeps
      cases stage with
      | admitting order => exact of_decide_eq_true offers
      | _ => cases offers
  | send => cases sleeps
  | _ => cases offers

end Task

namespace Sale

open AdmissionQueue

/-- What a receiver does with an order that it took. A caller returns it, and a worker
begins to settle it at once. -/
def handOver (s : Sale) (order : Order) : Owner → Turn
  | .caller => .finish (.received (some order))
  | .worker => .again (.settle .worker order .opening s.now s.now)

/-- What a receiver is told at the end of the stream. -/
def endOfStream : Owner → Answer
  | .caller => .received none
  | .worker => .ended

/-- What a step of a task does with the queue, and whom it wakes. The cases are those of
the queue: to sleep, to have no business there, to put an order in, or to take one out.
-/
inductive QueueCall (s : Sale) (me : TaskId) : Task → Sale → Turn → Prop where
  | asleep {t time} (sleeps : t.wakeTime? = some time) (later : s.now < time) :
      QueueCall s me t s (.wait (some time))
  | joining (busy : s.hasWorkers = true) : QueueCall s me .join s (.wait none)
  /-- The task has no business with the queue, or the queue refuses its order. -/
  | aside {t s' turn} (awake : ∀ time, t.wakeTime? = some time → time ≤ s.now)
      (other : ∀ owner, t ≠ .receive owner) (alone : t = .join → s.hasWorkers = false)
      (refused : t.offers s.now = true → s.queue.isClosed = true ∧ me ∉ s.queue.buyers)
      (handsBack : ∀ order, t = .send order → turn = .finish (.notSent order))
      (moves : ∀ time, turn ≠ .wait time) (changes : s'.queue = s.queue)
      (wakes : s'.ready = s.ready) : QueueCall s me t s' turn
  /-- The task puts its order into the slot that it was given while in line. -/
  | claimed {t s' order a} (offers : t.offers s.now = true)
      (tells : ∀ o, t = .send o → o = order ∧ a = .sent order) (given : me ∈ s.queue.granted)
      (changes : s'.queue = (s.queue.claim me).put order)
      (wakes : s'.ready = (s.wake ((s.queue.claim me).put order).front).ready) :
      QueueCall s me t s' (.finish a)
  /-- The task finds a free slot. -/
  | placed {t s' order a slots} (offers : t.offers s.now = true)
      (tells : ∀ o, t = .send o → o = order ∧ a = .sent order) (new : me ∉ s.queue.buyers)
      (isOpen : s.queue.isClosed = false) (slot : s.queue.slots = slots + 1)
      (changes : s'.queue = put { s.queue with slots } order)
      (wakes : s'.ready = (s.wake (put { s.queue with slots } order).front).ready) :
      QueueCall s me t s' (.finish a)
  | standing {t} (offers : t.offers s.now = true) (ungiven : me ∉ s.queue.granted)
      (standing : me ∈ s.queue.waiting) : QueueCall s me t s (.wait none)
  | joined {t} (offers : t.offers s.now = true) (new : me ∉ s.queue.buyers)
      (isOpen : s.queue.isClosed = false) (full : s.queue.slots = 0) :
      QueueCall s me t { s with queue.waiting := s.queue.waiting ++ [me] } (.wait none)
  | took {owner s' order queue woken}
      (first : (s.queue.joinLine me).receivers.head? = some me)
      (popped : (s.queue.joinLine me).pop? = some (order, queue, woken))
      (changes : s'.queue = (queue.uncount.leaveLine me).1)
      (wakes : s'.ready = ((s.wake woken).wake (queue.uncount.leaveLine me).2).ready) :
      QueueCall s me (.receive owner) s' (s.handOver order owner)
  | ended {owner s'} (first : (s.queue.joinLine me).receivers.head? = some me)
      (ends : s.queue.ended = true) (changes : s'.queue = ((s.queue.joinLine me).leaveLine me).1)
      (wakes : s'.ready = (s.wake ((s.queue.joinLine me).leaveLine me).2).ready) :
      QueueCall s me (.receive owner) s' (.finish (endOfStream owner))
  | idle {owner} (nothing : (s.queue.joinLine me).serves = true →
        (s.queue.joinLine me).receivers.head? ≠ some me) :
      QueueCall s me (.receive owner) { s with queue := s.queue.joinLine me } (.wait none)

variable (s : Sale) (me : TaskId)

/-- A part of a step that neither touches the queue nor waits. Most of what a task does
is of this kind. -/
structure Aside (s s' : Sale) (turn : Turn) : Prop where
  queue : s'.queue = s.queue
  ready : s'.ready = s.ready
  moves : ∀ time, turn ≠ .wait time

/-- A move of a purchase is made aside from the queue, as offering its order to the
queue is not one of the moves. -/
theorem follow_aside (r : PurchaseRequest) (web : Bool) (id : Uuid) (m : Purchase.Move) :
    Aside s (s.follow r web id m).1 (s.follow r web id m).2 := by
  unfold follow
  cases m.next with
  | go stage => exact ⟨rfl, rfl, by simp⟩
  | done result => cases web <;> exact ⟨rfl, rfl, by simp⟩

theorem conclude_aside (owner : Owner) (order : Order) (outcome : Outcome) :
    Aside s (s.conclude owner order outcome).1 (s.conclude owner order outcome).2 := by
  cases owner <;> exact ⟨rfl, rfl, by simp [conclude]⟩

theorem afterCommit_aside (owner : Owner) (order : Order) (ended : Awaited) :
    Aside s (s.afterCommit owner order ended).1 (s.afterCommit owner order ended).2 := by
  unfold afterCommit
  split
  · exact s.conclude_aside ..
  · exact ⟨rfl, rfl, by simp⟩

theorem answer_aside {α : Type} (make : Except StoreError α → Answer) (reply : Reply α) :
    Aside s (s.answer make reply).1 (s.answer make reply).2 := by
  cases reply <;> exact ⟨rfl, rfl, by simp [answer]⟩

/-- A task that puts nothing into the queue and takes nothing out. All the calls of
stores come to this case once their time has come. -/
theorem QueueCall.of_aside {s s' : Sale} {me : TaskId} {t : Task} {turn : Turn}
    (aside : Aside s s' turn) (awake : ∀ time, t.wakeTime? = some time → time ≤ s.now)
    (other : ∀ owner, t ≠ .receive owner) (busy : t ≠ .join) (offers : t.offers s.now = false) :
    QueueCall s me t s' turn := by
  refine .aside awake other (fun join => absurd join busy) (fun offer => ?_) ?_ aside.moves
    aside.queue aside.ready
  · rw [offers] at offer
    cases offer
  · rintro order rfl
    cases offers

theorem stepSettle_call (owner : Owner) (order : Order) (stage : Settlement.Stage)
    (due giveUp : Nat) :
    QueueCall s me (.settle owner order stage due giveUp)
      (s.stepSettle owner order stage due giveUp).1 (s.stepSettle owner order stage due giveUp).2 := by
  have awake {stage : Settlement.Stage} (now : due ≤ s.now ∨ giveUp ≤ s.now) (time : Nat)
      (sleeps : Task.wakeTime? (.settle owner order stage due giveUp) = some time) :
      time ≤ s.now := by
    cases stage <;> cases sleeps <;> omega
  have late (notDue : ¬ due ≤ s.now) (inTime : ¬ giveUp ≤ s.now) : s.now < min due giveUp := by omega
  cases stage with
  | opening =>
      refine .of_aside ?_ (by rintro _ ⟨⟩) (by simp) (by simp) rfl
      simp only [stepSettle]
      split <;> exact ⟨rfl, rfl, by simp⟩
  | committing =>
      simp only [stepSettle]
      split
      · refine .of_aside ?_ (awake (.inl ‹_›)) (by simp) (by simp) rfl
        split
        · have rest := afterCommit_aside { s with ledger := (s.ledger.commit s.clock order).2 } owner
            order (.replied ‹_›)
          exact ⟨rest.queue, rest.ready, rest.moves⟩
        · exact ⟨rfl, rfl, by simp⟩
      · split
        · exact .of_aside (s.afterCommit_aside ..) (awake (.inr ‹_›)) (by simp) (by simp) rfl
        · exact .asleep rfl (late ‹_› ‹_›)
  | restoring commit =>
      simp only [stepSettle]
      split
      · refine .of_aside ?_ (awake (.inl ‹_›)) (by simp) (by simp) rfl
        split
        · have rest := conclude_aside
            { s with reservations := (s.reservations.putBack order.itemId order.quantity).2 } owner
            order (Settlement.restored s.limit order commit (.replied ‹_›))
          exact ⟨rest.queue, rest.ready, rest.moves⟩
        · exact ⟨rfl, rfl, by simp⟩
      · split
        · exact .of_aside (s.conclude_aside ..) (awake (.inr ‹_›)) (by simp) (by simp) rfl
        · exact .asleep rfl (late ‹_› ‹_›)

theorem stepRelease_call (item : String) (quantity : Int32) (due : Nat) :
    QueueCall s me (.release item quantity due) (s.stepRelease item quantity due).1
      (s.stepRelease item quantity due).2 := by
  unfold stepRelease
  split
  · exact .asleep rfl ‹_›
  · rename_i now
    refine .of_aside ?_ (fun _ sleeps => ?_) (by simp) (by simp) rfl
    · dsimp only
      split <;> exact ⟨rfl, rfl, by simp⟩
    · cases sleeps
      exact Nat.le_of_not_lt now

theorem stepReservation_call (call : ReservationCall) (due : Nat) :
    QueueCall s me (.reservation call due) (s.stepReservation call due).1
      (s.stepReservation call due).2 := by
  unfold stepReservation
  split
  · exact .asleep rfl ‹_›
  · rename_i now
    have awake (time : Nat) (sleeps : Task.wakeTime? (.reservation call due) = some time) :
        time ≤ s.now := by
      cases sleeps
      exact Nat.le_of_not_lt now
    have store (reservations : Reservations) {α : Type} (make : Except StoreError α → Answer)
        (reply : Reply α) : Aside s (({ s with reservations } : Sale).answer make reply).1
          (({ s with reservations } : Sale).answer make reply).2 := by
      have rest := answer_aside { s with reservations } make reply
      exact ⟨rest.queue, rest.ready, rest.moves⟩
    cases call <;> exact .of_aside (store ..) awake (by simp) (by simp) rfl

theorem stepLedger_call (call : LedgerCall) (due : Option Nat) :
    QueueCall s me (.ledger call due) (s.stepLedger call due).1 (s.stepLedger call due).2 := by
  have store (ledger : Ledger) (reply : Reply Unit) :
      Aside s (({ s with ledger } : Sale).answer .unit reply).1
        (({ s with ledger } : Sale).answer .unit reply).2 := by
    have rest := answer_aside { s with ledger } .unit reply
    exact ⟨rest.queue, rest.ready, rest.moves⟩
  cases call with
  | commit order =>
      cases due with
      | none =>
          refine .of_aside ?_ (by rintro _ ⟨⟩) (by simp) (by simp) rfl
          simp only [stepLedger]
          split <;> exact ⟨rfl, rfl, by simp⟩
      | some due =>
          simp only [stepLedger]
          split
          · exact .asleep rfl ‹_›
          · rename_i now
            refine .of_aside (store ..) (fun _ sleeps => ?_) (by simp) (by simp) rfl
            cases sleeps
            exact Nat.le_of_not_lt now
  | inventory item =>
      exact .of_aside (s.answer_aside ..) (by rintro _ ⟨⟩) (by simp) (by simp) rfl
  | update item quantity version =>
      exact .of_aside (store ..) (by rintro _ ⟨⟩) (by simp) (by simp) rfl

theorem stepJoin_call : QueueCall s me .join s.stepJoin.1 s.stepJoin.2 := by
  unfold stepJoin
  split
  · exact .joining ‹_›
  · rename_i alone
    exact .aside (fun _ sleeps => nomatch sleeps) (by simp) (fun _ => by simpa using alone)
      (fun offers => nomatch offers) (by simp) (by simp) rfl rfl

/-- The ways in which an offer to the queue can go, with the tasks that are ready
afterwards. A slot that was given, a place in line, and a newcomer are told apart. -/
theorem offer_call (order : Order) :
    (me ∈ s.queue.granted ∧
      s.offer me order = (.granted, s.deliver (s.queue.claim me) order)) ∨
    (me ∉ s.queue.granted ∧ me ∈ s.queue.waiting ∧ s.offer me order = (.waiting, s)) ∨
    (me ∉ s.queue.buyers ∧
      ((s.queue.isClosed = true ∧ s.offer me order = (.refused, s)) ∨
        (s.queue.isClosed = false ∧ s.queue.slots = 0 ∧ s.offer me order =
          (.waiting, { s with queue.waiting := s.queue.waiting ++ [me] })) ∨
        ∃ slots, s.queue.isClosed = false ∧ s.queue.slots = slots + 1 ∧
          s.offer me order = (.granted, s.deliver { s.queue with slots } order))) := by
  unfold offer
  by_cases given : me ∈ s.queue.granted
  · exact .inl ⟨given, if_pos given⟩
  by_cases standing : me ∈ s.queue.waiting
  · exact .inr (.inl ⟨given, standing, by rw [if_neg given, if_pos standing]⟩)
  refine .inr (.inr ⟨fun member => ?_, ?_⟩)
  · exact (mem_buyers.mp member).elim given standing
  rw [if_neg given, if_neg standing]
  cases isClosed : s.queue.isClosed with
  | true => exact .inl ⟨rfl, by simp [request, isClosed]⟩
  | false =>
      cases slot : s.queue.slots with
      | zero => exact .inr (.inl ⟨rfl, rfl, by simp [request, isClosed, slot]⟩)
      | succ slots => exact .inr (.inr ⟨slots, rfl, rfl, by simp [request, isClosed, slot]⟩)

/-- A bare order is put into the queue, waits in line, or is handed back by a queue that
is closed. -/
theorem stepSend_call (order : Order) :
    QueueCall s me (.send order) (s.stepSend me order).1 (s.stepSend me order).2 := by
  have tells (o : Order) (same : Task.send order = .send o) :
      o = order ∧ Answer.sent order = .sent order := ⟨(Task.send.inj same).symm, rfl⟩
  unfold stepSend
  obtain ⟨given, eq⟩ | ⟨ungiven, standing, eq⟩ | ⟨new, ⟨isClosed, eq⟩ | ⟨isOpen, full, eq⟩ |
    ⟨slots, isOpen, slot, eq⟩⟩ := s.offer_call me order
  · simpa only [eq] using .claimed rfl tells given rfl rfl
  · simpa only [eq] using .standing rfl ungiven standing
  · rw [eq]
    exact .aside (fun _ sleeps => nomatch sleeps) (by simp) (by simp) (fun _ => ⟨isClosed, new⟩)
      (fun o same => by rw [Task.send.inj same]) (by simp) rfl rfl
  · simpa only [eq] using .joined rfl new isOpen full
  · simpa only [eq] using .placed rfl tells new isOpen slot rfl rfl

/-- A purchase has business with the queue once, to have its order admitted. All the
rest of it goes on aside. -/
theorem stepPurchase_call (r : PurchaseRequest) (web : Bool) (id : Uuid) (stage : Purchase.Stage)
    (due : Nat) :
    QueueCall s me (.purchase r web id stage due) (s.stepPurchase me r web id stage due).1
      (s.stepPurchase me r web id stage due).2 := by
  unfold stepPurchase
  split
  · exact .asleep rfl ‹_›
  rename_i now
  have awake {stage : Purchase.Stage} (time : Nat)
      (sleeps : Task.wakeTime? (.purchase r web id stage due) = some time) : time ≤ s.now := by
    cases sleeps
    exact Nat.le_of_not_lt now
  have store (reservations : Reservations) (m : Purchase.Move) :
      Aside s (({ s with reservations } : Sale).follow r web id m).1
        (({ s with reservations } : Sale).follow r web id m).2 := by
    have rest := follow_aside { s with reservations } r web id m
    exact ⟨rest.queue, rest.ready, rest.moves⟩
  cases stage with
  | entering => exact .of_aside (s.follow_aside ..) awake (by simp) (by simp) rfl
  | marking =>
      refine .of_aside ?_ awake (by simp) (by simp) rfl
      dsimp only
      split
      · exact store ..
      · exact ⟨rfl, rfl, by simp⟩
  | reserving =>
      refine .of_aside ?_ awake (by simp) (by simp) rfl
      dsimp only
      split
      · exact store ..
      · exact ⟨rfl, rfl, by simp⟩
  | releasing order =>
      refine .of_aside ?_ awake (by simp) (by simp) rfl
      dsimp only
      split
      · exact store ..
      · exact ⟨rfl, rfl, by simp⟩
  | admitting order =>
      have offers : Task.offers s.now (.purchase r web id (.admitting order) due) = true :=
        decide_eq_true (Nat.le_of_not_lt now)
      have admitted (s' : Sale) : ∃ a, s'.follow r web id (Purchase.admitted r order) =
          ((s'.follow r web id (Purchase.admitted r order)).1, .finish a) := by
        exact ⟨_, by rw [Purchase.admitted, follow_done]⟩
      dsimp only
      obtain ⟨given, eq⟩ | ⟨ungiven, standing, eq⟩ | ⟨new, ⟨isClosed, eq⟩ | ⟨isOpen, full, eq⟩ |
        ⟨slots, isOpen, slot, eq⟩⟩ := s.offer_call me order
      · have rest := follow_aside (s.deliver (s.queue.claim me) order) r web id
          (Purchase.admitted r order)
        obtain ⟨a, ends⟩ := admitted (s.deliver (s.queue.claim me) order)
        simp only [eq]
        rw [ends]
        exact .claimed offers (by simp) given rest.queue rest.ready
      · simpa only [eq] using .standing offers ungiven standing
      · have rest := s.follow_aside r web id (Purchase.refused r order)
        simp only [eq]
        exact .aside awake (by simp) (by simp) (fun _ => ⟨isClosed, new⟩) (by simp) rest.moves
          rest.queue rest.ready
      · simpa only [eq] using .joined offers new isOpen full
      · have rest := follow_aside (s.deliver { s.queue with slots } order) r web id
          (Purchase.admitted r order)
        obtain ⟨a, ends⟩ := admitted (s.deliver { s.queue with slots } order)
        simp only [eq]
        rw [ends]
        exact .placed offers (by simp) new isOpen slot rest.queue rest.ready

/-- A receiver takes an order when it is first in line, sees the end of the stream, or
goes on waiting in line. -/
theorem stepReceive_call (owner : Owner) :
    QueueCall s me (.receive owner) (s.stepReceive me owner).1 (s.stepReceive me owner).2 := by
  by_cases first : (s.queue.joinLine me).receivers.head? = some me
  · simp only [stepReceive, if_pos first]
    rcases popped : (s.queue.joinLine me).pop? with _ | ⟨order, queue, woken⟩
    · cases ends : (s.queue.joinLine me).ended with
      | true =>
          rw [joinLine_ended] at ends
          cases owner <;> exact .ended first ends rfl rfl
      | false =>
          have empty : (s.queue.joinLine me).buffer = [] := by
            unfold pop? at popped
            split at popped
            · assumption
            · cases popped
          have nothing := serves_eq_false.mpr ⟨empty, ends⟩
          simpa using .idle fun serves => by simp [nothing] at serves
    · cases owner <;> exact .took first popped rfl rfl
  · simpa only [stepReceive, if_neg first] using .idle fun _ => first

/-- Whatever a task does with the queue in one step is listed. From here on what happens
to the queue needs no cases on what the stores do. -/
theorem act_call (t : Task) : QueueCall s me t (s.act me t).1 (s.act me t).2 := by
  cases t with
  | purchase r web id stage due => exact s.stepPurchase_call me r web id stage due
  | release item quantity due => exact s.stepRelease_call me item quantity due
  | settle owner order stage due giveUp => exact s.stepSettle_call me owner order stage due giveUp
  | receive owner => exact s.stepReceive_call me owner
  | send order => exact s.stepSend_call me order
  | reservation call due => exact s.stepReservation_call me call due
  | ledger call due => exact s.stepLedger_call me call due
  | join => exact s.stepJoin_call me

end Sale

end FlashSale
