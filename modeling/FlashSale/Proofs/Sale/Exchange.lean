import FlashSale.Proofs.Sale.Attendance

/-!
# Senders and receivers

Somebody sends orders through the queue and somebody receives them: there are neither
purchases nor workers. Sends and receives may be dropped while they wait, and the queue may
be closed, at any time and any number of times; `SendsAndReceives` is the rule, under which
somebody is always left who could receive.

`Exchange` lists what an action can then do, with the tasks, the queue, the tasks that are
ready and the answers afterwards. Nothing else of such a sale matters to anybody.
-/

namespace FlashSale

namespace Task

/-- A send, or a receive of somebody who is no worker. -/
def isExchange : Task → Bool
  | send _ => true
  | receive .caller => true
  | _ => false

end Task

namespace Action

def isExchange : Action → Bool
  | turn _ => true
  | elapse _ => true
  | start t => t.isExchange
  | cancel _ => true
  | abandon _ => true
  | close => true
  | dropReceiver => true
  | _ => false

/-- The task that an action drops. -/
def drops? : Action → Option TaskId
  | cancel id => some id
  | abandon id => some id
  | _ => none

end Action

namespace Sale

open AdmissionQueue

/-- Somebody sends and receives, and the receiving end of the queue stays open. -/
def SendsAndReceives (s : Sale) (a : Action) : Prop :=
  a.isExchange = true ∧ (s.perform a).hasReceivers = true

/-- What an action does in a sale of sends and receives. The names of the cases say what
became of the order or of the task. -/
inductive Exchange (s : Sale) :
    Action → Table TaskId Task → AdmissionQueue → List TaskId → List (TaskId × Answer) → Prop where
  | slept {id} (absent : s.tasks.get? id = none) :
      Exchange s (.turn id) s.tasks s.queue (s.ready.erase id) s.answers
  | claimed {id order} (found : s.tasks.get? id = some (.send order))
      (given : id ∈ s.queue.granted) :
      Exchange s (.turn id) (s.tasks.erase id) ((s.queue.claim id).put order)
        ((s.wake ((s.queue.claim id).put order).front).ready.erase id)
        (s.answers ++ [(id, .sent order)])
  | placed {id order slots} (found : s.tasks.get? id = some (.send order))
      (new : id ∉ s.queue.buyers) (isOpen : s.queue.isClosed = false)
      (slot : s.queue.slots = slots + 1) :
      Exchange s (.turn id) (s.tasks.erase id) (put { s.queue with slots } order)
        ((s.wake (put { s.queue with slots } order).front).ready.erase id)
        (s.answers ++ [(id, .sent order)])
  | refused {id order} (found : s.tasks.get? id = some (.send order))
      (new : id ∉ s.queue.buyers) (isClosed : s.queue.isClosed = true) :
      Exchange s (.turn id) (s.tasks.erase id) s.queue (s.ready.erase id)
        (s.answers ++ [(id, .notSent order)])
  | stood {id order} (found : s.tasks.get? id = some (.send order))
      (ungiven : id ∉ s.queue.granted) (standing : id ∈ s.queue.waiting) :
      Exchange s (.turn id) s.tasks s.queue (s.ready.erase id) s.answers
  | joined {id order} (found : s.tasks.get? id = some (.send order)) (new : id ∉ s.queue.buyers)
      (isOpen : s.queue.isClosed = false) (full : s.queue.slots = 0) :
      Exchange s (.turn id) s.tasks { s.queue with waiting := s.queue.waiting ++ [id] }
        (s.ready.erase id) s.answers
  | took {id order queue woken} (found : s.tasks.get? id = some (.receive .caller))
      (first : (s.queue.joinLine id).receivers.head? = some id)
      (popped : (s.queue.joinLine id).pop? = some (order, queue, woken)) :
      Exchange s (.turn id) (s.tasks.erase id) (queue.uncount.leaveLine id).1
        (((s.wake woken).wake (queue.uncount.leaveLine id).2).ready.erase id)
        (s.answers ++ [(id, .received (some order))])
  | ended {id} (found : s.tasks.get? id = some (.receive .caller))
      (first : (s.queue.joinLine id).receivers.head? = some id) (ends : s.queue.ended = true) :
      Exchange s (.turn id) (s.tasks.erase id) ((s.queue.joinLine id).leaveLine id).1
        ((s.wake ((s.queue.joinLine id).leaveLine id).2).ready.erase id)
        (s.answers ++ [(id, .received none)])
  | idle {id} (found : s.tasks.get? id = some (.receive .caller)) :
      Exchange s (.turn id) s.tasks (s.queue.joinLine id) (s.ready.erase id) s.answers
  | elapsed {ms} : Exchange s (.elapse ms) s.tasks s.queue s.ready s.answers
  | started {t} (exchange : t.isExchange = true) :
      Exchange s (.start t) (s.tasks.insert s.nextTask t) s.queue (s.ready ++ [s.nextTask]) s.answers
  | missed {a id} (drops : a.drops? = some id) (absent : s.tasks.get? id = none) :
      Exchange s a s.tasks s.queue s.ready s.answers
  | unsent {a id order} (drops : a.drops? = some id)
      (found : s.tasks.get? id = some (.send order)) :
      Exchange s a (s.tasks.erase id) (s.queue.withdraw id).1
        ((s.remove id).wake (s.queue.withdraw id).2).ready s.answers
  | unreceived {a id} (drops : a.drops? = some id)
      (found : s.tasks.get? id = some (.receive .caller)) :
      Exchange s a (s.tasks.erase id) (s.queue.leaveLine id).1
        ((s.wake (s.queue.leaveLine id).2).ready.erase id) s.answers
  | closed : Exchange s .close s.tasks s.queue.close.1 (s.wake s.queue.close.2).ready s.answers
  | released : Exchange s .dropReceiver s.tasks s.queue s.ready s.answers

/-- A sale of sends and receives, whose queue has so many slots. Nobody waits for a time
there, and the queue is not deserted. -/
structure Exchanging (capacity : Nat) (s : Sale) : Prop where
  attended : s.Attended capacity
  tasks : ∀ id t, s.tasks.get? id = some t → t.isExchange = true
  timers : s.timers = []
  kept : s.queue.deserted = false

variable {capacity : Nat} {s s' : Sale} {a : Action} {me id : TaskId} {t : Task}

/-- A task that is over is only removed if it was no worker and somebody is left to
receive. There is nothing more to do for the queue. -/
theorem retire_eq_remove (other : t.isWorker = false)
    (someone : (s.retire id t).hasReceivers = true) : s.retire id t = s.remove id := by
  have left : s.retire id t = if t.isReceiver then (s.remove id).desertIfAlone else s.remove id := by
    simp [retire, other]
  rw [left] at someone ⊢
  cases receiver : t.isReceiver with
  | false => rfl
  | true =>
      rw [receiver, if_pos rfl, desertIfAlone] at someone
      rw [if_pos rfl, desertIfAlone]
      by_cases alone : (s.remove id).hasReceivers = true
      · rw [if_pos alone]
      · rw [if_neg alone] at someone
        exact absurd someone alone

theorem place_finish_eq {answer : Answer} (other : t.isWorker = false)
    (someone : (s.place me t (.finish answer)).hasReceivers = true) :
    s.place me t (.finish answer) =
      { s.remove me with answers := s.answers ++ [(me, answer)] } := by
  have retired : s.retire me t = s.remove me := retire_eq_remove other someone
  rw [place, retired]

/-- The tasks, the queue, the tasks that are ready and the answers are as listed, and nobody waits
for a time. -/
def Exchanges (s : Sale) (a : Action) (s' : Sale) : Prop :=
  Exchange s a s'.tasks s'.queue s'.ready s'.answers ∧ s'.timers = []

theorem Exchanging.turn_send {order : Order} (exchanging : s.Exchanging capacity)
    (found : s.tasks.get? me = some (.send order))
    (someone : (s.stepTask me).hasReceivers = true) :
    s.Exchanges (.turn me) (s.stepTask me) := by
  have call := s.act_call me (.send order)
  have deed := s.act_deed me (.send order)
  have stepped : s.stepTask me =
      (s.act me (.send order)).1.place me (.send order) (s.act me (.send order)).2 := by
    simp only [stepTask, found]
  rw [stepped] at someone ⊢
  generalize (s.act me (.send order)).1 = s', (s.act me (.send order)).2 = turn at call deed someone ⊢
  have frame := deed.frame
  have quiet : s'.timers = [] := deed.timers.trans exchanging.timers
  cases call with
  | asleep sleeps => cases sleeps
  | aside _ _ _ refused handsBack _ changes wakes =>
      obtain rfl := handsBack order rfl
      obtain ⟨isClosed, new⟩ := refused rfl
      rw [place_finish_eq rfl someone]
      refine ⟨?_, by simp [remove, quiet]⟩
      simp only [remove, frame.tasks, frame.answers, changes, wakes]
      exact .refused found new isClosed
  | claimed _ tells given changes wakes =>
      obtain ⟨rfl, rfl⟩ := tells order rfl
      rw [place_finish_eq rfl someone]
      refine ⟨?_, by simp [remove, quiet]⟩
      simp only [remove, frame.tasks, frame.answers, changes, wakes]
      exact .claimed found given
  | placed _ tells new isOpen slot changes wakes =>
      obtain ⟨rfl, rfl⟩ := tells order rfl
      rw [place_finish_eq rfl someone]
      refine ⟨?_, by simp [remove, quiet]⟩
      simp only [remove, frame.tasks, frame.answers, changes, wakes]
      exact .placed found new isOpen slot
  | standing _ ungiven standing => exact ⟨.stood found ungiven standing, quiet⟩
  | joined _ new isOpen full => exact ⟨.joined found new isOpen full, quiet⟩

theorem Exchanging.turn_receive (exchanging : s.Exchanging capacity)
    (found : s.tasks.get? me = some (.receive .caller))
    (someone : (s.stepTask me).hasReceivers = true) :
    s.Exchanges (.turn me) (s.stepTask me) := by
  have call := s.act_call me (.receive .caller)
  have deed := s.act_deed me (.receive .caller)
  have stepped : s.stepTask me =
      (s.act me (.receive .caller)).1.place me (.receive .caller) (s.act me (.receive .caller)).2 := by
    simp only [stepTask, found]
  rw [stepped] at someone ⊢
  generalize (s.act me (.receive .caller)).1 = s', (s.act me (.receive .caller)).2 = turn
    at call deed someone ⊢
  have frame := deed.frame
  have quiet : s'.timers = [] := deed.timers.trans exchanging.timers
  cases call with
  | asleep sleeps => cases sleeps
  | aside _ other => exact absurd rfl (other _)
  | claimed offers => cases offers
  | placed offers => cases offers
  | standing offers => cases offers
  | joined offers => cases offers
  | took first popped changes wakes =>
      simp only [handOver] at someone ⊢
      rw [place_finish_eq rfl someone]
      refine ⟨?_, by simp [remove, quiet]⟩
      simp only [remove, frame.tasks, frame.answers, changes, wakes]
      exact .took found first popped
  | ended first ends changes wakes =>
      simp only [endOfStream] at someone ⊢
      rw [place_finish_eq rfl someone]
      refine ⟨?_, by simp [remove, quiet]⟩
      simp only [remove, frame.tasks, frame.answers, changes, wakes]
      exact .ended found first ends
  | idle => exact ⟨.idle found, quiet⟩

/-- A send or a receive that is dropped gives up its slot or its place in line. -/
theorem Exchanging.drop {leave : Sale → Order → Sale} (exchanging : s.Exchanging capacity)
    (drops : a.drops? = some id) (performed : s.perform a = s.drop id leave)
    (someone : (s.perform a).hasReceivers = true) : s.Exchanges a (s.perform a) := by
  rw [performed] at someone ⊢
  cases found : s.tasks.get? id with
  | none =>
      rw [drop_of_get?_eq_none found]
      exact ⟨.missed drops found, exchanging.timers⟩
  | some t =>
      have exchange := exchanging.tasks id t found
      simp only [Sale.drop, found] at someone ⊢
      cases t with
      | send order =>
          have retired : s.retire id (.send order) = s.remove id := retire_eq_remove rfl someone
          simp only [retired]
          exact ⟨.unsent drops found, by simp [withdraw, wake, remove, exchanging.timers]⟩
      | receive owner =>
          cases owner with
          | caller =>
              have retired : (s.leaveLine id).retire id (.receive .caller) =
                  (s.leaveLine id).remove id := retire_eq_remove rfl someone
              simp only [retired]
              exact ⟨.unreceived drops found, by simp [leaveLine, wake, remove, exchanging.timers]⟩
          | worker => cases exchange
      | _ => cases exchange

/-- What can happen among senders and receivers is listed. Nothing that follows looks at
the steps of a task again. -/
theorem Exchanging.exchanges (exchanging : s.Exchanging capacity) (allowed : s.SendsAndReceives a) :
    s.Exchanges a (s.perform a) := by
  obtain ⟨exchange, someone⟩ := allowed
  cases a with
  | turn id =>
      change (s.stepTask id).hasReceivers = true at someone
      change s.Exchanges (.turn id) (s.stepTask id)
      cases found : s.tasks.get? id with
      | none =>
          rw [stepTask_of_get?_eq_none found]
          exact ⟨.slept found, exchanging.timers⟩
      | some t =>
          have exchange := exchanging.tasks id t found
          cases t with
          | send order => exact exchanging.turn_send found someone
          | receive owner =>
              cases owner with
              | caller => exact exchanging.turn_receive found someone
              | worker => cases exchange
          | _ => cases exchange
  | elapse ms =>
      have later : s.perform (.elapse ms) = { s with now := s.now + ms } := by
        rw [Sale.perform, fire_eq_wake, exchanging.timers]
        simp [wake]
      rw [later]
      exact ⟨.elapsed, exchanging.timers⟩
  | start t => exact ⟨.started exchange, exchanging.timers⟩
  | cancel id => exact exchanging.drop rfl rfl someone
  | abandon id => exact exchanging.drop rfl rfl someone
  | close => exact ⟨.closed, exchanging.timers⟩
  | dropReceiver =>
      have left : s.dropReceiver = { s with receiverHeld := false } := by
        change s.dropReceiver.hasReceivers = true at someone
        unfold Sale.dropReceiver desertIfAlone at someone ⊢
        split at someone
        · rw [if_pos ‹_›]
        · exact absurd someone ‹_›
      rw [Sale.perform, left]
      exact ⟨.released, exchanging.timers⟩
  | _ => cases exchange

section Exchange

variable {tasks : Table TaskId Task} {queue : AdmissionQueue} {ready : List TaskId}
  {answers : List (TaskId × Answer)}

/-- Only closing closes a queue, and nothing deserts it as long as somebody could
receive. -/
theorem Exchange.doors (exchange : Exchange s a tasks queue ready answers) :
    (queue.closed = true ↔ s.queue.closed = true ∨ a = .close) ∧
      queue.deserted = s.queue.deserted := by
  have same (doors : SameDoors s.queue queue) (other : a ≠ .close) :
      (queue.closed = true ↔ s.queue.closed = true ∨ a = .close) ∧
        queue.deserted = s.queue.deserted := by
    refine ⟨?_, doors.deserted⟩
    rw [doors.closed]
    exact (or_iff_left other).symm
  have not_close {id : TaskId} (drops : a.drops? = some id) : a ≠ .close := by
    rintro rfl
    cases drops
  cases exchange with
  | @took id order queue woken _ _ popped =>
      have line := s.queue.joinLine_doors id
      have taken := pop?_doors popped
      exact same ⟨taken.closed.trans line.closed, taken.deserted.trans line.deserted⟩ (by simp)
  | @ended id =>
      have line := s.queue.joinLine_doors id
      exact same ⟨line.closed, line.deserted⟩ (by simp)
  | @idle id => exact same (s.queue.joinLine_doors id) (by simp)
  | missed drops => exact same ⟨rfl, rfl⟩ (not_close drops)
  | @unsent _ id _ drops => exact same (s.queue.withdraw_doors id) (not_close drops)
  | unreceived drops => exact same ⟨rfl, rfl⟩ (not_close drops)
  | closed => exact ⟨iff_of_true rfl (.inr rfl), rfl⟩
  | _ => exact same ⟨rfl, rfl⟩ (by simp)

/-- A task that is there afterwards was there before or was started, and every other task is over. -/
theorem Exchange.get? (exchange : Exchange s a tasks queue ready answers) {id : TaskId} {t : Task}
    (here : tasks.get? id = some t) :
    s.tasks.get? id = some t ∨ (id = s.nextTask ∧ a = .start t ∧ t.isExchange = true) := by
  cases exchange with
  | started exchange =>
      rw [Table.get?_insert] at here
      split at here
      · cases here
        exact .inr ⟨‹_›, rfl, exchange⟩
      · exact .inl here
  | claimed => exact .inl (get?_of_erase here)
  | placed => exact .inl (get?_of_erase here)
  | refused => exact .inl (get?_of_erase here)
  | took => exact .inl (get?_of_erase here)
  | ended => exact .inl (get?_of_erase here)
  | unsent => exact .inl (get?_of_erase here)
  | unreceived => exact .inl (get?_of_erase here)
  | _ => exact .inl here

end Exchange

theorem Exchanging.perform (exchanging : s.Exchanging capacity) (allowed : s.SendsAndReceives a) :
    (s.perform a).Exchanging capacity := by
  obtain ⟨exchange, timers⟩ := exchanging.exchanges allowed
  have kept : (s.perform a).queue.deserted = false := exchange.doors.2.trans exchanging.kept
  refine ⟨exchanging.attended.perform fun deserted => ?_, fun id t here => ?_, timers, kept⟩
  · rw [kept] at deserted
    cases deserted
  · obtain before | ⟨-, -, new⟩ := exchange.get? here
    · exact exchanging.tasks id t before
    · exact new

/-- Along a course of sends and receives, what every action does is listed. Runs are
then proved from the cases. -/
theorem Exchanging.obeys {actions : List Action} (exchanging : s.Exchanging capacity)
    (ok : Obeys SendsAndReceives s actions) :
    Obeys (fun s a => s.Exchanging capacity ∧ Exchange s a (s.perform a).tasks (s.perform a).queue
      (s.perform a).ready (s.perform a).answers) s actions := by
  induction actions generalizing s with
  | nil => trivial
  | cons a rest ih =>
      obtain ⟨first, later⟩ := ok
      exact ⟨⟨exchanging, (exchanging.exchanges first).1⟩, ih (exchanging.perform first) later⟩

theorem Exchanging.after {actions : List Action} (exchanging : s.Exchanging capacity)
    (ok : Obeys SendsAndReceives s actions) : (s.after actions).Exchanging capacity := by
  induction actions generalizing s with
  | nil => exact exchanging
  | cons a rest ih => exact ih (exchanging.perform ok.1) ok.2

/-- What the actions of a course yield, one after the other. Each is asked at the state
in which the action finds the sale. -/
def gather {α : Type} (f : Sale → Action → List α) (s : Sale) : List Action → List α
  | [] => []
  | a :: rest => f s a ++ gather f (s.perform a) rest

/-- What a course yields is what its first part yields and then what its second part
does from there. -/
theorem gather_append {α : Type} (f : Sale → Action → List α) (s : Sale)
    (first second : List Action) :
    gather f s (first ++ second) = gather f s first ++ gather f (s.after first) second := by
  induction first generalizing s with
  | nil => rfl
  | cons a rest ih => simp only [List.cons_append, gather, ih, after_cons, List.append_assoc]

theorem gather_concat {α : Type} (f : Sale → Action → List α) (s : Sale) (done : List Action)
    (a : Action) : gather f s (done ++ [a]) = gather f s done ++ f (s.after done) a := by
  rw [gather_append, gather, gather, List.append_nil]

/-- An order to tell from others by its identifier. -/
def parcel (id : Uuid) : Order := .pending id "ann" "tea" 1 (.ofMillis 0)

theorem exchanging_start {queue : AdmissionQueue} (reservations : Reservations) (ledger : Ledger)
    (commitLimit : Nat) (opened : AdmissionQueue.open? capacity = some queue) :
    Exchanging (max capacity 1) { reservations, ledger, queue, commitLimit } := by
  obtain rfl := ofCapacity_of_open? opened
  refine ⟨attended_start reservations ledger capacity commitLimit, ?_, rfl, rfl⟩
  intro id t found
  cases found

end Sale

end FlashSale
