import FlashSale.Proofs.Sale.Account
import FlashSale.Proofs.Sale.Attendance

/-!
# Workers and the orders in their hands

A pipeline has as many workers as it was started with, until its stream has ended. Every
accepted order is in the buffer, in the hands of a worker, or settled and counted. And as
the stores in memory reply at once, purchases and orders whose stock is put back never
wait for a time.

`Staffed` says so, and every action keeps it that a pipeline permits and that starts no
purchase ahead of its time.
-/

namespace FlashSale

namespace Task

/-- One for a worker, so that the sum over all tasks is the number of workers. -/
def staff (t : Task) : Int := if t.isWorker then 1 else 0

/-- One for a worker with an order in its hands. -/
def carries : Task → Int
  | settle .worker .. => 1
  | _ => 0

/-- One for a worker that is committing an order. -/
def committing : Task → Int
  | settle .worker _ .committing _ _ => 1
  | _ => 0

/-- A purchase and an order whose stock is put back wait for no time to come. A commit
may, as the ledger can be slow. -/
def Punctual (now : Nat) : Task → Prop
  | purchase _ _ _ _ due => due ≤ now
  | settle _ _ (.restoring _) due _ => due ≤ now
  | _ => True

theorem committing_le_carries (t : Task) : t.committing ≤ t.carries := by
  cases t with
  | settle owner order stage => cases owner <;> cases stage <;> simp [committing, carries]
  | _ => exact Int.le_refl 0

theorem carries_le_staff (t : Task) : t.carries ≤ t.staff := by
  cases t with
  | settle owner => cases owner <;> simp [carries, staff, isWorker]
  | receive owner => cases owner <;> simp [carries, staff, isWorker]
  | _ => exact Int.le_refl 0

theorem Punctual.later {t : Task} {now later : Nat} (punctual : t.Punctual now) (le : now ≤ later) :
    t.Punctual later := by
  cases t with
  | purchase => exact Nat.le_trans punctual le
  | settle owner order stage =>
      cases stage with
      | restoring => exact Nat.le_trans punctual le
      | _ => trivial
  | _ => trivial

end Task

namespace Sale

open AdmissionQueue

/-- The number of workers. -/
def staff (s : Sale) : Int := s.tasks.sum Task.staff

/-- The number of orders in the hands of workers. -/
def carried (s : Sale) : Int := s.tasks.sum Task.carries

/-- The number of orders that are being committed. -/
def committing (s : Sale) : Int := s.tasks.sum Task.committing

/-- A pipeline's rule under which no purchase is started ahead of its time. With stores
that reply at once no purchase ever waits for a time then. -/
def AtOnce (s : Sale) (a : Action) : Prop :=
  s.Permits a ∧ ∀ t, a = .start t → t.Punctual s.now

/-- What is true at all times of a pipeline of so many workers over a queue of so many
slots. The fields are proved together, since a worker leaves only when the stream has
ended. -/
structure Staffed (workers capacity : Nat) (s : Sale) : Prop where
  sound : s.Sound
  attended : s.Attended capacity
  kept : s.queue.deserted = true → s.queue.ended = true
  staff : s.staff = workers ∨ (s.queue.ended = true ∧ s.staff ≤ workers)
  balance : (s.accepted.length : Int) = s.tally.processed + s.queue.buffer.length + s.carried
  latency : s.latency = {}
  punctual : ∀ id t, s.tasks.get? id = some t → t.Punctual s.now

variable {s s' s'' : Sale} {me id : TaskId} {t t' : Task} {turn : Turn} {a : Action}
  {workers capacity : Nat}

/-- What is accepted is in the buffer, in the hands of a worker, or settled. A step
moves an order from one place to the next. -/
def Moves (s s' : Sale) (t : Task) (turn : Turn) : Prop :=
  (s'.tally.processed : Int) + s'.queue.buffer.length + turn.weigh Task.carries t =
    s.tally.processed + s.queue.buffer.length + t.carries + turn.accepted.length

theorem Moves.of_still (tally : s'.tally = s.tally) (buffer : s'.queue.buffer = s.queue.buffer)
    (carries : turn.weigh Task.carries t = t.carries) (accepted : turn.accepted = []) :
    Moves s s' t turn := by
  rw [Moves, tally, buffer, carries, accepted, List.length_nil]
  omega

/-- A worker that settled its order counts it. -/
theorem moves_conclude (s s' : Sale) (order : Order) (stage : Settlement.Stage) (due giveUp : Nat)
    (outcome : Outcome) (tally : s'.tally = s.tally) (buffer : s'.queue.buffer = s.queue.buffer) :
    Moves s (s'.conclude .worker order outcome).1 (.settle .worker order stage due giveUp)
      (s'.conclude .worker order outcome).2 := by
  have counted : (s.tally.record outcome).processed = s.tally.processed + 1 := by
    cases outcome <;> simp only [Tally.record, Tally.processed] <;> omega
  simp only [Moves, conclude, emit, tally, buffer, counted, Turn.weigh, Task.carries,
    Turn.accepted, List.length_nil]
  omega

/-- Every step moves orders on, if no worker is lost to it with an order in its hands.
-/
theorem Deed.moves (deed : Deed s me t s' turn) (own : t.Sound)
    (alive : t.isWorker = true → turn ≠ .crash) : Moves s s' t turn := by
  cases t with
  | purchase r web uuid stage due =>
      cases deed with
      | admitted slot =>
          simp only [Moves, put_buffer, slot.buffer, List.length_append, List.length_singleton,
            Turn.weigh, Task.carries, Turn.accepted, Answer.accepted?, Option.toList]
          omega
      | inLine line => exact .of_still rfl line.buffer rfl rfl
      | _ => exact .of_still rfl rfl rfl rfl
  | settle owner order stage due giveUp =>
      obtain rfl : owner = .worker := own.1
      cases deed with
      | asleep => exact .of_still rfl rfl rfl rfl
      | begun => exact .of_still rfl rfl rfl rfl
      | commitRefused => exact .of_still rfl rfl rfl rfl
      | commitTimedOut => exact .of_still rfl rfl rfl rfl
      | committed => exact moves_conclude s _ order _ due giveUp _ rfl rfl
      | restored => exact moves_conclude s _ order _ due giveUp _ rfl rfl
      | restoreFailed => exact moves_conclude s _ order _ due giveUp _ rfl rfl
      | _ => exact absurd rfl (alive rfl)
  | receive owner =>
      obtain rfl : owner = .worker := own
      cases deed with
      | @handed order queue _ _ popped =>
          have buffer := buffer_of_pop? popped
          rw [joinLine_buffer] at buffer
          simp only [Moves, leaveLine_buffer, uncount, buffer, List.length_cons, Turn.weigh,
            Task.carries, Turn.accepted, List.length_nil]
          omega
      | asleep => exact .of_still rfl rfl rfl rfl
      | drained => exact .of_still rfl (by simp) rfl rfl
      | idle => exact .of_still rfl (by simp) rfl rfl
  | ledger =>
      cases deed with
      | commitCalled ends => obtain ⟨result, rfl⟩ | rfl := ends <;> exact .of_still rfl rfl rfl rfl
      | looked ends => obtain ⟨result, rfl⟩ | rfl := ends <;> exact .of_still rfl rfl rfl rfl
      | updated ends => obtain ⟨result, rfl⟩ | rfl := ends <;> exact .of_still rfl rfl rfl rfl
      | _ => exact .of_still rfl rfl rfl rfl
  | release => cases deed <;> exact .of_still rfl rfl rfl rfl
  | join => cases deed <;> exact .of_still rfl rfl rfl rfl
  | send => cases own
  | reservation => cases own

/-- No step of a task opens, closes or deserts the queue. That is left to those outside,
and to the end of the last receiver. -/
theorem QueueCall.doors (call : QueueCall s me t s' turn) : SameDoors s.queue s'.queue := by
  have line := s.queue.joinLine_doors me
  cases call with
  | aside _ _ _ _ _ _ changes => exact changes ▸ ⟨rfl, rfl⟩
  | claimed _ _ _ changes => exact changes ▸ ⟨rfl, rfl⟩
  | placed _ _ _ _ _ changes => exact changes ▸ ⟨rfl, rfl⟩
  | took _ popped changes =>
      have taken := pop?_doors popped
      exact changes ▸ ⟨taken.closed.trans line.closed, taken.deserted.trans line.deserted⟩
  | ended _ _ changes => exact changes ▸ ⟨line.closed, line.deserted⟩
  | idle => exact line
  | _ => exact ⟨rfl, rfl⟩

/-- A worker that goes away finds the stream ended. So as long as it has not, all the
workers are there. -/
theorem QueueCall.ended_of_finish {answer : Answer} (call : QueueCall s me t s' (.finish answer))
    (worker : t.isWorker = true) (ends : s'.queue.ended = true) : s.queue.ended = true := by
  generalize goes : Turn.finish answer = turn at call
  have idle (offers : t.offers s.now = true) : False := by
    cases t with
    | purchase => cases worker
    | send => cases worker
    | _ => cases offers
  cases call with
  | aside _ _ _ _ _ _ changes => exact changes ▸ ends
  | claimed offers => exact (idle offers).elim
  | placed offers => exact (idle offers).elim
  | @took owner =>
      cases owner with
      | worker => cases goes
      | caller => cases worker
  | ended _ ends => exact ends
  | _ => cases goes

/-- The stores in memory reply at once, and what a task waits for next is due already.
-/
theorem Next.punctual (next : Next s t t') (latency : s.latency = {}) : t'.Punctual s.now := by
  have now (ms : Nat) (none : ms = 0) : s.now + ms ≤ s.now := by omega
  cases next with
  | entered => exact now _ (congrArg Latency.mark latency)
  | marked => exact now _ (congrArg Latency.take latency)
  | reserved => exact Nat.le_refl _
  | refused => exact now _ (congrArg Latency.putBack latency)
  | failed => exact now _ (congrArg Latency.putBack latency)
  | _ => trivial

/-- A change from outside leaves workers, orders and the end of the stream alone. It may
start other tasks, drop them, and let time pass. -/
structure Overlooks (s s' : Sale) : Prop where
  answers : s'.answers = s.answers
  tally : s'.tally = s.tally
  buffer : s'.queue.buffer = s.queue.buffer
  deserted : s'.queue.deserted = s.queue.deserted
  ended : s.queue.ended = true → s'.queue.ended = true
  latency : s'.latency = s.latency
  now : s.now ≤ s'.now
  /-- Amounts that only workers have are as they were. -/
  sum : ∀ f : Task → Int, (∀ t, t.isWorker = false → f t = 0) → s'.tasks.sum f = s.tasks.sum f

theorem Overlooks.trans (first : Overlooks s s') (second : Overlooks s' s'') : Overlooks s s'' where
  answers := second.answers.trans first.answers
  tally := second.tally.trans first.tally
  buffer := second.buffer.trans first.buffer
  deserted := second.deserted.trans first.deserted
  ended := second.ended ∘ first.ended
  latency := second.latency.trans first.latency
  now := first.now.trans second.now
  sum f only := (second.sum f only).trans (first.sum f only)

theorem overlooks_spawn (unused : s.tasks.get? s.nextTask = none) (other : t.isWorker = false) :
    Overlooks s (s.spawn t) where
  answers := rfl
  tally := rfl
  buffer := rfl
  deserted := rfl
  ended ends := ends
  latency := rfl
  now := Nat.le_refl _
  sum f only := by
    have more : (s.spawn t).tasks.sum f = s.tasks.sum f + f t := Table.sum_insert_fresh unused t f
    rw [more, only t other]
    omega

theorem Sound.overlooks_drop (sound : s.Sound) {leave : Sale → Order → Sale}
    (leaves : ∀ s order, s.tasks.get? s.nextTask = none → Overlooks s (leave s order))
    (droppable : ∀ t, s.tasks.get? id = some t → t.isDroppable = true) :
    Overlooks s (s.drop id leave) := by
  cases found : s.tasks.get? id with
  | none =>
      rw [drop_of_get?_eq_none found]
      exact ⟨rfl, rfl, rfl, rfl, fun ends => ends, rfl, Nat.le_refl _, fun _ _ => rfl⟩
  | some t =>
      have droppable := droppable t found
      have other : t.isWorker = false ∧ t.isReceiver = false := by
        cases t with
        | settle => cases droppable
        | receive => cases droppable
        | _ => exact ⟨rfl, rfl⟩
      have left (f : Task → Int) (only : ∀ t, t.isWorker = false → f t = 0) :
          (s.tasks.erase id).sum f = s.tasks.sum f := by
        rw [Table.sum_erase found, only t other.1]
        omega
      have dropped := drop_dropped found leave
      generalize s.drop id leave = s' at dropped ⊢
      cases dropped with
      | gone _ after =>
          obtain rfl := after.eq_of_not_receiver other.2
          exact ⟨rfl, rfl, rfl, rfl, fun ends => ends, rfl, Nat.le_refl _, left⟩
      | @unbought r web uuid order due ready timers =>
          have gone : Overlooks s { s with
              tasks := s.tasks.erase id, queue := (s.queue.withdraw id).1, ready, timers } :=
            ⟨rfl, rfl, withdraw_buffer s.queue id, (withdraw_doors s.queue id).deserted,
              withdraw_ended, rfl, Nat.le_refl _, left⟩
          refine gone.trans (leaves _ order ?_)
          exact (Table.get?_erase ..).trans (by rw [sound.unused, ite_self])
      | unsent => cases droppable
      | unreceived => cases droppable

/-- Whatever a pipeline permits is overlooked, unless it is the turn of a task. -/
theorem Sound.overlooks (sound : s.Sound) (allowed : s.Permits a) (other : ∀ id, a ≠ .turn id) :
    Overlooks s (s.perform a) := by
  have same {s' : Sale} (answers : s'.answers = s.answers) (tally : s'.tally = s.tally)
      (queue : s'.queue = s.queue) (latency : s'.latency = s.latency) (now : s.now ≤ s'.now)
      (tasks : s'.tasks = s.tasks) : Overlooks s s' :=
    ⟨answers, tally, congrArg _ queue, congrArg _ queue, fun ends => queue ▸ ends, latency, now,
      fun f _ => congrArg (Table.sum · f) tasks⟩
  cases a with
  | turn id => exact absurd rfl (other id)
  | elapse ms => exact same rfl rfl rfl rfl (Nat.le_add_right ..) rfl
  | start t =>
      refine overlooks_spawn sound.unused ?_
      cases t with
      | purchase => rfl
      | ledger => rfl
      | _ => cases allowed
  | cancel id =>
      refine sound.overlooks_drop (fun s order unused => ?_) allowed
      have told : Overlooks s (s.emit [.purchaseAbandoned order.itemId order.quantity]) :=
        ⟨rfl, rfl, rfl, rfl, fun ends => ends, rfl, Nat.le_refl _, fun _ _ => rfl⟩
      exact told.trans (overlooks_spawn unused rfl)
  | abandon id =>
      refine sound.overlooks_drop (fun s order _ => ?_) allowed
      exact ⟨rfl, rfl, rfl, rfl, fun ends => ends, rfl, Nat.le_refl _, fun _ _ => rfl⟩
  | close => exact ⟨rfl, rfl, rfl, rfl, close_ended, rfl, Nat.le_refl _, fun _ _ => rfl⟩
  | shutdown =>
      have closed : Overlooks s (s.emit [.queueClosing s.queue.depth]).close :=
        ⟨rfl, rfl, rfl, rfl, close_ended, rfl, Nat.le_refl _, fun _ _ => rfl⟩
      exact closed.trans (overlooks_spawn sound.unused rfl)
  | startWorkers => cases allowed
  | dropReceiver => cases allowed
  | latency => cases allowed
  | faultyItem => cases allowed
  | _ => exact same rfl rfl rfl rfl (Nat.le_refl _) rfl

/-- A queue is deserted by its last worker, which found the stream ended. So no buyer is
turned away because of that. -/
theorem Placed.ended_of_deserted (placed : Placed s' me t turn s'') (own : t.Sound)
    (call : QueueCall s me t s' turn) (service : Service s s' t turn)
    (alive : t.isWorker = true → turn ≠ .crash)
    (kept : s.queue.deserted = true → s.queue.ended = true)
    (deserted : s''.queue.deserted = true) : s.queue.ended = true := by
  have before (same : s''.queue = s'.queue) : s.queue.ended = true := by
    rw [same, call.doors.deserted] at deserted
    exact kept deserted
  cases placed with
  | again => exact before rfl
  | wait => exact before rfl
  | finish after =>
      cases after with
      | kept => exact before rfl
      | deserted receiver =>
          have worker : t.isWorker = true := own.isReceiver ▸ receiver
          exact call.ended_of_finish worker (service.leaving worker _ rfl)
  | crash after =>
      cases after with
      | kept => exact before rfl
      | deserted receiver => exact absurd rfl (alive (own.isReceiver ▸ receiver))

/-- The task is a worker still if it was one, or it left when the stream had ended. A
pipeline never has to make do with fewer workers before. -/
theorem Service.weigh_staff (service : Service s s' t turn)
    (alive : t.isWorker = true → turn ≠ .crash) :
    turn.weigh Task.staff t = t.staff ∨
      (s'.queue.ended = true ∧ turn.weigh Task.staff t ≤ t.staff) := by
  cases turn with
  | again t' =>
      left
      simp only [Turn.weigh, Task.staff, (service.next t' rfl).2]
  | wait => exact .inl rfl
  | finish answer =>
      cases worker : t.isWorker with
      | true => exact .inr ⟨service.leaving worker _ rfl, by simp [Turn.weigh, Task.staff, worker]⟩
      | false => exact .inl (by simp [Turn.weigh, Task.staff, worker])
  | crash =>
      left
      have other : t.isWorker = false := by simpa using alive
      simp [Turn.weigh, Task.staff, other]

/-- The turn of a task keeps the workers and the count of the orders that were accepted.
-/
theorem Staffed.of_turn (staffed : s.Staffed workers capacity) (found : s.tasks.get? me = some t)
    (below : (s.perform (.turn me)).ledger.VersionsBelowLimit) :
    (s.perform (.turn me)).Staffed workers capacity := by
  have sound := staffed.sound
  have own := sound.tasks me t found
  have call := s.act_call me t
  have deed := s.act_deed me t
  have placed : Placed (s.act me t).1 me t (s.act me t).2 (s.perform (.turn me)) :=
    stepTask_placed found
  generalize (s.act me t).1 = s', (s.act me t).2 = turn at call deed placed
  have frame := deed.frame
  have stores := placed.stores
  have service := deed.service sound found
  have alive := deed.worker_ne_crash sound found (stores.ledger ▸ below)
  have queue := placed.queue own service alive
  have keeps := placed.ended_of_deserted own call service alive staffed.kept
  have found' : s'.tasks.get? me = some t := by rw [frame.tasks, found]
  have sum (f : Task → Int) :
      (s.perform (.turn me)).tasks.sum f = s.tasks.sum f - f t + turn.weigh f t := by
    rw [placed.sum found' f, frame.tasks]
  have clock : (s.perform (.turn me)).now = s.now := by
    generalize s.perform (.turn me) = s'' at placed ⊢
    cases placed <;> exact frame.now
  constructor
  case sound => exact (sound.perform (a := .turn me) trivial below).1
  case attended => exact staffed.attended.perform keeps
  case kept => exact fun deserted => queue.2 (service.ended (keeps deserted))
  case staff =>
    have amount := sum Task.staff
    have before := staffed.staff
    have ends : s.queue.ended = true → (s.perform (.turn me)).queue.ended = true :=
      queue.2 ∘ service.ended
    unfold Sale.staff at before ⊢
    obtain same | ⟨left, fewer⟩ := service.weigh_staff alive
    · obtain all | ⟨ended, some⟩ := before
      · left
        omega
      · exact .inr ⟨ends ended, by omega⟩
    · exact .inr ⟨queue.2 left, by omega⟩
  case balance =>
    have moves : Moves s s' t turn := deed.moves own alive
    have amount := sum Task.carries
    have before := staffed.balance
    have accepted : s'.accepted = s.accepted := by
      unfold Sale.accepted
      rw [frame.answers]
    rw [placed.accepted, accepted, stores.tally, queue.1, List.length_append]
    unfold Moves at moves
    unfold carried at before ⊢
    omega
  case latency =>
    generalize s.perform (.turn me) = s'' at placed ⊢
    cases placed <;> exact frame.latency.trans staffed.latency
  case punctual =>
    intro id t' here
    rw [clock]
    obtain before | ⟨rfl, goes⟩ := placed.found here
    · exact staffed.punctual id t' (frame.tasks ▸ before)
    · exact (deed.next goes).punctual staffed.latency

/-- Every permitted action that starts no purchase ahead of its time keeps a pipeline
staffed. A turn moves orders, and anything else is overlooked. -/
theorem Staffed.perform (staffed : s.Staffed workers capacity) (allowed : s.AtOnce a)
    (below : (s.perform a).ledger.VersionsBelowLimit) :
    (s.perform a).Staffed workers capacity := by
  by_cases turns : ∃ me, a = .turn me
  · obtain ⟨me, rfl⟩ := turns
    cases found : s.tasks.get? me with
    | some t => exact staffed.of_turn found below
    | none =>
        have still : s.perform (.turn me) = { s with ready := s.ready.erase me } :=
          stepTask_of_get?_eq_none found
        have kept := (staffed.sound.perform allowed.1 below).1
        have attended := staffed.attended.perform (a := .turn me) (by rw [still]; exact staffed.kept)
        rw [still] at kept attended ⊢
        exact ⟨kept, attended, staffed.kept, staffed.staff, staffed.balance, staffed.latency,
          staffed.punctual⟩
  have other (id : TaskId) : a ≠ .turn id := fun turn => turns ⟨id, turn⟩
  have outside := staffed.sound.overlooks allowed.1 other
  have keeps (deserted : (s.perform a).queue.deserted = true) : s.queue.ended = true :=
    staffed.kept (outside.deserted ▸ deserted)
  constructor
  case sound => exact (staffed.sound.perform allowed.1 below).1
  case attended => exact staffed.attended.perform keeps
  case kept => exact fun deserted => outside.ended (keeps deserted)
  case staff =>
    have same : (s.perform a).staff = s.staff :=
      outside.sum Task.staff fun t other => by simp [Task.staff, other]
    rw [same]
    exact staffed.staff.imp_right fun ends => ⟨outside.ended ends.1, ends.2⟩
  case balance =>
    have same : (s.perform a).carried = s.carried := by
      refine outside.sum Task.carries fun t other => ?_
      cases t with
      | settle owner =>
          cases owner with
          | worker => cases other
          | caller => rfl
      | _ => rfl
    have accepted : (s.perform a).accepted = s.accepted := by
      unfold Sale.accepted
      rw [outside.answers]
    rw [accepted, outside.tally, outside.buffer, same]
    exact staffed.balance
  case latency => exact outside.latency.trans staffed.latency
  case punctual =>
    intro id t here
    cases perform_origin here with
    | kept found => exact Task.Punctual.later (staffed.punctual id t found) outside.now
    | started => exact Task.Punctual.later (allowed.2 t rfl) outside.now
    | turned => exact absurd rfl (other id)
    | _ => trivial

theorem Staffed.after {actions : List Action} (staffed : s.Staffed workers capacity)
    (ok : Obeys AtOnce s actions) (below : (s.after actions).ledger.VersionsBelowLimit) :
    (s.after actions).Staffed workers capacity := by
  induction actions generalizing s with
  | nil => exact staffed
  | cons a rest ih => exact ih (staffed.perform ok.1 (after_versions _ below)) ok.2 below

/-- A pipeline starts with all its workers, and nothing in their hands. A pipeline for
no workers has one all the same. -/
theorem pipeline?_staffed {reservations : Reservations} {ledger : Ledger} {commitLimit : Nat}
    (opened : pipeline? reservations ledger workers capacity commitLimit = some s) :
    s.Staffed (max workers 1) (max capacity 1) := by
  have idle {id : TaskId} {t : Task} (here : s.tasks.get? id = some t) : t = .receive .worker :=
    (pipeline?_idle opened here).2
  have sound := (pipeline?_sound opened).1
  have attended := pipeline?_attended opened
  obtain ⟨tasks, ready, rfl, found⟩ := pipeline?_eq opened
  have all : tasks.sum Task.staff = (max workers 1 : Nat) := by
    have names : (tasks.entries.map Prod.fst).Perm (List.range (max workers 1)) := by
      refine (List.perm_ext_iff_of_nodup tasks.nodup List.nodup_range).mpr fun id => ?_
      rw [List.mem_range, List.mem_map]
      constructor
      · rintro ⟨⟨id, t⟩, member, rfl⟩
        have here := Table.get?_eq_some_iff.mpr member
        rw [found] at here
        split at here
        · assumption
        · cases here
      · intro named
        have here := (found id).trans (if_pos named)
        exact ⟨_, Table.get?_eq_some_iff.mp here, rfl⟩
    have one : ∀ n ∈ tasks.entries.map (fun e => e.2.staff), n = 1 := by
      intro n counted
      obtain ⟨e, member, rfl⟩ := List.mem_map.mp counted
      rw [idle (Table.get?_eq_some_iff.mpr member)]
      rfl
    rw [Table.sum, List.sum_eq_card_nsmul _ 1 one, List.length_map]
    have length := names.length_eq
    rw [List.length_map, List.length_range] at length
    simp [length]
  have nothing : tasks.sum Task.carries = 0 :=
    Table.sum_eq_zero fun id t here => idle here ▸ rfl
  refine ⟨sound, attended, by simp [AdmissionQueue.ofCapacity], .inl all, ?_, rfl, fun id t here => ?_⟩
  · unfold carried
    rw [nothing]
    rfl
  · rw [idle here]
    trivial

end Sale

end FlashSale
