import FlashSale.Proofs.Sale.Outside
import FlashSale.Proofs.Sale.Posting
import FlashSale.Proofs.Sale.Service

/-!
# A pipeline stays sound and its stock balances

Every action that a pipeline permits keeps it sound, and keeps the total of each item
whose counter it does not change directly. Both are proved together, one action at a
time, and carried along a course. The only condition is on the end of the course: no
version has reached its limit there, and then none had before.
-/

namespace FlashSale

namespace Action

/-- The action changes the counter of the item directly. Such stock comes from outside,
or goes there, without a purchase. -/
def Restocks (item : String) : Action → Prop
  | .reserve (.setStock wanted _) => wanted = item
  | .reserve (.take wanted _) => wanted = item
  | .reserve (.putBack wanted _) => wanted = item
  | _ => False

end Action

/-- A call changes no counter but that of its item. -/
theorem Reservations.call_counter (s : Reservations) (now : Nat) {call : ReservationCall}
    {item : String} (other : ¬ (Action.reserve call).Restocks item) :
    (s.call now call).counter item = s.counter item := by
  cases call with
  | setStock wanted quantity =>
      have differs : item ≠ wanted := Ne.symm other
      change (s.setStock wanted quantity).2.counter item = s.counter item
      unfold setStock
      split
      · rfl
      · exact (counter_insert ..).trans (if_neg differs)
  | take wanted quantity =>
      have differs : item ≠ wanted := Ne.symm other
      change (s.take wanted quantity).2.counter item = s.counter item
      rcases eq : s.take wanted quantity with ⟨reply, s'⟩
      by_cases taken : reply = .answer (.ok true)
      · subst taken
        obtain ⟨-, left, -, rfl⟩ := take_eq_ok_true eq
        exact (counter_insert ..).trans (if_neg differs)
      · rw [take_of_ne_ok_true eq taken]
  | putBack wanted quantity =>
      have differs : item ≠ wanted := Ne.symm other
      change (s.putBack wanted quantity).2.counter item = s.counter item
      rcases eq : s.putBack wanted quantity with ⟨reply, s'⟩
      by_cases back : reply = .answer (.ok ())
      · subst back
        obtain ⟨total, -, rfl⟩ := putBack_eq_ok eq
        exact (counter_insert ..).trans (if_neg differs)
      · rw [putBack_of_ne_ok eq back]
  | mark key => exact mark_counter s now key item

namespace Sale

/-- Stock wherever it is. This is what stays the same as long as nobody changes a
counter directly. -/
def total (s : Sale) (item : String) : Int := s.shelved item + s.tasks.sum (Task.owned item)

theorem total_eq (s : Sale) (item : String) :
    s.total item = s.counter item + s.out item + s.persisted item + s.lost item := by
  unfold total shelved out
  rw [sum_owned]
  omega

/-- If no spent stock comes back, what leaves the total of an item leaves room on its
counter. So soundness follows from the balance of a step. -/
theorem Sound.has_room {s s' : Sale} (sound : s.Sound) {item : String} {n : Int}
    (total : s'.total item + n = s.total item) (persisted : s.persisted item ≤ s'.persisted item)
    (lost : s.lost item ≤ s'.lost item) :
    s'.counter item + s'.out item + n ≤ 9223372036854775807 := by
  have room := sound.room item
  have before := s.total_eq item
  have after := s'.total_eq item
  omega

theorem hasWorkers_iff {s : Sale} :
    s.hasWorkers = true ↔ ∃ id t, s.tasks.get? id = some t ∧ t.isWorker = true := by
  simp only [hasWorkers, List.any_eq_true, Table.get?_eq_some_iff, Prod.exists]

variable {s s' s'' : Sale} {me : TaskId} {t : Task} {turn : Turn}

/-- A queue that its last worker leaves has ended already. -/
theorem QueueAfter.of_ended {queue : AdmissionQueue} (after : QueueAfter s t queue)
    (ends : t.isReceiver = true → s.queue.ended = true) :
    queue.buffer = s.queue.buffer ∧ (s.queue.ended = true → queue.ended = true) := by
  cases after with
  | kept => exact ⟨rfl, id⟩
  | deserted receiver =>
      have ends := ends receiver
      exact ⟨(AdmissionQueue.buffer_of_ended ends).symm,
        fun _ => AdmissionQueue.desert_ended (AdmissionQueue.ended_iff.mp ends).1⟩

/-- The buffer after a step is the one that the deed left: a worker that goes away
leaves a queue that is empty already. No order is lost with the last worker. -/
theorem Placed.queue (placed : Placed s' me t turn s'') (own : t.Sound)
    (service : Service s s' t turn) (alive : t.isWorker = true → turn ≠ .crash) :
    s''.queue.buffer = s'.queue.buffer ∧ (s'.queue.ended = true → s''.queue.ended = true) := by
  cases placed with
  | again => exact ⟨rfl, id⟩
  | wait => exact ⟨rfl, id⟩
  | finish after =>
      exact after.of_ended fun receiver => service.leaving (own.isReceiver ▸ receiver) _ rfl
  | crash after =>
      exact after.of_ended fun receiver => absurd rfl (alive (own.isReceiver ▸ receiver))

/-- A step of a task keeps a pipeline sound and moves its stock about. The posting of
its deed gives the balance, and placing the task changes no stock. -/
theorem Sound.of_turn (sound : s.Sound) (found : s.tasks.get? me = some t)
    (deed : Deed s me t s' turn) (placed : Placed s' me t turn s'')
    (below : s''.ledger.VersionsBelowLimit) :
    s''.Sound ∧ ∀ item, s''.total item = s.total item := by
  have own := sound.tasks me t found
  have frame := deed.frame
  have stores := placed.stores
  rw [stores.ledger] at below
  have posting := deed.posting sound found below
  have service := deed.service sound found
  have alive := deed.worker_ne_crash sound found below
  have found' : s'.tasks.get? me = some t := by rw [frame.tasks, found]
  have queue := placed.queue own service alive
  have total (item : String) : s''.total item = s.total item := by
    have sum := placed.sum found' (Task.owned item)
    have balance := posting.balance item
    rw [frame.tasks] at sum
    have shelved : s''.shelved item = s'.shelved item := by
      simp only [shelved, counter, buffered, persisted, lost, stores.reservations, stores.ledger,
        stores.log, queue.1]
    unfold Sale.total
    omega
  refine ⟨⟨?_, ?_, ?_, ?_, ?_, ?_, ?_, ?_⟩, total⟩
  · intro id t' here
    rw [stores.nextTask, frame.nextTask]
    obtain before | ⟨rfl, -⟩ := placed.found here
    · exact sound.fresh id t' (frame.tasks ▸ before)
    · exact sound.fresh id t found
  · intro id t' here
    obtain before | ⟨rfl, goes⟩ := placed.found here
    · exact sound.tasks id t' (frame.tasks ▸ before)
    · exact (service.next t' goes).1
  · rw [queue.1]
    exact service.buffer
  · -- A worker that is over has seen the end of the stream; any other task leaves the workers alone.
    obtain busy | ends := sound.staffed
    · obtain ⟨id, t', there, worker⟩ := hasWorkers_iff.mp busy
      by_cases same : id = me
      · subst same
        obtain rfl := Option.some.inj (found.symm.trans there)
        cases placed with
        | again next =>
            have stays := (service.next next rfl).2.trans worker
            exact .inl (hasWorkers_iff.mpr ⟨id, next, Table.get?_insert_self .., stays⟩)
        | wait => exact .inl (hasWorkers_iff.mpr ⟨id, t, found', worker⟩)
        | finish => exact .inr (queue.2 (service.leaving worker _ rfl))
        | crash => exact absurd rfl (alive worker)
      · have stays : s''.tasks.get? id = some t' := by
          rw [placed.kept same, frame.tasks, there]
        exact .inl (hasWorkers_iff.mpr ⟨id, t', stays, worker⟩)
    · exact .inr (queue.2 (service.ended ends))
  · rw [stores.faultyItem, frame.faultyItem]
    exact sound.faultless
  · intro item
    have same : s''.persisted item = s'.persisted item ∧ s''.lost item = s'.lost item := by
      simp only [Sale.persisted, Sale.lost, stores.ledger, stores.log, and_self]
    have total := (Int.add_zero _).trans (total item)
    have room := sound.has_room total (same.1 ▸ posting.persisted_le item)
      (same.2 ▸ posting.lost_le item)
    omega
  · rw [stores.ledger, stores.log]
    exact posting.saved
  · rw [stores.log]
    exact posting.losses

/-- Tasks, log and orders are as they were, and so is the queue but for those in line.
Counters may have changed, as long as they have room for what is out. -/
theorem Sound.aside (sound : s.Sound) {now : Nat} {reservations : Reservations} {ledger : Ledger}
    {queue : AdmissionQueue} {ready : List TaskId} {timers : List (Nat × TaskId)}
    (room : ∀ item, reservations.counter item + s.out item ≤ 9223372036854775807)
    (orders : ledger.orders = s.ledger.orders) (buffer : queue.buffer = s.queue.buffer)
    (ended : s.queue.ended = true → queue.ended = true) :
    Sound { s with now, reservations, ledger, queue, ready, timers } where
  fresh := sound.fresh
  tasks := sound.tasks
  buffer := buffer ▸ sound.buffer
  staffed := sound.staffed.imp_right ended
  faultless := sound.faultless
  room item := by
    have room := room item
    simp only [counter, out, held, returning, buffered, settling, buffer] at room ⊢
    exact room
  saved := sound.saved.keeps (.of_orders_eq orders)
  losses := sound.losses

/-- The total of an item does not change while its counter, the orders and the buffer do
not. -/
theorem Sound.total_aside (sound : s.Sound) {now : Nat} {reservations : Reservations}
    {ledger : Ledger} {queue : AdmissionQueue} {ready : List TaskId} {timers : List (Nat × TaskId)}
    {item : String} (counter : reservations.counter item = s.counter item)
    (orders : ledger.orders = s.ledger.orders) (buffer : queue.buffer = s.queue.buffer) :
    Sale.total { s with now, reservations, ledger, queue, ready, timers } item = s.total item := by
  have kept : Event.savedIn ledger s.log = Event.savedIn s.ledger s.log :=
    Event.savedIn_keeps (.of_orders_eq orders) sound.saved
  simp only [total, shelved, Sale.counter, buffered, persisted, lost, buffer, kept] at counter ⊢
  rw [counter]

theorem Sound.emit (sound : s.Sound) {events : List Event} (saved : Event.SavedFor s.ledger events)
    (losses : Event.LossesPositive events) : (s.emit events).Sound where
  fresh := sound.fresh
  tasks := sound.tasks
  buffer := sound.buffer
  staffed := sound.staffed
  faultless := sound.faultless
  room := sound.room
  saved := Event.savedFor_append.mpr ⟨sound.saved, saved⟩
  losses := Event.lossesPositive_append.mpr ⟨sound.losses, losses⟩

/-- Events add to the total what they report as lost. None of them is the report of an
order that was persisted. -/
theorem total_emit (s : Sale) {events : List Event} (unsaved : events.filterMap Event.savedId? = [])
    (item : String) : (s.emit events).total item = s.total item + Event.lostIn item events := by
  have saved : Event.savedIn s.ledger (s.log ++ events) = Event.savedIn s.ledger s.log := by
    simp [Event.savedIn, unsaved]
  simp only [total, shelved, counter, buffered, persisted, lost, Sale.emit, saved,
    Event.lostIn_append]
  omega

theorem Sound.unused (sound : s.Sound) : s.tasks.get? s.nextTask = none := by
  refine Option.eq_none_iff_forall_ne_some.mpr fun t found => ?_
  exact Nat.lt_irrefl _ (sound.fresh _ t found)

theorem Sound.total_spawn (sound : s.Sound) (t : Task) (item : String) :
    (s.spawn t).total item = s.total item + t.owned item := by
  have sum : (s.spawn t).tasks.sum (Task.owned item) = s.tasks.sum (Task.owned item) + t.owned item :=
    Table.sum_insert_fresh sound.unused t _
  unfold total
  rw [sum]
  exact (Int.add_assoc ..).symm

/-- A task may be started whose stock has room on the counters. Most tasks come with
none. -/
theorem Sound.spawn (sound : s.Sound) (ok : t.Sound)
    (room : ∀ item, s.counter item + s.out item + t.owned item ≤ 9223372036854775807) :
    (s.spawn t).Sound where
  fresh := Named.spawn sound.fresh t
  tasks id t' found := by
    rw [get?_spawn] at found
    split at found
    · cases found
      exact ok
    · exact sound.tasks id t' found
  buffer := sound.buffer
  staffed := by
    refine sound.staffed.imp_left fun busy => ?_
    obtain ⟨id, t', found, worker⟩ := hasWorkers_iff.mp busy
    have other : id ≠ s.nextTask := Nat.ne_of_lt (sound.fresh id t' found)
    exact hasWorkers_iff.mpr ⟨id, t', by rw [get?_spawn, if_neg other, found], worker⟩
  faultless := sound.faultless
  room item := by
    have room := room item
    have total := sound.total_spawn t item
    have before := s.total_eq item
    have after := (s.spawn t).total_eq item
    have same : (s.spawn t).persisted item = s.persisted item ∧
      (s.spawn t).lost item = s.lost item := ⟨rfl, rfl⟩
    omega
  saved := sound.saved
  losses := sound.losses

/-- A task that is no worker may go away with its stock. What is done with the stock is
accounted for afterwards. -/
theorem Sound.erase (sound : s.Sound) {id : TaskId} (found : s.tasks.get? id = some t)
    (other : t.isWorker = false) {queue : AdmissionQueue} (ready : List TaskId)
    (timers : List (Nat × TaskId)) (buffer : queue.buffer = s.queue.buffer)
    (ended : s.queue.ended = true → queue.ended = true) :
    Sound { s with tasks := s.tasks.erase id, queue, ready, timers } ∧
      ∀ item, Sale.total { s with tasks := s.tasks.erase id, queue, ready, timers } item =
        s.total item - t.owned item := by
  have total (item : String) :
      Sale.total { s with tasks := s.tasks.erase id, queue, ready, timers } item =
        s.total item - t.owned item := by
    simp only [Sale.total, shelved, counter, buffered, persisted, lost, buffer,
      Table.sum_erase found]
    omega
  refine ⟨⟨Named.erase sound.fresh id, fun id' t' here => sound.tasks id' t' (get?_of_erase here),
    ?_, ?_, sound.faultless, fun item => ?_, sound.saved, sound.losses⟩, total⟩
  · rw [buffer]
    exact sound.buffer
  · refine sound.staffed.imp (fun busy => ?_) ended
    obtain ⟨id', t', there, worker⟩ := hasWorkers_iff.mp busy
    have differs : id' ≠ id := by
      rintro rfl
      rw [Option.some.inj (found.symm.trans there), worker] at other
      cases other
    exact hasWorkers_iff.mpr ⟨id', t', (Table.get?_erase ..).trans (by rw [if_neg differs, there]),
      worker⟩
  · have owned := (sound.tasks id t found).owned_nonneg item
    have left : Sale.total { s with tasks := s.tasks.erase id, queue, ready, timers } item +
        t.owned item = s.total item := by
      rw [total]
      omega
    have room := sound.has_room left (Int.le_refl _) (Int.le_refl _)
    omega

/-- What is done with stock that a dropped purchase owned keeps a pipeline sound and
accounts for the stock. It may be put back later or reported as lost. -/
def Accounts (leave : Sale → Order → Sale) : Prop :=
  ∀ (s : Sale) (order : Order), s.Sound → 0 < order.quantity.toInt →
    (∀ item, s.counter item + s.out item + order.stockOf item ≤ 9223372036854775807) →
    (leave s order).Sound ∧
      ∀ item, (leave s order).total item = s.total item + order.stockOf item

theorem releaseLater_accounts : Accounts releaseLater := by
  intro s order sound positive room
  have quiet : (s.emit [.purchaseAbandoned order.itemId order.quantity]).Sound :=
    sound.emit (by simp [Event.SavedFor, Event.savedId?])
      (by simp [Event.LossesPositive, Event.loss?])
  have owned (due : Nat) (item : String) :
      (Task.release order.itemId order.quantity due).owned item = order.stockOf item :=
    owned_release ..
  refine ⟨quiet.spawn positive fun item => ?_, fun item => ?_⟩
  · rw [owned]
    exact room item
  · unfold releaseLater
    rw [quiet.total_spawn, owned, total_emit _ rfl,
      Event.lostIn_neutral (Event.neutral_singleton rfl rfl), Int.add_zero]

theorem reportLoss_accounts : Accounts reportLoss := by
  intro s order sound positive room
  refine ⟨sound.emit (by simp [Event.SavedFor, Event.savedId?]) ?_, fun item => ?_⟩
  · simpa [Event.LossesPositive, Event.loss?] using positive
  · unfold reportLoss
    rw [total_emit _ rfl]
    simp [Event.lostIn, Event.loss?, Order.stockOf]

/-- A task that is dropped loses no stock: the guard of a purchase puts it back or
reports the loss. -/
theorem Sound.drop (sound : s.Sound) {id : TaskId} {leave : Sale → Order → Sale}
    (accounts : Accounts leave) (droppable : ∀ t, s.tasks.get? id = some t → t.isDroppable = true) :
    (s.drop id leave).Sound ∧ ∀ item, (s.drop id leave).total item = s.total item := by
  cases found : s.tasks.get? id with
  | none =>
      rw [drop_of_get?_eq_none found]
      exact ⟨sound, fun _ => rfl⟩
  | some t =>
      have droppable := droppable t found
      have dropped := drop_dropped found leave
      generalize s.drop id leave = s' at dropped ⊢
      cases dropped with
      | gone free after =>
          have other : t.isWorker = false ∧ t.isReceiver = false ∧ ∀ item, t.owned item = 0 := by
            cases t with
            | purchase r web uuid stage due =>
                cases stage with
                | admitting order => exact (free _ _ _ _ _ rfl).elim
                | releasing => cases droppable
                | _ => exact ⟨rfl, rfl, fun _ => rfl⟩
            | ledger => exact ⟨rfl, rfl, fun _ => rfl⟩
            | join => exact ⟨rfl, rfl, fun _ => rfl⟩
            | _ => cases droppable
          obtain ⟨worker, receiver, owned⟩ := other
          obtain rfl := after.eq_of_not_receiver receiver
          obtain ⟨erased, total⟩ := sound.erase found worker _ _ rfl fun ends => ends
          refine ⟨erased, fun item => ?_⟩
          rw [total, owned, Int.sub_zero]
      | @unbought r web uuid order due ready timers =>
          have positive : 0 < order.quantity.toInt := by
            obtain ⟨positive, now, rfl⟩ := sound.tasks id _ found
            exact positive
          obtain ⟨erased, total⟩ := sound.erase found rfl ready timers
            (AdmissionQueue.withdraw_buffer s.queue id) AdmissionQueue.withdraw_ended
          have left (item : String) := (total item).trans (by rw [owned_admitting])
          obtain ⟨kept, whole⟩ := accounts _ order erased positive fun item =>
            sound.has_room (by rw [left]; omega) (Int.le_refl _) (Int.le_refl _)
          refine ⟨kept, fun item => ?_⟩
          rw [whole, left]
          omega
      | unsent => cases droppable
      | unreceived => cases droppable

/-- A permitted action keeps a pipeline sound, and the total of each item whose counter
it does not change directly. This is the step of which `Sound.after` is the run. -/
theorem Sound.perform (sound : s.Sound) {a : Action} (allowed : s.Permits a)
    (below : (s.perform a).ledger.VersionsBelowLimit) :
    (s.perform a).Sound ∧ ∀ item, ¬ a.Restocks item → (s.perform a).total item = s.total item := by
  cases a with
  | turn id =>
      change (s.stepTask id).ledger.VersionsBelowLimit at below
      change (s.stepTask id).Sound ∧ ∀ item, _ → (s.stepTask id).total item = s.total item
      cases found : s.tasks.get? id with
      | none =>
          rw [stepTask_of_get?_eq_none found]
          exact ⟨sound.aside sound.room rfl rfl fun ends => ends, fun _ _ => rfl⟩
      | some t =>
          obtain ⟨s', turn, deed, placed⟩ := stepTask_cases found
          obtain ⟨kept, total⟩ := sound.of_turn found deed placed below
          exact ⟨kept, fun item _ => total item⟩
  | elapse ms =>
      obtain ⟨ready, timers, eq⟩ := s.fire_eq (s.now + ms)
      rw [show s.perform (.elapse ms) = _ from eq]
      exact ⟨sound.aside sound.room rfl rfl fun ends => ends, fun _ _ => rfl⟩
  | start t =>
      refine ⟨sound.spawn (.of_isRequest allowed) fun item => ?_, fun item _ => ?_⟩
      · rw [Task.owned_of_isRequest allowed]
        have room := sound.room item
        omega
      · exact (sound.total_spawn t item).trans (by rw [Task.owned_of_isRequest allowed, Int.add_zero])
  | reserve call =>
      exact ⟨sound.aside allowed rfl rfl fun ends => ends,
        fun item other => sound.total_aside (s.reservations.call_counter s.now other) rfl rfl⟩
  | seed item stock =>
      have orders := s.ledger.seed_orders s.clock item stock
      exact ⟨sound.aside sound.room orders rfl fun ends => ends,
        fun _ _ => sound.total_aside rfl orders rfl⟩
  | cancel id =>
      obtain ⟨kept, total⟩ := sound.drop releaseLater_accounts allowed
      exact ⟨kept, fun item _ => total item⟩
  | abandon id =>
      obtain ⟨kept, total⟩ := sound.drop reportLoss_accounts allowed
      exact ⟨kept, fun item _ => total item⟩
  | close =>
      exact ⟨sound.aside sound.room rfl rfl AdmissionQueue.close_ended,
        fun _ _ => sound.total_aside rfl rfl rfl⟩
  | shutdown =>
      have told : (s.emit [.queueClosing s.queue.depth]).Sound :=
        sound.emit (by simp [Event.SavedFor, Event.savedId?])
          (by simp [Event.LossesPositive, Event.loss?])
      have closed : (s.emit [.queueClosing s.queue.depth]).close.Sound :=
        told.aside told.room rfl rfl AdmissionQueue.close_ended
      refine ⟨closed.spawn trivial fun item => ?_, fun item _ => ?_⟩
      · exact (Int.add_zero _).trans_le (closed.room item)
      · have total : (s.emit [.queueClosing s.queue.depth]).close.total item =
            (s.emit [.queueClosing s.queue.depth]).total item := told.total_aside rfl rfl rfl
        refine (closed.total_spawn .join item).trans ?_
        rw [total, total_emit _ rfl, Event.lostIn_neutral (Event.neutral_singleton rfl rfl)]
        exact (Int.add_zero _).trans (Int.add_zero _)
  | startWorkers => cases allowed
  | dropReceiver => cases allowed
  | reservationsUnavailable on =>
      exact ⟨sound.aside sound.room rfl rfl fun ends => ends, fun _ _ => rfl⟩
  | failIncrements on =>
      exact ⟨sound.aside sound.room rfl rfl fun ends => ends, fun _ _ => rfl⟩
  | ledgerUnavailable on =>
      exact ⟨sound.aside sound.room rfl rfl fun ends => ends, fun _ _ => rfl⟩
  | commitDelay ms =>
      exact ⟨sound.aside sound.room rfl rfl fun ends => ends, fun _ _ => rfl⟩
  | latency => cases allowed
  | faultyItem => cases allowed

/-- A permitted action leaves a counter that it does not change directly nonnegative. -/
theorem Sound.perform_counter_nonneg (sound : s.Sound) {a : Action} (allowed : s.Permits a)
    {item : String} (untouched : ¬ a.Restocks item) (nonneg : 0 ≤ s.counter item) :
    0 ≤ (s.perform a).counter item := by
  cases a with
  | turn id =>
      change 0 ≤ (s.stepTask id).counter item
      cases found : s.tasks.get? id with
      | none =>
          rw [stepTask_of_get?_eq_none found]
          exact nonneg
      | some t =>
          obtain ⟨s', turn, deed, placed⟩ := stepTask_cases found
          unfold counter
          rw [placed.stores.reservations]
          exact deed.counter_nonneg (sound.tasks id t found) nonneg
  | reserve call =>
      change 0 ≤ (s.reservations.call s.now call).counter item
      rw [s.reservations.call_counter s.now untouched]
      exact nonneg
  | cancel id =>
      change 0 ≤ (s.cancel id).reservations.counter item
      rw [(s.cancel_calls id).reservations]
      exact nonneg
  | abandon id =>
      change 0 ≤ (s.abandon id).reservations.counter item
      rw [(s.abandon_calls id).reservations]
      exact nonneg
  | startWorkers => cases allowed
  | dropReceiver => cases allowed
  | _ => exact nonneg

section Course

variable {actions : List Action} {item : String}

/-- Along a course that obeys a rule of pipelines, a pipeline is sound before every
action. Other runs are then proved from steps that know as much. -/
theorem Sound.obeys {rule : Sale → Action → Prop} (permits : ∀ s a, rule s a → s.Permits a)
    (sound : s.Sound) (ok : Obeys rule s actions)
    (below : (s.after actions).ledger.VersionsBelowLimit) :
    Obeys (fun s a => rule s a ∧ s.Sound ∧ (s.perform a).ledger.VersionsBelowLimit) s actions := by
  induction actions generalizing s with
  | nil => trivial
  | cons a rest ih =>
      have below' : (s.perform a).ledger.VersionsBelowLimit := after_versions _ below
      have kept := (sound.perform (permits s a ok.1) below').1
      exact ⟨⟨ok.1, sound, below'⟩, ih kept ok.2 below⟩

/-- A pipeline is sound after every course that it permits. Versions are looked at only
at the end, since they never fall. -/
theorem Sound.after (sound : s.Sound) (ok : Obeys Permits s actions)
    (below : (s.after actions).ledger.VersionsBelowLimit) : (s.after actions).Sound := by
  have steps := sound.obeys (fun _ _ allowed => allowed) ok below
  refine steps.invariant (P := fun done => (s.after done).Sound) sound ?_
  intro done a kept allowed
  rw [after_append]
  exact (kept.perform allowed.1 allowed.2.2).1

/-- A course that never changes the counter of an item directly keeps the total of the item and
a counter that is not negative. -/
theorem Sound.total_after (sound : s.Sound) (ok : Obeys Permits s actions)
    (below : (s.after actions).ledger.VersionsBelowLimit)
    (untouched : ∀ a ∈ actions, ¬ a.Restocks item) (nonneg : 0 ≤ s.counter item) :
    (s.after actions).total item = s.total item ∧ 0 ≤ (s.after actions).counter item := by
  have steps := sound.obeys (fun _ _ allowed => allowed.1) (ok.and_forall untouched) below
  refine steps.invariant (P := fun done => (s.after done).total item = s.total item ∧
    0 ≤ (s.after done).counter item) ⟨rfl, nonneg⟩ ?_
  rintro done a ⟨total, nonneg⟩ ⟨⟨allowed, other⟩, kept, below⟩
  rw [after_append]
  exact ⟨((kept.perform allowed below).2 item other).trans total,
    kept.perform_counter_nonneg allowed other nonneg⟩

end Course

/-- A pipeline starts sound, and all the stock that it knows of is on the counters.
Nothing is reserved, on its way or spent. -/
theorem pipeline?_sound {reservations : Reservations} {ledger : Ledger}
    {workers capacity commitLimit : Nat}
    (opened : pipeline? reservations ledger workers capacity commitLimit = some s) :
    s.Sound ∧ ∀ item, s.total item = s.counter item := by
  have idle {id : TaskId} {t : Task} (here : s.tasks.get? id = some t) := pipeline?_idle opened here
  obtain ⟨tasks, ready, rfl, found⟩ := pipeline?_eq opened
  have nothing (f : Task → Int) (none : f (.receive .worker) = 0) : tasks.sum f = 0 :=
    Table.sum_eq_zero fun id t here => (idle here).2 ▸ none
  refine ⟨⟨fun id t here => (idle here).1, fun id t here => (idle here).2 ▸ rfl, ?_, .inl ?_,
    rfl, fun item => ?_, ?_, ?_⟩, fun item => ?_⟩
  · simp [AdmissionQueue.ofCapacity]
  · refine hasWorkers_iff.mpr ⟨0, .receive .worker, ?_, rfl⟩
    rw [found, if_pos (Nat.lt_of_lt_of_le Nat.zero_lt_one (Nat.le_max_right ..))]
  · simp only [counter, out, held, returning, buffered, settling]
    rw [nothing _ rfl, nothing _ rfl, nothing _ rfl]
    have upper := reservations.counter_le item
    simpa [AdmissionQueue.ofCapacity] using upper
  · simp [Event.SavedFor, Event.savedId?]
  · simp [Event.LossesPositive, Event.loss?]
  · simp only [total, shelved, counter, buffered, persisted, lost]
    rw [nothing _ rfl]
    change reservations.counter item + 0 + 0 + 0 + 0 = reservations.counter item
    omega

end Sale

end FlashSale
