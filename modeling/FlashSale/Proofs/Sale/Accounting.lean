import FlashSale.Proofs.Sale.Account
import FlashSale.Proofs.Sale.Soundness

/-!
# Every order stays accounted for

What the outside world does takes no order along, so every action of a course keeps the
orders accounted for. If the identifiers of the purchases are distinct, no purchase is
accepted and no order settled twice.
-/

namespace FlashSale.Sale

variable {s s' : Sale} {me : TaskId} {t : Task} {calls : List Uuid} {work : List Note}

/-- What the outside world does takes no order along: it may start and drop tasks that
have none, and start purchases under the identifiers `more`. -/
theorem Accounted.of_outside (account : Accounted s calls work) {more : List Uuid}
    (answers : s'.answers = s.answers) (buffer : s'.queue.buffer = s.queue.buffer)
    (orders : s'.ledger.orders = s.ledger.orders) (tally : s'.tally = s.tally)
    {events : List Event} (log : s'.log = s.log ++ events)
    (unsettled : ∀ e ∈ events, e.settledId? = none)
    (buys : ∀ id, s'.tasks.sum (Task.buys id) ≤ s.tasks.sum (Task.buys id) + more.count id)
    (settles : ∀ id, s'.tasks.sum (Task.settles id) = s.tasks.sum (Task.settles id))
    (commits : ∀ id, s'.tasks.sum (Task.commits id) = s.tasks.sum (Task.commits id))
    (tasks : ∀ id t, s'.tasks.get? id = some t → s.tasks.get? id = some t ∨
      (t.order? = none ∧ t.isDirectCommit = false ∧ t.isWorker = false)) :
    Accounted s' (calls ++ more) work := by
  have settled : Event.settledIds s'.log = Event.settledIds s.log := by
    rw [log]
    exact filterMap_append_none unsettled
  have accepted : s'.accepted = s.accepted := by
    unfold Sale.accepted
    rw [answers]
  have accepts {order : Order} (before : s.Accepts order) : s'.Accepts order :=
    before.mono fun purchase member => accepted ▸ member
  constructor
  case bought =>
    intro id
    have before := account.bought id
    have step := buys id
    rw [accepted, List.count_append]
    omega
  case passed =>
    intro id
    rw [accepted, buffer, settles, settled]
    exact account.passed id
  case handed =>
    intro id
    rw [settles, settled]
    exact account.handed id
  case attempted =>
    intro id
    rw [commits, settled]
    exact account.attempted id
  case handing => exact fun e member => accepts (account.handing e member)
  case attempting => exact account.attempting
  case buffer =>
    intro order member
    rw [buffer] at member
    exact accepts (account.buffer order member)
  case working =>
    intro id t order here has
    obtain before | ⟨none, -⟩ := tasks id t here
    · exact account.working id t order before has
    · rw [none] at has
      cases has
  case indirect =>
    intro id t here
    obtain before | ⟨-, indirect, -⟩ := tasks id t here
    · exact account.indirect id t before
    · exact indirect
  case ledger =>
    intro id order here
    rw [Ledger.findOrder?, orders] at here
    obtain ⟨same, before⟩ := account.ledger id order here
    exact ⟨same, accepts before⟩
  case recorded =>
    exact account.recorded.quiet log (fun e he => (settled_none (unsettled e he)).1) orders
  case tallied => exact account.tallied.quiet log unsettled tally
  case joined =>
    intro id stats told
    rw [answers] at told
    obtain ⟨alone, same⟩ := account.joined id stats told
    refine ⟨Bool.eq_false_iff.mpr fun busy => ?_, same.trans tally.symm⟩
    obtain ⟨id', t, here, worker⟩ := hasWorkers_iff.mp busy
    obtain before | ⟨-, -, other⟩ := tasks id' t here
    · rw [hasWorkers_iff.mpr ⟨id', t, before, worker⟩] at alone
      cases alone
    · rw [other] at worker
      cases worker

/-- No task was started or dropped and nothing reported. This is the case of the
switches, of the passing of time and of calls of a store. -/
theorem Accounted.aside (account : Accounted s calls work) (answers : s'.answers = s.answers)
    (buffer : s'.queue.buffer = s.queue.buffer) (orders : s'.ledger.orders = s.ledger.orders)
    (tally : s'.tally = s.tally) (log : s'.log = s.log) (tasks : s'.tasks = s.tasks) :
    Accounted s' calls work := by
  rw [← List.append_nil calls]
  refine account.of_outside answers buffer orders tally (log.trans (List.append_nil _).symm)
    (by simp) ?_ ?_ ?_ ?_
  · simp [tasks]
  · simp [tasks]
  · simp [tasks]
  · intro id t here
    exact .inl (tasks ▸ here)

theorem Accounted.emit (account : Accounted s calls work) {events : List Event}
    (unsettled : ∀ e ∈ events, e.settledId? = none) : Accounted (s.emit events) calls work := by
  rw [← List.append_nil calls]
  exact account.of_outside rfl rfl rfl rfl rfl unsettled (by simp [Sale.emit]) (fun _ => rfl)
    (fun _ => rfl) fun _ _ here => .inl here

/-- A task is started that has no order. A purchase is such a task too: its order comes
with its admission. -/
theorem Accounted.spawn (account : Accounted s calls work) (unused : s.tasks.get? s.nextTask = none)
    (none : t.order? = none) (indirect : t.isDirectCommit = false) (other : t.isWorker = false) :
    Accounted (s.spawn t) (calls ++ (Action.start t).call?.toList) work := by
  have sum (f : Task → Int) : (s.spawn t).tasks.sum f = s.tasks.sum f + f t :=
    Table.sum_insert_fresh unused t f
  refine account.of_outside rfl rfl rfl rfl (List.append_nil _).symm (by simp) ?_ ?_ ?_ ?_
  · intro id
    rw [sum]
    cases t with
    | purchase r web uuid =>
        simp only [Task.buys, Action.call?, Option.toList]
        by_cases same : uuid = id <;> simp [same]
    | _ => simp [Task.buys, Action.call?]
  · intro id
    rw [sum, (order?_eq_none none id).1, Int.add_zero]
  · intro id
    rw [sum, (order?_eq_none none id).2, Int.add_zero]
  · intro id t' here
    rw [get?_spawn] at here
    split at here
    · cases here
      exact .inr ⟨none, indirect, other⟩
    · exact .inl here

/-- A task is dropped that has no order. No worker is dropped from outside. -/
theorem Accounted.erase (account : Accounted s calls work) {id : TaskId}
    (found : s.tasks.get? id = some t) (none : t.order? = none) {queue : AdmissionQueue}
    {ready : List TaskId} {timers : List (Nat × TaskId)} (buffer : queue.buffer = s.queue.buffer) :
    Accounted { s with tasks := s.tasks.erase id, queue, ready, timers } calls work := by
  rw [← List.append_nil calls]
  refine account.of_outside rfl buffer rfl rfl (List.append_nil _).symm (by simp) ?_ ?_ ?_ ?_
  · intro id'
    have nonneg := buys_nonneg t id'
    rw [Table.sum_erase found]
    exact (Int.sub_le_self _ nonneg).trans (Int.add_zero _).ge
  · intro id'
    rw [Table.sum_erase found, (order?_eq_none none id').1, Int.sub_zero]
  · intro id'
    rw [Table.sum_erase found, (order?_eq_none none id').2, Int.sub_zero]
  · intro id' t' here
    rw [Table.get?_erase] at here
    split at here
    · cases here
    · exact .inl here

/-- What is done with the stock of a dropped purchase takes no order along. It may start
a task that gives the stock back, or only report that it is lost. -/
def LeavesOrders (leave : Sale → Order → Sale) : Prop :=
  ∀ (s : Sale) (order : Order) (calls : List Uuid) (work : List Note),
    s.tasks.get? s.nextTask = none → Accounted s calls work → Accounted (leave s order) calls work

theorem releaseLater_leavesOrders : LeavesOrders releaseLater := by
  intro s order calls work unused account
  have quiet : Accounted (s.emit [.purchaseAbandoned order.itemId order.quantity]) calls work :=
    account.emit (by simp [Event.settledId?])
  rw [← List.append_nil calls]
  exact quiet.spawn unused rfl rfl rfl

theorem reportLoss_leavesOrders : LeavesOrders reportLoss := by
  intro s order calls work unused account
  exact account.emit (by simp [Event.settledId?])

theorem Accounted.drop (account : Accounted s calls work) (sound : s.Sound) {id : TaskId}
    {leave : Sale → Order → Sale} (leaves : LeavesOrders leave)
    (droppable : ∀ t, s.tasks.get? id = some t → t.isDroppable = true) :
    Accounted (s.drop id leave) calls work := by
  cases found : s.tasks.get? id with
  | none =>
      rw [drop_of_get?_eq_none found]
      exact account
  | some t =>
      have droppable := droppable t found
      have dropped := drop_dropped found leave
      generalize s.drop id leave = s' at dropped ⊢
      cases dropped with
      | gone free after =>
          have other : t.isReceiver = false ∧ t.order? = none := by
            cases t with
            | purchase => exact ⟨rfl, rfl⟩
            | ledger => exact ⟨rfl, rfl⟩
            | join => exact ⟨rfl, rfl⟩
            | _ => cases droppable
          obtain rfl := after.eq_of_not_receiver other.1
          exact account.erase found other.2 rfl
      | unbought =>
          refine leaves _ _ _ _ ?_ (account.erase found rfl (AdmissionQueue.withdraw_buffer ..))
          exact (Table.get?_erase ..).trans (by rw [sound.unused, ite_self])
      | unsent => cases droppable
      | unreceived => cases droppable

/-- Every permitted action keeps every order accounted for. Turns are settled by
`Accounted.of_turn`, and all else by `Accounted.of_outside`. -/
theorem Accounted.perform (account : Accounted s calls work) (sound : s.Sound) {a : Action}
    (allowed : s.OnlyPurchases a) (below : (s.perform a).ledger.VersionsBelowLimit) :
    Accounted (s.perform a) (calls ++ a.call?.toList) (work ++ s.notes a) := by
  obtain ⟨allowed, indirect⟩ := allowed
  -- Only turns are noted, and only started purchases add to the calls.
  have quiet {s' : Sale} (account : Accounted s' calls work) (call : a.call? = none)
      (noted : s.notes a = []) : Accounted s' (calls ++ a.call?.toList) (work ++ s.notes a) := by
    rw [call, noted, Option.toList, List.append_nil, List.append_nil]
    exact account
  cases a with
  | turn id =>
      change Accounted (s.stepTask id) (calls ++ []) _
      rw [List.append_nil]
      cases found : s.tasks.get? id with
      | none =>
          rw [notes_of_get?_eq_none found, List.append_nil, stepTask_of_get?_eq_none found]
          exact account.aside rfl rfl rfl rfl rfl rfl
      | some t =>
          obtain ⟨s', turn, deed, placed⟩ := stepTask_cases found
          rw [notes_turn found deed placed]
          refine account.of_turn sound found deed placed ?_
          rw [← placed.stores.ledger]
          exact below
  | start t =>
      change Accounted (s.spawn t) _ (work ++ [])
      rw [List.append_nil]
      have request : t.order? = none ∧ t.isWorker = false := by
        cases t with
        | purchase => exact ⟨rfl, rfl⟩
        | ledger => exact ⟨rfl, rfl⟩
        | _ => cases allowed
      exact account.spawn sound.unused request.1 indirect request.2
  | elapse => exact quiet (account.aside rfl rfl rfl rfl rfl rfl) rfl rfl
  | reserve => exact quiet (account.aside rfl rfl rfl rfl rfl rfl) rfl rfl
  | seed => exact quiet (account.aside rfl rfl (Ledger.seed_orders ..) rfl rfl rfl) rfl rfl
  | cancel => exact quiet (account.drop sound releaseLater_leavesOrders allowed) rfl rfl
  | abandon => exact quiet (account.drop sound reportLoss_leavesOrders allowed) rfl rfl
  | close => exact quiet (account.aside rfl rfl rfl rfl rfl rfl) rfl rfl
  | shutdown =>
      have told : Accounted (s.emit [.queueClosing s.queue.depth]) calls work :=
        account.emit (by simp [Event.settledId?])
      have closed : Accounted (s.emit [.queueClosing s.queue.depth]).close calls work :=
        told.aside rfl rfl rfl rfl rfl rfl
      have waited := closed.spawn sound.unused (t := .join) rfl rfl rfl
      refine quiet ?_ rfl rfl
      rw [← List.append_nil calls]
      exact waited
  | startWorkers => cases allowed
  | dropReceiver => cases allowed
  | reservationsUnavailable => exact quiet (account.aside rfl rfl rfl rfl rfl rfl) rfl rfl
  | failIncrements => exact quiet (account.aside rfl rfl rfl rfl rfl rfl) rfl rfl
  | ledgerUnavailable => exact quiet (account.aside rfl rfl rfl rfl rfl rfl) rfl rfl
  | commitDelay => exact quiet (account.aside rfl rfl rfl rfl rfl rfl) rfl rfl
  | latency => cases allowed
  | faultyItem => cases allowed

/-- When a pipeline is opened over an empty ledger there are no orders, and nothing has
been handed out. -/
theorem pipeline?_accounted {reservations : Reservations} {ledger : Ledger}
    {workers capacity commitLimit : Nat} (empty : ledger.orders = ∅)
    (opened : pipeline? reservations ledger workers capacity commitLimit = some s) :
    Accounted s [] [] := by
  have idle {id : TaskId} {t : Task} (here : s.tasks.get? id = some t) : t = .receive .worker :=
    (pipeline?_idle opened here).2
  obtain ⟨tasks, ready, rfl, found⟩ := pipeline?_eq opened
  have nothing (f : Task → Int) (none : f (.receive .worker) = 0) : tasks.sum f = 0 :=
    Table.sum_eq_zero fun id t here => idle here ▸ none
  have unknown (id : Uuid) : ledger.findOrder? id = none := by
    rw [Ledger.findOrder?, empty]
    rfl
  constructor
  case bought =>
    intro id
    change (0 : Int) + tasks.sum (Task.buys id) ≤ 0
    rw [nothing _ rfl]
    decide
  case passed =>
    intro id
    change (0 : Int) = 0 + tasks.sum (Task.settles id) + 0
    rw [nothing _ rfl]
    rfl
  case handed =>
    intro id
    change (0 : Int) = tasks.sum (Task.settles id) + 0
    rw [nothing _ rfl]
    rfl
  case attempted =>
    intro id
    change (0 : Int) = tasks.sum (Task.commits id) + 0
    rw [nothing _ rfl]
    rfl
  case handing => exact fun _ member => (List.not_mem_nil member).elim
  case attempting => exact fun _ member => (List.not_mem_nil member).elim
  case buffer => exact fun _ member => (List.not_mem_nil member).elim
  case working =>
    intro id t order here has
    rw [idle here] at has
    cases has
  case indirect =>
    intro id t here
    rw [idle here]
    rfl
  case ledger =>
    intro id order here
    rw [unknown] at here
    cases here
  case recorded =>
    intro id
    rw [unknown]
    exact ⟨fun none => (Bool.false_ne_true none).elim, fun member => (List.not_mem_nil member).elim⟩
  case tallied => exact ⟨rfl, rfl, rfl⟩
  case joined => exact fun _ _ told => (List.not_mem_nil told).elim

/-- Along a course in which orders come from purchases only, every order is accounted
for. The notes of the course grow with its calls. -/
theorem Accounted.after {actions : List Action} (account : Accounted s calls work) (sound : s.Sound)
    (ok : Obeys OnlyPurchases s actions) (below : (s.after actions).ledger.VersionsBelowLimit) :
    Accounted (s.after actions) (calls ++ Sale.calls actions) (work ++ s.history actions) := by
  have steps := sound.obeys (fun _ _ allowed => allowed.1) ok below
  refine steps.invariant (P := fun done =>
    Accounted (s.after done) (calls ++ Sale.calls done) (work ++ s.history done)) ?_ ?_
  · simpa [Sale.calls] using account
  · rintro done a account ⟨allowed, sound, below⟩
    rw [after_append, calls_concat, history_concat, ← List.append_assoc, ← List.append_assoc]
    exact account.perform sound allowed below

/-- No purchase is accepted twice if no two purchases were started with the same
identifier. -/
theorem Accounted.accepted_nodup (account : Accounted s calls work) (distinct : calls.Nodup) :
    (s.accepted.map Prod.snd).Nodup := by
  refine List.nodup_iff_count_le_one.mpr fun id => ?_
  have bought := account.bought id
  have started := List.nodup_iff_count_le_one.mp distinct id
  have live : 0 ≤ s.tasks.sum (Task.buys id) := Table.sum_nonneg fun _ t _ => buys_nonneg t id
  omega

/-- No order is settled twice, since what was settled had been accepted as often. -/
theorem Accounted.settled_nodup (account : Accounted s calls work) (distinct : calls.Nodup) :
    (Event.settledIds s.log).Nodup := by
  refine List.nodup_iff_count_le_one.mpr fun id => ?_
  have passed := account.passed id
  have accepted := List.nodup_iff_count_le_one.mp (account.accepted_nodup distinct) id
  have busy : 0 ≤ s.tasks.sum (Task.settles id) := Table.sum_nonneg fun _ t _ => settles_nonneg t id
  omega

theorem Accounted.saved_nodup (account : Accounted s calls work) (distinct : calls.Nodup) :
    (Event.savedIds s.log).Nodup :=
  ((settledIds_perm s.log).nodup_iff.mp
    (account.settled_nodup distinct)).of_append_left.of_append_left

/-- The ledger does not have an order that is being settled. If it did, the order would
have been accepted twice. -/
theorem Accounted.unsaved (account : Accounted s calls work) (distinct : calls.Nodup) {owner : Owner}
    {order : Order} {stage : Settlement.Stage} {due giveUp : Nat}
    (found : s.tasks.get? me = some (.settle owner order stage due giveUp)) :
    s.ledger.findOrder? order.id = none := by
  refine Option.not_isSome_iff_eq_none.mp fun stored => ?_
  have saved := (account.recorded order.id).mp stored
  have settled : order.id ∈ Event.settledIds s.log := by
    refine (settledIds_perm s.log).mem_iff.mpr ?_
    simp [saved]
  have one := List.count_pos_iff.mpr settled
  have passed := account.passed order.id
  have accepted := List.nodup_iff_count_le_one.mp (account.accepted_nodup distinct) order.id
  have others : 0 ≤ (s.tasks.erase me).sum (Task.settles order.id) :=
    Table.sum_nonneg fun _ t _ => settles_nonneg t order.id
  rw [Table.sum_erase found, Task.settles, if_pos rfl] at others
  omega

end FlashSale.Sale
