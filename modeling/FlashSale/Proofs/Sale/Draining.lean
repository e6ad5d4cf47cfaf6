import FlashSale.Proofs.Sale.Pool

/-!
# A pool drains

Whatever happens in a pool, it gets on with its work: the books stay those of the orders that are
settled. Each turn of a task that is ready brings the pool closer to its end, so the pool does end,
and when no task is ready after a shutdown, everything is done.

A turn is paid for by the load: each order in the queue pays for the steps of its settlement and
for the receiver that is woken when it leaves, and each worker pays for the two tasks that it may
wake when it ends.
-/

namespace FlashSale

/-- What a task pays for: the steps of a settlement that are left, and the tasks that it
may wake when it ends. -/
def Task.toGo : Task → Int
  | settle _ _ stage _ _ => stage.toGo + 2
  | receive _ => 2
  | _ => 0

theorem Settlement.Stage.toGo_bounds (stage : Settlement.Stage) : 1 ≤ stage.toGo ∧ stage.toGo ≤ 3 := by
  cases stage <;> simp [toGo]

theorem Task.toGo_bounds (t : Task) : 0 ≤ t.toGo ∧ t.toGo ≤ 5 := by
  cases t with
  | settle owner order stage due giveUp =>
      have bounds := stage.toGo_bounds
      simp only [toGo]
      omega
  | _ => simp [toGo]

namespace Sale

open AdmissionQueue

/-- What is left to pay for. Every turn of a task that is ready lowers it. -/
def load (s : Sale) : Int := 5 * s.queue.buffer.length + s.tasks.sum Task.toGo + s.ready.length

/-- A worker that has an order in its hands has its turn next. This is so on one thread,
where a worker keeps its turn until the order is settled. -/
def Leads (s : Sale) : Prop :=
  ∀ id order, s.inHand? id = some order → s.ready.head? = some id

/-- A pool has no more workers than that, and none before they are started. Each of them
has one order in its hands at most. -/
structure Crew (hands : Nat) (s : Sale) : Prop where
  unstarted : s.receiverHeld = true → s.staff = 0
  few : s.staff ≤ hands

/-- The pool is about to end, or has ended and given out its statistics. The queue is
closed by then, so that no order is added to the work. -/
structure Stopping (s : Sale) : Prop where
  closed : s.queue.closed = true
  given : s.receiverHeld = false
  stats : (∃ id, s.tasks.get? id = some .join) ∨ ∃ id, (id, .joined s.tally) ∈ s.answers

/-- Everything is done, with the given result. No order is left in the queue or with a
worker, and the statistics that were given out are those of the result. -/
structure WoundUp (s : Sale) (result : Books) : Prop where
  books : s.books = result
  buffer : s.queue.buffer = []
  tasks : ∀ id, s.tasks.get? id = none
  stats : ∃ id, (id, .joined result.tally) ∈ s.answers
  /-- No other statistics were given out. -/
  told : ∀ id stats, (id, .joined stats) ∈ s.answers → stats = result.tally

variable {capacity : Nat} {work : Workload} {settled : List Order} {held : List (TaskId × Order)}
  {s s' : Sale} {me id : TaskId} {t : Task} {order : Order} {a : Action}

theorem inHand?_congr (same : ∀ id t, t.inHand? ≠ none →
    (s'.tasks.get? id = some t ↔ s.tasks.get? id = some t)) (id : TaskId) :
    s'.inHand? id = s.inHand? id := by
  refine Option.ext fun order => ?_
  rw [inHand?, inHand?, Option.bind_eq_some_iff, Option.bind_eq_some_iff]
  refine exists_congr fun t => and_congr_left fun mine => same id t ?_
  rw [mine]
  exact Option.some_ne_none order

theorem inHand?_insert (t : Task) (tasks : s'.tasks = s.tasks.insert me t) (id : TaskId) :
    s'.inHand? id = if id = me then t.inHand? else s.inHand? id := by
  rw [inHand?, tasks, Table.get?_insert]
  split <;> rfl

theorem inHand?_erase (tasks : s'.tasks = s.tasks.erase me) (free : s.inHand? me = none)
    (id : TaskId) : s'.inHand? id = s.inHand? id := by
  rw [inHand?, tasks, Table.get?_erase]
  split
  · rename_i same
    rw [same, free]
    rfl
  · rfl

theorem inHand?_of_found (found : s.tasks.get? me = some t) : s.inHand? me = t.inHand? := by
  rw [inHand?, found]
  rfl

/-- A pool has come as far where the books, the buffer and what is in hand are the same.
-/
theorem Progress.of_same (progress : s.Progress work settled held) (books : s'.books = s.books)
    (buffer : s'.queue.buffer = s.queue.buffer) (inHand : ∀ id, s'.inHand? id = s.inHand? id) :
    s'.Progress work settled held where
  books := books ▸ progress.books
  ahead := buffer ▸ progress.ahead
  distinct := progress.distinct
  inHand id order := by rw [inHand, progress.inHand]

/-- A worker takes the order that is next in the queue; it is behind the others in hand,
and the orders that are left stand as they did. -/
theorem Progress.took (progress : s.Progress work settled held) (free : s.inHand? me = none)
    (books : s'.books = s.books) (buffer : s.queue.buffer = order :: s'.queue.buffer)
    (inHand : ∀ id, s'.inHand? id = if id = me then some order else s.inHand? id) :
    s'.Progress work settled (held ++ [(me, order)]) where
  books := books ▸ progress.books
  ahead rest draws := by
    refine progress.ahead rest ?_
    rw [List.map_append, List.append_assoc] at draws
    rw [buffer]
    exact draws
  distinct := by
    have absent : me ∉ held.map Prod.fst := by
      intro member
      obtain ⟨⟨_, other⟩, here, rfl⟩ := List.mem_map.mp member
      rw [progress.inHand, free] at here
      cases here
    rw [List.map_append]
    exact List.nodup_append_comm.mp (List.nodup_cons.mpr ⟨absent, progress.distinct⟩)
  inHand id other := by
    rw [List.mem_append, List.mem_singleton, progress.inHand, inHand, Prod.mk.injEq]
    by_cases own : id = me
    · subst own
      rw [free, if_pos rfl, Option.some.injEq]
      simp [eq_comm]
    · rw [if_neg own]
      simp [own]

/-- A worker has settled its order, which may have overtaken others in hand. It goes to
the end of those that are settled, wherever it stood in hand. -/
theorem Progress.settle (progress : s.Progress work settled held) (few : s.carried ≤ work.hands)
    (mine : s.inHand? me = some order) (books : s.books.settle? order = some s'.books)
    (buffer : s'.queue.buffer = s.queue.buffer)
    (inHand : ∀ id, s'.inHand? id = if id = me then none else s.inHand? id) :
    ∃ held, s'.Progress work (settled ++ [order]) held := by
  obtain ⟨front, back, rfl, next⟩ := progress.next few mine
  have distinct := progress.distinct
  have whole := progress.inHand
  rw [List.map_append, List.map_cons, List.nodup_middle] at distinct
  obtain ⟨absent, distinct⟩ := List.nodup_cons.mp distinct
  rw [← List.map_append] at absent distinct
  refine ⟨front ++ back, ?_, fun rest draws => ?_, distinct, fun id other => ?_⟩
  · rw [Books.settleAll?_concat progress.books]
    exact books
  · rw [buffer] at draws
    rw [List.append_assoc]
    exact next rest draws
  · rw [inHand]
    by_cases own : id = me
    · subst own
      rw [if_pos rfl]
      exact iff_of_false (fun member => absent (List.mem_map.mpr ⟨_, member, rfl⟩)) nofun
    · rw [if_neg own, ← whole]
      simp [own]

/-- A worker may go on with what it is at when time has passed, and when the ledger
accepts no more than it did. -/
theorem Employs.later (employed : s.Employs t) (later : s.now ≤ s'.now)
    (refuses : ∀ other, s'.ledger.Accepts other → s.ledger.Accepts other) : s'.Employs t := by
  cases t with
  | settle owner order stage due giveUp =>
      cases owner with
      | caller => exact employed
      | worker =>
          cases stage with
          | opening => trivial
          | committing => exact Nat.le_trans employed later
          | restoring =>
              exact ⟨Nat.le_trans employed.1 later, fun accepts => employed.2 (refuses _ accepts)⟩
  | receive owner => cases owner <;> exact employed
  | _ => exact employed

/-- A turn takes an order, settles one, or leaves the work where it is. -/
theorem PoolTurn.progress (turn : PoolTurn s me s') (draining : s.Draining capacity work) :
    ∃ settled held, s'.Progress work settled held := by
  obtain ⟨settled, held, progress⟩ := draining.progress
  cases turn with
  | slept => exact ⟨settled, held, progress.of_same rfl rfl fun _ => rfl⟩
  | idle => exact ⟨settled, held, progress.of_same rfl (joinLine_buffer ..) fun _ => rfl⟩
  | @took order _ _ found buffer =>
      exact ⟨settled, _, progress.took (inHand?_of_found found) rfl buffer
        (inHand?_insert (.settle .worker order .opening s.now s.now) rfl)⟩
  | left found before ends =>
      refine ⟨settled, held, progress.of_same rfl ?_ (inHand?_erase rfl (inHand?_of_found found))⟩
      rw [buffer_of_ended before]
      exact buffer_of_ended ends
  | went found =>
      refine ⟨settled, held, progress.of_same rfl rfl fun id => ?_⟩
      rw [inHand?_insert _ rfl]
      split
      · rename_i own
        rw [own]
        exact (inHand?_of_found found).symm
      · rfl
  | settled found finished =>
      exact ⟨_, progress.settle draining.few (inHand?_of_found found) finished rfl
        (inHand?_insert (.receive .worker) rfl)⟩
  | joining => exact ⟨settled, held, progress.of_same rfl rfl fun _ => rfl⟩
  | joined found =>
      exact ⟨settled, held, progress.of_same rfl rfl (inHand?_erase rfl (inHand?_of_found found))⟩

theorem PoolTurn.keeps (turn : PoolTurn s me s') (draining : s.Draining capacity work) :
    s'.queue.deserted = true → s.queue.ended = true := by
  cases turn with
  | idle =>
      rw [(s.queue.joinLine_doors me).deserted]
      exact draining.kept
  | took _ _ _ doors =>
      rw [doors.deserted]
      exact draining.kept
  | left _ before => exact fun _ => before
  | _ => exact draining.kept

theorem PoolTurn.buyers (turn : PoolTurn s me s') (draining : s.Draining capacity work) :
    s'.queue.buyers = [] := by
  cases turn with
  | idle => exact (joinLine_buyers ..).trans draining.buyers
  | took _ _ buyers => exact buyers
  | left _ _ ends =>
      obtain ⟨-, waiting, granted, -⟩ := ended_iff.mp ends
      exact List.append_eq_nil_iff.mpr ⟨granted, waiting⟩
  | _ => exact draining.buyers

/-- A task that is there after a turn was there before, or is a worker after its turn.
-/
theorem PoolTurn.found (turn : PoolTurn s me s') (here : s'.tasks.get? id = some t) :
    s.tasks.get? id = some t ∨
      (id = me ∧ t.isWorker = true ∧ s.Employs t ∧ s.hasWorkers = true) := by
  have inserted {t' worker : Task} (found : s.tasks.get? me = some worker)
      (here : (s.tasks.insert me t').get? id = some t) (works : worker.isWorker = true)
      (works' : t'.isWorker = true) (employed : s.Employs t') : s.tasks.get? id = some t ∨
        (id = me ∧ t.isWorker = true ∧ s.Employs t ∧ s.hasWorkers = true) := by
    rw [Table.get?_insert] at here
    split at here
    · cases here
      exact .inr ⟨‹_›, works', employed, hasWorkers_iff.mpr ⟨me, _, found, works⟩⟩
    · exact .inl here
  cases turn with
  | took found => exact inserted found here rfl rfl trivial
  | went found employed => exact inserted found here rfl rfl employed
  | settled found => exact inserted found here rfl rfl trivial
  | left => exact .inl (get?_of_erase here)
  | joined => exact .inl (get?_of_erase here)
  | _ => exact .inl here

theorem PoolTurn.hasWorkers (turn : PoolTurn s me s') (busy : s'.hasWorkers = true) :
    s.hasWorkers = true := by
  obtain ⟨id, t, here, works⟩ := hasWorkers_iff.mp busy
  obtain before | ⟨-, -, -, busy⟩ := turn.found here
  · exact hasWorkers_iff.mpr ⟨id, t, before, works⟩
  · exact busy

/-- A turn is nothing to the other tasks: it may wake some, but it changes none. -/
theorem PoolTurn.others (turn : PoolTurn s me s') (other : id ≠ me) :
    s'.tasks.get? id = s.tasks.get? id := by
  cases turn with
  | took => exact Table.get?_insert_of_ne other
  | left => exact Table.get?_erase_of_ne other
  | went => exact Table.get?_insert_of_ne other
  | settled => exact Table.get?_insert_of_ne other
  | joined => exact Table.get?_erase_of_ne other
  | _ => rfl

/-- Whoever waits for the workers goes on waiting, or is given the statistics. -/
theorem PoolTurn.join_kept (turn : PoolTurn s me s') (join : s.tasks.get? id = some .join) :
    s'.tasks.get? id = some .join ∨
      ((id, .joined s.tally) ∈ s'.answers ∧ s.hasWorkers = false) := by
  by_cases own : id = me
  · subst own
    cases turn with
    | slept => exact .inl join
    | joining => exact .inl join
    | joined _ alone => exact .inr ⟨List.mem_append_right _ (List.mem_singleton_self _), alone⟩
    | idle found => cases found.symm.trans join
    | took found => cases found.symm.trans join
    | left found => cases found.symm.trans join
    | went found => cases found.symm.trans join
    | settled found => cases found.symm.trans join
  · exact .inl ((turn.others own).trans join)

theorem PoolTurn.answered (turn : PoolTurn s me s') {answer : TaskId × Answer}
    (member : answer ∈ s.answers) : answer ∈ s'.answers := by
  cases turn with
  | left => exact List.mem_append_left _ member
  | joined => exact List.mem_append_left _ member
  | _ => exact member

theorem PoolTurn.closed (turn : PoolTurn s me s') (closed : s.queue.closed = true) :
    s'.queue.closed = true := by
  cases turn with
  | idle => exact (s.queue.joinLine_doors me).closed.trans closed
  | took _ _ _ doors => exact doors.closed.trans closed
  | left _ _ ends => exact (ended_iff.mp ends).1
  | _ => exact closed

theorem PoolTurn.join_of (turn : PoolTurn s me s') (here : s'.tasks.get? id = some .join) :
    s.tasks.get? id = some .join := by
  obtain before | ⟨-, works, -, -⟩ := turn.found here
  · exact before
  · cases works

/-- Somebody will see to the rest of the queue: the receiver has not been given away,
there are workers, or nothing is left. -/
theorem PoolTurn.staffed (turn : PoolTurn s me s') (draining : s.Draining capacity work) :
    s'.receiverHeld = true ∨ s'.hasWorkers = true ∨ s'.queue.ended = true := by
  have worker {t' : Task} (works : t'.isWorker = true) (tasks : s'.tasks = s.tasks.insert me t') :
      s'.receiverHeld = true ∨ s'.hasWorkers = true ∨ s'.queue.ended = true :=
    .inr (.inl (hasWorkers_iff.mpr ⟨me, t', tasks ▸ Table.get?_insert_self .., works⟩))
  cases turn with
  | idle =>
      have same := joinLine_ended s.queue me
      exact draining.staffed.imp_right (Or.imp_right same.trans)
  | took => exact worker rfl rfl
  | left _ _ ends => exact .inr (.inr ends)
  | went => exact worker rfl rfl
  | settled => exact worker rfl rfl
  | joined _ alone =>
      refine draining.staffed.imp_right (Or.imp_left fun busy => ?_)
      rw [alone] at busy
      cases busy
  | _ => exact draining.staffed

/-- Statistics that were given out are not changed any more, since without workers
nothing is settled. -/
theorem PoolTurn.tally_eq (turn : PoolTurn s me s') (alone : s.hasWorkers = false) :
    s'.tally = s.tally := by
  cases turn with
  | settled found =>
      rw [hasWorkers_iff.mpr ⟨me, _, found, rfl⟩] at alone
      cases alone
  | _ => rfl

/-- Statistics are given out to whoever waits for the workers, when none of these is
left. -/
theorem PoolTurn.told (turn : PoolTurn s me s') {stats : Tally}
    (told : (id, .joined stats) ∈ s'.answers) :
    (id, .joined stats) ∈ s.answers ∨
      (s.tasks.get? id = some .join ∧ stats = s.tally ∧ s.hasWorkers = false) := by
  cases turn with
  | left =>
      obtain old | new := List.mem_append.mp told
      · exact .inl old
      · cases List.mem_singleton.mp new
  | joined found alone =>
      obtain old | new := List.mem_append.mp told
      · exact .inl old
      · cases List.mem_singleton.mp new
        exact .inr ⟨found, rfl, alone⟩
  | _ => exact .inl told

/-- A turn leaves alone what the pool relies on. Faults and delays are for the outside
world to set. -/
theorem PoolTurn.settings (turn : PoolTurn s me s') :
    s'.ledger.commitDelay = s.ledger.commitDelay ∧ s'.latency = s.latency ∧
      s'.faultyItem = s.faultyItem ∧ s'.receiverHeld = s.receiverHeld := by
  cases turn with
  | settled _ _ delay => exact ⟨delay, rfl, rfl, rfl⟩
  | _ => exact ⟨rfl, rfl, rfl, rfl⟩

/-- What was refused before a turn is refused after it. So a worker that is about to put
stock back is right to do so, whatever the others have committed in the meantime. -/
theorem PoolTurn.employs (turn : PoolTurn s me s') (employed : s.Employs t) : s'.Employs t := by
  cases turn with
  | settled _ _ _ refuses => exact employed.later (Nat.le_refl _) refuses
  | _ => exact employed.later (Nat.le_refl _) fun _ accepts => accepts

theorem PoolTurn.staff_le (turn : PoolTurn s me s') : s'.staff ≤ s.staff := by
  have same {t : Task} (found : s.tasks.get? me = some t) (t' : Task) :=
    Table.sum_insert found t' Task.staff
  cases turn with
  | took found => exact Int.le_of_eq (by simp [staff, same found, Task.staff, Task.isWorker])
  | went found => exact Int.le_of_eq (by simp [staff, same found, Task.staff, Task.isWorker])
  | settled found => exact Int.le_of_eq (by simp [staff, same found, Task.staff, Task.isWorker])
  | left found => simp [staff, Table.sum_erase found, Task.staff, Task.isWorker]
  | joined found => simp [staff, Table.sum_erase found, Task.staff, Task.isWorker]
  | _ => exact Int.le_refl _

/-- A turn leaves a pool at its work, as long as it does not take more orders in its
hands than there may be. -/
theorem Draining.stepTask (draining : s.Draining capacity work)
    (few : (s.stepTask me).carried ≤ work.hands) : (s.stepTask me).Draining capacity work := by
  have turn := draining.turn me
  have attended := draining.attended.stepTask me (turn.keeps draining)
  generalize s.stepTask me = s' at turn attended few
  obtain ⟨delay, latency, faultyItem, held⟩ := turn.settings
  constructor
  case feasible => exact draining.feasible
  case attended => exact attended
  case employs =>
    intro id t here
    obtain before | ⟨-, -, employed, -⟩ := turn.found here
    · exact turn.employs (draining.employs id t before)
    · exact turn.employs employed
  case delay => exact delay.trans draining.delay
  case latency => exact latency ▸ draining.latency
  case faultless => exact faultyItem.trans draining.faultless
  case buyers => exact turn.buyers draining
  case kept =>
    intro deserted
    have ends := turn.keeps draining deserted
    cases turn with
    | idle => exact (joinLine_ended ..).trans ends
    | took _ buffer =>
        rw [buffer_of_ended ends] at buffer
        cases buffer
    | left _ _ ends => exact ends
    | _ => exact ends
  case staffed => exact turn.staffed draining
  case joins =>
    intro id here
    obtain ⟨given, single⟩ := draining.joins id (turn.join_of here)
    exact ⟨held.trans given, fun other there => single other (turn.join_of there)⟩
  case told =>
    intro id stats told
    obtain ⟨rfl, alone, given⟩ : stats = s.tally ∧ s.hasWorkers = false ∧ s.receiverHeld = false := by
      obtain old | ⟨join, same, alone⟩ := turn.told told
      · exact draining.told id stats old
      · exact ⟨same, alone, (draining.joins id join).1⟩
    refine ⟨(turn.tally_eq alone).symm, ?_, held.trans given⟩
    exact Bool.eq_false_iff.mpr fun busy => by simp [turn.hasWorkers busy] at alone
  case few => exact few
  case progress => exact turn.progress draining

theorem Draining.close (draining : s.Draining capacity work) : s.close.Draining capacity work where
  feasible := draining.feasible
  attended := draining.attended.close
  employs := draining.employs
  delay := draining.delay
  latency := draining.latency
  faultless := draining.faultless
  buyers := draining.buyers
  kept deserted := close_ended (draining.kept deserted)
  staffed := draining.staffed.imp_right (Or.imp_right close_ended)
  joins := draining.joins
  told := draining.told
  few := draining.few
  progress := by
    obtain ⟨settled, held, progress⟩ := draining.progress
    exact ⟨settled, held, progress.of_same rfl rfl fun _ => rfl⟩

/-- Time is nothing to a pool: no store call waits for it. -/
theorem Draining.elapse (draining : s.Draining capacity work) (ms : Nat) :
    (s.fire (s.now + ms)).Draining capacity work := by
  have attended := draining.attended.fire (Nat.le_add_right s.now ms)
  rw [fire_eq_wake] at attended ⊢
  obtain ⟨settled, held, progress⟩ := draining.progress
  exact
    { feasible := draining.feasible
      attended
      employs := fun id t found =>
        (draining.employs id t found).later (Nat.le_add_right ..) fun _ accepts => accepts
      delay := draining.delay
      latency := draining.latency
      faultless := draining.faultless
      buyers := draining.buyers
      kept := draining.kept
      staffed := draining.staffed
      joins := draining.joins
      told := draining.told
      few := draining.few
      progress := ⟨settled, held, progress.of_same rfl rfl fun _ => rfl⟩ }

/-- Workers are started beside the tasks that are there. They have identifiers of their
own, the receiver is given away, and the other tasks are as they were. -/
theorem Named.startWorkers_eq (named : s.Named) (workers : Nat) : ∃ tasks ready nextTask log,
    s.startWorkers workers = { s with tasks, ready, nextTask, log, receiverHeld := false } ∧
      tasks.get? s.nextTask = some (.receive .worker) ∧
      ∀ id t, t ≠ .receive .worker → (tasks.get? id = some t ↔ s.tasks.get? id = some t) := by
  obtain ⟨tasks, ready, eq, found⟩ := Sale.startWorkers_eq (s := s) workers
  refine ⟨tasks, ready, _, _, eq, ?_, fun id t other => ?_⟩
  · have least : 1 ≤ max workers 1 := Nat.le_max_right ..
    rw [found, if_pos ⟨Nat.le_refl _, Nat.lt_add_of_pos_right least⟩]
  · rw [found]
    split
    · rename_i new
      refine iff_of_false (fun here => ?_) fun here => ?_
      · exact other (Option.some.inj here).symm
      · exact Nat.not_lt.mpr new.1 (named id t here)
    · rfl

theorem Draining.startWorkers (draining : s.Draining capacity work) (held : s.receiverHeld = true)
    {workers : Nat} (few : (s.startWorkers workers).carried ≤ work.hands) :
    (s.startWorkers workers).Draining capacity work := by
  have attended : (s.startWorkers workers).Attended capacity :=
    (draining.attended.spawns (.receive .worker) (max workers 1)).aside
  obtain ⟨tasks, ready, nextTask, log, eq, first, others⟩ :=
    draining.attended.named.startWorkers_eq workers
  rw [eq] at attended few ⊢
  -- Nobody has waited for workers that are only started now.
  have unjoined (id : TaskId) : tasks.get? id ≠ some .join := by
    intro here
    have given := (draining.joins id ((others id .join nofun).mp here)).1
    rw [held] at given
    cases given
  have untold (id : TaskId) (stats : Tally) : (id, .joined stats) ∉ s.answers := by
    intro told
    have given := (draining.told id stats told).2.2
    rw [held] at given
    cases given
  constructor
  case feasible => exact draining.feasible
  case attended => exact attended
  case employs =>
    intro id t here
    by_cases worker : t = .receive .worker
    · rw [worker]
      trivial
    · exact draining.employs id t ((others id t worker).mp here)
  case delay => exact draining.delay
  case latency => exact draining.latency
  case faultless => exact draining.faultless
  case buyers => exact draining.buyers
  case kept => exact draining.kept
  case staffed => exact .inr (.inl (hasWorkers_iff.mpr ⟨_, _, first, rfl⟩))
  case joins => exact fun id here => absurd here (unjoined id)
  case told => exact fun id stats told => absurd told (untold id stats)
  case few => exact few
  case progress =>
    obtain ⟨settled, held, progress⟩ := draining.progress
    refine ⟨settled, held, progress.of_same rfl rfl (inHand?_congr fun id t busy => others id t ?_)⟩
    rintro rfl
    exact busy rfl

theorem Draining.emit (draining : s.Draining capacity work) (events : List Event) :
    (s.emit events).Draining capacity work where
  feasible := draining.feasible
  attended := draining.attended.aside
  employs := draining.employs
  delay := draining.delay
  latency := draining.latency
  faultless := draining.faultless
  buyers := draining.buyers
  kept := draining.kept
  staffed := draining.staffed
  joins := draining.joins
  told := draining.told
  few := draining.few
  progress := by
    obtain ⟨settled, held, progress⟩ := draining.progress
    exact ⟨settled, held, progress.of_same rfl rfl fun _ => rfl⟩

/-- Somebody begins to wait for the workers that were started. There is one such task at
most, so that statistics are given out once. -/
theorem Draining.spawn_join (draining : s.Draining capacity work) (given : s.receiverHeld = false)
    (unjoined : ∀ id, s.tasks.get? id ≠ some .join) : (s.spawn .join).Draining capacity work := by
  have others (id : TaskId) (t : Task) (other : t ≠ .join) :
      (s.spawn .join).tasks.get? id = some t ↔ s.tasks.get? id = some t := by
    rw [get?_spawn]
    split
    · rename_i new
      refine iff_of_false (fun here => other (Option.some.inj here).symm) fun here => ?_
      exact Nat.ne_of_lt (draining.attended.named id t here) new
    · rfl
  have joins (id : TaskId) (here : (s.spawn .join).tasks.get? id = some .join) :
      id = s.nextTask := by
    rw [get?_spawn] at here
    split at here
    · assumption
    · exact absurd here (unjoined id)
  have workers : (s.spawn .join).hasWorkers = s.hasWorkers := by
    have same (id : TaskId) (t : Task) : (s.spawn .join).tasks.get? id = some t ∧ t.isWorker = true ↔
        s.tasks.get? id = some t ∧ t.isWorker = true := by
      refine and_congr_left fun works => others id t ?_
      rintro rfl
      cases works
    rw [Bool.eq_iff_iff, hasWorkers_iff, hasWorkers_iff]
    exact exists_congr fun id => exists_congr fun t => same id t
  constructor
  case feasible => exact draining.feasible
  case attended => exact draining.attended.spawn .join
  case employs =>
    intro id t here
    by_cases join : t = .join
    · rw [join]
      trivial
    · exact draining.employs id t ((others id t join).mp here)
  case delay => exact draining.delay
  case latency => exact draining.latency
  case faultless => exact draining.faultless
  case buyers => exact draining.buyers
  case kept => exact draining.kept
  case staffed =>
    rw [workers]
    exact draining.staffed
  case joins =>
    intro id here
    exact ⟨given, fun other there => (joins other there).trans (joins id here).symm⟩
  case told =>
    rw [workers]
    exact draining.told
  case few =>
    have same : (s.spawn .join).carried = s.carried + 0 :=
      Table.sum_insert_fresh draining.attended.unused .join Task.carries
    rw [same, Int.add_zero]
    exact draining.few
  case progress =>
    obtain ⟨settled, held, progress⟩ := draining.progress
    refine ⟨settled, held, progress.of_same rfl rfl (inHand?_congr fun id t busy => others id t ?_)⟩
    rintro rfl
    exact busy rfl

theorem Draining.shutdown (draining : s.Draining capacity work) (given : s.receiverHeld = false)
    (unjoined : ∀ id, s.tasks.get? id ≠ some .join) : s.shutdown.Draining capacity work :=
  (draining.emit _).close.spawn_join given unjoined

/-- Every action that the rule of a pool allows leaves it at its work. The induction
over courses needs no more than this. -/
theorem Draining.perform (draining : s.Draining capacity work) (rule : s.DrainsBy work.hands a) :
    (s.perform a).Draining capacity work := by
  obtain ⟨rule, few⟩ := rule
  cases a with
  | turn me => exact draining.stepTask few
  | elapse ms => exact draining.elapse ms
  | startWorkers workers => exact draining.startWorkers rule few
  | close => exact draining.close
  | shutdown => exact draining.shutdown rule.1 rule.2
  | _ => cases rule

theorem Crew.carried_le {hands : Nat} (crew : s.Crew hands) : s.carried ≤ hands :=
  (Table.sum_le_sum fun _ t _ => t.carries_le_staff).trans crew.few

/-- A shutdown closes the queue and begins to wait for the workers, which have been
given the receiver before. -/
theorem stopping_shutdown (given : s.receiverHeld = false) : s.shutdown.Stopping :=
  ⟨rfl, given, .inl ⟨s.nextTask, (get?_spawn ..).trans (if_pos rfl)⟩⟩

/-- A pool that is to stop does not come back: the queue stays closed, and whoever waits
for the statistics waits on or has them. -/
theorem Stopping.stepTask (stopping : s.Stopping) (draining : s.Draining capacity work)
    (me : TaskId) : (s.stepTask me).Stopping := by
  have turn := draining.turn me
  generalize s.stepTask me = s' at turn
  refine ⟨turn.closed stopping.closed, turn.settings.2.2.2.trans stopping.given, ?_⟩
  obtain ⟨id, join⟩ | ⟨id, told⟩ := stopping.stats
  · obtain join | ⟨told, alone⟩ := turn.join_kept join
    · exact .inl ⟨id, join⟩
    · refine .inr ⟨id, ?_⟩
      rw [turn.tally_eq alone]
      exact told
  · refine .inr ⟨id, turn.answered ?_⟩
    rw [turn.tally_eq (draining.told id _ told).2.1]
    exact told

theorem Stopping.perform (stopping : s.Stopping) (draining : s.Draining capacity work)
    (rule : s.Drains a) : (s.perform a).Stopping := by
  cases a with
  | turn me => exact stopping.stepTask draining me
  | elapse => exact ⟨stopping.closed, stopping.given, stopping.stats⟩
  | startWorkers =>
      have held : s.receiverHeld = true := rule
      rw [stopping.given] at held
      cases held
  | close => exact ⟨rfl, stopping.given, stopping.stats⟩
  | shutdown => exact stopping_shutdown rule.1
  | _ => cases rule

/-- When nothing is left in the queue and in hand, all is settled, in an order in which
these hands may draw it. -/
theorem Progress.all_settled (progress : s.Progress work settled held)
    (buffer : s.queue.buffer = []) (free : ∀ id, s.inHand? id = none) :
    Draws work.hands work.orders settled := by
  have none : held = [] := by
    refine List.eq_nil_iff_forall_not_mem.mpr fun ⟨id, order⟩ member => ?_
    rw [progress.inHand, free] at member
    cases member
  have draws := progress.ahead [] (by rw [none, buffer]; exact .nil)
  rw [List.append_nil] at draws
  exact draws

/-- When no task is ready in a pool that was to stop, everything is done. A worker that
were left would stand in line at the end of the stream and so be ready. -/
theorem Draining.woundUp (draining : s.Draining capacity work) (stopping : s.Stopping)
    (quiet : s.ready = []) : s.WoundUp s.books := by
  have waits {id : TaskId} {t : Task} (found : s.tasks.get? id = some t) :=
    draining.attended.waits quiet found
  have free {id : TaskId} {owner : Owner} {order : Order} {stage : Settlement.Stage}
      {due giveUp : Nat} (found : s.tasks.get? id = some (.settle owner order stage due giveUp)) :
      False := by
    have employed := draining.employs id _ found
    cases owner with
    | caller => cases employed
    | worker =>
        cases waits found with
        | time sleeps later =>
            cases stage with
            | opening => cases sleeps
            | committing =>
                have inTime : due ≤ s.now := employed
                cases sleeps
                omega
            | restoring =>
                have inTime : due ≤ s.now := employed.1
                cases sleeps
                omega
        | slot offers => cases offers
  -- A receiver that waits would find an order, or else the end of the stream.
  have unreceived (id : TaskId) (owner : Owner) : s.tasks.get? id ≠ some (.receive owner) := by
    intro found
    obtain ⟨empty, more⟩ := draining.attended.idle_receiver quiet found
    obtain ⟨granted, waiting⟩ := List.append_eq_nil_iff.mp draining.buyers
    rw [ended_iff.mpr ⟨stopping.closed, waiting, granted, empty⟩] at more
    cases more
  have alone : s.hasWorkers = false := by
    refine Bool.eq_false_iff.mpr fun busy => ?_
    obtain ⟨id, t, found, works⟩ := hasWorkers_iff.mp busy
    cases t with
    | settle => exact free found
    | receive owner => exact unreceived id owner found
    | _ => cases works
  have unjoined (id : TaskId) : s.tasks.get? id ≠ some .join := by
    intro found
    cases waits found with
    | time sleeps => cases sleeps
    | slot offers => cases offers
    | workers working =>
        rw [alone] at working
        cases working
  have buffer : s.queue.buffer = [] := by
    obtain held | busy | ends := draining.staffed
    · rw [stopping.given] at held
      cases held
    · rw [alone] at busy
      cases busy
    · exact buffer_of_ended ends
  refine ⟨rfl, buffer, fun id => ?_, ?_, fun id stats told => (draining.told id stats told).1⟩
  · refine Option.eq_none_iff_forall_ne_some.mpr fun t found => ?_
    have employed := draining.employs id t found
    cases t with
    | settle => exact free found
    | receive owner => exact unreceived id owner found
    | join => exact unjoined id found
    | _ => cases employed
  · exact stopping.stats.resolve_left fun ⟨id, join⟩ => unjoined id join

/-- A turn of a task that is ready is paid for: by its step, or by its leaving the ready
tasks. -/
theorem PoolTurn.load_lt (turn : PoolTurn s me s') (member : me ∈ s.ready) : s'.load < s.load := by
  have shorter : ((s.ready.erase me).length : Int) = s.ready.length - 1 := by
    have some := List.length_pos_of_mem member
    rw [List.length_erase_of_mem member]
    omega
  have paid {t : Task} (found : s.tasks.get? me = some t) (t' : Task) :=
    Table.sum_insert found t' Task.toGo
  cases turn with
  | slept => simp only [load]; omega
  | idle => simp only [load, joinLine_buffer]; omega
  | took found buffer _ _ few =>
      simp only [load, paid found, buffer, List.length_cons, List.length_append, Task.toGo,
        Settlement.Stage.toGo]
      omega
  | left found before ends few =>
      simp only [load, Table.sum_erase found, buffer_of_ended before, buffer_of_ended ends, Task.toGo]
      omega
  | went found employed fewer =>
      simp only [load, paid found, Task.toGo]
      omega
  | @settled order stage due giveUp _ _ _ _ found =>
      have bounds := stage.toGo_bounds
      simp only [load, paid found, Task.toGo]
      omega
  | joining => simp only [load]; omega
  | joined found =>
      simp only [load, Table.sum_erase found, Task.toGo]
      omega

/-- A worker that has an order keeps its turn until the order is settled, if it has the
turn. -/
theorem PoolTurn.leads (turn : PoolTurn s me s') (leads : s.Leads)
    (first : s.ready.head? = some me) : s'.Leads := by
  have own {id : TaskId} {order : Order} (mine : s.inHand? id = some order) : id = me :=
    Option.some.inj ((leads id order mine).symm.trans first)
  have free {t : Task} (found : s.tasks.get? me = some t) (other : t.inHand? = none)
      {id : TaskId} {order : Order} (mine : s.inHand? id = some order) : False := by
    obtain rfl := own mine
    rw [inHand?_of_found found, other] at mine
    cases mine
  intro id order mine
  cases turn with
  | slept absent =>
      have none : s.inHand? me = none := by rw [inHand?, absent]; rfl
      obtain rfl := own mine
      cases none.symm.trans mine
  | idle found => exact (free found rfl mine).elim
  | took found =>
      rw [inHand?_insert _ rfl] at mine
      split at mine
      · rename_i same
        rw [List.head?_append, first, same]
        rfl
      · exact (free found rfl mine).elim
  | left found =>
      rw [inHand?_erase rfl (inHand?_of_found found)] at mine
      exact (free found rfl mine).elim
  | went found =>
      rw [inHand?_insert _ rfl] at mine
      split at mine
      · rename_i same
        rw [first, same]
      · exact leads id order mine
  | settled found =>
      rw [inHand?_insert _ rfl] at mine
      split at mine
      · cases mine
      · exact leads id order mine
  | joining found => exact (free found rfl mine).elim
  | joined found =>
      rw [inHand?_erase rfl (inHand?_of_found found)] at mine
      exact (free found rfl mine).elim

/-- There is one next turn, and so one order in hand at most. -/
theorem Leads.carried_le (leads : s.Leads) : s.carried ≤ 1 := by
  have idle {id : TaskId} {t : Task} (found : s.tasks.get? id = some t) (free : s.inHand? id = none) :
      t.carries = 0 := by
    rw [inHand?_of_found found] at free
    cases t with
    | settle owner =>
        cases owner with
        | worker => cases free
        | caller => rfl
    | _ => rfl
  by_cases someone : ∃ me order, s.inHand? me = some order
  · obtain ⟨me, order, mine⟩ := someone
    obtain ⟨stage, due, giveUp, found⟩ := inHand?_eq_some.mp mine
    have others : (s.tasks.erase me).sum Task.carries = 0 := by
      refine Table.sum_eq_zero fun id t here => ?_
      rw [Table.get?_erase] at here
      split at here
      · cases here
      rename_i other
      refine idle here (Option.eq_none_iff_forall_ne_some.mpr fun order' also => other ?_)
      exact Option.some.inj ((leads id order' also).symm.trans (leads me order mine))
    have one := Table.sum_erase found Task.carries
    rw [others, Task.carries] at one
    rw [carried]
    omega
  · have none (id : TaskId) : s.inHand? id = none :=
      Option.eq_none_iff_forall_ne_some.mpr fun order mine => someone ⟨id, order, mine⟩
    have zero : s.carried = 0 := Table.sum_eq_zero fun id t found => idle found (none id)
    rw [zero]
    decide

/-- Running ends, and is a course of the pool, wherever it is known to keep to its
hands. The induction is on the load, which falls with every turn. -/
theorem Draining.runFor (draining : s.Draining capacity work) {P : Sale → Prop}
    (kept : ∀ s s' me, PoolTurn s me s' → s.ready.head? = some me → P s → P s')
    (few : ∀ s, P s → s.carried ≤ work.hands) (here : P s) {n : Nat} (enough : s.load ≤ n) :
    ∃ ids : List TaskId, Sale.runFor n s = s.after (ids.map .turn) ∧
      Obeys (DrainsBy work.hands) s (ids.map .turn) ∧ (Sale.runFor n s).ready = [] := by
  induction n generalizing s with
  | zero =>
      have paid : 0 ≤ s.tasks.sum Task.toGo := Table.sum_nonneg fun _ t _ => t.toGo_bounds.1
      refine ⟨[], rfl, trivial, ?_⟩
      rw [load] at enough
      change s.ready = []
      exact List.length_eq_zero_iff.mp (by omega)
  | succ n ih =>
      unfold Sale.runFor
      cases line : s.ready with
      | nil => exact ⟨[], rfl, trivial, line⟩
      | cons me rest =>
          have first : s.ready.head? = some me := by rw [line, List.head?_cons]
          have turn := draining.turn me
          have next := kept _ _ _ turn first here
          have rule : s.DrainsBy work.hands (.turn me) := ⟨trivial, few _ next⟩
          have less := turn.load_lt (List.mem_of_mem_head? first)
          have stepped : s.step = s.stepTask me := by simp only [step, line]
          obtain ⟨ids, eq, obeys, quiet⟩ := ih (draining.perform rule) next (by
            change (s.stepTask me).load ≤ n
            omega)
          rw [List.isEmpty_cons, if_neg Bool.false_ne_true, stepped]
          exact ⟨me :: ids, eq, ⟨rule, obeys⟩, quiet⟩

/-- The scheduler has as many turns to give as the load may ask for. -/
theorem load_le_budget (s : Sale) : s.load ≤ s.budget := by
  have each : s.tasks.sum Task.toGo ≤ s.tasks.sum fun _ => 5 :=
    Table.sum_le_sum fun _ t _ => t.toGo_bounds.2
  have all : s.tasks.sum (fun _ => 5) = 5 * s.tasks.entries.length := by
    simp [Table.sum, Int.mul_comm]
  rw [load, budget]
  push_cast
  omega

end Sale

end FlashSale
