import FlashSale.Proofs.Sale.Turn

/-!
# What the outside world does

Time passes, the queue is closed and tasks are dropped. Each of these moves tasks
between those that are ready and those that wait; the equations here say what else it
changes, and leave that order open as the steps of tasks do.

`Dropped` lists what becomes of a task that is dropped. Only a purchase that waits for
the queue owns stock when it is dropped.
-/

namespace FlashSale.Sale

variable (s : Sale)

/-- When time passes, the clock shows the new time and timers wake their tasks; nothing
else changes. -/
theorem fire_eq (time : Nat) : ∃ ready timers, s.fire time = { s with now := time, ready, timers } :=
  ⟨_, _, rfl⟩

theorem dropReceiver_eq : ∃ queue ready, (queue = s.queue ∨ queue = s.queue.desert.1) ∧
    s.dropReceiver = { s with receiverHeld := false, queue, ready } := by
  unfold dropReceiver desertIfAlone
  split
  · exact ⟨_, _, .inl rfl, rfl⟩
  · exact ⟨_, _, .inr rfl, rfl⟩

/-- What becomes of a sale when a task is dropped. A purchase that waits for the queue
leaves its stock to be dealt with, as `leave` says. -/
inductive Dropped (s : Sale) (id : TaskId) (leave : Sale → Order → Sale) : Task → Sale → Prop where
  | gone {t queue ready timers} (free : ∀ item user uuid order due,
        t ≠ .purchase item user uuid (.admitting order) due) (after : QueueAfter s t queue) :
      Dropped s id leave t { s with tasks := s.tasks.erase id, queue, ready, timers }
  | unbought {r web uuid order due ready timers} :
      Dropped s id leave (.purchase r web uuid (.admitting order) due)
        (leave
          { s with
            tasks := s.tasks.erase id
            queue := (s.queue.withdraw id).1
            ready
            timers }
          order)
  | unsent {order ready timers} :
      Dropped s id leave (.send order)
        { s with
          tasks := s.tasks.erase id
          queue := (s.queue.withdraw id).1
          ready
          timers }
  | unreceived {owner queue ready timers}
      (after : QueueAfter (s.leaveLine id) (.receive owner) queue) :
      Dropped s id leave (.receive owner)
        { s with tasks := s.tasks.erase id, queue, ready, timers }

theorem QueueAfter.eq_of_not_receiver {s : Sale} {t : Task} {queue : AdmissionQueue}
    (after : QueueAfter s t queue) (other : t.isReceiver = false) : queue = s.queue := by
  cases after with
  | kept => rfl
  | deserted receiver =>
      rw [other] at receiver
      cases receiver

theorem drop_of_get?_eq_none {s : Sale} {id : TaskId} {leave : Sale → Order → Sale}
    (absent : s.tasks.get? id = none) : s.drop id leave = s := by
  simp only [drop, absent]

/-- A task that is there is dropped in one of the ways listed, by what kind of task it
is. -/
theorem drop_dropped {s : Sale} {id : TaskId} {t : Task} (found : s.tasks.get? id = some t)
    (leave : Sale → Order → Sale) : Dropped s id leave t (s.drop id leave) := by
  obtain ⟨queue, ready, timers, after, eq⟩ := s.retire_eq id t
  simp only [drop, found]
  cases t with
  | purchase r web uuid stage due =>
      obtain rfl := after.eq_of_not_receiver rfl
      cases stage with
      | admitting order =>
          simp only [Purchase.Stage.held?, eq]
          exact .unbought
      | _ =>
          simp only [Purchase.Stage.held?, eq]
          exact .gone (by simp) after
  | send order =>
      obtain rfl := after.eq_of_not_receiver rfl
      rw [eq]
      exact .unsent
  | receive owner =>
      obtain ⟨queue, ready, timers, after, eq⟩ := (s.leaveLine id).retire_eq id (.receive owner)
      dsimp only
      rw [eq]
      exact .unreceived after
  | _ =>
      dsimp only
      rw [eq]
      exact .gone (by simp) after

theorem get?_spawn (t : Task) (id : TaskId) :
    (s.spawn t).tasks.get? id = if id = s.nextTask then some t else s.tasks.get? id :=
  Table.get?_insert ..

/-- Tasks that are started one after the other have the next names, and nothing else
changes. -/
theorem spawns_eq (t : Task) (count : Nat) : ∃ tasks ready,
    (List.range count).foldl (fun s _ => s.spawn t) s =
        { s with tasks, ready, nextTask := s.nextTask + count } ∧
      ∀ id, tasks.get? id =
        if s.nextTask ≤ id ∧ id < s.nextTask + count then some t else s.tasks.get? id := by
  induction count with
  | zero =>
      refine ⟨s.tasks, s.ready, rfl, fun id => ?_⟩
      rw [if_neg (by grind)]
  | succ count ih =>
      obtain ⟨tasks, ready, eq, found⟩ := ih
      rw [List.range_succ, List.foldl_append, eq]
      refine ⟨_, _, rfl, fun id => ?_⟩
      dsimp only
      rw [Table.get?_insert, found]
      by_cases last : id = s.nextTask + count
      · rw [if_pos last, if_pos (by grind)]
      · rw [if_neg last]
        have same : (s.nextTask ≤ id ∧ id < s.nextTask + count) ↔
            (s.nextTask ≤ id ∧ id < s.nextTask + (count + 1)) := by grind
        simp only [same]

/-- Workers are started under names that are not in use yet. Even for a count of zero
there is one. -/
theorem startWorkers_eq (workers : Nat) : ∃ tasks ready,
    s.startWorkers workers =
        { s with
          tasks
          ready
          nextTask := s.nextTask + max workers 1
          receiverHeld := false
          log := s.log ++ [.workersStarted (max workers 1)] } ∧
      ∀ id, tasks.get? id =
        if s.nextTask ≤ id ∧ id < s.nextTask + max workers 1 then some (.receive .worker)
        else s.tasks.get? id := by
  obtain ⟨tasks, ready, eq, found⟩ := s.spawns_eq (.receive .worker) (max workers 1)
  refine ⟨tasks, ready, ?_, found⟩
  simp only [startWorkers, eq, emit]

/-- A pipeline starts with nothing but its workers. Its queue is empty and its
statistics are at zero. -/
theorem pipeline?_eq {reservations : Reservations} {ledger : Ledger}
    {workers capacity commitLimit : Nat} {s : Sale}
    (opened : pipeline? reservations ledger workers capacity commitLimit = some s) :
    ∃ tasks ready,
      s = {
        reservations
        ledger
        queue := .ofCapacity capacity
        commitLimit
        receiverHeld := false
        tasks
        ready
        nextTask := max workers 1
        log := [.workersStarted (max workers 1), .pipelineStarted workers capacity commitLimit] } ∧
      ∀ id, tasks.get? id = if id < max workers 1 then some (.receive .worker) else none := by
  unfold pipeline? AdmissionQueue.open? at opened
  split at opened
  · let sale : Sale := { reservations, ledger, queue := .ofCapacity capacity, commitLimit }
    obtain ⟨tasks, ready, eq, found⟩ := sale.startWorkers_eq workers
    refine ⟨tasks, ready, ?_, fun id => ?_⟩
    · have started := (Option.some.inj opened).symm
      change s = (sale.startWorkers workers).emit _ at started
      rw [started, eq]
      simp [emit, sale]
    · have found := found id
      simpa [sale] using found
  · cases opened

/-- The tasks of a pipeline that was just started are its workers. -/
theorem pipeline?_idle {reservations : Reservations} {ledger : Ledger}
    {workers capacity commitLimit : Nat} {s : Sale}
    (opened : pipeline? reservations ledger workers capacity commitLimit = some s) {id : TaskId}
    {t : Task} (here : s.tasks.get? id = some t) : id < s.nextTask ∧ t = .receive .worker := by
  obtain ⟨tasks, ready, rfl, found⟩ := pipeline?_eq opened
  change tasks.get? id = some t at here
  rw [found] at here
  split at here
  · cases here
    exact ⟨‹_›, rfl⟩
  · cases here

/-- How a task came to stand where it stands after an action. -/
inductive Origin (s : Sale) (id : TaskId) : Action → Task → Prop where
  | kept {a t} (found : s.tasks.get? id = some t) : Origin s id a t
  | started {t} (new : id = s.nextTask) : Origin s id (.start t) t
  | returning {a item quantity due} : Origin s id a (.release item quantity due)
  | joining {a} : Origin s id a .join
  | receiving {a} : Origin s id a (.receive .worker)
  | turned {t s' turn t'} (found : s.tasks.get? id = some t) (deed : Deed s id t s' turn)
      (goes : turn = .again t') : Origin s id (.turn id) t'

theorem get?_of_erase {tasks : Table TaskId Task} {id id' : TaskId} {t : Task}
    (here : (tasks.erase id').get? id = some t) : tasks.get? id = some t := by
  rw [Table.get?_erase] at here
  split at here
  · cases here
  · exact here

/-- Dropping a task moves no other one; a task that is new gives stock back. -/
theorem drop_origin {s : Sale} {id id' : TaskId} {leave : Sale → Order → Sale} {a : Action} {t : Task}
    (leaves : ∀ s order t, (leave s order).tasks.get? id = some t →
      s.tasks.get? id = some t ∨ ∃ item quantity due, t = .release item quantity due)
    (here : (s.drop id' leave).tasks.get? id = some t) : Origin s id a t := by
  cases found : s.tasks.get? id' with
  | none =>
      rw [drop_of_get?_eq_none found] at here
      exact .kept here
  | some _ =>
      have dropped := drop_dropped found leave
      generalize s.drop id' leave = s' at dropped here
      cases dropped with
      | unbought =>
          obtain kept | ⟨item, quantity, due, rfl⟩ := leaves _ _ _ here
          · exact .kept (get?_of_erase kept)
          · exact .returning
      | _ => exact .kept (get?_of_erase here)

/-- A task that is there after an action was there before, was started, or took its
turn. -/
theorem perform_origin {s : Sale} {a : Action} {id : TaskId} {t : Task}
    (here : (s.perform a).tasks.get? id = some t) : Origin s id a t := by
  cases a with
  | turn me =>
      change (s.stepTask me).tasks.get? id = some t at here
      cases found : s.tasks.get? me with
      | none =>
          rw [stepTask_of_get?_eq_none found] at here
          exact .kept here
      | some _ =>
          obtain ⟨s', turn, deed, placed⟩ := stepTask_cases found
          obtain before | ⟨rfl, goes⟩ := placed.found here
          · exact .kept (deed.frame.tasks ▸ before)
          · exact .turned found deed goes
  | start =>
      rw [perform, get?_spawn] at here
      split at here
      · cases here
        exact .started ‹_›
      · exact .kept here
  | cancel me =>
      refine drop_origin (fun s order t here => ?_) here
      rw [releaseLater, get?_spawn] at here
      split at here
      · cases here
        exact .inr ⟨_, _, _, rfl⟩
      · exact .inl here
  | abandon me =>
      refine drop_origin (fun s order t here => ?_) here
      exact .inl here
  | shutdown =>
      rw [perform, shutdown, get?_spawn] at here
      split at here
      · cases here
        exact .joining
      · exact .kept here
  | startWorkers workers =>
      obtain ⟨tasks, ready, eq, found⟩ := s.startWorkers_eq workers
      rw [perform, eq] at here
      rw [found] at here
      split at here
      · cases here
        exact .receiving
      · exact .kept here
  | dropReceiver =>
      obtain ⟨queue, ready, -, eq⟩ := s.dropReceiver_eq
      rw [perform, eq] at here
      exact .kept here
  | _ => exact .kept here

/-- Every task has a name that was given out. So the next name is free. -/
def Named (s : Sale) : Prop := ∀ id t, s.tasks.get? id = some t → id < s.nextTask

variable {s}

theorem Named.spawn (named : s.Named) (t : Task) : (s.spawn t).Named := by
  intro id t' here
  rw [get?_spawn] at here
  split at here
  · rename_i same
    exact same ▸ Nat.lt_succ_self s.nextTask
  · exact Nat.lt_succ_of_lt (named id t' here)

theorem Named.erase (named : s.Named) (id : TaskId) {queue : AdmissionQueue} {ready : List TaskId}
    {timers : List (Nat × TaskId)} :
    Named { s with tasks := s.tasks.erase id, queue, ready, timers } := by
  intro id' t here
  exact named id' t (get?_of_erase here)

theorem Named.drop (named : s.Named) {id : TaskId} {leave : Sale → Order → Sale}
    (leaves : ∀ s order, s.Named → (leave s order).Named ∧ s.nextTask ≤ (leave s order).nextTask) :
    (s.drop id leave).Named ∧ s.nextTask ≤ (s.drop id leave).nextTask := by
  cases found : s.tasks.get? id with
  | none =>
      rw [drop_of_get?_eq_none found]
      exact ⟨named, Nat.le_refl _⟩
  | some t =>
      have dropped := drop_dropped found leave
      generalize s.drop id leave = s' at dropped ⊢
      cases dropped with
      | unbought => exact leaves _ _ (named.erase id)
      | _ => exact ⟨named.erase id, Nat.le_refl _⟩

/-- Names are given out in order, and none is given out twice. -/
theorem Named.perform (named : s.Named) (a : Action) :
    (s.perform a).Named ∧ s.nextTask ≤ (s.perform a).nextTask := by
  cases a with
  | turn id =>
      change (s.stepTask id).Named ∧ s.nextTask ≤ (s.stepTask id).nextTask
      cases found : s.tasks.get? id with
      | none =>
          rw [stepTask_of_get?_eq_none found]
          exact ⟨named, Nat.le_refl _⟩
      | some t =>
          obtain ⟨s', turn, deed, placed⟩ := stepTask_cases found
          have same : (s.stepTask id).nextTask = s.nextTask :=
            placed.stores.nextTask.trans deed.frame.nextTask
          refine ⟨fun id' t' here => ?_, same.ge⟩
          rw [same]
          obtain before | ⟨rfl, -⟩ := placed.found here
          · exact named id' t' (deed.frame.tasks ▸ before)
          · exact named id' t found
  | start t => exact ⟨named.spawn t, Nat.le_succ _⟩
  | cancel id =>
      refine named.drop fun s order named => ⟨?_, Nat.le_succ _⟩
      exact Named.spawn (s := s.emit _) named _
  | abandon id => exact named.drop fun s order named => ⟨named, Nat.le_refl _⟩
  | shutdown => exact ⟨Named.spawn (s := (s.emit _).close) named _, Nat.le_succ _⟩
  | startWorkers workers =>
      obtain ⟨tasks, ready, eq, found⟩ := s.startWorkers_eq workers
      rw [Sale.perform, eq]
      refine ⟨fun id t here => ?_, Nat.le_add_right ..⟩
      change tasks.get? id = some t at here
      rw [found] at here
      split at here
      · rename_i new
        exact new.2
      · exact Nat.lt_of_lt_of_le (named id t here) (Nat.le_add_right ..)
  | dropReceiver =>
      obtain ⟨queue, ready, -, eq⟩ := s.dropReceiver_eq
      rw [Sale.perform, eq]
      exact ⟨named, Nat.le_refl _⟩
  | _ => exact ⟨named, Nat.le_refl _⟩

theorem Named.after (named : s.Named) (actions : List Action) :
    (s.after actions).Named ∧ s.nextTask ≤ (s.after actions).nextTask := by
  induction actions generalizing s with
  | nil => exact ⟨named, Nat.le_refl _⟩
  | cons a rest ih =>
      obtain ⟨named, more⟩ := named.perform a
      obtain ⟨named, still⟩ := ih named
      exact ⟨named, more.trans still⟩

variable (s)

/-- The parts of a sale that dropping a task leaves alone: the clock, the stores and the
limit of commits. -/
structure SameCalls (s s' : Sale) : Prop where
  now : s'.now = s.now
  reservations : s'.reservations = s.reservations
  ledger : s'.ledger = s.ledger
  commitLimit : s'.commitLimit = s.commitLimit

/-- Dropping a task calls no store. Stock is given back by a task of its own, later. -/
theorem drop_calls {id : TaskId} {leave : Sale → Order → Sale}
    (leaves : ∀ s order, SameCalls s (leave s order)) : SameCalls s (s.drop id leave) := by
  cases found : s.tasks.get? id with
  | none =>
      rw [drop_of_get?_eq_none found]
      exact ⟨rfl, rfl, rfl, rfl⟩
  | some t =>
      have dropped := drop_dropped found leave
      generalize s.drop id leave = s' at dropped ⊢
      cases dropped with
      | @unbought r web uuid order due ready timers =>
          have kept := leaves { s with
            tasks := s.tasks.erase id, queue := (s.queue.withdraw id).1, ready, timers } order
          exact ⟨kept.now, kept.reservations, kept.ledger, kept.commitLimit⟩
      | _ => exact ⟨rfl, rfl, rfl, rfl⟩

theorem cancel_calls (id : TaskId) : SameCalls s (s.cancel id) :=
  s.drop_calls fun _ _ => ⟨rfl, rfl, rfl, rfl⟩

theorem abandon_calls (id : TaskId) : SameCalls s (s.abandon id) :=
  s.drop_calls fun _ _ => ⟨rfl, rfl, rfl, rfl⟩

theorem perform_commitLimit (a : Action) : (s.perform a).commitLimit = s.commitLimit := by
  cases a with
  | turn id =>
      change (s.stepTask id).commitLimit = s.commitLimit
      cases found : s.tasks.get? id with
      | none => rw [stepTask_of_get?_eq_none found]
      | some t =>
          obtain ⟨s', turn, deed, placed⟩ := stepTask_cases found
          exact placed.stores.commitLimit.trans deed.frame.commitLimit
  | cancel id => exact (s.cancel_calls id).commitLimit
  | abandon id => exact (s.abandon_calls id).commitLimit
  | startWorkers workers =>
      obtain ⟨tasks, ready, eq, -⟩ := s.startWorkers_eq workers
      rw [perform, eq]
  | dropReceiver =>
      obtain ⟨queue, ready, -, eq⟩ := s.dropReceiver_eq
      rw [perform, eq]
  | _ => rfl

theorem after_commitLimit (actions : List Action) :
    (s.after actions).commitLimit = s.commitLimit := by
  induction actions generalizing s with
  | nil => rfl
  | cons a rest ih => exact (ih (s.perform a)).trans (s.perform_commitLimit a)

theorem after_limit (actions : List Action) : (s.after actions).limit = s.limit := by
  rw [limit, s.after_commitLimit, limit]

/-- A version that is below its limit after an action was so before. So it is enough to
ask for it at the end of a course. -/
theorem perform_versions {a : Action} (below : (s.perform a).ledger.VersionsBelowLimit) :
    s.ledger.VersionsBelowLimit := by
  cases a with
  | turn id =>
      change (s.stepTask id).ledger.VersionsBelowLimit at below
      cases found : s.tasks.get? id with
      | none =>
          rw [stepTask_of_get?_eq_none found] at below
          exact below
      | some t =>
          obtain ⟨s', turn, deed, placed⟩ := stepTask_cases found
          rw [placed.stores.ledger] at below
          exact deed.ledger_called.versions below
  | seed => exact Ledger.seed_versions below
  | cancel id => exact (s.cancel_calls id).ledger ▸ below
  | abandon id => exact (s.abandon_calls id).ledger ▸ below
  | startWorkers workers =>
      obtain ⟨tasks, ready, eq, -⟩ := s.startWorkers_eq workers
      rw [perform, eq] at below
      exact below
  | dropReceiver =>
      obtain ⟨queue, ready, -, eq⟩ := s.dropReceiver_eq
      rw [perform, eq] at below
      exact below
  | _ => exact below

/-- No action forgets or changes an order of the ledger. -/
theorem perform_keeps (a : Action) : s.ledger.Keeps (s.perform a).ledger := by
  cases a with
  | turn id =>
      change s.ledger.Keeps (s.stepTask id).ledger
      cases found : s.tasks.get? id with
      | none =>
          rw [stepTask_of_get?_eq_none found]
          exact .refl _
      | some t =>
          obtain ⟨s', turn, deed, placed⟩ := stepTask_cases found
          rw [placed.stores.ledger]
          exact deed.ledger_called.keeps
  | seed => exact s.ledger.seed_keeps _ _ _
  | cancel id => exact .of_orders_eq (congrArg _ (s.cancel_calls id).ledger)
  | abandon id => exact .of_orders_eq (congrArg _ (s.abandon_calls id).ledger)
  | startWorkers workers =>
      obtain ⟨tasks, ready, eq, -⟩ := s.startWorkers_eq workers
      rw [perform, eq]
      exact .refl _
  | dropReceiver =>
      obtain ⟨queue, ready, -, eq⟩ := s.dropReceiver_eq
      rw [perform, eq]
      exact .refl _
  | _ => exact .refl _

theorem after_versions {actions : List Action}
    (below : (s.after actions).ledger.VersionsBelowLimit) : s.ledger.VersionsBelowLimit := by
  induction actions generalizing s with
  | nil => exact below
  | cons a rest ih => exact s.perform_versions (ih _ below)

end FlashSale.Sale
