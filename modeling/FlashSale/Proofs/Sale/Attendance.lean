import FlashSale.Proofs.Sale.Attention

/-!
# Every action attends to all tasks

Whatever the tasks are and in whatever order they take turns, nobody is forgotten: when a
task is placed after its turn, dropped or started, when time passes and when the queue is
closed. The one exception is a queue that is deserted before its stream has ended, whose
slots are lost together with their orders; `Attended.perform` leaves it out.
-/

namespace FlashSale.Sale

open AdmissionQueue

variable {capacity : Nat} {s s' s'' : Sale} {me id : TaskId} {t : Task} {turn : Turn}

/-- What is left of a sale when a task is over. The queue is as before or was deserted,
as the last receiver went away; whoever waits for workers is woken when the last worker
is gone. -/
inductive Retired (s : Sale) (id : TaskId) (t : Task) : Sale → Prop where
  | intro {queue woken}
      (after : queue = s.queue ∨ (queue = s.queue.desert.1 ∧ t.isReceiver = true ∧
        ({ s with tasks := s.tasks.erase id } : Sale).hasReceivers = false))
      (quiet : queue = s.queue → t.isWorker = false → woken = [])
      (joins : t.isWorker = true → ({ s with tasks := s.tasks.erase id } : Sale).hasWorkers = false →
        ∀ id', (s.tasks.erase id).get? id' = some .join → id' ∈ s.ready.erase id ++ woken) :
      Retired s id t
        { s with
          tasks := s.tasks.erase id
          queue
          ready := s.ready.erase id ++ woken
          timers := s.timers.filter fun timer => timer.2 != id }

/-- Those who wait for workers are woken when none is left, and nobody else is. -/
theorem wakeJoins_eq (s : Sale) : ∃ woken, s.wakeJoins = { s with ready := s.ready ++ woken } ∧
    (s.hasWorkers = false → ∀ id, s.tasks.get? id = some .join → id ∈ s.ready ++ woken) := by
  unfold wakeJoins
  split
  · rename_i busy
    exact ⟨[], by rw [List.append_nil], fun alone => by simp [busy] at alone⟩
  · refine ⟨_, rfl, fun _ id found => mem_ready_wake.mpr (.inr ?_)⟩
    exact List.mem_map.mpr ⟨_, List.mem_filter.mpr ⟨Table.get?_eq_some_iff.mp found, rfl⟩, rfl⟩

theorem retire_retired (s : Sale) (id : TaskId) (t : Task) : Retired s id t (s.retire id t) := by
  have desert : ∃ queue woken, (queue = s.queue ∨ (queue = s.queue.desert.1 ∧
        t.isReceiver = true ∧ ({ s with tasks := s.tasks.erase id } : Sale).hasReceivers = false)) ∧
      (queue = s.queue → woken = []) ∧
      (if t.isReceiver then (s.remove id).desertIfAlone else s.remove id) =
        { s.remove id with queue, ready := s.ready.erase id ++ woken } := by
    have kept : s.remove id = { s.remove id with ready := s.ready.erase id ++ [] } := by
      rw [List.append_nil]
      rfl
    cases receiver : t.isReceiver with
    | false => exact ⟨s.queue, [], .inl rfl, fun _ => rfl, kept⟩
    | true =>
        rw [if_pos rfl, desertIfAlone]
        cases someone : (s.remove id).hasReceivers with
        | true => exact ⟨s.queue, [], .inl rfl, fun _ => rfl, kept⟩
        | false =>
            refine ⟨_, _, .inr ⟨rfl, rfl, someone⟩, fun same => ?_, rfl⟩
            have nobody : s.queue.waiting = [] := (congrArg (·.waiting) same).symm
            simp [remove, nobody]
  obtain ⟨queue, woken, after, quiet, eq⟩ := desert
  unfold retire
  dsimp only
  rw [eq]
  split
  · rename_i worker
    obtain ⟨joins, eq, all⟩ :=
      wakeJoins_eq { s.remove id with queue, ready := s.ready.erase id ++ woken }
    rw [eq]
    dsimp only at all ⊢
    rw [List.append_assoc] at all ⊢
    exact .intro after (fun _ other => by simp [other] at worker) fun _ => all
  · rename_i other
    exact .intro after (fun same _ => quiet same) fun worker => absurd worker other

/-- Workers are still at work when a task changes that was none, or that goes on as one.
-/
theorem hasWorkers_of_erase {tasks : Table TaskId Task} (found : s.tasks.get? me = some t)
    (kept : ∀ id, id ≠ me → tasks.get? id = s.tasks.get? id)
    (own : t.isWorker = true → ∃ t', tasks.get? me = some t' ∧ t'.isWorker = true)
    (busy : s.hasWorkers = true) : ({ s with tasks } : Sale).hasWorkers = true := by
  obtain ⟨id, t', there, worker⟩ := hasWorkers_iff.mp busy
  by_cases same : id = me
  · subst same
    rw [found] at there
    cases there
    obtain ⟨t', there, worker⟩ := own worker
    exact hasWorkers_iff.mpr ⟨id, t', there, worker⟩
  · exact hasWorkers_iff.mpr ⟨id, t', (kept id same).trans there, worker⟩

/-- That a task is over means little to the others, unless it deserts the queue before
the stream has ended. Orders in line would never be received then. -/
theorem retire_undisturbed (found : s.tasks.get? me = some t) (other : id ≠ me)
    (keeps : t.isReceiver = true → (s.retire me t).queue.deserted = true → s.queue.ended = true) :
    Undisturbed s (s.retire me t) id := by
  have retired := s.retire_retired me t
  generalize s.retire me t = s' at retired keeps ⊢
  cases retired with
  | @intro queue woken after _ joins =>
      have kept (id : TaskId) (other : id ≠ me) :
          (s.tasks.erase me).get? id = s.tasks.get? id :=
        Table.get?_erase_of_ne other
      have spares : Spares s.queue queue woken id := by
        obtain rfl | ⟨rfl, receiver, -⟩ := after
        · exact ⟨Iff.rfl, Iff.rfl, .inl⟩
        · exact spares_desert (keeps receiver rfl) woken id
      refine ⟨rfl, kept id other, spares.buyer, spares.receiver, ?_, ?_, ?_, ?_⟩
      · exact fun call => (spares.call call).imp_right (List.mem_append_right _)
      · exact fun ready => List.mem_append_left _ ((List.mem_erase_of_ne other).mpr ready)
      · exact fun time timer => List.mem_filter.mpr ⟨timer, by simpa using other⟩
      · intro join busy
        cases worker : t.isWorker with
        | false => exact .inl (hasWorkers_of_erase found kept (by simp [worker]) busy)
        | true =>
            cases left : ({ s with tasks := s.tasks.erase me } : Sale).hasWorkers with
            | true => exact .inl left
            | false => exact .inr (joins worker left id ((kept id other).trans join))

theorem place_undisturbed (found : s.tasks.get? me = some t) (other : id ≠ me)
    (stays : ∀ t', turn = .again t' → t.isWorker = true → t'.isWorker = true)
    (keeps : (s.place me t turn).queue.deserted = true → s.queue.ended = true) :
    Undisturbed s (s.place me t turn) id := by
  cases turn with
  | again t' =>
      have kept (id : TaskId) (other : id ≠ me) :
          (s.tasks.insert me t').get? id = s.tasks.get? id :=
        Table.get?_insert_of_ne other
      refine ⟨rfl, kept id other, Iff.rfl, Iff.rfl, .inl, fun ready => ready, fun _ timer => timer,
        fun _ busy => .inl ?_⟩
      exact hasWorkers_of_erase found kept
        (fun worker => ⟨t', Table.get?_insert_self .., stays t' rfl worker⟩) busy
  | wait time =>
      have ready : id ∈ s.ready → id ∈ s.ready.erase me := (List.mem_erase_of_ne other).mpr
      cases time with
      | none => exact ⟨rfl, rfl, Iff.rfl, Iff.rfl, .inl, ready, fun _ timer => timer, fun _ => .inl⟩
      | some time =>
          exact ⟨rfl, rfl, Iff.rfl, Iff.rfl, .inl, ready,
            fun _ timer => List.mem_append_left _ timer, fun _ => .inl⟩
  | finish a =>
      have rest := retire_undisturbed (s := s) found other fun _ => keeps
      exact ⟨rest.now, rest.task, rest.buyer, rest.receiver, rest.call, rest.ready, rest.timer,
        rest.join⟩
  | crash =>
      have rest := retire_undisturbed (s := s) found other fun _ => keeps
      exact ⟨rest.now, rest.task, rest.buyer, rest.receiver, rest.call, rest.ready, rest.timer,
        rest.join⟩

theorem Next.isWorker {t' : Task} (next : Next s t t') : t'.isWorker = t.isWorker := by
  cases next with
  | @begun owner => cases owner <;> rfl
  | @failed owner => cases owner <;> rfl
  | _ => rfl

theorem QueueCall.still_ready (call : QueueCall s me t s' turn) (ready : id ∈ s.ready) :
    id ∈ s'.ready := by
  cases call with
  | aside _ _ _ _ _ _ _ wakes => exact wakes ▸ ready
  | claimed _ _ _ _ wakes => exact wakes ▸ mem_ready_wake.mpr (.inl ready)
  | placed _ _ _ _ _ _ wakes => exact wakes ▸ mem_ready_wake.mpr (.inl ready)
  | took _ _ _ wakes =>
      exact wakes ▸ mem_ready_wake.mpr (.inl (mem_ready_wake.mpr (.inl ready)))
  | ended _ _ _ wakes => exact wakes ▸ mem_ready_wake.mpr (.inl ready)
  | _ => exact ready

/-- A queue that is deserted after its stream has ended keeps its slots, and its lines
are empty of whoever is in no line. Nobody in line notices then whether it was deserted.
-/
theorem QueueAfter.of_keeps {queue : AdmissionQueue} (after : QueueAfter s t queue)
    (keeps : t.isReceiver = true → queue.deserted = true → s.queue.ended = true) :
    (∀ capacity, s.queue.Orderly capacity → queue.Orderly capacity) ∧
      queue.buyers = s.queue.buyers ∧ queue.receivers = s.queue.receivers := by
  cases after with
  | kept => exact ⟨fun _ orderly => orderly, rfl, rfl⟩
  | deserted receiver =>
      have ends := keeps receiver rfl
      refine ⟨fun _ orderly => orderly.desert ends, ?_, rfl⟩
      rw [desert_of_ended ends]
      rfl

/-- A task that is over stands in no line if it stood in none, and there is nothing more
to attend to. -/
theorem retire_attends (buyer : me ∉ s.queue.buyers) (receiver : me ∉ s.queue.receivers)
    (keeps : t.isReceiver = true → (s.retire me t).queue.deserted = true → s.queue.ended = true) :
    (s.retire me t).Attends me := by
  obtain ⟨queue, ready, timers, after, eq⟩ := s.retire_eq me t
  rw [eq] at keeps ⊢
  obtain ⟨-, buyers, receivers⟩ := after.of_keeps keeps
  refine .of_outside (buyers ▸ buyer) (receivers ▸ receiver) fun t here => ?_
  rw [Table.get?_erase_self] at here
  cases here

/-- The turn of a task attends to all tasks. To the others it means little, and of
itself the part it plays in the queue tells what it waits for. -/
theorem Attended.stepTask (attended : s.Attended capacity) (me : TaskId)
    (keeps : (s.stepTask me).queue.deserted = true → s.queue.ended = true) :
    (s.stepTask me).Attended capacity := by
  have named : (s.stepTask me).Named := (attended.named.perform (.turn me)).1
  have attends := attended.attends me
  cases found : s.tasks.get? me with
  | none =>
      rw [stepTask_of_get?_eq_none found] at named ⊢
      refine ⟨attended.orderly, named, fun id => ?_⟩
      by_cases own : id = me
      · subst own
        obtain ⟨buyer, receiver⟩ := attends.not_in_line found
        refine .of_outside buyer receiver fun t (here : s.tasks.get? id = some t) => ?_
        rw [found] at here
        cases here
      · exact (attended.attends id).of_undisturbed ⟨rfl, rfl, Iff.rfl, Iff.rfl, .inl,
          (List.mem_erase_of_ne own).mpr, fun _ timer => timer, fun _ => .inl⟩
  | some t =>
      have call := s.act_call me t
      have deed := s.act_deed me t
      have stepped : s.stepTask me = (s.act me t).1.place me t (s.act me t).2 := by
        simp only [Sale.stepTask, found]
      rw [stepped] at keeps named ⊢
      generalize (s.act me t).1 = s', (s.act me t).2 = turn at call deed keeps named ⊢
      have frame := deed.frame
      have found' : s'.tasks.get? me = some t := frame.tasks ▸ found
      have keeps' : (s'.place me t turn).queue.deserted = true → s'.queue.ended = true :=
        fun deserted => call.ended_of_ended (keeps deserted)
      have orderly := call.orderly attended.orderly
      refine ⟨?_, named, fun id => ?_⟩
      · have placed := s'.place_placed me t turn
        generalize s'.place me t turn = s'' at placed keeps' ⊢
        cases placed with
        | again => exact orderly
        | wait => exact orderly
        | finish after => exact (after.of_keeps fun _ => keeps').1 _ orderly
        | crash after => exact (after.of_keeps fun _ => keeps').1 _ orderly
      · by_cases own : id = me
        · subst own
          cases turn with
          | again t' =>
              obtain ⟨ready, buyer, receiver⟩ := call.moved found attends attended.orderly (by simp)
              exact .of_outside buyer receiver fun _ _ => call.still_ready ready
          | wait time =>
              have workers : s'.hasWorkers = s.hasWorkers := by
                rw [hasWorkers, frame.tasks, hasWorkers]
              have waited {timers : List (Nat × TaskId)} {ready : List TaskId}
                  (timer : ∀ moment, time = some moment → (moment, id) ∈ timers) :
                  Attends { s' with ready, timers } id := by
                obtain ⟨uncalled, buyer, receiver, waits⟩ := call.waited found attends rfl timer
                refine ⟨fun call => absurd call uncalled, fun member => ⟨t, found', ?_⟩, ?_, ?_⟩
                · rw [frame.now]
                  exact buyer member
                · intro member
                  obtain ⟨owner, rfl⟩ := receiver member
                  exact ⟨owner, found'⟩
                · rintro t' here
                  obtain rfl := Option.some.inj (found'.symm.trans here)
                  rw [frame.now]
                  exact .inr (workers ▸ waits)
              cases time with
              | none => exact waited (by simp)
              | some time => exact waited (by simp)
          | finish a =>
              obtain ⟨-, buyer, receiver⟩ := call.moved found attends attended.orderly (by simp)
              have rest := retire_attends (t := t) buyer receiver fun _ => keeps'
              exact ⟨rest.call, rest.buyer, rest.receiver, rest.waits⟩
          | crash =>
              obtain ⟨-, buyer, receiver⟩ := call.moved found attends attended.orderly (by simp)
              have rest := retire_attends (t := t) buyer receiver fun _ => keeps'
              exact ⟨rest.call, rest.buyer, rest.receiver, rest.waits⟩
        · refine ((attended.attends id).of_undisturbed
            (call.undisturbed frame deed.timers own)).of_undisturbed
            (place_undisturbed found' own ?_ keeps')
          rintro t' rfl worker
          exact (deed.next rfl).isWorker.trans worker

theorem spawn_undisturbed (t : Task) (named : s.Named) (other : id ≠ s.nextTask) :
    Undisturbed s (s.spawn t) id where
  now := rfl
  task := by rw [get?_spawn, if_neg other]
  buyer := Iff.rfl
  receiver := Iff.rfl
  call := .inl
  ready := List.mem_append_left _
  timer _ timer := timer
  join _ busy := by
    obtain ⟨id, t', found, worker⟩ := hasWorkers_iff.mp busy
    have other : id ≠ s.nextTask := Nat.ne_of_lt (named id t' found)
    exact .inl (hasWorkers_iff.mpr ⟨id, t', by rw [get?_spawn, if_neg other, found], worker⟩)

/-- A task that starts is ready at once, and it stands in no line yet. -/
theorem Attended.spawn (attended : s.Attended capacity) (t : Task) :
    (s.spawn t).Attended capacity := by
  refine ⟨attended.orderly, attended.named.spawn t, fun id => ?_⟩
  by_cases new : id = s.nextTask
  · subst new
    obtain ⟨buyer, receiver⟩ := (attended.attends _).not_in_line attended.unused
    exact .of_outside buyer receiver fun _ _ =>
      List.mem_append_right _ (List.mem_singleton_self _)
  · exact (attended.attends id).of_undisturbed (spawn_undisturbed t attended.named new)

/-- Stores, switches and reports are nothing that a task waits for. They may change at
will. -/
theorem Attended.aside (attended : s.Attended capacity) {reservations : Reservations}
    {ledger : Ledger} {latency : Latency} {faultyItem : Option String} {receiverHeld : Bool}
    {log : List Event} :
    Attended capacity { s with reservations, ledger, latency, faultyItem, receiverHeld, log } :=
  ⟨attended.orderly, attended.named, fun id => ⟨(attended.attends id).call,
    (attended.attends id).buyer, (attended.attends id).receiver, (attended.attends id).waits⟩⟩

theorem Attended.spawns (attended : s.Attended capacity) (t : Task) (count : Nat) :
    ((List.range count).foldl (fun s _ => s.spawn t) s).Attended capacity := by
  induction count with
  | zero => exact attended
  | succ count ih =>
      rw [List.range_succ, List.foldl_append]
      exact ih.spawn t

/-- When time passes, those are woken whose timers are due, and their timers are gone.
-/
theorem fire_eq_wake (s : Sale) (time : Nat) :
    s.fire time =
      wake { s with now := time, timers := s.timers.filter fun timer => ¬ timer.1 ≤ time }
        ((s.timers.filter fun timer => timer.1 ≤ time).map Prod.snd) := by
  unfold Sale.fire
  rw [List.partition_eq_filter_filter]
  simp only [Function.comp_def, decide_not]

/-- Time passes, and those whose time comes are ready. A timer that is not due stays, so
that nobody sleeps without one. -/
theorem Attended.fire (attended : s.Attended capacity) {time : Nat} (later : s.now ≤ time) :
    (s.fire time).Attended capacity := by
  rw [fire_eq_wake]
  refine ⟨attended.orderly, attended.named, fun id => ?_⟩
  have attends := attended.attends id
  refine ⟨fun call => mem_ready_wake.mpr (.inl (attends.call call)), fun member => ?_,
    attends.receiver, fun t found => ?_⟩
  · obtain ⟨t, found, offers⟩ := attends.buyer member
    exact ⟨t, found, Task.offers_mono later offers⟩
  · obtain ready | waits := attends.waits t found
    · exact .inl (mem_ready_wake.mpr (.inl ready))
    cases waits with
    | @time _ moment sleeps _ timer =>
        by_cases due : moment ≤ time
        · refine .inl (mem_ready_wake.mpr (.inr (List.mem_map.mpr ⟨(moment, id), ?_, rfl⟩)))
          exact List.mem_filter.mpr ⟨timer, by simpa using due⟩
        · refine .inr (.time sleeps (Nat.lt_of_not_le due) ?_)
          exact List.mem_filter.mpr ⟨timer, by simpa using due⟩
    | slot offers standing => exact .inr (.slot (Task.offers_mono later offers) standing)
    | order standing => exact .inr (.order standing)
    | workers working => exact .inr (.workers working)

/-- The stream ends, and whoever waits in line for an order or a slot is woken to see
it. -/
theorem Attended.close (attended : s.Attended capacity) : s.close.Attended capacity :=
  ⟨attended.orderly.close, attended.named, fun id =>
    (attended.attends id).of_undisturbed (undisturbed_of_spares (spares_close id))⟩

/-- A receiver that goes away leaves the line. An order that it was called for goes to
the next one. -/
theorem Attended.leaveLine (attended : s.Attended capacity) (id : TaskId) {owner : Owner}
    (found : s.tasks.get? id = some (.receive owner))
    (keeps : ((s.leaveLine id).retire id (.receive owner)).queue.deserted = true →
      s.queue.ended = true) :
    ((s.leaveLine id).retire id (.receive owner)).Attended capacity := by
  have attends := attended.attends id
  have keeps' : ((s.leaveLine id).retire id (.receive owner)).queue.deserted = true →
      (s.leaveLine id).queue.ended = true := keeps
  have orderly : (s.leaveLine id).queue.Orderly capacity := attended.orderly.leaveLine id
  refine ⟨?_, ?_, fun id' => ?_⟩
  · obtain ⟨queue, ready, timers, after, eq⟩ := (s.leaveLine id).retire_eq id (.receive owner)
    rw [eq] at keeps' ⊢
    exact (after.of_keeps fun _ => keeps').1 _ orderly
  · obtain ⟨queue, ready, timers, after, eq⟩ := (s.leaveLine id).retire_eq id (.receive owner)
    rw [eq]
    exact Named.erase (s := s.leaveLine id) attended.named id
  · by_cases own : id' = id
    · subst own
      have buyer : id' ∉ (s.leaveLine id').queue.buyers := attends.not_buyer found rfl
      have receiver : id' ∉ (s.leaveLine id').queue.receivers := attended.orderly.receivers.not_mem_erase
      exact retire_attends buyer receiver fun _ => keeps'
    · have left : Undisturbed s (s.leaveLine id) id' := undisturbed_of_spares (spares_leaveLine own)
      refine (attended.attends id').of_undisturbed (left.trans ?_)
      exact retire_undisturbed (s := s.leaveLine id) found own fun _ => keeps'

/-- A buyer that goes away gives its slot or its place in line up. The slot is there for
the next one in line. -/
theorem Attended.withdraw (attended : s.Attended capacity) (found : s.tasks.get? id = some t)
    (buys : t.isReceiver = false) : ((s.retire id t).withdraw id).Attended capacity := by
  have attends := attended.attends id
  have receiver : id ∉ s.queue.receivers := by
    refine attends.not_receiver found ?_
    rintro owner rfl
    cases buys
  obtain ⟨queue, ready, timers, after, eq⟩ := s.retire_eq id t
  obtain rfl := after.eq_of_not_receiver buys
  refine ⟨?_, ?_, fun id' => ?_⟩
  · rw [eq]
    exact attended.orderly.withdraw id
  · rw [eq]
    exact attended.named.erase id
  · by_cases own : id' = id
    · subst own
      rw [eq]
      refine .of_outside ?_ ?_ fun t here => ?_
      · change id' ∉ (s.queue.withdraw id').1.buyers
        rw [withdraw_buyers]
        exact attended.orderly.buyers.not_mem_erase
      · change id' ∉ (s.queue.withdraw id').1.receivers
        rw [withdraw_receivers]
        exact receiver
      · change (s.tasks.erase id').get? id' = some t at here
        rw [Table.get?_erase_self] at here
        cases here
    · refine (attended.attends id').of_undisturbed ((retire_undisturbed found own ?_).trans
        (undisturbed_of_spares (spares_withdraw own)))
      rw [buys]
      exact nofun

theorem Attended.retire (attended : s.Attended capacity) (found : s.tasks.get? id = some t)
    (silent : t.offers s.now = false) (other : ∀ owner, t ≠ .receive owner)
    (keeps : t.isReceiver = true → (s.retire id t).queue.deserted = true → s.queue.ended = true) :
    (s.retire id t).Attended capacity := by
  have attends := attended.attends id
  refine ⟨?_, ?_, fun id' => ?_⟩
  · obtain ⟨queue, ready, timers, after, eq⟩ := s.retire_eq id t
    rw [eq] at keeps ⊢
    exact (after.of_keeps keeps).1 _ attended.orderly
  · obtain ⟨queue, ready, timers, after, eq⟩ := s.retire_eq id t
    rw [eq]
    exact attended.named.erase id
  · by_cases own : id' = id
    · subst own
      exact retire_attends (attends.not_buyer found silent) (attends.not_receiver found other) keeps
    · exact (attended.attends id').of_undisturbed (retire_undisturbed found own keeps)

/-- A task that is dropped leaves a sale in which all others are attended to. What it
leaves behind is a parameter, as an order may be given back or lost. -/
theorem Attended.drop (attended : s.Attended capacity) (id : TaskId) {leave : Sale → Order → Sale}
    (leaves : ∀ s order, s.Attended capacity → (leave s order).Attended capacity)
    (keeps : (s.drop id leave).queue.deserted = true → s.queue.ended = true) :
    (s.drop id leave).Attended capacity := by
  cases found : s.tasks.get? id with
  | none => exact (drop_of_get?_eq_none found).symm ▸ attended
  | some t =>
      simp only [Sale.drop, found] at keeps ⊢
      cases t with
      | purchase r web uuid stage due =>
          cases stage with
          | admitting order => exact leaves _ order (attended.withdraw found rfl)
          | _ => exact attended.retire found rfl (by simp) (by simp [Task.isReceiver])
      | send order => exact attended.withdraw found rfl
      | receive owner => exact attended.leaveLine id found keeps
      | settle => exact attended.retire found rfl (by simp) fun _ => keeps
      | release => exact attended.retire found rfl (by simp) fun _ => keeps
      | reservation => exact attended.retire found rfl (by simp) fun _ => keeps
      | ledger => exact attended.retire found rfl (by simp) fun _ => keeps
      | join => exact attended.retire found rfl (by simp) fun _ => keeps

/-- Every action attends to all tasks, unless it deserts a queue whose stream has not
ended. So over a course the invariant is lost only if all receivers are gone too early.
-/
theorem Attended.perform (attended : s.Attended capacity) {a : Action}
    (keeps : (s.perform a).queue.deserted = true → s.queue.ended = true) :
    (s.perform a).Attended capacity := by
  cases a with
  | turn id => exact attended.stepTask id keeps
  | elapse ms => exact attended.fire (Nat.le_add_right ..)
  | start t => exact attended.spawn t
  | cancel id =>
      exact attended.drop id (fun s order attended => attended.aside.spawn _) keeps
  | abandon id => exact attended.drop id (fun s order attended => attended.aside) keeps
  | close => exact attended.close
  | shutdown => exact attended.aside.close.spawn .join
  | startWorkers workers => exact (attended.spawns (.receive .worker) (max workers 1)).aside
  | dropReceiver =>
      change s.dropReceiver.queue.deserted = true → _ at keeps
      change s.dropReceiver.Attended capacity
      unfold Sale.dropReceiver desertIfAlone at keeps ⊢
      split
      · exact attended.aside
      · rename_i alone
        have ends : s.queue.ended = true := keeps (by rw [if_neg alone]; rfl)
        have aside : Attended capacity { s with receiverHeld := false } := attended.aside
        refine ⟨attended.orderly.desert ends, attended.named, fun id => ?_⟩
        exact (aside.attends id).of_undisturbed
          (undisturbed_of_spares (spares_desert ends s.queue.waiting id))
  | _ => exact attended.aside

/-- A sale in which nothing has happened yet attends to everybody. There is nobody to
attend to. -/
theorem attended_start (reservations : Reservations) (ledger : Ledger)
    (capacity commitLimit : Nat) :
    Attended (max capacity 1)
      { reservations, ledger, queue := .ofCapacity capacity, commitLimit } where
  orderly := ofCapacity_orderly capacity
  named _ _ found := by cases found
  attends _ := .of_outside List.not_mem_nil List.not_mem_nil fun _ found => by cases found

/-- A pipeline that was opened attends to everybody. Its workers are ready, and nobody
waits yet. -/
theorem pipeline?_attended {reservations : Reservations} {ledger : Ledger}
    {workers commitLimit : Nat}
    (opened : pipeline? reservations ledger workers capacity commitLimit = some s) :
    s.Attended (max capacity 1) := by
  unfold pipeline? AdmissionQueue.open? at opened
  split at opened
  · cases opened
    exact (((attended_start reservations ledger capacity commitLimit).spawns (.receive .worker)
      (max workers 1)).aside).aside
  · cases opened

end FlashSale.Sale
