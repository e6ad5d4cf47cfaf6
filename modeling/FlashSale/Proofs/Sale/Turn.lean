import FlashSale.Proofs.Ledger.Commit
import FlashSale.Proofs.Sale.Deed
import FlashSale.Proofs.Table

/-!
# Where a step leaves a task

After its step a task stands somewhere else, waits, or is gone. `Placed` lists the
three ways together with a crash, and says what else they change: a task that is gone
may have been the last to hold the receiving end of the queue. As with deeds, the
order of ready tasks and the timers are left open.

A property of steps then follows from two lemmas, one by cases on deeds and one by
cases on places.
-/

namespace FlashSale.Sale

/-- What becomes of the queue when a task is over. It is deserted when the task was the
last one that could receive. -/
inductive QueueAfter (s : Sale) (t : Task) : AdmissionQueue → Prop where
  | kept : QueueAfter s t s.queue
  | deserted (receiver : t.isReceiver = true) : QueueAfter s t s.queue.desert.1

/-- A task that is over leaves the stores and the log alone. What it leaves of the queue
is all that matters here. -/
theorem retire_eq (s : Sale) (id : TaskId) (t : Task) :
    ∃ queue ready timers, QueueAfter s t queue ∧
      s.retire id t = { s with tasks := s.tasks.erase id, queue, ready, timers } := by
  have desert : ∃ queue ready, QueueAfter s t queue ∧
      (if t.isReceiver then (s.remove id).desertIfAlone else s.remove id) =
        { s.remove id with queue, ready } := by
    cases receiver : t.isReceiver with
    | false => exact ⟨_, _, .kept, rfl⟩
    | true =>
        rw [if_pos rfl, desertIfAlone]
        split
        · exact ⟨_, _, .kept, rfl⟩
        · exact ⟨_, _, .deserted receiver, rfl⟩
  obtain ⟨queue, ready, after, eq⟩ := desert
  unfold retire
  dsimp only
  rw [eq]
  split
  · unfold wakeJoins
    split
    · exact ⟨_, _, _, after, rfl⟩
    · exact ⟨_, _, _, after, rfl⟩
  · exact ⟨_, _, _, after, rfl⟩

/-- Where the end of a step leaves the sale. There is one case for each way in which a
step can end. -/
inductive Placed (s : Sale) (me : TaskId) (t : Task) : Turn → Sale → Prop where
  | again (t' : Task) : Placed s me t (.again t') { s with tasks := s.tasks.insert me t' }
  | wait {time ready timers} : Placed s me t (.wait time) { s with ready, timers }
  | finish {a queue ready timers} (after : QueueAfter s t queue) :
      Placed s me t (.finish a)
        { s with
          tasks := s.tasks.erase me
          queue
          ready
          timers
          answers := s.answers ++ [(me, a)] }
  | crash {queue ready timers} (after : QueueAfter s t queue) :
      Placed s me t .crash
        { s with
          tasks := s.tasks.erase me
          queue
          ready
          timers
          answers := s.answers ++ [(me, .crashed)]
          crashedWorkers := if t.isWorker then s.crashedWorkers + 1 else s.crashedWorkers }

theorem place_placed (s : Sale) (me : TaskId) (t : Task) (turn : Turn) :
    Placed s me t turn (s.place me t turn) := by
  obtain ⟨queue, ready, timers, after, eq⟩ := s.retire_eq me t
  cases turn with
  | again t' => exact .again t'
  | wait time => cases time <;> exact .wait
  | finish a =>
      simp only [place, eq]
      exact .finish after
  | crash =>
      simp only [place, eq]
      exact .crash after

theorem stepTask_placed {s : Sale} {me : TaskId} {t : Task} (found : s.tasks.get? me = some t) :
    Placed (s.act me t).1 me t (s.act me t).2 (s.stepTask me) := by
  simp only [stepTask, found]
  exact place_placed ..

/-- The turn of a task is a deed, after which the task is placed. This is how all that
follows takes a turn apart. -/
theorem stepTask_cases {s : Sale} {me : TaskId} {t : Task} (found : s.tasks.get? me = some t) :
    ∃ s' turn, Deed s me t s' turn ∧ Placed s' me t turn (s.stepTask me) :=
  ⟨_, _, s.act_deed me t, stepTask_placed found⟩

theorem stepTask_of_get?_eq_none {s : Sale} {me : TaskId} (absent : s.tasks.get? me = none) :
    s.stepTask me = { s with ready := s.ready.erase me } := by
  simp only [stepTask, absent]

variable {s s' : Sale} {me : TaskId} {t : Task} {turn : Turn}

/-- The parts of a sale that no deed changes. Time, names and answers are for others to
change. -/
structure SameFrame (s s' : Sale) : Prop where
  now : s'.now = s.now
  tasks : s'.tasks = s.tasks
  nextTask : s'.nextTask = s.nextTask
  answers : s'.answers = s.answers
  commitLimit : s'.commitLimit = s.commitLimit
  latency : s'.latency = s.latency
  faultyItem : s'.faultyItem = s.faultyItem

theorem Deed.frame (h : Deed s me t s' turn) : SameFrame s s' := by
  cases h with
  | @committed owner => cases owner <;> exact ⟨rfl, rfl, rfl, rfl, rfl, rfl, rfl⟩
  | @restored owner => cases owner <;> exact ⟨rfl, rfl, rfl, rfl, rfl, rfl, rfl⟩
  | @restoreFailed owner => cases owner <;> exact ⟨rfl, rfl, rfl, rfl, rfl, rfl, rfl⟩
  | _ => exact ⟨rfl, rfl, rfl, rfl, rfl, rfl, rfl⟩

/-- A deed calls the ledger at most once, so that what the ledger keeps over a call it
keeps over a deed. -/
theorem Deed.ledger_called (h : Deed s me t s' turn) : s.ledger.Called s.clock s'.ledger := by
  cases h with
  | @committed owner _ _ _ _ _ reply => cases owner <;> exact .commit reply
  | commitRefused _ reply => exact .commit reply
  | commitOverflowed _ reply => exact .commit reply
  | @restored owner => cases owner <;> exact .none
  | @restoreFailed owner => cases owner <;> exact .none
  | commitCalled => exact .commit rfl
  | updated => exact .update
  | _ => exact .none

/-- A deed calls the reservation store at most once. The same is true of it as of the
ledger. -/
theorem Deed.reservations_called (h : Deed s me t s' turn) :
    s'.reservations = s.reservations ∨
      ∃ call, s'.reservations = s.reservations.call s.now call := by
  have called {α : Type} {reply : Reply α × Reservations} {reservations : Reservations}
      {answer : Reply α} (call : ReservationCall)
      (same : s.reservations.call s.now call = reply.2) (replied : reply = (answer, reservations)) :
      reservations = s.reservations ∨ ∃ call, reservations = s.reservations.call s.now call := by
    refine .inr ⟨call, ?_⟩
    rw [same, replied]
  cases h with
  | marked reply => exact called (.mark _) rfl reply
  | duplicate reply => exact called (.mark _) rfl reply
  | markRefused reply => exact called (.mark _) rfl reply
  | markOverflowed reply => exact called (.mark _) rfl reply
  | reserved reply => exact called (.take ..) rfl reply
  | soldOut reply => exact called (.take ..) rfl reply
  | takeRefused reply => exact called (.take ..) rfl reply
  | takeOverflowed reply => exact called (.take ..) rfl reply
  | released reply => exact called (.putBack ..) rfl reply
  | releaseFailed reply => exact called (.putBack ..) rfl reply
  | releaseOverflowed reply => exact called (.putBack ..) rfl reply
  | returned reply => exact called (.putBack ..) rfl reply
  | returnFailed reply => exact called (.putBack ..) rfl reply
  | returnOverflowed reply => exact called (.putBack ..) rfl reply
  | @committed owner => cases owner <;> exact .inl rfl
  | @restored owner _ _ _ _ _ _ reply => cases owner <;> exact called (.putBack ..) rfl reply
  | @restoreFailed owner => cases owner <;> exact .inl rfl
  | restoreOverflowed _ reply => exact called (.putBack ..) rfl reply
  | called => exact .inr ⟨_, rfl⟩
  | _ => exact .inl rfl

/-- Where a task goes on that is not over. A worker goes on for ever, from an order to
the next; other tasks come to an end. -/
inductive Next (s : Sale) : Task → Task → Prop where
  | entered {r web id due} : Next s (.purchase r web id .entering due)
      (.purchase r web id .marking (s.now + s.latency.mark))
  | marked {r web id due} : Next s (.purchase r web id .marking due)
      (.purchase r web id .reserving (s.now + s.latency.take))
  | reserved {r web id due} : Next s (.purchase r web id .reserving due)
      (.purchase r web id (.admitting (.pending id r.userId r.itemId r.quantity s.clock)) s.now)
  | refused {r web id order due} : Next s (.purchase r web id (.admitting order) due)
      (.purchase r web id (.releasing order) (s.now + s.latency.putBack))
  | begun {owner order due giveUp} : Next s (.settle owner order .opening due giveUp)
      (.settle owner order .committing (s.now + s.ledger.commitDelay) (s.now + s.commitLimit))
  | failed {owner order due giveUp commit} : Next s (.settle owner order .committing due giveUp)
      (.settle owner order (.restoring commit) (s.now + s.latency.putBack) (s.now + s.commitLimit))
  | settled {order stage due giveUp} : Next s (.settle .worker order stage due giveUp)
      (.receive .worker)
  | handed {order} : Next s (.receive .worker) (.settle .worker order .opening s.now s.now)
  | commitBegun {order} : Next s (.ledger (.commit order) none)
      (.ledger (.commit order) (some (s.now + s.ledger.commitDelay)))

/-- Wherever a deed goes on, it is listed, with the times that the task waits for. -/
theorem Deed.next (deed : Deed s me t s' turn) {t' : Task} (goes : turn = .again t') :
    Next s t t' := by
  cases deed with
  | entered => cases goes; exact .entered
  | marked => cases goes; exact .marked
  | reserved => cases goes; exact .reserved
  | refused => cases goes; exact .refused
  | begun => cases goes; exact .begun
  | commitRefused => cases goes; exact .failed
  | commitTimedOut => cases goes; exact .failed
  | @committed owner => cases owner <;> cases goes; exact .settled
  | @restored owner => cases owner <;> cases goes; exact .settled
  | @restoreFailed owner => cases owner <;> cases goes; exact .settled
  | handed => cases goes; exact .handed
  | commitBegun => cases goes; exact .commitBegun
  | called ends => obtain ⟨_, rfl⟩ | ⟨_, rfl⟩ | rfl := ends <;> cases goes
  | commitCalled ends => obtain ⟨_, rfl⟩ | rfl := ends <;> cases goes
  | looked ends => obtain ⟨_, rfl⟩ | rfl := ends <;> cases goes
  | updated ends => obtain ⟨_, rfl⟩ | rfl := ends <;> cases goes
  | _ => cases goes

/-- The parts of a sale that placing a task leaves alone. What a deed did to them stays.
-/
structure SameStores (s s' : Sale) : Prop where
  reservations : s'.reservations = s.reservations
  ledger : s'.ledger = s.ledger
  log : s'.log = s.log
  tally : s'.tally = s.tally
  nextTask : s'.nextTask = s.nextTask
  commitLimit : s'.commitLimit = s.commitLimit
  faultyItem : s'.faultyItem = s.faultyItem

theorem Placed.stores (placed : Placed s me t turn s') : SameStores s s' := by
  cases placed <;> exact ⟨rfl, rfl, rfl, rfl, rfl, rfl, rfl⟩

/-- A task that was there before is there still, or is the one that was placed. Placing
a task starts no other one. -/
theorem Placed.found (placed : Placed s me t turn s') {id : TaskId} {t' : Task}
    (found : s'.tasks.get? id = some t') :
    s.tasks.get? id = some t' ∨ (id = me ∧ turn = .again t') := by
  cases placed with
  | again next =>
      rw [Table.get?_insert] at found
      split at found
      · cases found
        exact .inr ⟨‹_›, rfl⟩
      · exact .inl found
  | wait => exact .inl found
  | finish =>
      rw [Table.get?_erase] at found
      split at found
      · cases found
      · exact .inl found
  | crash =>
      rw [Table.get?_erase] at found
      split at found
      · cases found
      · exact .inl found

theorem Placed.kept (placed : Placed s me t turn s') {id : TaskId} (other : id ≠ me) :
    s'.tasks.get? id = s.tasks.get? id := by
  cases placed with
  | again => exact Table.get?_insert_of_ne other
  | wait => rfl
  | finish => exact Table.get?_erase_of_ne other
  | crash => exact Table.get?_erase_of_ne other

/-- What is noted of a task that ends its step so. Only a task that goes on is noted of.
-/
def Turn.notes (time : Nat) (id : TaskId) (t : Task) : Turn → List Note
  | .again t' => noteOf time id t t'
  | _ => []

theorem noteOf_self (time : Nat) (id : TaskId) (t : Task) : noteOf time id t t = [] := by
  cases t with
  | receive owner => cases owner <;> rfl
  | settle owner order stage => cases owner <;> cases stage <;> rfl
  | purchase r web uuid stage => cases stage <;> rfl
  | _ => rfl

/-- What is noted of a turn is what the end of the step tells. So notes are followed by
cases on deeds. -/
theorem notes_turn (found : s.tasks.get? me = some t) (deed : Deed s me t s' turn)
    (placed : Placed s' me t turn (s.stepTask me)) :
    s.notes (.turn me) = turn.notes s.now me t := by
  have frame := deed.frame
  simp only [notes]
  generalize s.stepTask me = s'' at placed ⊢
  cases placed with
  | again t' => simp [found, Turn.notes]
  | wait => simp [frame.tasks, found, noteOf_self, Turn.notes]
  | finish => simp [found, Turn.notes]
  | crash => simp [found, Turn.notes]

/-- An amount of a task at the end of its step. A task that is over weighs nothing. -/
def Turn.weigh (f : Task → Int) (t : Task) : Turn → Int
  | .again t' => f t'
  | .wait _ => f t
  | .finish _ => 0
  | .crash => 0

/-- A sum over all tasks changes by what the one task weighs more or less. All the
counts of tasks go by this. -/
theorem Placed.sum (placed : Placed s me t turn s') (found : s.tasks.get? me = some t)
    (f : Task → Int) : s'.tasks.sum f = s.tasks.sum f - f t + turn.weigh f t := by
  cases placed with
  | again t' => exact Table.sum_insert found t' f
  | wait => exact (Int.sub_add_cancel ..).symm
  | finish => exact (Table.sum_erase found f).trans (Int.add_zero _).symm
  | crash => exact (Table.sum_erase found f).trans (Int.add_zero _).symm

end FlashSale.Sale
