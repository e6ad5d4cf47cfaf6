import FlashSale.Proofs.Reservations.Markers
import FlashSale.Proofs.Sale.Exchange

/-!
# What lasts

No action takes time, an answer or a live marker back: `Onward` says so of the states before
and after it, and then of any course.

A task that neither takes its turn nor is dropped stands where it stood, and keeps its place
among the buyers unless the queue is deserted.
-/

namespace FlashSale

namespace Reservations

variable {s : Reservations} {now time : Nat} {key : String}

theorem Holds.of_sameMarkers {s' : Reservations} (holds : s.Holds time key)
    (same : SameMarkers s s') : s'.Holds time key := by
  unfold Holds at *
  rw [same.markers]
  exact holds

/-- No call forgets a marker whose time has not come. A sweep drops expired ones only.
-/
theorem call_holds (s : Reservations) {call : ReservationCall} (later : now ≤ time)
    (holds : s.Holds time key) : (s.call now call).Holds time key := by
  cases call with
  | setStock item quantity => exact holds.of_sameMarkers (s.setStock_markers ..)
  | take item quantity => exact holds.of_sameMarkers (s.take_markers ..)
  | putBack item quantity => exact holds.of_sameMarkers (s.putBack_markers ..)
  | mark other =>
      change (s.mark now other).2.Holds time key
      have marking := s.mark_marking now other
      generalize s.mark now other = reply at marking
      cases marking with
      | refused => exact holds
      | overflowed swept => exact (swept.holds_later later).mpr holds
      | held _ swept => exact (swept.holds_later later).mpr holds
      | wrote _ swept free =>
          refine (holds_write ..).mpr ?_
          split
          · -- The marker that was live would not have been written again.
            subst key
            obtain ⟨expiry, here, live⟩ := holds
            exact absurd ⟨expiry, here, Nat.lt_of_le_of_lt later live⟩ free
          · exact (swept.holds_later later).mpr holds

end Reservations

namespace Sale

open AdmissionQueue

variable {s s' s'' : Sale} {a : Action} {me id : TaskId} {t : Task} {turn : Turn}
  {actions : List Action}

/-- Nothing is taken back that is shown by the clock, was answered, or is marked. -/
structure Onward (s s' : Sale) : Prop where
  now : s.now ≤ s'.now
  answers : ∀ e ∈ s.answers, e ∈ s'.answers
  holds : ∀ time key, s'.now ≤ time → s.reservations.Holds time key →
    s'.reservations.Holds time key

theorem Onward.of_eq (now : s'.now = s.now) (answers : s'.answers = s.answers)
    (reservations : s'.reservations = s.reservations) : Onward s s' where
  now := now.ge
  answers _ member := answers ▸ member
  holds _ _ _ holds := reservations ▸ holds

theorem Onward.trans (first : Onward s s') (second : Onward s' s'') : Onward s s'' where
  now := first.now.trans second.now
  answers e member := second.answers e (first.answers e member)
  holds time key later holds :=
    second.holds time key later (first.holds time key (second.now.trans later) holds)

theorem Placed.now (placed : Placed s me t turn s') : s'.now = s.now := by
  cases placed <;> rfl

theorem Placed.keeps_answers (placed : Placed s me t turn s') :
    ∀ e ∈ s.answers, e ∈ s'.answers := by
  intro e member
  cases placed with
  | again => exact member
  | wait => exact member
  | finish => exact List.mem_append_left _ member
  | crash => exact List.mem_append_left _ member

/-- A turn takes nothing back: it may answer, write a marker or sweep, and the clock
stands still. -/
theorem stepTask_onward (s : Sale) (me : TaskId) : Onward s (s.stepTask me) := by
  cases found : s.tasks.get? me with
  | none =>
      rw [stepTask_of_get?_eq_none found]
      exact .of_eq rfl rfl rfl
  | some t =>
      obtain ⟨s', turn, deed, placed⟩ := stepTask_cases found
      have frame := deed.frame
      have now : (s.stepTask me).now = s.now := placed.now.trans frame.now
      refine ⟨now.ge, ?_, ?_⟩
      · intro e member
        exact placed.keeps_answers e (frame.answers ▸ member)
      · intro time key later holds
        rw [now] at later
        rw [placed.stores.reservations]
        obtain same | ⟨call, called⟩ := deed.reservations_called
        · exact same ▸ holds
        · exact called ▸ s.reservations.call_holds later holds

theorem drop_onward {leave : Sale → Order → Sale} (leaves : ∀ s order, Onward s (leave s order)) :
    Onward s (s.drop id leave) := by
  cases found : s.tasks.get? id with
  | none =>
      rw [drop_of_get?_eq_none found]
      exact .of_eq rfl rfl rfl
  | some t =>
      have dropped := drop_dropped found leave
      generalize s.drop id leave = s' at dropped ⊢
      cases dropped with
      | unbought =>
          refine Onward.trans ?_ (leaves _ _)
          exact .of_eq rfl rfl rfl
      | _ => exact .of_eq rfl rfl rfl

/-- No action takes anything back. -/
theorem perform_onward (s : Sale) (a : Action) : Onward s (s.perform a) := by
  cases a with
  | turn id => exact s.stepTask_onward id
  | elapse ms => exact ⟨Nat.le_add_right .., fun _ member => member, fun _ _ _ holds => holds⟩
  | reserve call =>
      exact ⟨Nat.le_refl _, fun _ member => member,
        fun _ _ later holds => s.reservations.call_holds later holds⟩
  | cancel id => exact drop_onward fun _ _ => .of_eq rfl rfl rfl
  | abandon id => exact drop_onward fun _ _ => .of_eq rfl rfl rfl
  | startWorkers workers =>
      obtain ⟨tasks, ready, eq, -⟩ := s.startWorkers_eq workers
      rw [perform, eq]
      exact .of_eq rfl rfl rfl
  | dropReceiver =>
      obtain ⟨queue, ready, -, eq⟩ := s.dropReceiver_eq
      rw [perform, eq]
      exact .of_eq rfl rfl rfl
  | _ => exact ⟨Nat.le_refl _, fun _ member => member, fun _ _ _ holds => holds⟩

/-- What was told or marked at some point of a course is so at its end. -/
theorem after_onward (s : Sale) (actions : List Action) : Onward s (s.after actions) := by
  induction actions generalizing s with
  | nil => exact .of_eq rfl rfl rfl
  | cons a rest ih => exact (s.perform_onward a).trans (ih (s.perform a))

/-- The reservation store is the one in memory, which keeps nobody waiting, and the
receiving end of the queue stays open. -/
def InMemory (s : Sale) (a : Action) : Prop :=
  (∀ l, a ≠ .latency l) ∧ (s.perform a).queue.deserted = false

theorem Placed.latency (placed : Placed s me t turn s') : s'.latency = s.latency := by
  cases placed <;> rfl

theorem drop_latency {leave : Sale → Order → Sale}
    (leaves : ∀ s order, (leave s order).latency = s.latency) :
    (s.drop id leave).latency = s.latency := by
  cases found : s.tasks.get? id with
  | none => rw [drop_of_get?_eq_none found]
  | some t =>
      have dropped := drop_dropped found leave
      generalize s.drop id leave = s' at dropped ⊢
      cases dropped with
      | unbought => exact leaves _ _
      | _ => rfl

theorem perform_latency (prompt : ∀ l, a ≠ .latency l) : (s.perform a).latency = s.latency := by
  cases a with
  | turn id =>
      change (s.stepTask id).latency = s.latency
      cases found : s.tasks.get? id with
      | none => rw [stepTask_of_get?_eq_none found]
      | some t =>
          obtain ⟨s', turn, deed, placed⟩ := stepTask_cases found
          exact placed.latency.trans deed.frame.latency
  | latency l => exact absurd rfl (prompt l)
  | cancel id => exact drop_latency fun _ _ => rfl
  | abandon id => exact drop_latency fun _ _ => rfl
  | startWorkers workers =>
      obtain ⟨tasks, ready, eq, -⟩ := s.startWorkers_eq workers
      rw [perform, eq]
  | dropReceiver =>
      obtain ⟨queue, ready, -, eq⟩ := s.dropReceiver_eq
      rw [perform, eq]
  | _ => rfl

/-- A service over a store in memory, whose queue has so many slots and is not deserted.
-/
structure Serving (capacity : Nat) (s : Sale) : Prop where
  attended : s.Attended capacity
  kept : s.queue.deserted = false
  prompt : s.latency = {}

variable {capacity : Nat}

theorem Serving.perform (serving : s.Serving capacity) (allowed : s.InMemory a) :
    (s.perform a).Serving capacity where
  attended := serving.attended.perform fun deserted => by
    rw [allowed.2] at deserted
    cases deserted
  kept := allowed.2
  prompt := (perform_latency allowed.1).trans serving.prompt

theorem Serving.after (serving : s.Serving capacity) (allowed : Obeys InMemory s actions) :
    (s.after actions).Serving capacity := by
  induction actions generalizing s with
  | nil => exact serving
  | cons a rest ih => exact ih (serving.perform allowed.1) allowed.2

/-- A service is one from its start. A capacity of zero counts as one. -/
theorem serving_start {queue : AdmissionQueue} (reservations : Reservations) (ledger : Ledger)
    (commitLimit : Nat) (opened : AdmissionQueue.open? capacity = some queue) :
    Serving (max capacity 1) { reservations, ledger, queue, commitLimit } := by
  obtain rfl := ofCapacity_of_open? opened
  exact ⟨attended_start reservations ledger capacity commitLimit, rfl, rfl⟩

/-- A task stands where it stood, and so it does among the buyers. -/
structure Stays (s s' : Sale) (id : TaskId) : Prop where
  task : s'.tasks.get? id = s.tasks.get? id
  buyer : id ∈ s'.queue.buyers ↔ id ∈ s.queue.buyers

theorem Stays.of_eq (task : s'.tasks.get? id = s.tasks.get? id) (queue : s'.queue = s.queue) :
    Stays s s' id := ⟨task, queue ▸ Iff.rfl⟩

/-- A queue that is not deserted is as the task left it. The last receiver would desert
it by leaving. -/
theorem QueueAfter.eq_of_kept {queue : AdmissionQueue} (after : QueueAfter s t queue)
    (kept : queue.deserted = false) : queue = s.queue := by
  cases after with
  | kept => rfl
  | deserted => cases kept

theorem Placed.queue_eq (placed : Placed s me t turn s') (kept : s'.queue.deserted = false) :
    s'.queue = s.queue := by
  cases placed with
  | again => rfl
  | wait => rfl
  | finish after => exact after.eq_of_kept kept
  | crash after => exact after.eq_of_kept kept

/-- The turn of another task leaves a task where it stands, although it may be given a
slot by it and woken. -/
theorem stepTask_stays (other : id ≠ me) (kept : (s.stepTask me).queue.deserted = false) :
    Stays s (s.stepTask me) id := by
  cases found : s.tasks.get? me with
  | none =>
      rw [stepTask_of_get?_eq_none found]
      exact .of_eq rfl rfl
  | some t =>
      have deed := s.act_deed me t
      have call := s.act_call me t
      have placed := stepTask_placed found
      generalize (s.act me t).1 = s', (s.act me t).2 = turn at deed call placed
      have frame := deed.frame
      refine ⟨?_, ?_⟩
      · rw [placed.kept other, frame.tasks]
      · rw [placed.queue_eq kept]
        exact (call.undisturbed frame deed.timers other).buyer

theorem drop_stays {leave : Sale → Order → Sale} (other : id ≠ me)
    (leaves : ∀ s order, id < s.nextTask → Stays s (leave s order) id) (known : id < s.nextTask)
    (kept : (s.drop me leave).queue.deserted = false) : Stays s (s.drop me leave) id := by
  cases found : s.tasks.get? me with
  | none =>
      rw [drop_of_get?_eq_none found]
      exact .of_eq rfl rfl
  | some t =>
      have gone : (s.tasks.erase me).get? id = s.tasks.get? id := Table.get?_erase_of_ne other
      have withdrawn : id ∈ (s.queue.withdraw me).1.buyers ↔ id ∈ s.queue.buyers := by
        rw [withdraw_buyers, List.mem_erase_of_ne other]
      have dropped := drop_dropped found leave
      generalize s.drop me leave = s' at dropped kept ⊢
      cases dropped with
      | gone _ after => exact .of_eq gone (after.eq_of_kept kept)
      | @unbought _ _ _ order _ ready timers =>
          have left := leaves { s with
            tasks := s.tasks.erase me, queue := (s.queue.withdraw me).1, ready, timers } order known
          exact ⟨left.task.trans gone, left.buyer.trans withdrawn⟩
      | unsent => exact ⟨gone, withdrawn⟩
      | unreceived after =>
          have same := after.eq_of_kept kept
          exact ⟨gone, by rw [same]; exact Iff.rfl⟩

/-- What others do leaves a task where it stands. -/
theorem perform_stays (known : id < s.nextTask) (own : a ≠ .turn id) (spared : a.drops? ≠ some id)
    (kept : (s.perform a).queue.deserted = false) : Stays s (s.perform a) id := by
  have unused : id ≠ s.nextTask := Nat.ne_of_lt known
  cases a with
  | turn me =>
      have other : id ≠ me := fun same => own (congrArg _ same.symm)
      exact stepTask_stays other kept
  | start t => exact .of_eq (Table.get?_insert_of_ne unused) rfl
  | cancel me =>
      have other : id ≠ me := fun same => spared (congrArg some same.symm)
      refine drop_stays other (fun s order known => ?_) known kept
      exact .of_eq (Table.get?_insert_of_ne (Nat.ne_of_lt known)) rfl
  | abandon me =>
      have other : id ≠ me := fun same => spared (congrArg some same.symm)
      exact drop_stays other (fun s order _ => .of_eq rfl rfl) known kept
  | close => exact ⟨rfl, Iff.rfl⟩
  | shutdown => exact ⟨Table.get?_insert_of_ne unused, Iff.rfl⟩
  | startWorkers workers =>
      obtain ⟨tasks, ready, eq, found⟩ := s.startWorkers_eq workers
      rw [perform, eq]
      refine .of_eq ?_ rfl
      exact (found id).trans (if_neg fun new => Nat.not_le.mpr known new.1)
  | dropReceiver =>
      obtain ⟨queue, ready, same | deserted, eq⟩ := s.dropReceiver_eq
      · rw [perform, eq]
        exact .of_eq rfl same
      · rw [perform, eq, deserted] at kept
        cases kept
  | _ => exact .of_eq rfl rfl

end Sale

end FlashSale
