import FlashSale.Proofs.Sale.Outside
import FlashSale.Proofs.Sale.Soundness
import FlashSale.Proofs.Sale.Waiting

/-!
# Nobody is forgotten

A task that is not ready waits for something that will wake it, and only tasks that mean
to stand in a line of the queue stand there; `Attends` says so of one task. In a sale where
no task is ready, each task then waits for a time that has not come, in line for a slot
while every slot is taken, in line for an order while there is none, or for workers that
are at work.

What a task does means something to itself, and little to all others. `Undisturbed`
collects what it may mean to the others, and it is enough to go on being attended to. This
module is about what a task does in its turn; where it is placed afterwards, and what the
outside world does, is the subject of the next.
-/

namespace FlashSale.Sale

open AdmissionQueue

/-- What a task waits for that is not ready. There are four things, and each of them
comes with what will make the task ready again. -/
inductive Waits (now : Nat) (timers : List (Nat × TaskId)) (queue : AdmissionQueue) (busy : Bool)
    (me : TaskId) : Task → Prop where
  | time {t time} (sleeps : t.wakeTime? = some time) (later : now < time)
      (timer : (time, me) ∈ timers) : Waits now timers queue busy me t
  | slot {t} (offers : t.offers now = true) (standing : me ∈ queue.waiting) :
      Waits now timers queue busy me t
  | order {owner} (standing : me ∈ queue.receivers) :
      Waits now timers queue busy me (.receive owner)
  | workers (working : busy = true) : Waits now timers queue busy me .join

/-- Whoever is called is ready, and so is whoever waits for nothing. A task in a line of
the queue is one that means to stand there. -/
structure Attends (s : Sale) (id : TaskId) : Prop where
  call : id ∈ s.queue.called → id ∈ s.ready
  buyer : id ∈ s.queue.buyers → ∃ t, s.tasks.get? id = some t ∧ t.offers s.now = true
  receiver : id ∈ s.queue.receivers → ∃ owner, s.tasks.get? id = some (.receive owner)
  waits : ∀ t, s.tasks.get? id = some t →
    id ∈ s.ready ∨ Waits s.now s.timers s.queue s.hasWorkers id t

/-- Every task is attended to, in a sale whose queue has so many slots. This is the
invariant that keeps a sale from coming to rest with work left to do. -/
structure Attended (capacity : Nat) (s : Sale) : Prop where
  orderly : s.queue.Orderly capacity
  named : s.Named
  attends : ∀ id, s.Attends id

variable {capacity : Nat} {s s' s'' : Sale} {me id : TaskId} {t : Task} {turn : Turn}

theorem Attends.calm (attends : s.Attends id) (quiet : s.ready = []) : id ∉ s.queue.called := by
  intro call
  have ready := attends.call call
  rw [quiet] at ready
  cases ready

/-- In a sale where no task is ready, each task waits. So what is left to do waits for
time to pass or for the outside world. -/
theorem Attended.waits (attended : s.Attended capacity) (quiet : s.ready = [])
    (found : s.tasks.get? id = some t) : Waits s.now s.timers s.queue s.hasWorkers id t := by
  obtain ready | waits := (attended.attends id).waits t found
  · rw [quiet] at ready
    cases ready
  · exact waits

theorem Attended.calm (attended : s.Attended capacity) (quiet : s.ready = []) :
    s.queue.called = [] :=
  List.eq_nil_iff_forall_not_mem.mpr fun id => (attended.attends id).calm quiet

/-- A receiver that waits while no task is ready finds neither an order nor the end of
the stream. No order lies in the buffer unseen. -/
theorem Attended.idle_receiver (attended : s.Attended capacity) (quiet : s.ready = [])
    {owner : Owner} (found : s.tasks.get? id = some (.receive owner)) :
    s.queue.buffer = [] ∧ s.queue.ended = false := by
  refine serves_eq_false.mp (serves_of_uncalled (attended.calm quiet) ?_)
  cases attended.waits quiet found with
  | time sleeps => cases sleeps
  | slot offers => cases offers
  | order standing => exact List.ne_nil_of_mem standing

theorem called_in_line (call : id ∈ s.queue.called) :
    id ∈ s.queue.buyers ∨ id ∈ s.queue.receivers :=
  (mem_called.mp call).imp (fun given => mem_buyers.mpr (.inl given))
    fun first => mem_receivers_of_front first.2

/-- A task that stands in no line and waits for nothing is attended to while it is ready. -/
theorem Attends.of_outside (buyer : id ∉ s.queue.buyers) (receiver : id ∉ s.queue.receivers)
    (ready : ∀ t, s.tasks.get? id = some t → id ∈ s.ready) : s.Attends id where
  call call := ((called_in_line call).elim buyer receiver).elim
  buyer member := absurd member buyer
  receiver member := absurd member receiver
  waits t found := .inl (ready t found)

theorem Attends.not_buyer (attends : s.Attends id) (found : s.tasks.get? id = some t)
    (silent : t.offers s.now = false) : id ∉ s.queue.buyers := by
  intro member
  obtain ⟨t', found', offers⟩ := attends.buyer member
  rw [found] at found'
  cases found'
  rw [silent] at offers
  cases offers

theorem Attends.not_receiver (attends : s.Attends id) (found : s.tasks.get? id = some t)
    (other : ∀ owner, t ≠ .receive owner) : id ∉ s.queue.receivers := by
  intro member
  obtain ⟨owner, found'⟩ := attends.receiver member
  rw [found] at found'
  exact other owner (Option.some.inj found')

/-- A task that is gone stands in no line, so that no call can be lost on it. -/
theorem Attends.not_in_line (attends : s.Attends id) (absent : s.tasks.get? id = none) :
    id ∉ s.queue.buyers ∧ id ∉ s.queue.receivers := by
  constructor
  · intro member
    obtain ⟨t, found, -⟩ := attends.buyer member
    rw [absent] at found
    cases found
  · intro member
    obtain ⟨owner, found⟩ := attends.receiver member
    rw [absent] at found
    cases found

theorem Attended.unused (attended : s.Attended capacity) : s.tasks.get? s.nextTask = none := by
  refine Option.eq_none_iff_forall_ne_some.mpr fun t found => ?_
  exact Nat.lt_irrefl _ (attended.named _ t found)

theorem Attended.buyer_named (attended : s.Attended capacity) (member : id ∈ s.queue.buyers) :
    id < s.nextTask := by
  obtain ⟨t, found, -⟩ := (attended.attends id).buyer member
  exact attended.named id t found

/-- What an action may mean to a task that does not act. It may be called or woken, and
the workers it waits for may have finished, which wakes it. -/
structure Undisturbed (s s' : Sale) (id : TaskId) : Prop where
  now : s'.now = s.now
  task : s'.tasks.get? id = s.tasks.get? id
  buyer : id ∈ s'.queue.buyers ↔ id ∈ s.queue.buyers
  receiver : id ∈ s'.queue.receivers ↔ id ∈ s.queue.receivers
  call : id ∈ s'.queue.called → id ∈ s.queue.called ∨ id ∈ s'.ready
  ready : id ∈ s.ready → id ∈ s'.ready
  timer : ∀ time, (time, id) ∈ s.timers → (time, id) ∈ s'.timers
  join : s.tasks.get? id = some .join → s.hasWorkers = true → s'.hasWorkers = true ∨ id ∈ s'.ready

theorem Undisturbed.trans (first : Undisturbed s s' id) (second : Undisturbed s' s'' id) :
    Undisturbed s s'' id where
  now := second.now.trans first.now
  task := second.task.trans first.task
  buyer := second.buyer.trans first.buyer
  receiver := second.receiver.trans first.receiver
  call call := by
    obtain before | ready := second.call call
    · exact (first.call before).imp_right second.ready
    · exact .inr ready
  ready := second.ready ∘ first.ready
  timer time := second.timer time ∘ first.timer time
  join found busy := by
    obtain busy | ready := first.join found busy
    · exact second.join (first.task.trans found) busy
    · exact .inr (second.ready ready)

/-- A task that was attended to and is not disturbed is attended to still. This is the
one argument for all the tasks that do not act. -/
theorem Attends.of_undisturbed (attends : s.Attends id) (still : Undisturbed s s' id) : s'.Attends id where
  call call := (still.call call).elim (still.ready ∘ attends.call) fun ready => ready
  buyer member := by
    rw [still.task, still.now]
    exact attends.buyer (still.buyer.mp member)
  receiver member := by
    rw [still.task]
    exact attends.receiver (still.receiver.mp member)
  waits t found := by
    rw [still.task] at found
    rw [still.now]
    obtain ready | waits := attends.waits t found
    · exact .inl (still.ready ready)
    cases waits with
    | time sleeps later timer => exact .inr (.time sleeps later (still.timer _ timer))
    | slot offers standing =>
        -- Whoever was in line is there still or was given a slot, and then it is ready.
        obtain given | line := mem_buyers.mp (still.buyer.mpr (mem_buyers.mpr (.inr standing)))
        · obtain before | ready := still.call (mem_called_of_granted given)
          · exact .inl (still.ready (attends.call before))
          · exact .inl ready
        · exact .inr (.slot offers line)
    | order standing => exact .inr (.order (still.receiver.mpr standing))
    | workers working =>
        obtain working | ready := still.join found working
        · exact .inr (.workers working)
        · exact .inl ready

theorem mem_ready_wake {ids : List TaskId} : id ∈ (s.wake ids).ready ↔ id ∈ s.ready ∨ id ∈ ids := by
  simp only [wake, List.mem_append, List.mem_filter, decide_eq_true_eq]
  tauto

/-- A change of the queue that spares a task means little to it. If it was called, it is
among those that are woken. -/
theorem undisturbed_of_spares {queue : AdmissionQueue} {woken : List TaskId}
    (spares : Spares s.queue queue woken id) : Undisturbed s (wake { s with queue } woken) id where
  now := rfl
  task := rfl
  buyer := spares.buyer
  receiver := spares.receiver
  call call := (spares.call call).imp_right fun awake => mem_ready_wake.mpr (.inr awake)
  ready ready := mem_ready_wake.mpr (.inl ready)
  timer _ timer := timer
  join _ busy := .inl busy

/-- The part that a task plays in the queue means little to the other tasks. Each of its
cases spares the others, by what is known of the queue. -/
theorem QueueCall.undisturbed (call : QueueCall s me t s' turn) (frame : SameFrame s s')
    (timers : s'.timers = s.timers) (other : id ≠ me) : Undisturbed s s' id := by
  have workers : s'.hasWorkers = s.hasWorkers := by rw [hasWorkers, frame.tasks, hasWorkers]
  have of_spares (woken : List TaskId) (spares : Spares s.queue s'.queue woken id)
      (wakes : ∀ id, id ∈ s'.ready ↔ id ∈ s.ready ∨ id ∈ woken) : Undisturbed s s' id := by
    refine ⟨frame.now, congrArg (·.get? id) frame.tasks, spares.buyer, spares.receiver, ?_, ?_, ?_,
      fun _ busy => .inl (workers.trans busy)⟩
    · exact fun call => (spares.call call).imp_right fun awake => (wakes id).mpr (.inr awake)
    · exact fun ready => (wakes id).mpr (.inl ready)
    · exact fun _ timer => timers ▸ timer
  have still (changes : s'.queue = s.queue) (wakes : s'.ready = s.ready) : Undisturbed s s' id := by
    refine of_spares [] (changes ▸ ⟨Iff.rfl, Iff.rfl, .inl⟩) fun id => ?_
    simp [wakes]
  cases call with
  | asleep => exact still rfl rfl
  | joining => exact still rfl rfl
  | aside _ _ _ _ _ _ changes wakes => exact still changes wakes
  | @claimed _ _ order _ _ _ given changes wakes =>
      refine of_spares _ (changes ▸ spares_claim_put given order other) fun id => ?_
      rw [wakes, changes, mem_ready_wake]
  | @placed _ _ order _ slots _ _ _ _ _ changes wakes =>
      refine of_spares _ (changes ▸ spares_free_put slots order id) fun id => ?_
      rw [wakes, changes, mem_ready_wake]
  | standing => exact still rfl rfl
  | joined _ _ isOpen =>
      exact of_spares [] (spares_join isOpen other) fun id => by simp
  | took first popped changes wakes =>
      have line := spares_joinLine (q := s.queue) other
      have taken := spares_take popped first other
      refine of_spares _ (changes ▸ line.trans taken) fun id => ?_
      rw [wakes, mem_ready_wake, mem_ready_wake]
      simp [or_assoc]
  | ended _ _ changes wakes =>
      have line := spares_joinLine (q := s.queue) other
      refine of_spares _ (changes ▸ line.trans (spares_leaveLine other)) fun id => ?_
      rw [wakes, mem_ready_wake]
      simp
  | idle => exact of_spares [] (spares_joinLine other) fun id => by simp

/-- A task sets no timer as it acts. That is done afterwards, when its turn comes to a
wait. -/
theorem Deed.timers (h : Deed s me t s' turn) : s'.timers = s.timers := by
  cases h with
  | @committed owner => cases owner <;> rfl
  | @restored owner => cases owner <;> rfl
  | @restoreFailed owner => cases owner <;> rfl
  | _ => rfl

/-- The part that a task plays in the queue keeps its lines in order: they have no
member twice, and nobody waits beside a free slot that is not called. -/
theorem QueueCall.orderly (call : QueueCall s me t s' turn) (orderly : s.queue.Orderly capacity) :
    s'.queue.Orderly capacity := by
  cases call with
  | asleep => exact orderly
  | joining => exact orderly
  | aside _ _ _ _ _ _ changes => exact changes ▸ orderly
  | claimed _ _ given changes => exact changes ▸ orderly.claim_put given _
  | placed _ _ _ _ slot changes => exact changes ▸ orderly.free_put slot _
  | standing => exact orderly
  | joined _ new _ full => exact orderly.join full new
  | took _ popped changes => exact changes ▸ ((orderly.joinLine me).take popped).leaveLine me
  | ended _ _ changes => exact changes ▸ (orderly.joinLine me).leaveLine me
  | idle => exact orderly.joinLine me

/-- No task reopens a stream that has ended. A task in line may still put its order in,
but then the stream had not ended. -/
theorem QueueCall.ended_of_ended (call : QueueCall s me t s' turn) (ends : s.queue.ended = true) :
    s'.queue.ended = true := by
  cases call with
  | asleep => exact ends
  | joining => exact ends
  | aside _ _ _ _ _ _ changes => exact changes ▸ ends
  | claimed _ _ given =>
      rw [HasSlot.not_ended (.granted given)] at ends
      cases ends
  | placed _ _ _ isOpen slot =>
      have free : HasSlot s.queue me _ := .free isOpen slot
      rw [free.not_ended] at ends
      cases ends
  | standing => exact ends
  | joined _ _ isOpen full =>
      have line : StandsInLine s.queue me _ := .joined isOpen full
      rw [line.not_ended] at ends
      cases ends
  | took _ popped =>
      have buffer := buffer_of_pop? popped
      rw [joinLine_buffer, buffer_of_ended ends] at buffer
      cases buffer
  | ended _ _ changes =>
      rw [changes, leaveLine_ended, joinLine_ended]
      exact ends
  | idle => exact (joinLine_ended ..).trans ends

section Acting

variable (found : s.tasks.get? me = some t) (attends : s.Attends me)

include found attends

theorem Attends.offers (member : me ∈ s.queue.buyers) : t.offers s.now = true := by
  obtain ⟨t', found', offers⟩ := attends.buyer member
  rw [found] at found'
  cases found'
  exact offers

theorem Attends.receives (member : me ∈ s.queue.receivers) : ∃ owner, t = .receive owner := by
  obtain ⟨owner, found'⟩ := attends.receiver member
  exact ⟨owner, Option.some.inj (found.symm.trans found')⟩

/-- A receiver that finds something for it while it stands first in line was ready. It
was called when the order came, or when the stream ended. -/
theorem Attends.first_ready {owner : Owner} (receives : t = .receive owner)
    (first : (s.queue.joinLine me).receivers.head? = some me)
    (serves : (s.queue.joinLine me).serves = true) : me ∈ s.ready := by
  subst receives
  obtain ready | waits := attends.waits _ found
  · exact ready
  cases waits with
  | time sleeps => cases sleeps
  | slot offers => cases offers
  | order standing =>
      rw [joinLine_of_mem standing] at first serves
      exact attends.call (mem_called.mpr (.inr ⟨serves, mem_front_iff.mpr first⟩))

/-- A task that does not wait was ready, and stands in no line afterwards. No turn is
taken out of line. -/
theorem QueueCall.moved (call : QueueCall s me t s' turn) (orderly : s.queue.Orderly capacity)
    (moves : ∀ time, turn ≠ .wait time) :
    me ∈ s.ready ∧ me ∉ s'.queue.buyers ∧ me ∉ s'.queue.receivers := by
  have no_receiver (offers : t.offers s.now = true) : me ∉ s.queue.receivers := by
    refine attends.not_receiver found fun owner receives => ?_
    subst receives
    cases offers
  have no_buyer {owner : Owner} (receives : t = .receive owner) : me ∉ s.queue.buyers :=
    attends.not_buyer found (by rw [receives]; rfl)
  have front {receiver : TaskId} {q : AdmissionQueue} (first : q.receivers.head? = some receiver) :
      receiver ∈ q.receivers := List.mem_of_mem_head? first
  have left {q : AdmissionQueue} (orderly : q.Orderly capacity) :
      me ∉ (q.leaveLine me).1.receivers := orderly.receivers.not_mem_erase
  cases call with
  | asleep => exact absurd rfl (moves _)
  | joining => exact absurd rfl (moves _)
  | aside awake other alone refused _ _ changes =>
      have outside : me ∉ s.queue.buyers :=
        fun member => (refused (attends.offers found member)).2 member
      refine ⟨?_, changes ▸ outside, changes ▸ attends.not_receiver found other⟩
      obtain ready | waits := attends.waits t found
      · exact ready
      cases waits with
      | time sleeps later => exact absurd (awake _ sleeps) (Nat.not_le.mpr later)
      | slot _ standing => exact absurd (mem_buyers.mpr (.inr standing)) outside
      | order => exact absurd rfl (other _)
      | workers working =>
          rw [alone rfl] at working
          cases working
  | @claimed _ _ order _ offers _ given changes =>
      refine ⟨attends.call (mem_called_of_granted given), ?_, changes ▸ no_receiver offers⟩
      have gone : me ∉ (s.queue.claim me).buyers := by
        rw [claim_buyers given]
        exact orderly.buyers.not_mem_erase
      exact changes ▸ gone
  | placed offers _ new _ _ changes =>
      refine ⟨?_, changes ▸ new, changes ▸ no_receiver offers⟩
      obtain ready | waits := attends.waits t found
      · exact ready
      cases waits with
      | time sleeps later => exact absurd (Task.wakeTime?_le offers sleeps) (Nat.not_le.mpr later)
      | slot _ standing => exact absurd (mem_buyers.mpr (.inr standing)) new
      | order => cases offers
      | workers => cases offers
  | standing => exact absurd rfl (moves _)
  | joined => exact absurd rfl (moves _)
  | @took owner _ order queue woken first popped changes =>
      have serves : (s.queue.joinLine me).serves = true := by
        rw [serves, buffer_of_pop? popped]
        rfl
      have same : queue.uncount.buyers = s.queue.buyers :=
        (buyers_of_pop? popped).trans (joinLine_buyers ..)
      refine ⟨attends.first_ready found rfl first serves, ?_, ?_⟩
      · have outside : me ∉ queue.uncount.buyers := same ▸ no_buyer rfl
        exact changes ▸ outside
      · exact changes ▸ left ((orderly.joinLine me).take popped)
  | ended first ends changes =>
      have serves : (s.queue.joinLine me).serves = true := by
        rw [serves, joinLine_ended, ends, Bool.or_true]
      refine ⟨attends.first_ready found rfl first serves, ?_, ?_⟩
      · have outside : me ∉ (s.queue.joinLine me).buyers := by
          rw [joinLine_buyers]
          exact no_buyer rfl
        exact changes ▸ outside
      · exact changes ▸ left (orderly.joinLine me)
  | idle => exact absurd rfl (moves _)

/-- A task that waits is not called, and what it waits for will wake it. With the timers
that its turn sets, this is `Attends` for the task itself. -/
theorem QueueCall.waited (call : QueueCall s me t s' turn) {time : Option Nat}
    (ends : turn = .wait time) {timers : List (Nat × TaskId)}
    (timer : ∀ moment, time = some moment → (moment, me) ∈ timers) :
    me ∉ s'.queue.called ∧ (me ∈ s'.queue.buyers → t.offers s.now = true) ∧
      (me ∈ s'.queue.receivers → ∃ owner, t = .receive owner) ∧
      Waits s.now timers s'.queue s.hasWorkers me t := by
  have uncalled (given : me ∈ s.queue.granted → False)
      (other : ∀ owner, t ≠ .receive owner) : me ∉ s.queue.called := by
    intro call
    obtain given' | ⟨-, first⟩ := mem_called.mp call
    · exact given given'
    · obtain ⟨owner, receives⟩ := attends.receives found (mem_receivers_of_front first)
      exact other owner receives
  have quiet (offers : t.offers s.now = true) (owner : Owner) : t ≠ .receive owner := by
    rintro rfl
    cases offers
  cases call with
  | @asleep _ moment sleeps later =>
      cases ends
      have outside : me ∉ s.queue.buyers := fun member =>
        absurd (Task.wakeTime?_le (attends.offers found member) sleeps) (Nat.not_le.mpr later)
      refine ⟨uncalled (fun given => outside (mem_buyers.mpr (.inl given))) ?_,
        attends.offers found, attends.receives found, .time sleeps later (timer _ rfl)⟩
      rintro owner rfl
      cases sleeps
  | joining busy =>
      have outside : me ∉ s.queue.buyers := attends.not_buyer found rfl
      exact ⟨uncalled (fun given => outside (mem_buyers.mpr (.inl given))) (by simp),
        attends.offers found, attends.receives found, .workers busy⟩
  | aside _ _ _ _ _ moves => exact absurd ends (moves _)
  | claimed => cases ends
  | placed => cases ends
  | standing offers ungiven standing =>
      exact ⟨uncalled ungiven (quiet offers), attends.offers found, attends.receives found,
        .slot offers standing⟩
  | joined offers new isOpen full =>
      refine ⟨fun call => ?_, fun _ => offers,
        fun (member : me ∈ s.queue.receivers) => attends.receives found member, .slot offers
          (List.mem_append_right _ (List.mem_singleton_self me))⟩
      obtain given | ⟨-, first⟩ := mem_called.mp call
      · exact new (mem_buyers.mpr (.inl given))
      · obtain ⟨owner, receives⟩ := attends.receives found (mem_receivers_of_front first)
        exact quiet offers owner receives
  | @took owner => cases owner <;> cases ends
  | ended => cases ends
  | @idle owner nothing =>
      have outside : me ∉ (s.queue.joinLine me).buyers := by
        rw [joinLine_buyers]
        exact attends.not_buyer found rfl
      have line : me ∈ (s.queue.joinLine me).receivers := by
        unfold joinLine
        split
        · assumption
        · exact List.mem_append_right _ (List.mem_singleton_self me)
      refine ⟨fun call => ?_, fun member => absurd member outside, fun _ => ⟨owner, rfl⟩,
        .order line⟩
      obtain given | ⟨serves, first⟩ := mem_called.mp call
      · exact outside (mem_buyers.mpr (.inl given))
      · exact nothing serves (mem_front_iff.mp first)

end Acting

end FlashSale.Sale
