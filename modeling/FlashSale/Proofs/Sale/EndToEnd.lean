import FlashSale.Proofs.Sale.Buying
import FlashSale.Proofs.Sale.Lasting

/-!
# A purchase from its call to its end

A purchase comes in one go to its end or to the line of a full queue. Whoever stands there
waits for a slot and takes it when it is given one, and goes away without an order when it is
dropped; a task of its own then puts the stock back, once, or reports that it is lost. The
marker stays through all of this until its time has come.

What happens to a purchase after its call depends on others. It is told for every course of
actions that keeps the receiving end of the queue open.
-/

namespace FlashSale.Sale

open AdmissionQueue Reservations

variable {capacity : Nat} {s s' : Sale} {a : Action} {actions : List Action} {me : TaskId}
  {r : PurchaseRequest} {web : Bool} {id : Uuid} {stage : Purchase.Stage} {order : Order}
  {due : Nat} {item : String} {quantity : Int32}

/-- A task that puts stock back is about to do so, or to report that it is lost. Which
of the two depends on the store when the task has its turn. -/
structure PutsBack (s : Sale) (me : TaskId) (item : String) (quantity : Int32) : Prop where
  ready : me ∈ s.ready
  restored : (s.reservations.unavailable || s.reservations.failIncrements) = false →
    s.reservations.counter item + quantity.toInt ≤ 9223372036854775807 →
    ∃ restored, SameMarkers s.reservations restored ∧
      (∀ other, restored.counter other =
        s.reservations.counter other + if other = item then quantity.toInt else 0) ∧
      s.stepTask me = { s.remove me with
        reservations := restored
        answers := s.answers ++ [(me, .ended)] }
  lost : (s.reservations.unavailable || s.reservations.failIncrements) = true →
    s.stepTask me = { s.remove me with
      log := s.log ++ [.abandonedReleaseFailed item quantity (.injectedFault .incrementStock)]
      answers := s.answers ++ [(me, .ended)] }

/-- A task that puts stock back waits for nobody. Its one turn does all there is to do.
-/
theorem Serving.putsBack (serving : s.Serving capacity)
    (found : s.tasks.get? me = some (.release item quantity due)) (inTime : due ≤ s.now)
    (positive : 0 < quantity.toInt) : PutsBack s me item quantity := by
  constructor
  case ready =>
    obtain ready | waits := (serving.attended.attends me).waits _ found
    · exact ready
    cases waits with
    | time sleeps later =>
        cases sleeps
        exact absurd inTime (Nat.not_le.mpr later)
    | slot offers => cases offers
  case restored =>
    intro works fits
    have lower := s.reservations.counter_ge item
    obtain ⟨total, sum, replies⟩ := putBack_fits works (by omega) fits
    have acts : s.act me (.release item quantity due) =
        ({ s with reservations.counters := s.reservations.counters.insert item total },
          .finish .ended) := by
      simp only [act, stepRelease, if_neg (Nat.not_lt.mpr inTime), replies]
      rfl
    refine ⟨{ s.reservations with counters := s.reservations.counters.insert item total },
      ⟨rfl, rfl⟩, fun other => ?_, stepTask_of_finish found acts rfl rfl⟩
    rw [counter_insert]
    split
    · subst other
      exact sum
    · exact (Int.add_zero _).symm
  case lost =>
    intro refuses
    have acts : s.act me (.release item quantity due) =
        (s.emit [.abandonedReleaseFailed item quantity (.injectedFault .incrementStock)],
          .finish .ended) := by
      simp only [act, stepRelease, if_neg (Nat.not_lt.mpr inTime), putBack_refused refuses]
      rfl
    exact stepTask_of_finish found acts rfl rfl

/-- A task that puts stock back and is not dropped is still there, or it is over. -/
theorem Serving.release_perform (serving : s.Serving capacity)
    (found : s.tasks.get? me = some (.release item quantity due)) (allowed : s.InMemory a)
    (spared : a.drops? ≠ some me) :
    (s.perform a).tasks.get? me = some (.release item quantity due) ∨
      ∃ answer, (me, answer) ∈ (s.perform a).answers := by
  by_cases own : a = .turn me
  · subst own
    change (s.stepTask me).tasks.get? me = _ ∨ ∃ answer, (me, answer) ∈ (s.stepTask me).answers
    obtain ⟨s', turn, deed, placed⟩ := stepTask_cases found
    have frame := deed.frame
    generalize s.stepTask me = s'' at placed ⊢
    cases placed with
    | again t' => cases deed.next rfl
    | wait => exact .inl ((congrArg (·.get? me) frame.tasks).trans found)
    | finish => exact .inr ⟨_, List.mem_append_right _ (List.mem_singleton_self _)⟩
    | crash => exact .inr ⟨_, List.mem_append_right _ (List.mem_singleton_self _)⟩
  · have stays := perform_stays (serving.attended.named me _ found) own spared allowed.2
    exact .inl (stays.task.trans found)

/-- On every course that does not drop it, a task that puts stock back is about to do so
or is over. -/
theorem Serving.release_after (serving : s.Serving capacity)
    (found : s.tasks.get? me = some (.release item quantity due)) (inTime : due ≤ s.now)
    (positive : 0 < quantity.toInt) (allowed : Obeys InMemory s actions)
    (spared : ∀ a ∈ actions, a.drops? ≠ some me) :
    PutsBack (s.after actions) me item quantity ∨
      ∃ answer, (me, answer) ∈ (s.after actions).answers := by
  induction actions generalizing s with
  | nil => exact .inl (serving.putsBack found inTime positive)
  | cons a rest ih =>
      obtain ⟨first, later⟩ := List.forall_mem_cons.mp spared
      obtain still | ⟨answer, told⟩ := serving.release_perform found allowed.1 first
      · exact ih (serving.perform allowed.1) still (inTime.trans (s.perform_onward a).now)
          allowed.2 later
      · exact .inr ⟨answer, ((s.perform a).after_onward rest).answers _ told⟩

/-- A purchase stands in line, or has been given a slot there. Its time has come, so
that it waits for nothing else. -/
structure Standing (capacity : Nat) (s : Sale) (me : TaskId) (r : PurchaseRequest) (web : Bool)
    (id : Uuid) (order : Order) : Prop where
  serving : s.Serving capacity
  task : ∃ due, s.tasks.get? me = some (.purchase r web id (.admitting order) due) ∧ due ≤ s.now
  line : me ∈ s.queue.buyers

theorem Standing.turn_of_waiting (standing : Standing capacity s me r web id order)
    (ungiven : me ∉ s.queue.granted) :
    s.stepTask me = { s with ready := s.ready.erase me } := by
  obtain ⟨due, found, inTime⟩ := standing.task
  have waiting := (mem_buyers.mp standing.line).resolve_left ungiven
  have offers : s.offer me order = (.waiting, s) := by
    rw [offer, if_neg ungiven, if_pos waiting]
  simp only [stepTask, found, act, stepPurchase, if_neg (Nat.not_lt.mpr inTime), offers, place]

/-- The turn of a purchase with a slot puts its order there, and the purchase is told
its identifier. -/
theorem Standing.turn_of_granted (standing : Standing capacity s me r web id order)
    (given : me ∈ s.queue.granted) :
    s.stepTask me = { s.finished me r web (.ok order.id) s.reservations
        [.orderAdmitted r.requestId order.id r.itemId r.quantity] with
      queue := (s.queue.claim me).put order
      ready := (s.wake s.queue.front).ready.erase me } := by
  obtain ⟨due, found, inTime⟩ := standing.task
  have offers : s.offer me order = (.granted, s.deliver (s.queue.claim me) order) := if_pos given
  have acts : s.act me (.purchase r web id (.admitting order) due) =
      (s.deliver (s.queue.claim me) order).follow r web id (Purchase.admitted r order) := by
    simp only [act, stepPurchase, if_neg (Nat.not_lt.mpr inTime), offers]
  rw [Purchase.admitted, follow_done] at acts
  exact stepTask_of_finish found acts rfl rfl

/-- A purchase in line stays there until it is admitted or dropped. What others do may
give it a slot, but cannot take its place. -/
theorem Standing.perform (standing : Standing capacity s me r web id order)
    (allowed : s.InMemory a) (spared : a.drops? ≠ some me) :
    Standing capacity (s.perform a) me r web id order ∨
      (me, .purchased r web (.ok order.id)) ∈ (s.perform a).answers := by
  obtain ⟨due, found, inTime⟩ := standing.task
  have serving := standing.serving.perform allowed
  have later := inTime.trans (s.perform_onward a).now
  by_cases own : a = .turn me
  · subst own
    by_cases given : me ∈ s.queue.granted
    · refine .inr ?_
      rw [Sale.perform, standing.turn_of_granted given]
      exact List.mem_append_right _ (List.mem_singleton_self _)
    · refine .inl ⟨serving, ?_, ?_⟩
      · rw [Sale.perform, standing.turn_of_waiting given]
        exact ⟨due, found, inTime⟩
      · rw [Sale.perform, standing.turn_of_waiting given]
        exact standing.line
  · have known := standing.serving.attended.named me _ found
    have stays := perform_stays known own spared allowed.2
    exact .inl ⟨serving, ⟨due, stays.task.trans found, later⟩, stays.buyer.mpr standing.line⟩

/-- A purchase in line stays there on every course that does not drop it, until it is
admitted. This is the run of `Standing.perform`. -/
theorem Standing.after (standing : Standing capacity s me r web id order)
    (allowed : Obeys InMemory s actions) (spared : ∀ a ∈ actions, a.drops? ≠ some me) :
    Standing capacity (s.after actions) me r web id order ∨
      (me, .purchased r web (.ok order.id)) ∈ (s.after actions).answers := by
  induction actions generalizing s with
  | nil => exact .inl standing
  | cons a rest ih =>
      obtain ⟨first, later⟩ := List.forall_mem_cons.mp spared
      obtain still | told := standing.perform allowed.1 first
      · exact ih still allowed.2 later
      · exact .inr (((s.perform a).after_onward rest).answers _ told)

/-- Where a purchase in line leaves the sale when it is dropped. Its order is nowhere,
its slot is free again, and its stock is owed. -/
structure Abandons (s : Sale) (me : TaskId) (r : PurchaseRequest) (s' : Sale) : Prop where
  state : ∃ ready timers, s' = { s with
    tasks := (s.tasks.erase me).insert s.nextTask (.release r.itemId r.quantity s.now)
    queue := (s.queue.withdraw me).1
    ready
    timers
    nextTask := s.nextTask + 1
    log := s.log ++ [.purchaseAbandoned r.itemId r.quantity] }
  gone : s'.tasks.get? me = none
  buffer : s'.queue.buffer = s.queue.buffer
  /-- Its stock is put back by a task of its own. -/
  returns : ∀ actions, Obeys InMemory s' actions → (∀ a ∈ actions, a.drops? ≠ some s.nextTask) →
    PutsBack (s'.after actions) s.nextTask r.itemId r.quantity ∨
      ∃ answer, (s.nextTask, answer) ∈ (s'.after actions).answers

/-- A purchase that is dropped in line is removed, gives up its place, and leaves what
it holds. -/
theorem Standing.drop_eq (standing : Standing capacity s me r web id order)
    (leave : Sale → Order → Sale) :
    s.drop me leave = leave ((s.remove me).withdraw me) order := by
  obtain ⟨due, found, -⟩ := standing.task
  simp only [drop, found, Purchase.Stage.held?]
  rfl

theorem Standing.cancel (standing : Standing capacity s me r web id order)
    (about : order.itemId = r.itemId ∧ order.quantity = r.quantity)
    (positive : 0 < r.quantity.toInt) : Abandons s me r (s.cancel me) := by
  obtain ⟨due, found, -⟩ := standing.task
  have serving := standing.serving
  have unused : me ≠ s.nextTask := Nat.ne_of_lt (serving.attended.named me _ found)
  have state : ∃ ready timers, s.cancel me = { s with
      tasks := (s.tasks.erase me).insert s.nextTask (.release r.itemId r.quantity s.now)
      queue := (s.queue.withdraw me).1
      ready
      timers
      nextTask := s.nextTask + 1
      log := s.log ++ [.purchaseAbandoned r.itemId r.quantity] } := by
    have atOnce : ((s.remove me).withdraw me).now + ((s.remove me).withdraw me).latency.putBack =
        s.now := by
      change s.now + s.latency.putBack = s.now
      rw [serving.prompt]
      rfl
    rw [Sale.cancel, standing.drop_eq, releaseLater, about.1, about.2, atOnce]
    exact ⟨_, _, rfl⟩
  have kept : s.InMemory (.cancel me) := by
    refine ⟨by simp, ?_⟩
    obtain ⟨ready, timers, eq⟩ := state
    rw [Sale.perform, eq]
    exact (s.queue.withdraw_doors me).deserted.trans serving.kept
  have there : (s.cancel me).tasks.get? s.nextTask = some (.release r.itemId r.quantity s.now) := by
    obtain ⟨ready, timers, eq⟩ := state
    rw [eq]
    exact Table.get?_insert_self ..
  refine ⟨state, ?_, ?_, fun actions allowed spared => ?_⟩
  · obtain ⟨ready, timers, eq⟩ := state
    rw [eq]
    exact (Table.get?_insert_of_ne unused).trans (Table.get?_erase_self ..)
  · obtain ⟨ready, timers, eq⟩ := state
    rw [eq]
    exact withdraw_buffer ..
  · exact Serving.release_after (serving.perform kept) there (s.perform_onward (.cancel me)).now
      positive allowed spared

/-- What becomes of a purchase that waits for a slot: nothing until it has one, then its
order is admitted; and at any time it may be dropped. -/
structure Awaits (capacity : Nat) (s : Sale) (me : TaskId) (r : PurchaseRequest) (web : Bool)
    (order : Order) : Prop where
  /-- As long as it has none the queue is full, and its turn changes nothing. -/
  full : me ∉ s.queue.granted → s.queue.granted.length + s.queue.buffer.length = capacity ∧
    s.stepTask me = { s with ready := s.ready.erase me }
  /-- When it has been given one, its turn comes and puts the order into it. -/
  served : me ∈ s.queue.granted → me ∈ s.ready ∧
    s.stepTask me = { s.finished me r web (.ok order.id) s.reservations
        [.orderAdmitted r.requestId order.id r.itemId r.quantity] with
      queue := (s.queue.claim me).put order
      ready := (s.wake s.queue.front).ready.erase me }
  cancelled : Abandons s me r (s.cancel me)
  /-- Dropped where no other task can be started, it reports that its stock is lost. -/
  abandoned : ∃ ready timers, s.abandon me = { s with
    tasks := s.tasks.erase me
    queue := (s.queue.withdraw me).1
    ready
    timers
    log := s.log ++ [.abandonedOutside r.itemId r.quantity] }

theorem Standing.awaits (standing : Standing capacity s me r web id order)
    (about : order.itemId = r.itemId ∧ order.quantity = r.quantity)
    (positive : 0 < r.quantity.toInt) : Awaits capacity s me r web order := by
  have attended := standing.serving.attended
  constructor
  case full =>
    intro ungiven
    have waiting := (mem_buyers.mp standing.line).resolve_left ungiven
    have slots := attended.orderly.slots
    rw [attended.orderly.full (List.ne_nil_of_mem waiting), Nat.zero_add] at slots
    exact ⟨slots, standing.turn_of_waiting ungiven⟩
  case served =>
    intro given
    exact ⟨(attended.attends me).call (mem_called_of_granted given), standing.turn_of_granted given⟩
  case cancelled => exact standing.cancel about positive
  case abandoned =>
    rw [Sale.abandon, standing.drop_eq, reportLoss, about.1, about.2]
    exact ⟨_, _, rfl⟩

/-- Where a purchase leaves the sale when it is called, and what becomes of it
afterwards. The decision itself is that of `Decides`. -/
structure Fulfils (capacity : Nat) (s : Sale) (me : TaskId) (r : PurchaseRequest) (web : Bool)
    (id : Uuid) (s' : Sale) : Prop extends Decides capacity s me r web id s' where
  /-- The marker that it wrote stays until its time has come. -/
  marker : s.Passes r → ∀ actions, (s'.after actions).now < s.now + s.reservations.ttl →
    (s'.after actions).reservations.Holds (s'.after actions).now (idempotencyKey r.requestId)
  /-- A purchase in line waits there until it is admitted or dropped. -/
  waits : s.Passes r → r.quantity.toInt ≤ s.reservations.counter r.itemId →
    s.queue.closed = false → s.queue.granted.length + s.queue.buffer.length = capacity →
    ∀ actions, Obeys InMemory s' actions → (∀ a ∈ actions, a.drops? ≠ some me) →
      Awaits capacity (s'.after actions) me r web (s.orderFor r id) ∨
        (me, .purchased r web (.ok id)) ∈ (s'.after actions).answers

/-- Whatever a purchase that passes comes to, its marker is written. The rest of what it
did to the store is one change of a counter, or none. -/
theorem Decides.leaves (decides : Decides capacity s me r web id s') (passes : s.Passes r)
    (orderly : s.queue.Orderly capacity) : ∃ change, s.Leaves r change s'.reservations := by
  by_cases short : s.reservations.counter r.itemId < r.quantity.toInt
  · obtain ⟨marked, leaves, rfl⟩ := decides.soldOut passes short
    exact ⟨0, leaves⟩
  have covered := Int.not_lt.mp short
  have slots := orderly.slots
  cases door : s.queue.closed with
  | true =>
      cases works : s.reservations.failIncrements with
      | true =>
          obtain ⟨taken, leaves, rfl, -⟩ := decides.lost passes covered door works
          exact ⟨_, leaves⟩
      | false =>
          obtain ⟨restored, leaves, rfl⟩ := decides.refused passes covered door works
          exact ⟨0, leaves⟩
  | false =>
      by_cases room : s.queue.granted.length + s.queue.buffer.length < capacity
      · obtain ⟨taken, leaves, rfl⟩ := decides.admitted passes covered door room
        exact ⟨_, leaves⟩
      · obtain ⟨taken, leaves, rfl⟩ := decides.inLine passes covered door (by omega)
        exact ⟨_, leaves⟩

/-- No step of a purchase deserts the queue. Somebody is still there to receive. -/
theorem stepTask_deserted (found : s.tasks.get? me = some (.purchase r web id stage due)) :
    (s.stepTask me).queue.deserted = s.queue.deserted := by
  obtain ⟨s', turn, deed, placed⟩ := stepTask_cases found
  have left : (s.stepTask me).queue = s'.queue := by
    generalize s.stepTask me = s'' at placed ⊢
    cases placed with
    | again => rfl
    | wait => rfl
    | finish after => exact after.eq_of_not_receiver rfl
    | crash after => exact after.eq_of_not_receiver rfl
  rw [left]
  cases deed with
  | admitted slot => cases slot <;> rfl
  | inLine line => cases line <;> rfl
  | _ => rfl

theorem Goes.serving (goes : Goes me s s')
    (found : s.tasks.get? me = some (.purchase r web id stage due))
    (serving : s.Serving capacity) : s'.Serving capacity := by
  have step {s : Sale} {stage : Purchase.Stage} {due : Nat} (serving : s.Serving capacity)
      (found : s.tasks.get? me = some (.purchase r web id stage due)) :
      (s.stepTask me).Serving capacity :=
    serving.perform (a := .turn me) ⟨nofun, (stepTask_deserted found).trans serving.kept⟩
  induction goes generalizing stage due with
  | on found' again later ih =>
      obtain rfl := Option.some.inj (found.symm.trans found')
      obtain ⟨stage', due', rfl, -⟩ := act_again again
      exact ih (stepTask_again found again) (step serving found)
  | rests => exact step serving found

/-- A purchase that is called in a service over a store in memory comes in one go to its
end or to the line of the queue, and fares afterwards, as listed. The state may be any
in which the service is at work. -/
theorem Serving.fulfils (serving : s.Serving capacity)
    (entering : s.tasks.get? me = some (.purchase r web id .entering due)) (inTime : due ≤ s.now)
    (fits : s.now + s.reservations.ttl ≤ clockEnd) (goes : Goes me s s') :
    Fulfils capacity s me r web id s' := by
  have attended := serving.attended
  have new : me ∉ s.queue.buyers := (attended.attends me).not_buyer entering rfl
  have decides := goes.decides entering inTime serving.prompt fits new attended.orderly serving.kept
  have passed : s.now ≤ s'.now := by
    obtain ⟨n, rfl⟩ := goes.eq_after
    exact (s.after_onward _).now
  refine ⟨decides, fun passes actions early => ?_, ?_⟩
  · obtain ⟨change, leaves⟩ := decides.leaves passes attended.orderly
    have onward := s'.after_onward actions
    refine onward.holds _ _ (Nat.le_refl _) ((leaves.markers _ _ (passed.trans onward.now)).mpr ?_)
    rw [if_pos rfl]
    exact early
  · intro passes covered isOpen full actions allowed spared
    obtain ⟨taken, -, eq⟩ := decides.inLine passes covered isOpen full
    have standing : Standing capacity s' me r web id (s.orderFor r id) := by
      refine ⟨goes.serving entering serving, ?_, ?_⟩
      · rw [eq]
        exact ⟨s.now, Table.get?_insert_self .., Nat.le_refl _⟩
      · rw [eq]
        exact mem_buyers.mpr (.inr (List.mem_append_right _ (List.mem_singleton_self _)))
    obtain still | told := standing.after allowed spared
    · exact .inl (still.awaits ⟨rfl, rfl⟩ passes.positive)
    · exact .inr told

/-- In a service over a store in memory, whatever has happened to it so far, a purchase that is
called comes in one go to its end or to the line of the queue. It decides in the order that is
listed, with the effects that are listed and no others, and waits, is admitted or goes away
afterwards as listed. -/
theorem purchase_endToEnd {queue : AdmissionQueue} {reservations : Reservations} {ledger : Ledger}
    {commitLimit : Nat} {before : List Action}
    (opened : AdmissionQueue.open? capacity = some queue)
    (allowed : Obeys InMemory { reservations, ledger, queue, commitLimit } before)
    (reached : s = Sale.after { reservations, ledger, queue, commitLimit } before)
    (entering : s.tasks.get? me = some (.purchase r web id .entering due)) (inTime : due ≤ s.now)
    (fits : s.now + s.reservations.ttl ≤ clockEnd) :
    (∃ s', Goes me s s') ∧ ∀ s', Goes me s s' → Fulfils (max capacity 1) s me r web id s' := by
  have serving : s.Serving (max capacity 1) :=
    reached ▸ (serving_start reservations ledger commitLimit opened).after allowed
  exact ⟨exists_goes entering, fun s' goes => serving.fulfils entering inTime fits goes⟩

/-- A service that has three of an item, over a queue with a single slot. -/
def stall : Sale :=
  { reservations := { ttl := 1000, counters := Table.empty.insert "tea" 3 }
    queue := .ofCapacity 1 }

/-- The slot is taken up by an order when a purchase is called. -/
def crowding : List Action :=
  [.start (.send (parcel ⟨9⟩)), .turn 0,
    .start (.purchase ⟨"r1", "ann", "tea", 2⟩ false ⟨7⟩ .entering 0)]

theorem purchase_endToEnd_fullQueue : ∃ s s' : Sale,
    AdmissionQueue.open? 1 = some stall.queue ∧ Obeys InMemory stall crowding ∧
    s = stall.after crowding ∧
    s.tasks.get? 1 = some (.purchase ⟨"r1", "ann", "tea", 2⟩ false ⟨7⟩ .entering 0) ∧
    0 ≤ s.now ∧ s.now + s.reservations.ttl ≤ clockEnd ∧ Goes 1 s s' ∧
    Fulfils 1 s 1 ⟨"r1", "ann", "tea", 2⟩ false ⟨7⟩ s' ∧
    s'.queue.waiting = [1] ∧ s'.reservations.counter "tea" = 1 ∧
    ((s'.cancel 1).stepTask 2).reservations.counter "tea" = 3 := by
  have opened : AdmissionQueue.open? 1 = some stall.queue := rfl
  have allowed : Obeys InMemory stall crowding :=
    ⟨⟨nofun, rfl⟩, ⟨nofun, rfl⟩, ⟨nofun, rfl⟩, trivial⟩
  have entering : (stall.after crowding).tasks.get? 1 =
      some (.purchase ⟨"r1", "ann", "tea", 2⟩ false ⟨7⟩ .entering 0) := rfl
  have line : Goes 1 (stall.after crowding)
      ((stall.after crowding).after [.turn 1, .turn 1, .turn 1, .turn 1]) := by
    refine .on entering rfl (.on rfl rfl (.on rfl rfl (.rests (t := .purchase
      ⟨"r1", "ann", "tea", 2⟩ false ⟨7⟩ (.admitting (.pending ⟨7⟩ "ann" "tea" 2 stall.clock)) 0)
      rfl ?_)))
    have waits : (((((stall.after crowding).stepTask 1).stepTask 1).stepTask 1).act 1
        (.purchase ⟨"r1", "ann", "tea", 2⟩ false ⟨7⟩
          (.admitting (.pending ⟨7⟩ "ann" "tea" 2 stall.clock)) 0)).2 = .wait none := rfl
    rw [waits]
    rintro t' ⟨⟩
  have fares := (purchase_endToEnd opened allowed rfl entering (Nat.le_refl 0) (by decide)).2
  exact ⟨_, _, opened, allowed, rfl, entering, Nat.le_refl 0, by decide, line, fares _ line,
    by decide, by decide, by decide⟩

end FlashSale.Sale
