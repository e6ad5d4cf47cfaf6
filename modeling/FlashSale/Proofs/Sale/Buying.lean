import FlashSale.Proofs.AdmissionQueue.Slots
import FlashSale.Proofs.Reservations.Imprint
import FlashSale.Proofs.Sale.Deed
import FlashSale.Proofs.Sale.Waiting
import FlashSale.Proofs.Table

/-!
# A purchase in one go

A task that goes on keeps its turn. `Goes` says where it leaves the sale when it takes one
step after the other until it waits or is over; there is one such state at most.

The reservation store in memory keeps nobody waiting, so a purchase comes in one go to its
end or to the line of the queue. `Decides` tells where: the cases are listed in the order in
which the purchase decides, each with the whole state of the sale afterwards.
-/

namespace FlashSale.Sale

open AdmissionQueue Reservations

/-- The task takes one step after the other, and nobody else takes any, until it waits
or is over. The state behind its last step is where it leaves the sale. -/
inductive Goes (me : TaskId) : Sale → Sale → Prop where
  | on {s s' t t'} (found : s.tasks.get? me = some t) (again : (s.act me t).2 = .again t')
      (later : Goes me (s.stepTask me) s') : Goes me s s'
  | rests {s t} (found : s.tasks.get? me = some t) (rests : ∀ t', (s.act me t).2 ≠ .again t') :
      Goes me s (s.stepTask me)

variable {s s' s'' s₁ : Sale} {me : TaskId} {t t' : Task} {a : Answer}

/-- There is no choice in where a task goes, as each step is determined by the state
before it. -/
theorem Goes.unique (first : Goes me s s') (second : Goes me s s'') : s' = s'' := by
  induction first with
  | on found again _ ih =>
      cases second with
      | on _ _ later => exact ih later
      | rests found' rests =>
          obtain rfl := Option.some.inj (found.symm.trans found')
          exact absurd again (rests _)
  | rests found rests =>
      cases second with
      | on found' again =>
          obtain rfl := Option.some.inj (found.symm.trans found')
          exact absurd again (rests _)
      | rests => rfl

/-- Going on is a course of turns of the task. What holds of all courses holds of a task
that goes on. -/
theorem Goes.eq_after (goes : Goes me s s') :
    ∃ n, s' = s.after (List.replicate n (.turn me)) := by
  induction goes with
  | on _ _ _ ih =>
      obtain ⟨n, rfl⟩ := ih
      exact ⟨n + 1, rfl⟩
  | rests => exact ⟨1, rfl⟩

theorem goes_again (found : s.tasks.get? me = some t) (acts : s.act me t = (s₁, .again t'))
    (later : Goes me { s₁ with tasks := s₁.tasks.insert me t' } s') : Goes me s s' := by
  have step : s.stepTask me = { s₁ with tasks := s₁.tasks.insert me t' } := by
    simp only [stepTask, found, acts, place]
  exact .on found (congrArg Prod.snd acts) (step ▸ later)

theorem goes_wait (found : s.tasks.get? me = some t) (acts : s.act me t = (s₁, .wait none)) :
    Goes me s { s₁ with ready := s₁.ready.erase me } := by
  have step : s.stepTask me = { s₁ with ready := s₁.ready.erase me } := by
    simp only [stepTask, found, acts, place]
  exact step ▸ .rests found (by simp [acts])

theorem stepTask_again (found : s.tasks.get? me = some t) (again : (s.act me t).2 = .again t') :
    (s.stepTask me).tasks.get? me = some t' := by
  have placed := stepTask_placed found
  rw [again] at placed
  generalize s.stepTask me = s'' at placed ⊢
  cases placed
  exact Table.get?_insert_self ..

/-- A task that is neither a receiver nor a worker is only removed when it is over.
Others have a place in a line or workers that wait for them. -/
theorem stepTask_of_finish (found : s.tasks.get? me = some t)
    (acts : s.act me t = (s₁, .finish a)) (receiver : t.isReceiver = false)
    (worker : t.isWorker = false) :
    s.stepTask me = { s₁.remove me with answers := s₁.answers ++ [(me, a)] } := by
  simp [stepTask, found, acts, place, retire, receiver, worker]

/-- A purchase stands at another stage; it has called the store and reported events by then. -/
def midway (s : Sale) (me : TaskId) (t : Task) (reservations : Reservations)
    (events : List Event) : Sale :=
  { s with tasks := s.tasks.insert me t, reservations, log := s.log ++ events }

/-- A purchase is over with a result; it has called the store and reported events by then. -/
def finished (s : Sale) (me : TaskId) (r : PurchaseRequest) (web : Bool)
    (result : Except PurchaseError Uuid) (reservations : Reservations) (events : List Event) :
    Sale :=
  { s.remove me with
    reservations
    log := s.log ++ (events ++ Purchase.endEvents r web result)
    answers := s.answers ++ [(me, .purchased r web result)] }

/-- The order that a purchase places now. -/
def orderFor (s : Sale) (r : PurchaseRequest) (id : Uuid) : Order :=
  .pending id r.userId r.itemId r.quantity s.clock

variable {r : PurchaseRequest} {web : Bool} {id : Uuid} {due : Nat} {stage : Purchase.Stage}
  {order : Order} {reservations reservations' : Reservations} {events events' : List Event}
  {result : Except PurchaseError Uuid}

theorem midway_get? : (s.midway me t reservations events).tasks.get? me = some t :=
  Table.get?_insert_self ..

/-- Of two stages in a row the later one is where the purchase stands; the events of
both are in the log. -/
theorem midway_midway : (s.midway me t reservations events).midway me t' reservations' events' =
    s.midway me t' reservations' (events ++ events') := by
  simp only [midway, Table.insert_insert, List.append_assoc]

theorem midway_finished :
    (s.midway me t reservations events).finished me r web result reservations' events' =
      s.finished me r web result reservations' (events ++ events') := by
  simp only [midway, finished, remove, Table.erase_insert, List.append_assoc]

/-- A purchase whose rules say that it is done is over in this step, with this result.
-/
theorem goes_done (found : s.tasks.get? me = some (.purchase r web id stage due))
    (acts : s.act me (.purchase r web id stage due) =
      s₁.follow r web id { next := .done result, events }) :
    Goes me s (s₁.finished me r web result s₁.reservations events) := by
  rw [follow_done] at acts
  have step := stepTask_of_finish found acts rfl rfl
  have goes : Goes me s (s.stepTask me) := .rests found (by simp [acts])
  rw [step] at goes
  exact goes

/-- A purchase whose rules tell it to go on does so at once when store calls take no
time. -/
theorem goes_go (prompt : s₁.latency = {})
    (found : s.tasks.get? me = some (.purchase r web id stage due)) {stage' : Purchase.Stage}
    (acts : s.act me (.purchase r web id stage due) =
      s₁.follow r web id { next := .go stage', events })
    (later : Goes me (s₁.midway me (.purchase r web id stage' s₁.now) s₁.reservations events) s') :
    Goes me s s' := by
  have atOnce : s₁.latency.ofStage stage' = 0 := by
    rw [prompt]
    cases stage' <;> rfl
  rw [follow_go, atOnce, Nat.add_zero] at acts
  exact goes_again found acts later

/-- How many stages of a purchase are still to come. It falls with every step that keeps
the turn. -/
def toCome : Purchase.Stage → Nat
  | .entering => 4
  | .marking => 3
  | .reserving => 2
  | .admitting _ => 1
  | .releasing _ => 0

/-- A purchase that goes on does so at a later stage, so that it keeps its turn for a
few steps only. -/
theorem act_again (again : (s.act me (.purchase r web id stage due)).2 = .again t') :
    ∃ stage' due', t' = .purchase r web id stage' due' ∧ toCome stage' < toCome stage := by
  cases (s.act_deed me (.purchase r web id stage due)).next again with
  | entered => exact ⟨_, _, rfl, by decide⟩
  | marked => exact ⟨_, _, rfl, by decide⟩
  | reserved => exact ⟨_, _, rfl, Nat.one_lt_two⟩
  | refused => exact ⟨_, _, rfl, Nat.zero_lt_one⟩

/-- A purchase comes to its end or waits, as the stages run out. Each step that goes on
leaves fewer of them to come. -/
theorem exists_goes (found : s.tasks.get? me = some (.purchase r web id stage due)) :
    ∃ s', Goes me s s' := by
  induction left : toCome stage using Nat.strong_induction_on generalizing s stage due with
  | _ n ih =>
      by_cases rests : ∀ t', (s.act me (.purchase r web id stage due)).2 ≠ .again t'
      · exact ⟨_, .rests found rests⟩
      · push Not at rests
        obtain ⟨t', again⟩ := rests
        obtain ⟨stage', due', rfl, fewer⟩ := act_again again
        obtain ⟨s', goes⟩ := ih _ (left ▸ fewer) (stepTask_again found again) rfl
        exact ⟨s', .on found again goes⟩

section Stages

variable (inTime : due ≤ s.now)

section Marking

variable (found : s.tasks.get? me = some (.purchase r web id .marking due))
  {reply : Except StoreError Bool}

include inTime

/-- The marker is written at the first stage in the store, and the rules go by its
reply. -/
theorem act_marking
    (replies : s.reservations.mark s.now (idempotencyKey r.requestId) =
      (.answer reply, reservations)) :
    s.act me (.purchase r web id .marking due) =
      { s with reservations }.follow r web id (Purchase.marked r reply) := by
  simp only [act, stepPurchase, if_neg (Nat.not_lt.mpr inTime), replies]

include found

theorem goes_markRefused (unavailable : s.reservations.unavailable = true) :
    Goes me s (s.finished me r web
      (.error (.storeUnavailable (.injectedFault .setIdempotencyKey))) s.reservations []) :=
  goes_done found (act_marking inTime (mark_refused unavailable))

theorem goes_held
    (replies : s.reservations.mark s.now (idempotencyKey r.requestId) = (.ok false, reservations)) :
    Goes me s (s.finished me r web (.error .duplicateRequest) reservations
      [.duplicateRequest r.requestId]) :=
  goes_done found (act_marking inTime replies)

theorem goes_marked (prompt : s.latency = {})
    (replies : s.reservations.mark s.now (idempotencyKey r.requestId) = (.ok true, reservations))
    (later : Goes me (s.midway me (.purchase r web id .reserving s.now) reservations []) s') :
    Goes me s s' := by
  refine goes_go ?_ found (act_marking inTime replies) later
  exact prompt

end Marking

section Reserving

variable (found : s.tasks.get? me = some (.purchase r web id .reserving due))
  {reply : Except StoreError Bool}

include inTime

theorem act_reserving
    (replies : s.reservations.take r.itemId r.quantity = (.answer reply, reservations)) :
    s.act me (.purchase r web id .reserving due) =
      { s with reservations }.follow r web id (Purchase.reserved r id s.clock reply) := by
  simp only [act, stepPurchase, if_neg (Nat.not_lt.mpr inTime), replies]
  rfl

include found

/-- Without a counter, or with too little on it, the purchase ends for want of stock. -/
theorem goes_soldOut
    (replies : s.reservations.take r.itemId r.quantity = (.ok false, reservations)) :
    Goes me s (s.finished me r web (.error .insufficientStock) reservations
      [.insufficientStock r.requestId r.itemId r.quantity]) :=
  goes_done found (act_reserving inTime replies)

theorem goes_reserved (prompt : s.latency = {})
    (replies : s.reservations.take r.itemId r.quantity = (.ok true, reservations))
    (later : Goes me
      (s.midway me (.purchase r web id (.admitting (s.orderFor r id)) s.now) reservations []) s') :
    Goes me s s' := by
  refine goes_go ?_ found (act_reserving inTime replies) later
  exact prompt

end Reserving

section Admitting

variable (found : s.tasks.get? me = some (.purchase r web id (.admitting order) due))

include inTime found

/-- An order that gets a slot at once ends the purchase with its identifier. -/
theorem goes_granted (offers : s.offer me order = (.granted, s₁)) :
    Goes me s (s₁.finished me r web (.ok order.id) s₁.reservations
      [.orderAdmitted r.requestId order.id r.itemId r.quantity]) := by
  refine goes_done found ?_
  simp only [act, stepPurchase, if_neg (Nat.not_lt.mpr inTime), offers, Purchase.admitted]

/-- An order that the queue turns away leaves the purchase with stock to give back. -/
theorem goes_turnedAway (prompt : s.latency = {}) (offers : s.offer me order = (.refused, s))
    (later : Goes me (s.midway me (.purchase r web id (.releasing order) s.now) s.reservations
      [.admissionClosed r.requestId order.id]) s') : Goes me s s' := by
  refine goes_go prompt found ?_ later
  simp only [act, stepPurchase, if_neg (Nat.not_lt.mpr inTime), offers, Purchase.refused]

theorem goes_stand (offers : s.offer me order = (.waiting, s₁)) :
    Goes me s { s₁ with ready := s₁.ready.erase me } := by
  refine goes_wait found ?_
  simp only [act, stepPurchase, if_neg (Nat.not_lt.mpr inTime), offers]

end Admitting

section Releasing

variable (found : s.tasks.get? me = some (.purchase r web id (.releasing order) due))

include inTime found

theorem goes_released
    (replies : s.reservations.putBack r.itemId r.quantity = (.ok (), reservations)) :
    Goes me s (s.finished me r web (.error .queueClosed) reservations []) := by
  have acts : s.act me (.purchase r web id (.releasing order) due) =
      { s with reservations }.follow r web id (Purchase.released r (.ok ())) := by
    simp only [act, stepPurchase, if_neg (Nat.not_lt.mpr inTime), replies]
    rfl
  exact goes_done found acts

/-- If the stock cannot be put back, this is reported, and the caller is told that the
queue is closed as well. -/
theorem goes_releaseFailed
    (refuses : (s.reservations.unavailable || s.reservations.failIncrements) = true) :
    Goes me s (s.finished me r web (.error .queueClosed) s.reservations
      [.releaseFailed r.itemId r.quantity (.injectedFault .incrementStock)]) := by
  have acts : s.act me (.purchase r web id (.releasing order) due) =
      s.follow r web id (Purchase.released r (.error (.injectedFault .incrementStock))) := by
    simp only [act, stepPurchase, if_neg (Nat.not_lt.mpr inTime), putBack_refused refuses]
    rfl
  exact goes_done found acts

end Releasing

end Stages

section Offers

variable (new : me ∉ s.queue.buyers)

include new

theorem offer_closed (isClosed : s.queue.isClosed = true) : s.offer me order = (.refused, s) := by
  obtain ⟨given, -⟩ | ⟨-, standing, -⟩ | ⟨-, ⟨-, eq⟩ | ⟨isOpen, -⟩ | ⟨slots, isOpen, -⟩⟩ :=
    s.offer_call me order
  · exact absurd (mem_buyers.mpr (.inl given)) new
  · exact absurd (mem_buyers.mpr (.inr standing)) new
  · exact eq
  · rw [isClosed] at isOpen; cases isOpen
  · rw [isClosed] at isOpen; cases isOpen

theorem offer_free (isOpen : s.queue.isClosed = false) (room : 0 < s.queue.slots) :
    s.offer me order =
      (.granted, s.deliver { s.queue with slots := s.queue.slots - 1 } order) := by
  obtain ⟨given, -⟩ | ⟨-, standing, -⟩ | ⟨-, ⟨isClosed, -⟩ | ⟨-, full, -⟩ | ⟨slots, -, slot, eq⟩⟩ :=
    s.offer_call me order
  · exact absurd (mem_buyers.mpr (.inl given)) new
  · exact absurd (mem_buyers.mpr (.inr standing)) new
  · rw [isClosed] at isOpen; cases isOpen
  · exact absurd full room.ne'
  · rw [eq, slot, Nat.add_sub_cancel]

theorem offer_full (isOpen : s.queue.isClosed = false) (full : s.queue.slots = 0) :
    s.offer me order =
      (.waiting, { s with queue.waiting := s.queue.waiting ++ [me] }) := by
  obtain ⟨given, -⟩ | ⟨-, standing, -⟩ | ⟨-, ⟨isClosed, -⟩ | ⟨-, -, eq⟩ | ⟨slots, -, slot, -⟩⟩ :=
    s.offer_call me order
  · exact absurd (mem_buyers.mpr (.inl given)) new
  · exact absurd (mem_buyers.mpr (.inr standing)) new
  · rw [isClosed] at isOpen; cases isOpen
  · exact eq
  · rw [full] at slot; cases slot

end Offers

/-- A purchase writes its marker: it asks for something, the store is there, and no live
marker is. -/
structure Passes (s : Sale) (r : PurchaseRequest) : Prop where
  positive : 0 < r.quantity.toInt
  available : s.reservations.unavailable = false
  free : ¬ s.reservations.Holds s.now (idempotencyKey r.requestId)

/-- The store as a purchase leaves it that has written its marker: the counter of the
item has changed by so much, and nothing else that anybody can see. -/
abbrev Leaves (s : Sale) (r : PurchaseRequest) (change : Int) (reservations : Reservations) :
    Prop :=
  Imprint s.reservations s.now (idempotencyKey r.requestId) r.itemId change reservations

/-- Where a purchase, called in this state, leaves the sale. The conditions are listed
in the order in which the purchase decides, and each names the whole state afterwards.
-/
structure Decides (capacity : Nat) (s : Sale) (me : TaskId) (r : PurchaseRequest) (web : Bool)
    (id : Uuid) (s' : Sale) : Prop where
  /-- It asks for nothing. -/
  invalid : r.quantity.toInt ≤ 0 →
    s' = s.finished me r web (.error (.invalidQuantity r.quantity)) s.reservations []
  /-- The store is not there. -/
  unavailable : 0 < r.quantity.toInt → s.reservations.unavailable = true →
    s' = s.finished me r web
      (.error (.storeUnavailable (.injectedFault .setIdempotencyKey))) s.reservations []
  /-- A live marker is there. -/
  duplicate : 0 < r.quantity.toInt → s.reservations.unavailable = false →
    s.reservations.Holds s.now (idempotencyKey r.requestId) →
    ∃ swept, Swept s.reservations s.now swept ∧ SameCounters s.reservations swept ∧
      s' = s.finished me r web (.error .duplicateRequest) swept [.duplicateRequest r.requestId]
  /-- The item has no counter, or not enough on it. -/
  soldOut : s.Passes r → s.reservations.counter r.itemId < r.quantity.toInt →
    ∃ marked, s.Leaves r 0 marked ∧
      s' = s.finished me r web (.error .insufficientStock) marked
        [.insufficientStock r.requestId r.itemId r.quantity]
  /-- The queue is closed, and the stock comes back. -/
  refused : s.Passes r → r.quantity.toInt ≤ s.reservations.counter r.itemId →
    s.queue.closed = true → s.reservations.failIncrements = false →
    ∃ restored, s.Leaves r 0 restored ∧
      s' = s.finished me r web (.error .queueClosed) restored [.admissionClosed r.requestId id]
  /-- The queue is closed, and the stock does not come back. -/
  lost : s.Passes r → r.quantity.toInt ≤ s.reservations.counter r.itemId →
    s.queue.closed = true → s.reservations.failIncrements = true →
    ∃ taken, s.Leaves r (-r.quantity.toInt) taken ∧
      s' = s.finished me r web (.error .queueClosed) taken
        [.admissionClosed r.requestId id,
          .releaseFailed r.itemId r.quantity (.injectedFault .incrementStock)] ∧
      s'.log.filter Event.isCritical = s.log.filter Event.isCritical ++
        [.releaseFailed r.itemId r.quantity (.injectedFault .incrementStock)]
  /-- The queue has a slot to spare. -/
  admitted : s.Passes r → r.quantity.toInt ≤ s.reservations.counter r.itemId →
    s.queue.closed = false → s.queue.granted.length + s.queue.buffer.length < capacity →
    ∃ taken, s.Leaves r (-r.quantity.toInt) taken ∧
      s' = { s.finished me r web (.ok id) taken
          [.orderAdmitted r.requestId id r.itemId r.quantity] with
        queue := { s.queue with slots := s.queue.slots - 1 }.put (s.orderFor r id)
        ready := (s.wake s.queue.front).ready.erase me }
  /-- The queue is full, and the purchase stands in line. -/
  inLine : s.Passes r → r.quantity.toInt ≤ s.reservations.counter r.itemId →
    s.queue.closed = false → s.queue.granted.length + s.queue.buffer.length = capacity →
    ∃ taken, s.Leaves r (-r.quantity.toInt) taken ∧
      s' = { s.midway me (.purchase r web id (.admitting (s.orderFor r id)) s.now) taken [] with
        queue := { s.queue with waiting := s.queue.waiting ++ [me] }
        ready := s.ready.erase me }

section Entering

variable {capacity : Nat} (found : s.tasks.get? me = some (.purchase r web id .entering due))
  (inTime : due ≤ s.now)

include found inTime

theorem goes_invalid (unfit : r.quantity.toInt ≤ 0) :
    Goes me s (s.finished me r web (.error (.invalidQuantity r.quantity)) s.reservations []) := by
  have unfit : r.quantity ≤ 0 := Int32.le_iff_toInt_le.mpr unfit
  refine goes_done found ?_
  simp only [act, stepPurchase, if_neg (Nat.not_lt.mpr inTime), Purchase.entered, if_pos unfit,
    Purchase.Move.refuse]

variable (prompt : s.latency = {})

include prompt

theorem goes_enter (fit : 0 < r.quantity.toInt)
    (later : Goes me (s.midway me (.purchase r web id .marking s.now) s.reservations []) s') :
    Goes me s s' := by
  have fit : ¬ r.quantity ≤ 0 := by
    rw [Int32.le_iff_toInt_le]
    exact Int.not_le.mpr fit
  refine goes_go prompt found ?_ later
  simp only [act, stepPurchase, if_neg (Nat.not_lt.mpr inTime), Purchase.entered, if_neg fit,
    Purchase.Move.go]

theorem goes_unavailable (fit : 0 < r.quantity.toInt)
    (unavailable : s.reservations.unavailable = true) :
    Goes me s (s.finished me r web
      (.error (.storeUnavailable (.injectedFault .setIdempotencyKey))) s.reservations []) := by
  have goes := goes_markRefused
    (s := s.midway me (.purchase r web id .marking s.now) s.reservations [])
    (Nat.le_refl s.now) midway_get? unavailable
  rw [midway_finished] at goes
  exact goes_enter found inTime prompt fit goes

variable (fits : s.now + s.reservations.ttl ≤ clockEnd)

include fits

/-- A purchase with a live marker ends as a duplicate. It may have swept the store,
which nobody can tell. -/
theorem goes_duplicate (fit : 0 < r.quantity.toInt) (available : s.reservations.unavailable = false)
    (holds : s.reservations.Holds s.now (idempotencyKey r.requestId)) :
    ∃ swept, Swept s.reservations s.now swept ∧ SameCounters s.reservations swept ∧
      Goes me s (s.finished me r web (.error .duplicateRequest) swept
        [.duplicateRequest r.requestId]) := by
  obtain ⟨swept, sweeps, same, replies⟩ := mark_held available holds fits
  refine ⟨swept, sweeps, same, goes_enter found inTime prompt fit ?_⟩
  have goes := goes_held (s := s.midway me (.purchase r web id .marking s.now) s.reservations [])
    (Nat.le_refl s.now) midway_get? replies
  rw [midway_finished] at goes
  exact goes

theorem Passes.goes_on (passes : s.Passes r) : ∃ marked, s.Leaves r 0 marked ∧
    ∀ s', Goes me (s.midway me (.purchase r web id .reserving s.now) marked []) s' →
      Goes me s s' := by
  obtain ⟨marked, imprint, replies⟩ := mark_free r.itemId passes.available passes.free fits
  refine ⟨marked, imprint, fun s' later => goes_enter found inTime prompt passes.positive ?_⟩
  refine goes_marked (Nat.le_refl s.now) midway_get? prompt replies ?_
  rw [midway_midway]
  exact later

theorem Passes.goes_short (passes : s.Passes r)
    (short : s.reservations.counter r.itemId < r.quantity.toInt) :
    ∃ marked, s.Leaves r 0 marked ∧
      Goes me s (s.finished me r web (.error .insufficientStock) marked
        [.insufficientStock r.requestId r.itemId r.quantity]) := by
  obtain ⟨marked, imprint, on⟩ := passes.goes_on found inTime prompt fits
  refine ⟨marked, imprint, on _ ?_⟩
  have available : marked.unavailable = false := imprint.unavailable.trans passes.available
  rw [← imprint.counter] at short
  have goes := goes_soldOut (s := s.midway me (.purchase r web id .reserving s.now) marked [])
    (Nat.le_refl s.now) midway_get? (take_short available short)
  rw [midway_finished] at goes
  exact goes

/-- A purchase that finds enough takes the stock and goes on to the queue. -/
theorem Passes.goes_to_queue (passes : s.Passes r)
    (covered : r.quantity.toInt ≤ s.reservations.counter r.itemId) :
    ∃ taken, s.Leaves r (-r.quantity.toInt) taken ∧
      ∀ s', Goes me
          (s.midway me (.purchase r web id (.admitting (s.orderFor r id)) s.now) taken []) s' →
        Goes me s s' := by
  obtain ⟨marked, imprint, on⟩ := passes.goes_on found inTime prompt fits
  have available : marked.unavailable = false := imprint.unavailable.trans passes.available
  rw [← imprint.counter] at covered
  obtain ⟨held, left, there, less, replies⟩ := take_covered available passes.positive covered
  have taken := imprint.write there (n := -r.quantity.toInt) (less.trans (Int.sub_eq_add_neg ..))
  rw [Int.zero_add] at taken
  refine ⟨_, taken, fun s' later => on s' ?_⟩
  refine goes_reserved (Nat.le_refl s.now) midway_get? prompt replies ?_
  rw [midway_midway]
  exact later

variable (new : me ∉ s.queue.buyers)

include new

/-- At a closed queue the stock is put back before the caller is told, so that the
counter is as before. -/
theorem Passes.goes_refused (passes : s.Passes r)
    (covered : r.quantity.toInt ≤ s.reservations.counter r.itemId)
    (isClosed : s.queue.isClosed = true) (works : s.reservations.failIncrements = false) :
    ∃ restored, s.Leaves r 0 restored ∧
      Goes me s (s.finished me r web (.error .queueClosed) restored
        [.admissionClosed r.requestId id]) := by
  obtain ⟨taken, imprint, on⟩ := passes.goes_to_queue found inTime prompt fits covered
  have works' : (taken.unavailable || taken.failIncrements) = false := by
    rw [imprint.unavailable, imprint.failIncrements, passes.available, works, Bool.or_false]
  obtain ⟨restored, back, replies⟩ := imprint.putBack works' passes.positive covered
  refine ⟨restored, back, on _ (goes_turnedAway (Nat.le_refl s.now) midway_get? prompt
    (offer_closed new isClosed) ?_)⟩
  rw [midway_midway]
  have goes := goes_released (s := s.midway me
    (.purchase r web id (.releasing (s.orderFor r id)) s.now) taken
    [.admissionClosed r.requestId id]) (Nat.le_refl s.now) midway_get? replies
  rw [midway_finished] at goes
  exact goes

/-- At a closed queue with a store that fails to put stock back, the stock stays taken,
and this is reported as critical. -/
theorem Passes.goes_lost (passes : s.Passes r)
    (covered : r.quantity.toInt ≤ s.reservations.counter r.itemId)
    (isClosed : s.queue.isClosed = true) (fails : s.reservations.failIncrements = true) :
    ∃ taken, s.Leaves r (-r.quantity.toInt) taken ∧
      Goes me s (s.finished me r web (.error .queueClosed) taken
        [.admissionClosed r.requestId id,
          .releaseFailed r.itemId r.quantity (.injectedFault .incrementStock)]) := by
  obtain ⟨taken, imprint, on⟩ := passes.goes_to_queue found inTime prompt fits covered
  have refuses : (taken.unavailable || taken.failIncrements) = true := by
    rw [imprint.failIncrements, fails, Bool.or_true]
  refine ⟨taken, imprint, on _ (goes_turnedAway (Nat.le_refl s.now) midway_get? prompt
    (offer_closed new isClosed) ?_)⟩
  rw [midway_midway]
  have goes := goes_releaseFailed (s := s.midway me
    (.purchase r web id (.releasing (s.orderFor r id)) s.now) taken
    [.admissionClosed r.requestId id]) (Nat.le_refl s.now) midway_get? refuses
  rw [midway_finished] at goes
  exact goes

/-- With a slot to spare the order is put into the queue at once, and the receiver in
front is woken. -/
theorem Passes.goes_admitted (passes : s.Passes r)
    (covered : r.quantity.toInt ≤ s.reservations.counter r.itemId)
    (isOpen : s.queue.isClosed = false) (room : 0 < s.queue.slots) :
    ∃ taken, s.Leaves r (-r.quantity.toInt) taken ∧
      Goes me s { s.finished me r web (.ok id) taken
          [.orderAdmitted r.requestId id r.itemId r.quantity] with
        queue := { s.queue with slots := s.queue.slots - 1 }.put (s.orderFor r id)
        ready := (s.wake s.queue.front).ready.erase me } := by
  obtain ⟨taken, imprint, on⟩ := passes.goes_to_queue found inTime prompt fits covered
  refine ⟨taken, imprint, on _ ?_⟩
  have goes := goes_granted (s := s.midway me
    (.purchase r web id (.admitting (s.orderFor r id)) s.now) taken []) (Nat.le_refl s.now)
    midway_get? (offer_free new isOpen room)
  simp only [midway, finished, remove, deliver, wake, Table.erase_insert, List.append_nil] at goes ⊢
  exact goes

/-- In front of a full queue the purchase stands in line behind the others, with its
stock taken. -/
theorem Passes.goes_inLine (passes : s.Passes r)
    (covered : r.quantity.toInt ≤ s.reservations.counter r.itemId)
    (isOpen : s.queue.isClosed = false) (full : s.queue.slots = 0) :
    ∃ taken, s.Leaves r (-r.quantity.toInt) taken ∧
      Goes me s
        { s.midway me (.purchase r web id (.admitting (s.orderFor r id)) s.now) taken [] with
          queue := { s.queue with waiting := s.queue.waiting ++ [me] }
          ready := s.ready.erase me } := by
  obtain ⟨taken, imprint, on⟩ := passes.goes_to_queue found inTime prompt fits covered
  refine ⟨taken, imprint, on _ ?_⟩
  have goes := goes_stand (s := s.midway me
    (.purchase r web id (.admitting (s.orderFor r id)) s.now) taken []) (Nat.le_refl s.now)
    midway_get? (offer_full new isOpen full)
  exact goes

end Entering

section Decision

variable {capacity : Nat} (found : s.tasks.get? me = some (.purchase r web id .entering due))
  (inTime : due ≤ s.now) (prompt : s.latency = {}) (fits : s.now + s.reservations.ttl ≤ clockEnd)
  (new : me ∉ s.queue.buyers)

include found inTime prompt fits new

/-- Where a purchase goes depends on the store and the queue as listed. For each
condition the steps are followed from the first stage on; since there is one end at
most, it is this one. -/
theorem Goes.decides (goes : Goes me s s') (orderly : s.queue.Orderly capacity)
    (kept : s.queue.deserted = false) : Decides capacity s me r web id s' := by
  have door : s.queue.isClosed = s.queue.closed := by rw [isClosed, kept, Bool.or_false]
  have slots := orderly.slots
  constructor
  case invalid =>
    intro unfit
    exact goes.unique (goes_invalid found inTime unfit)
  case unavailable =>
    intro fit gone
    exact goes.unique (goes_unavailable found inTime prompt fit gone)
  case duplicate =>
    intro fit there holds
    obtain ⟨swept, sweeps, same, goes'⟩ := goes_duplicate found inTime prompt fits fit there holds
    exact ⟨swept, sweeps, same, goes.unique goes'⟩
  case soldOut =>
    intro passes short
    obtain ⟨marked, leaves, goes'⟩ := passes.goes_short found inTime prompt fits short
    exact ⟨marked, leaves, goes.unique goes'⟩
  case refused =>
    intro passes covered closed works
    obtain ⟨restored, leaves, goes'⟩ :=
      passes.goes_refused found inTime prompt fits new covered (door.trans closed) works
    exact ⟨restored, leaves, goes.unique goes'⟩
  case lost =>
    intro passes covered closed fails
    obtain ⟨taken, leaves, goes'⟩ :=
      passes.goes_lost found inTime prompt fits new covered (door.trans closed) fails
    obtain rfl := goes.unique goes'
    refine ⟨taken, leaves, rfl, ?_⟩
    rw [finished, List.filter_append]
    cases web <;> rfl
  case admitted =>
    intro passes covered isOpen room
    obtain ⟨taken, leaves, goes'⟩ := passes.goes_admitted found inTime prompt fits new covered
      (door.trans isOpen) (by omega)
    exact ⟨taken, leaves, goes.unique goes'⟩
  case inLine =>
    intro passes covered isOpen full
    obtain ⟨taken, leaves, goes'⟩ := passes.goes_inLine found inTime prompt fits new covered
      (door.trans isOpen) (by omega)
    exact ⟨taken, leaves, goes.unique goes'⟩

end Decision

end FlashSale.Sale
