import FlashSale.Proofs.AdmissionQueue.Slots
import FlashSale.Proofs.Table

/-!
# What the depth counts

The depth is kept apart from the buffer, and threads do not change the two together. A sender
that has a slot counts its order and puts it in; a receiver takes an order out, leaves the line
and stops counting the order. Between any two of these something else can happen. `Step` lists
what can happen, each time as one operation of the queue: any number of senders and receivers
come at any time, and whoever stands in a line may go away. Nobody is assumed to be woken.
A sender that came in while the queue was open may still ask for a slot after it was closed.
Deserting is left out: it happens when nobody is left to receive, and what it drops stays counted.

`Sound` is the invariant. The depth counts the orders in the buffer, those that are counted but
not put in yet, and those that are taken out but counted still. Since every one of the latter has
been counted, the depth never falls below zero, and since orders that are not taken out occupy
slots, it exceeds the number of slots by no more than what receivers hold.
-/

namespace FlashSale.AdmissionQueue

variable {q q' : AdmissionQueue} {buyer : TaskId} {order : Order} {woken : List TaskId}

/-- Slots that are free or given to somebody who still stands in line. Each of them can
still take up an order. -/
def unused (q : AdmissionQueue) : Nat := q.slots + q.granted.length

@[simp] theorem passSlot_unused (q : AdmissionQueue) : q.passSlot.1.unused = q.unused + 1 := by
  unfold passSlot unused
  split
  · exact Nat.add_right_comm ..
  · rw [List.length_append, List.length_singleton, Nat.add_assoc]

theorem claim_unused (given : buyer ∈ q.granted) : (q.claim buyer).unused + 1 = q.unused := by
  have erased := List.length_erase_of_mem given
  have someone := List.length_pos_of_mem given
  simp only [unused, claim, erased]
  omega

@[simp] theorem withdraw_unused (q : AdmissionQueue) (buyer : TaskId) :
    (q.withdraw buyer).1.unused = q.unused := by
  unfold withdraw
  split
  · exact (passSlot_unused _).trans (claim_unused ‹_›)
  · rfl

@[simp] theorem joinLine_unused (q : AdmissionQueue) (receiver : TaskId) :
    (q.joinLine receiver).unused = q.unused := by
  unfold joinLine
  split <;> rfl

/-- An order that is taken out leaves its slot behind, whoever gets it. -/
theorem unused_of_pop? (popped : q.pop? = some (order, q', woken)) : q'.unused = q.unused + 1 := by
  obtain ⟨rest, -, rfl⟩ := pop?_eq_some popped
  exact passSlot_unused _

@[simp] theorem passSlot_depth (q : AdmissionQueue) : q.passSlot.1.depth = q.depth := by
  unfold passSlot
  split <;> rfl

@[simp] theorem withdraw_depth (q : AdmissionQueue) (buyer : TaskId) :
    (q.withdraw buyer).1.depth = q.depth := by
  unfold withdraw
  split
  · exact passSlot_depth _
  · rfl

@[simp] theorem joinLine_depth (q : AdmissionQueue) (receiver : TaskId) :
    (q.joinLine receiver).depth = q.depth := by
  unfold joinLine
  split <;> rfl

theorem depth_of_pop? (popped : q.pop? = some (order, q', woken)) : q'.depth = q.depth := by
  obtain ⟨rest, -, rfl⟩ := pop?_eq_some popped
  exact passSlot_depth _

/-- Asks for a slot on behalf of a sender for whom the queue was open when it came in.
Whether the queue has been closed since then does not matter to it. -/
def ask (q : AdmissionQueue) (buyer : TaskId) : Admission × AdmissionQueue :=
  let asked := request { q with closed := false } buyer
  (asked.1, { asked.2 with closed := q.closed })

theorem ask_of_open (isOpen : q.isClosed = false) (buyer : TaskId) :
    q.ask buyer = q.request buyer := by
  have closed : q.closed = false := (Bool.or_eq_false_iff.mp isOpen).1
  have same : { q with closed := false } = q := by rw [← closed]
  have kept : (q.request buyer).2.closed = q.closed := by
    unfold request
    split
    · rfl
    · split <;> rfl
  rw [ask, same, ← kept]

/-- What such a sender is told, and what is left of the queue. It is refused when the
receiver is gone, and otherwise has a slot or stands in line. -/
inductive Asked (q : AdmissionQueue) (buyer : TaskId) : Admission × AdmissionQueue → Prop where
  | refused : Asked q buyer (.refused, q)
  | granted {slots} (free : q.slots = slots + 1) : Asked q buyer (.granted, { q with slots })
  | waiting : Asked q buyer (.waiting, { q with waiting := q.waiting ++ [buyer] })

theorem ask_asked (q : AdmissionQueue) (buyer : TaskId) : Asked q buyer (q.ask buyer) := by
  unfold ask request
  split
  · exact .refused
  · dsimp only
    split
    · exact .waiting
    · exact .granted ‹_›

/-- What somebody does at the queue, and how far it has come. -/
inductive Errand where
  /-- A sender has come in and is about to ask for a slot. -/
  | entering (order : Order)
  /-- A sender stands in line for a slot. -/
  | standing (order : Order)
  /-- A sender has a slot and is about to count its order. -/
  | counting (order : Order)
  /-- A sender has counted its order and is about to put it in. -/
  | putting (order : Order)
  /-- A receiver stands in line. -/
  | receiving
  /-- A receiver has taken an order out and is about to leave the line. -/
  | leaving (order : Order)
  /-- A receiver has left the line and is about to stop counting its order. -/
  | discounting (order : Order)

namespace Errand

/-- A sender has a slot and has not put its order in. -/
def hasSlot : Errand → Bool
  | counting _ | putting _ => true
  | _ => false

/-- A sender is between counting its order and putting it in. -/
def isPutting : Errand → Bool
  | putting _ => true
  | _ => false

/-- A receiver is between taking an order out and no longer counting it. -/
def isTaking : Errand → Bool
  | leaving _ | discounting _ => true
  | _ => false

/-- The depth and the buffer are not changed together: this errand has changed one of
them and is about to change the other. -/
def isMidway (e : Errand) : Bool := e.isPutting || e.isTaking

theorem hasSlot_of_isPutting {e : Errand} (puts : e.isPutting = true) : e.hasSlot = true := by
  cases e with
  | putting => rfl
  | _ => cases puts

end Errand

/-- A queue, and everybody who has to do with it. An errand that is over is not in the
table any more. -/
structure Crowd where
  queue : AdmissionQueue
  errands : Table TaskId Errand := ∅

namespace Crowd

/-- The sends between their counting and their putting in. -/
def putting (c : Crowd) : Nat := c.errands.count Errand.isPutting

/-- The receives between their taking out and the end of their counting. -/
def taking (c : Crowd) : Nat := c.errands.count Errand.isTaking

/-- The sends that own a slot. -/
def owning (c : Crowd) : Nat := c.errands.count Errand.hasSlot

/-- The errand has come further, and the queue has changed. -/
def follow (c : Crowd) (id : TaskId) (e : Errand) (queue : AdmissionQueue) : Crowd :=
  { queue, errands := c.errands.insert id e }

/-- The errand is over, and the queue has changed. -/
def finish (c : Crowd) (id : TaskId) (queue : AdmissionQueue) : Crowd :=
  { queue, errands := c.errands.erase id }

theorem follow_follow (c : Crowd) (me : TaskId) (e e' : Errand) (q q' : AdmissionQueue) :
    (c.follow me e q).follow me e' q' = c.follow me e' q' :=
  congrArg (Crowd.mk q') (Table.insert_insert ..)

theorem follow_finish (c : Crowd) (me : TaskId) (e : Errand) (q q' : AdmissionQueue) :
    (c.follow me e q).finish me q' = c.finish me q' :=
  congrArg (Crowd.mk q') (Table.erase_insert ..)

theorem follow_errand (c : Crowd) (me : TaskId) (e : Errand) (q : AdmissionQueue) :
    (c.follow me e q).errands.get? me = some e :=
  Table.get?_insert_self ..

/-- What can happen at a queue. Whoever has an order to count or to put in, or has taken
one out, does not wait and cannot go away. -/
inductive Step (c : Crowd) : Crowd → Prop where
  -- A sender.
  | enter (id : TaskId) (order : Order) (idle : c.errands.get? id = none)
      (isOpen : c.queue.isClosed = false) : Step c (c.follow id (.entering order) c.queue)
  | granted (id : TaskId) {order queue} (here : c.errands.get? id = some (.entering order))
      (reply : c.queue.ask id = (.granted, queue)) : Step c (c.follow id (.counting order) queue)
  | stand (id : TaskId) {order queue} (here : c.errands.get? id = some (.entering order))
      (reply : c.queue.ask id = (.waiting, queue)) : Step c (c.follow id (.standing order) queue)
  | claim (id : TaskId) {order} (here : c.errands.get? id = some (.standing order))
      (given : id ∈ c.queue.granted) : Step c (c.follow id (.counting order) (c.queue.claim id))
  | withdraw (id : TaskId) {order} (here : c.errands.get? id = some (.standing order)) :
      Step c (c.finish id (c.queue.withdraw id).1)
  | count (id : TaskId) {order} (here : c.errands.get? id = some (.counting order)) :
      Step c (c.follow id (.putting order) c.queue.count)
  | push (id : TaskId) {order} (here : c.errands.get? id = some (.putting order)) :
      Step c (c.finish id (c.queue.push order))
  -- A receiver. It leaves without an order when it goes away and at the end of the stream.
  | join (id : TaskId) (idle : c.errands.get? id = none) :
      Step c (c.follow id .receiving (c.queue.joinLine id))
  | giveUp (id : TaskId) (here : c.errands.get? id = some .receiving) :
      Step c (c.finish id (c.queue.leaveLine id).1)
  | take (id : TaskId) {order queue woken} (here : c.errands.get? id = some .receiving)
      (first : c.queue.receivers.head? = some id)
      (popped : c.queue.pop? = some (order, queue, woken)) :
      Step c (c.follow id (.leaving order) queue)
  | leave (id : TaskId) {order} (here : c.errands.get? id = some (.leaving order)) :
      Step c (c.follow id (.discounting order) (c.queue.leaveLine id).1)
  | uncount (id : TaskId) {order} (here : c.errands.get? id = some (.discounting order)) :
      Step c (c.finish id c.queue.uncount)
  -- Anybody.
  | close : Step c { c with queue := c.queue.close.1 }

/-- What can come of an empty queue with nobody there, by any number of steps in any
order. -/
inductive Reachable (capacity : Nat) : Crowd → Prop where
  | start : Reachable capacity { queue := .ofCapacity capacity }
  | step {c c' : Crowd} (before : Reachable capacity c) (step : Step c c') : Reachable capacity c'

/-- The depth counts every order from its counting to the end of it, and every slot is
unused, owned by a sender or taken up by an order. -/
structure Sound (capacity : Nat) (c : Crowd) : Prop where
  depth : c.queue.depth = c.queue.buffer.length + c.putting + c.taking
  slots : c.queue.unused + c.owning + c.queue.buffer.length = max capacity 1

/-- Whether an errand passes a test, as a number; nothing passes if there is none. -/
def tally (p : Errand → Bool) (e : Option Errand) : Nat := e.elim 0 fun e => (p e).toNat

section Sound

variable {capacity : Nat} {c c' : Crowd} {id : TaskId} {e : Errand}

/-- The numbers of errands change with one errand, which has come from one stage to
another. There is no stage before its beginning and none after its end. -/
def Shifts (c c' : Crowd) (before after : Option Errand) : Prop :=
  ∀ p, c'.errands.count p + tally p before = c.errands.count p + tally p after

theorem shifts_begin (idle : c.errands.get? id = none) (e : Errand) (queue : AdmissionQueue) :
    Shifts c (c.follow id e queue) none (some e) :=
  fun p => Table.count_insert_fresh p idle e

theorem shifts_follow (here : c.errands.get? id = some e) (e' : Errand) (queue : AdmissionQueue) :
    Shifts c (c.follow id e' queue) (some e) (some e') :=
  fun p => Table.count_insert p here e'

theorem shifts_finish (here : c.errands.get? id = some e) (queue : AdmissionQueue) :
    Shifts c (c.finish id queue) (some e) none :=
  fun p => Table.count_erase p here

/-- An errand may go on if the depth and the slots of the queue go along. Every step is
a case of this, with its own two equations about the queue. -/
theorem Sound.shifts {before after : Option Errand} (sound : c.Sound capacity)
    (shifts : Shifts c c' before after)
    (depth : c'.queue.depth + c.queue.buffer.length +
        (tally Errand.isPutting before + tally Errand.isTaking before) =
      c.queue.depth + c'.queue.buffer.length +
        (tally Errand.isPutting after + tally Errand.isTaking after))
    (slots : c'.queue.unused + c'.queue.buffer.length + tally Errand.hasSlot after =
      c.queue.unused + c.queue.buffer.length + tally Errand.hasSlot before) :
    c'.Sound capacity := by
  obtain ⟨counts, owned⟩ := sound
  have putting : c'.putting + _ = c.putting + _ := shifts Errand.isPutting
  have taking : c'.taking + _ = c.taking + _ := shifts Errand.isTaking
  have owning : c'.owning + _ = c.owning + _ := shifts Errand.hasSlot
  constructor
  · omega
  · omega

/-- An order that is to be discounted has been counted: it is among those that the
invariant adds up, so that there is something to subtract from. -/
theorem Sound.counted (sound : c.Sound capacity)
    (here : c.errands.get? id = some (.discounting order)) :
    c.queue.uncount.depth + 1 = c.queue.depth := by
  have taking : (c.errands.erase id).count Errand.isTaking + 1 = c.taking :=
    Table.count_erase Errand.isTaking here
  have depth := sound.depth
  simp only [AdmissionQueue.uncount]
  omega

/-- No step breaks the invariant, whoever takes it and whatever the others are about.
The cases are those of the steps, each with the counts that it changes. -/
theorem Step.sound (step : Step c c') (sound : c.Sound capacity) : c'.Sound capacity := by
  cases step with
  | enter id order idle => exact sound.shifts (shifts_begin idle _ _) rfl rfl
  | granted id here reply =>
      have asked := c.queue.ask_asked id
      rw [reply] at asked
      cases asked with
      | @granted slots free =>
          -- The sender owns the slot now; nothing is counted yet.
          refine sound.shifts (shifts_follow here _ _) rfl ?_
          show slots + c.queue.granted.length + c.queue.buffer.length + 1 =
            c.queue.slots + c.queue.granted.length + c.queue.buffer.length
          omega
  | stand id here reply =>
      have asked := c.queue.ask_asked id
      rw [reply] at asked
      cases asked with
      | waiting => exact sound.shifts (shifts_follow here _ _) rfl rfl
  | claim id here given =>
      have slot := claim_unused given
      refine sound.shifts (shifts_follow here _ _) rfl ?_
      show (c.queue.claim id).unused + c.queue.buffer.length + 1 =
        c.queue.unused + c.queue.buffer.length
      omega
  | withdraw id here =>
      refine sound.shifts (shifts_finish here _) ?_ ?_
      · simp [finish, tally, Errand.isPutting, Errand.isTaking]
      · simp [finish, tally, Errand.hasSlot]
  | count id here =>
      refine sound.shifts (shifts_follow here _ _) ?_ rfl
      show c.queue.depth + 1 + c.queue.buffer.length = c.queue.depth + c.queue.buffer.length + 1
      omega
  | @push id order here =>
      have longer : (c.queue.push order).buffer.length = c.queue.buffer.length + 1 :=
        List.length_append
      refine sound.shifts (shifts_finish here _) ?_ ?_
      · show c.queue.depth + c.queue.buffer.length + 1 =
          c.queue.depth + (c.queue.push order).buffer.length
        omega
      · show c.queue.unused + (c.queue.push order).buffer.length =
          c.queue.unused + c.queue.buffer.length + 1
        omega
  | join id idle =>
      refine sound.shifts (shifts_begin idle _ _) ?_ ?_
      · simp [follow, tally, Errand.isPutting, Errand.isTaking]
      · simp [follow, tally, Errand.hasSlot]
  | giveUp id here => exact sound.shifts (shifts_finish here _) rfl rfl
  | @take id order queue woken here first popped =>
      have shorter := congrArg List.length (buffer_of_pop? popped)
      have freed := unused_of_pop? popped
      have depth := depth_of_pop? popped
      rw [List.length_cons] at shorter
      -- The order is counted still, but its slot may be used again.
      refine sound.shifts (shifts_follow here _ _) ?_ ?_
      · show queue.depth + c.queue.buffer.length = c.queue.depth + queue.buffer.length + 1
        omega
      · show queue.unused + queue.buffer.length = c.queue.unused + c.queue.buffer.length
        omega
  | leave id here => exact sound.shifts (shifts_follow here _ _) rfl rfl
  | uncount id here =>
      -- Subtraction on numbers stops at zero: that it does not here is due to the invariant.
      have counted := sound.counted here
      refine sound.shifts (shifts_finish here _) ?_ rfl
      show c.queue.uncount.depth + c.queue.buffer.length + 1 =
        c.queue.depth + c.queue.buffer.length
      omega
  | close => exact ⟨sound.depth, sound.slots⟩

/-- The invariant holds at all times, by induction on how the crowd came about. That is
true in the middle of an errand as well. -/
theorem Reachable.sound (reached : Reachable capacity c) : c.Sound capacity := by
  induction reached with
  | start => exact ⟨rfl, rfl⟩
  | step _ step ih => exact step.sound ih

/-- What the depth says of a crowd. -/
structure Counts (capacity : Nat) (c : Crowd) : Prop where
  balance : c.queue.depth = c.queue.buffer.length + c.putting + c.taking
  /-- Whoever subtracts has something to subtract from. -/
  covered : ∀ id order, c.errands.get? id = some (.discounting order) →
    c.queue.uncount.depth + 1 = c.queue.depth
  buffered : c.queue.buffer.length ≤ c.queue.depth
  bounded : c.queue.depth ≤ max capacity 1 + c.taking
  settled : c.queue.depth = c.queue.buffer.length ↔
    ∀ id e, c.errands.get? id = some e → e.isMidway = false
  /-- The depth fits in a word. -/
  fits : max capacity 1 ≤ maxCapacity → c.taking < 2 ^ 63 → c.queue.depth < 2 ^ 64

/-- An order that is put in or about to be takes up a slot, so that no more of them can
be there than the queue has slots. -/
theorem Sound.occupied (sound : c.Sound capacity) :
    c.queue.buffer.length + c.putting ≤ max capacity 1 := by
  have owns : c.putting ≤ c.owning := Table.count_mono _ fun _ => Errand.hasSlot_of_isPutting
  have slots := sound.slots
  omega

/-- Nobody is midway if and only if no send is between its two changes and no receive
is. -/
theorem nobody_midway_iff :
    (∀ id e, c.errands.get? id = some e → e.isMidway = false) ↔ c.putting = 0 ∧ c.taking = 0 := by
  simp only [putting, taking, Table.count_eq_zero, Errand.isMidway, Bool.or_eq_false_iff, forall_and]

/-- The depth counts what is in the buffer and whoever is midway. It does not fall below
zero, lags behind the buffer at no time, and is ahead of it only while somebody is
midway. -/
theorem depth_counts (reached : Reachable capacity c) : c.Counts capacity := by
  have sound := reached.sound
  have balance := sound.depth
  have occupied := sound.occupied
  refine ⟨balance, fun id order here => sound.counted here, by omega, by omega, ?_, ?_⟩
  · rw [nobody_midway_iff]
    omega
  · intro fits few
    have most : maxCapacity < 2 ^ 63 := by decide
    omega

/-- A queue of one slot. While its order is out but counted still, the slot is taken again and the
next order is counted: the depth is two, and the buffer is empty. -/
theorem depth_counts_race : ∃ c, Reachable 1 c ∧ c.Counts 1 ∧
    c.queue.buffer = [] ∧ c.putting = 1 ∧ c.taking = 1 ∧ c.queue.depth = 2 := by
  let order : Order := .pending ⟨1⟩ "ann" "tea" 1 (.ofMillis 0)
  have empty : Reachable 1 _ := .start
  have sent := (((empty.step (.enter 0 order rfl rfl)).step (.granted 0 rfl rfl)).step
    (.count 0 rfl)).step (.push 0 rfl)
  have taken := ((sent.step (.join 1 rfl)).step (.take 1 rfl rfl rfl)).step (.leave 1 rfl)
  have counted := ((taken.step (.enter 2 order rfl rfl)).step (.granted 2 rfl rfl)).step
    (.count 2 rfl)
  exact ⟨_, counted, depth_counts counted, rfl, rfl, rfl, rfl⟩

end Sound

end Crowd

end FlashSale.AdmissionQueue
