import FlashSale.Proofs.AdmissionQueue.Stream
import Mathlib.Data.List.Nodup

/-!
# Slots and turns

Every slot of a queue is free, belongs to a buyer, or is taken up by an order; buyers
stand in line only while no slot is free. `Orderly` says so, and each operation keeps it.
Deserting is left out: it drops orders together with their slots.

A task is called when it need not wait any longer: a buyer who owns a slot, or the
receiver whose turn it is while there is something for it. An operation wakes whom it
calls, so that whoever is called after it was called before or is woken.
-/

namespace FlashSale.AdmissionQueue

/-- Those who own a slot, and then those who stand in line for one. A task is in this
list at most once, since it sends one order at a time. -/
def buyers (q : AdmissionQueue) : List TaskId := q.granted ++ q.waiting

/-- Whether there is an order, or the end of the stream, for the receiver whose turn it is. -/
def serves (q : AdmissionQueue) : Bool := !q.buffer.isEmpty || q.ended

/-- Those who need not wait any longer: buyers who were given a slot, and the first
receiver while there is something for it. Whoever is called and asleep would sleep
forever. -/
def called (q : AdmissionQueue) : List TaskId :=
  q.granted ++ if q.serves then q.front else []

/-- Every one of so many slots is accounted for. It is free, it belongs to a buyer that
has not used it yet, or it is taken up by an order in the buffer; and the depth that the
queue shows is the length of the buffer. -/
structure Orderly (capacity : Nat) (q : AdmissionQueue) : Prop where
  slots : q.slots + q.granted.length + q.buffer.length = capacity
  full : q.waiting ≠ [] → q.slots = 0
  depth : q.depth = q.buffer.length
  buyers : q.buyers.Nodup
  receivers : q.receivers.Nodup

variable {q q' : AdmissionQueue} {capacity : Nat} {buyer receiver id : TaskId} {order : Order}
  {woken : List TaskId}

theorem mem_buyers : id ∈ q.buyers ↔ id ∈ q.granted ∨ id ∈ q.waiting := List.mem_append

theorem mem_called : id ∈ q.called ↔ id ∈ q.granted ∨ (q.serves = true ∧ id ∈ q.front) := by
  unfold called
  cases q.serves <;> simp

theorem serves_eq_false : q.serves = false ↔ q.buffer = [] ∧ q.ended = false := by
  simp [serves]

theorem mem_receivers_of_front (first : id ∈ q.front) : id ∈ q.receivers := List.mem_of_mem_take first

theorem mem_front_iff : id ∈ q.front ↔ q.receivers.head? = some id := by
  unfold front
  cases q.receivers <;> simp [eq_comm]

/-- In a queue where nobody is called, a buyer in line finds every slot taken up by an
order. So whoever still waits when all tasks sleep is held up by a full buffer and by
nothing else. -/
theorem Orderly.buffer_full (orderly : Orderly capacity q) (uncalled : q.called = [])
    (standing : q.waiting ≠ []) : q.buffer.length = capacity := by
  have granted : q.granted = [] := (List.append_eq_nil_iff.mp uncalled).1
  have slots := orderly.slots
  rw [orderly.full standing, granted] at slots
  simpa using slots

/-- In a queue where nobody is called, a receiver in line finds nothing: no order in the
buffer, and no end of the stream either. -/
theorem serves_of_uncalled (uncalled : q.called = []) (standing : q.receivers ≠ []) :
    q.serves = false := by
  have front : q.front ≠ [] := by simpa [front] using standing
  have idle := (List.append_eq_nil_iff.mp uncalled).2
  cases serves : q.serves with
  | false => rfl
  | true => exact absurd ((if_pos serves).symm.trans idle) front

/-- A queue that could be opened is the one that has so many free slots and nothing
else. -/
theorem ofCapacity_of_open? (opened : open? capacity = some q) : q = .ofCapacity capacity := by
  unfold open? at opened
  split at opened
  · exact (Option.some.inj opened).symm
  · cases opened

/-- A new queue is orderly. A capacity of zero counts as one, so that there is always a
slot to send through. -/
theorem ofCapacity_orderly (capacity : Nat) :
    Orderly (max capacity 1) (AdmissionQueue.ofCapacity capacity) where
  slots := rfl
  full standing := absurd rfl standing
  depth := rfl
  buyers := .nil
  receivers := .nil

@[simp] theorem passSlot_buyers (q : AdmissionQueue) : q.passSlot.1.buyers = q.buyers := by
  unfold passSlot buyers
  split <;> simp [*]

theorem claim_buyers (given : buyer ∈ q.granted) : (q.claim buyer).buyers = q.buyers.erase buyer :=
  (List.erase_append_left _ given).symm

/-- Whoever withdraws is no buyer any more, whether it owned a slot or stood in line.
The others stay, although one of them may have moved from the line to a slot. -/
theorem withdraw_buyers (q : AdmissionQueue) (buyer : TaskId) :
    (q.withdraw buyer).1.buyers = q.buyers.erase buyer := by
  unfold withdraw
  split
  · exact (passSlot_buyers _).trans (claim_buyers ‹_›)
  · exact (List.erase_append_right _ ‹_›).symm

@[simp] theorem withdraw_receivers (q : AdmissionQueue) (buyer : TaskId) :
    (q.withdraw buyer).1.receivers = q.receivers := by
  unfold withdraw passSlot
  split
  · dsimp only
    split <;> rfl
  · rfl

@[simp] theorem passSlot_receivers (q : AdmissionQueue) :
    q.passSlot.1.receivers = q.receivers := by
  unfold passSlot
  split <;> rfl

@[simp] theorem joinLine_buyers (q : AdmissionQueue) (receiver : TaskId) :
    (q.joinLine receiver).buyers = q.buyers := by
  unfold joinLine
  split <;> rfl

theorem buyers_of_pop? (popped : q.pop? = some (order, q', woken)) : q'.buyers = q.buyers := by
  obtain ⟨rest, -, rfl⟩ := pop?_eq_some popped
  exact passSlot_buyers _

theorem receivers_of_pop? (popped : q.pop? = some (order, q', woken)) :
    q'.receivers = q.receivers := by
  obtain ⟨rest, -, rfl⟩ := pop?_eq_some popped
  exact passSlot_receivers _

/-- Passing a slot on to somebody in line, or freeing it, makes up for a slot that is
missing from the account. All operations that give up a slot end with it. -/
theorem Orderly.passSlot (slots : q.slots + q.granted.length + q.buffer.length + 1 = capacity)
    (full : q.waiting ≠ [] → q.slots = 0) (depth : q.depth = q.buffer.length)
    (buyers : q.buyers.Nodup) (receivers : q.receivers.Nodup) : Orderly capacity q.passSlot.1 := by
  have same := passSlot_buyers q
  unfold AdmissionQueue.passSlot at same ⊢
  split at same
  · rename_i nobody
    refine ⟨?_, fun standing => absurd nobody standing, depth, same ▸ buyers, receivers⟩
    dsimp only
    omega
  · rename_i first rest line
    refine ⟨?_, fun _ => full (by simp [line]), depth, same ▸ buyers, receivers⟩
    simp only [List.length_append, List.length_singleton]
    omega

/-- A buyer that claims its slot leaves one slot unaccounted for, until it puts its
order in. -/
theorem Orderly.claim (orderly : Orderly capacity q) (given : buyer ∈ q.granted) :
    (q.claim buyer).slots + (q.claim buyer).granted.length + q.buffer.length + 1 = capacity := by
  have slots := orderly.slots
  have erased := List.length_erase_of_mem given
  have someone := List.length_pos_of_mem given
  simp only [AdmissionQueue.claim, erased]
  omega

/-- A buyer puts its order into a slot that it was given. Claiming takes one slot from
the account and the order makes up for it. -/
theorem Orderly.claim_put (orderly : Orderly capacity q) (given : buyer ∈ q.granted)
    (order : Order) : Orderly capacity ((q.claim buyer).put order) where
  slots := by
    have slots := orderly.claim given
    simp only [put_buffer, claim_buffer, List.length_append, List.length_singleton]
    exact (Nat.add_assoc ..).symm.trans slots
  full := orderly.full
  depth := by
    rw [put_buffer, claim_buffer, List.length_append, ← orderly.depth]
    rfl
  buyers := (claim_buyers given).symm ▸ orderly.buyers.erase buyer
  receivers := orderly.receivers

/-- A buyer puts its order into a slot that was free. Nobody can be in line then, so
that it passes no one. -/
theorem Orderly.free_put (orderly : Orderly capacity q) {slots : Nat} (slot : q.slots = slots + 1)
    (order : Order) : Orderly capacity (put { q with slots } order) where
  slots := by
    have before := orderly.slots
    simp only [put_buffer, List.length_append, List.length_singleton]
    change slots + q.granted.length + (q.buffer.length + 1) = capacity
    omega
  full standing := by
    have full := orderly.full standing
    omega
  depth := by
    rw [put_buffer, List.length_append, ← orderly.depth]
    rfl
  buyers := orderly.buyers
  receivers := orderly.receivers

/-- A new buyer stands in line while no slot is free. -/
theorem Orderly.join (orderly : Orderly capacity q) (full : q.slots = 0) (new : buyer ∉ q.buyers) :
    Orderly capacity { q with waiting := q.waiting ++ [buyer] } where
  slots := orderly.slots
  full _ := full
  depth := orderly.depth
  buyers := by
    have same : AdmissionQueue.buyers { q with waiting := q.waiting ++ [buyer] } =
        q.buyers ++ [buyer] := (List.append_assoc ..).symm
    rw [same]
    exact orderly.buyers.append (List.nodup_singleton _) (by simpa using new)
  receivers := orderly.receivers

theorem Orderly.joinLine (orderly : Orderly capacity q) (receiver : TaskId) :
    Orderly capacity (q.joinLine receiver) := by
  unfold AdmissionQueue.joinLine
  split
  · exact orderly
  · refine ⟨orderly.slots, orderly.full, orderly.depth, orderly.buyers, ?_⟩
    exact orderly.receivers.append (List.nodup_singleton _) (by simpa)

/-- A receiver may leave the line at any time: no slot belongs to a receiver. -/
theorem Orderly.leaveLine (orderly : Orderly capacity q) (receiver : TaskId) :
    Orderly capacity (q.leaveLine receiver).1 :=
  ⟨orderly.slots, orderly.full, orderly.depth, orderly.buyers, orderly.receivers.erase receiver⟩

/-- The oldest order leaves, and its slot is passed on. The depth is counted down only
after the pop, but before the receiver does anything else. -/
theorem Orderly.take (orderly : Orderly capacity q) (popped : q.pop? = some (order, q', woken)) :
    Orderly capacity q'.uncount := by
  obtain ⟨rest, buffer, rfl⟩ := pop?_eq_some popped
  obtain ⟨slots, full, depth, buyers, receivers⟩ := orderly
  rw [buffer, List.length_cons] at slots depth
  have passed : Orderly capacity
      (AdmissionQueue.passSlot { q with buffer := rest, depth := q.depth - 1 }).1 :=
    .passSlot slots full (by rw [depth]; rfl) buyers receivers
  have same : (AdmissionQueue.passSlot { q with buffer := rest, depth := q.depth - 1 }).1 =
      (AdmissionQueue.passSlot { q with buffer := rest }).1.uncount := by
    unfold AdmissionQueue.passSlot
    dsimp only
    split <;> rfl
  exact same ▸ passed

/-- A buyer may go away at any time. A slot that it owned goes to the first in line or
is free again; a place in the line is just given up. -/
theorem Orderly.withdraw (orderly : Orderly capacity q) (buyer : TaskId) :
    Orderly capacity (q.withdraw buyer).1 := by
  unfold AdmissionQueue.withdraw
  split
  · rename_i given
    exact .passSlot (orderly.claim given) orderly.full orderly.depth
      ((claim_buyers given).symm ▸ orderly.buyers.erase buyer) orderly.receivers
  · rename_i ungiven
    have buyers := orderly.buyers.erase buyer
    rw [AdmissionQueue.buyers, List.erase_append_right _ ungiven] at buyers
    refine ⟨orderly.slots, fun standing => orderly.full fun nobody => ?_, orderly.depth, buyers,
      orderly.receivers⟩
    simp [nobody] at standing

/-- Closing drops no order. Buyers in line are refused, while those that own a slot may
still use it. -/
theorem Orderly.close (orderly : Orderly capacity q) : Orderly capacity q.close.1 :=
  ⟨orderly.slots, orderly.full, orderly.depth, orderly.buyers, orderly.receivers⟩

/-- There is nothing to lose when a queue is deserted whose stream has ended: the last
receiver goes, and the queue only notes that it did. -/
theorem desert_of_ended (ends : q.ended = true) : q.desert = ({ q with deserted := true }, []) := by
  obtain ⟨-, waiting, granted, buffer⟩ := ended_iff.mp ends
  simp only [desert, waiting, granted, buffer]

theorem Orderly.desert (orderly : Orderly capacity q) (ends : q.ended = true) :
    Orderly capacity q.desert.1 := by
  rw [desert_of_ended ends]
  exact ⟨orderly.slots, orderly.full, orderly.depth, orderly.buyers, orderly.receivers⟩

/-- Two queues are both open, or closed, or deserted. What is sent and received in the
meantime does not open or close anything. -/
structure SameDoors (q q' : AdmissionQueue) : Prop where
  closed : q'.closed = q.closed
  deserted : q'.deserted = q.deserted

theorem passSlot_doors (q : AdmissionQueue) : SameDoors q q.passSlot.1 := by
  unfold passSlot
  split <;> exact ⟨rfl, rfl⟩

theorem joinLine_doors (q : AdmissionQueue) (receiver : TaskId) :
    SameDoors q (q.joinLine receiver) := by
  unfold joinLine
  split <;> exact ⟨rfl, rfl⟩

theorem withdraw_doors (q : AdmissionQueue) (buyer : TaskId) : SameDoors q (q.withdraw buyer).1 := by
  have passed := passSlot_doors (q.claim buyer)
  unfold withdraw
  split
  · exact ⟨passed.closed, passed.deserted⟩
  · exact ⟨rfl, rfl⟩

theorem pop?_doors (popped : q.pop? = some (order, q', woken)) : SameDoors q q' := by
  obtain ⟨rest, -, rfl⟩ := pop?_eq_some popped
  have passed := passSlot_doors { q with buffer := rest }
  exact ⟨passed.closed, passed.deserted⟩

/-- A slot is passed on to the first in line, who then owns it and is woken. The order
of those who wait does not change. -/
theorem passSlot_lines (q : AdmissionQueue) :
    q.passSlot.1.granted = q.granted ++ q.passSlot.2 ∧ q.waiting = q.passSlot.2 ++ q.passSlot.1.waiting := by
  unfold passSlot
  split <;> simp [*]

/-- The slot of an order that is taken out goes to the first buyer in line, if there is
one, just as with any slot that is given up. -/
theorem pop?_lines (popped : q.pop? = some (order, q', woken)) :
    q'.granted = q.granted ++ woken ∧ q.waiting = woken ++ q'.waiting := by
  unfold pop? at popped
  split at popped
  · cases popped
  · rename_i rest _
    have lines := passSlot_lines { q with buffer := rest }
    obtain ⟨-, passed⟩ := Prod.mk.inj (Option.some.inj popped)
    rw [passed] at lines
    exact lines

theorem front_sublist (q : AdmissionQueue) : q.front.Sublist q.receivers := List.take_sublist ..

/-- A receiver that leaves the line wakes none but another receiver, the one that is
first now. -/
theorem leaveLine_woken (q : AdmissionQueue) (receiver : TaskId) :
    (q.leaveLine receiver).2.Sublist (q.receivers.erase receiver) := by
  unfold leaveLine
  dsimp only
  split
  · exact front_sublist { q with receivers := q.receivers.erase receiver }
  · exact List.nil_sublist _

theorem joinLine_erase (q : AdmissionQueue) (receiver : TaskId) :
    ((q.joinLine receiver).receivers.erase receiver).Sublist q.receivers := by
  unfold joinLine
  split
  · exact List.erase_sublist
  · rename_i new
    rw [List.erase_append_right _ new]
    simp

theorem close_woken (q : AdmissionQueue) : q.close.2.Sublist q.receivers := by
  unfold close
  dsimp only
  split
  · exact front_sublist { q with closed := true }
  · exact List.nil_sublist _

/-- A buyer that goes away gives its slot to the first in line, or leaves the line. A
receiver is woken as well if the stream ends with this buyer. -/
theorem withdraw_lines (orderly : Orderly capacity q) (buyer : TaskId) : ∃ passed more,
    (q.withdraw buyer).2 = passed ++ more ∧ more.Sublist q.receivers ∧
      (q.withdraw buyer).1.granted = q.granted.erase buyer ++ passed ∧
      q.waiting.erase buyer = passed ++ (q.withdraw buyer).1.waiting := by
  unfold withdraw
  split
  · rename_i given
    have apart : buyer ∉ q.waiting :=
      fun standing => (List.nodup_append.mp orderly.buyers).2.2 _ given _ standing rfl
    have lines := passSlot_lines (q.claim buyer)
    have same := passSlot_receivers (q.claim buyer)
    have kept : q.waiting.erase buyer = q.waiting := List.erase_of_not_mem apart
    dsimp only
    split
    · exact ⟨_, _, rfl, same ▸ front_sublist _, lines.1, kept.trans lines.2⟩
    · exact ⟨_, [], (List.append_nil _).symm, List.nil_sublist _, lines.1, kept.trans lines.2⟩
  · rename_i ungiven
    have kept : q.granted = q.granted.erase buyer ++ [] := by
      rw [List.append_nil, List.erase_of_not_mem ungiven]
    dsimp only
    split
    · exact ⟨[], _, rfl, front_sublist q, kept, rfl⟩
    · exact ⟨[], [], rfl, List.nil_sublist _, kept, rfl⟩

/-- The receiver whose turn it is may have been called before the stream ended. If there
was nothing for it, then it is the end of the stream that calls it now. -/
theorem serves_of_buffer (same : q'.buffer = q.buffer) (serves : q'.serves = true) :
    q.serves = true ∨ q'.ended = true := by
  simp only [AdmissionQueue.serves, same, Bool.or_eq_true] at serves ⊢
  tauto

/-- An order that is put in calls the first receiver and no other one, and calls no
further buyer. -/
theorem called_put (call : id ∈ (q.put order).called) :
    id ∈ q.granted ∨ id ∈ (q.put order).front :=
  (mem_called.mp call).imp_right And.right

theorem joinLine_of_mem (standing : receiver ∈ q.receivers) : q.joinLine receiver = q :=
  if_pos standing

/-- A receiver that stands in line changes nothing for the others. It is called at once
only if it is the first one. -/
theorem called_joinLine (call : id ∈ (q.joinLine receiver).called) :
    id ∈ q.called ∨ (id = receiver ∧ id ∈ (q.joinLine receiver).front) := by
  by_cases standing : receiver ∈ q.receivers
  · rw [joinLine_of_mem standing] at call
    exact .inl call
  · obtain given | ⟨serves, first⟩ := mem_called.mp call
    · refine .inl (mem_called.mpr (.inl ?_))
      simpa only [joinLine, if_neg standing] using given
    · rw [joinLine, if_neg standing] at serves first ⊢
      rw [mem_front_iff] at first
      cases line : q.receivers with
      | nil =>
          rw [line] at first
          exact .inr ⟨(Option.some.inj first).symm, mem_front_iff.mpr (line ▸ first)⟩
      | cons other rest =>
          rw [line] at first
          exact .inl (mem_called.mpr (.inr ⟨serves, mem_front_iff.mpr (line ▸ first)⟩))

/-- A receiver that leaves the line hands its turn to the next one, who is woken if
there is something for it. -/
theorem called_leaveLine (call : id ∈ (q.leaveLine receiver).1.called) :
    id ∈ q.called ∨ id ∈ (q.leaveLine receiver).2 := by
  obtain given | ⟨serves, first⟩ := mem_called.mp call
  · exact .inl (mem_called.mpr (.inl given))
  · by_cases head : q.receivers.head? = some receiver
    · refine .inr ?_
      rw [leaveLine, if_pos head]
      exact first
    · refine .inl (mem_called.mpr (.inr ⟨serves, mem_front_iff.mpr ?_⟩))
      rw [mem_front_iff] at first
      change (q.receivers.erase receiver).head? = some id at first
      cases line : q.receivers with
      | nil =>
          rw [line] at first
          exact first
      | cons other rest =>
          have differs : other ≠ receiver := by
            rintro rfl
            exact head (by rw [line, List.head?_cons])
          rw [line, List.erase_cons_tail (by simpa using differs)] at first
          exact first

/-- Whoever owns a slot after one was passed on owned it before or is woken. So nobody
sleeps on a slot. -/
theorem granted_of_passSlot (given : id ∈ q.passSlot.1.granted) :
    id ∈ q.granted ∨ id ∈ q.passSlot.2 := by
  unfold passSlot at given ⊢
  split at given
  · exact .inl given
  · exact List.mem_append.mp given

/-- The first receiver takes an order and leaves: the buyer who gets the slot and the
next receiver are woken. Nobody else is called by it. -/
theorem called_take (popped : q.pop? = some (order, q', woken))
    (first : q.receivers.head? = some receiver)
    (call : id ∈ (q'.uncount.leaveLine receiver).1.called) :
    id ∈ q.granted ∨ id ∈ woken ∨ id ∈ (q'.uncount.leaveLine receiver).2 := by
  obtain given | ⟨-, next⟩ := mem_called.mp call
  · unfold pop? at popped
    split at popped
    · cases popped
    · rename_i rest _
      obtain ⟨-, passed⟩ := Prod.mk.inj (Option.some.inj popped)
      have given : id ∈ (passSlot { q with buffer := rest }).1.granted := by
        rw [passed]
        exact given
      obtain before | next := granted_of_passSlot given
      · exact .inl before
      · rw [passed] at next
        exact .inr (.inl next)
  · have line : q'.uncount.receivers.head? = some receiver :=
      (congrArg List.head? (receivers_of_pop? popped)).trans first
    refine .inr (.inr ?_)
    rw [leaveLine, if_pos line]
    exact next

/-- A buyer that goes away may end the stream or pass a slot on, and wakes whom it calls
by that. -/
theorem called_withdraw (call : id ∈ (q.withdraw buyer).1.called) :
    id ∈ q.called ∨ id ∈ (q.withdraw buyer).2 := by
  have still (serves : (q.withdraw buyer).1.serves = true) (first : id ∈ q.front)
      (ends : (q.withdraw buyer).1.ended = true → id ∈ (q.withdraw buyer).2) :
      id ∈ q.called ∨ id ∈ (q.withdraw buyer).2 := by
    obtain served | ended := serves_of_buffer (withdraw_buffer q buyer) serves
    · exact .inl (mem_called.mpr (.inr ⟨served, first⟩))
    · exact .inr (ends ended)
  obtain given | ⟨serves, first⟩ := mem_called.mp call
  · by_cases own : buyer ∈ q.granted
    · rw [withdraw, if_pos own] at given ⊢
      obtain before | woken := granted_of_passSlot given
      · exact .inl (mem_called.mpr (.inl (List.mem_of_mem_erase before)))
      · refine .inr ?_
        dsimp only
        split
        · exact List.mem_append_left _ woken
        · exact woken
    · rw [withdraw, if_neg own] at given
      exact .inl (mem_called.mpr (.inl given))
  · have kept : (q.withdraw buyer).1.front = q.front :=
      congrArg (List.take 1) (withdraw_receivers q buyer)
    rw [kept] at first
    refine still serves first fun ends => ?_
    by_cases own : buyer ∈ q.granted
    · rw [withdraw, if_pos own] at ends kept ⊢
      dsimp only at ends kept ⊢
      rw [if_pos ends, List.mem_append, kept]
      exact .inr first
    · rw [withdraw, if_neg own] at ends kept ⊢
      dsimp only at ends kept ⊢
      rw [if_pos ends, kept]
      exact first

/-- Closing may end the stream at once, when nothing is buffered and nobody sends. The
first receiver is woken then. -/
theorem called_close (call : id ∈ q.close.1.called) : id ∈ q.called ∨ id ∈ q.close.2 := by
  obtain given | ⟨serves, first⟩ := mem_called.mp call
  · exact .inl (mem_called.mpr (.inl given))
  · have buffer : q.close.1.buffer = q.buffer := rfl
    obtain served | ends := serves_of_buffer buffer serves
    · exact .inl (mem_called.mpr (.inr ⟨served, first⟩))
    · refine .inr ?_
      change id ∈ if q.close.1.ended = true then q.close.1.front else []
      rw [if_pos ends]
      exact first

/-- What a change of the queue that woke some tasks is to somebody: a place in a line is
kept, and a call is answered by waking. Every operation spares all but the task that
performs it. -/
structure Spares (q q' : AdmissionQueue) (woken : List TaskId) (id : TaskId) : Prop where
  buyer : id ∈ q'.buyers ↔ id ∈ q.buyers
  receiver : id ∈ q'.receivers ↔ id ∈ q.receivers
  call : id ∈ q'.called → id ∈ q.called ∨ id ∈ woken

/-- Two changes in a row wake the tasks that the one or the other wakes. -/
theorem Spares.trans {q'' : AdmissionQueue} {woken' : List TaskId} (first : Spares q q' woken id)
    (second : Spares q' q'' woken' id) : Spares q q'' (woken ++ woken') id where
  buyer := second.buyer.trans first.buyer
  receiver := second.receiver.trans first.receiver
  call call := by
    obtain before | awake := second.call call
    · exact (first.call before).imp_right (List.mem_append_left _)
    · exact .inr (List.mem_append_right _ awake)

theorem mem_called_of_granted (given : id ∈ q.granted) : id ∈ q.called :=
  mem_called.mpr (.inl given)

/-- A buyer that uses its slot wakes the first receiver, and leaves all the others as
they were. -/
theorem spares_claim_put (given : buyer ∈ q.granted) (order : Order) (other : id ≠ buyer) :
    Spares q ((q.claim buyer).put order) ((q.claim buyer).put order).front id where
  buyer := by
    have same : ((q.claim buyer).put order).buyers = (q.claim buyer).buyers := rfl
    rw [same, claim_buyers given, List.mem_erase_of_ne other]
  receiver := Iff.rfl
  call call := (called_put call).imp_left fun left => mem_called_of_granted (List.mem_of_mem_erase left)

theorem spares_free_put (slots : Nat) (order : Order) (id : TaskId) :
    Spares q (put { q with slots } order) (put { q with slots } order).front id :=
  ⟨Iff.rfl, Iff.rfl, fun call => (called_put call).imp_left mem_called_of_granted⟩

theorem spares_join (isOpen : q.isClosed = false) (other : id ≠ buyer) :
    Spares q { q with waiting := q.waiting ++ [buyer] } [] id where
  buyer := by simp [buyers, other]
  receiver := Iff.rfl
  call call := by
    refine .inl (mem_called.mpr ((mem_called.mp call).imp_right (And.imp_left fun serves => ?_)))
    obtain served | ends := serves_of_buffer (q := q) (by rfl) serves
    · exact served
    · have closed : q.closed = true := (ended_iff.mp ends).1
      simp [isClosed, closed] at isOpen

theorem spares_joinLine (other : id ≠ receiver) : Spares q (q.joinLine receiver) [] id where
  buyer := by rw [joinLine_buyers]
  receiver := by
    unfold joinLine
    split <;> simp [other]
  call call := .inl ((called_joinLine call).resolve_right fun own => other own.1)

theorem spares_leaveLine (other : id ≠ receiver) :
    Spares q (q.leaveLine receiver).1 (q.leaveLine receiver).2 id :=
  ⟨Iff.rfl, List.mem_erase_of_ne other, called_leaveLine⟩

/-- A receiver that takes an order away wakes the buyer who gets the slot, and the
receiver who is next. -/
theorem spares_take (popped : q.pop? = some (order, q', woken))
    (first : q.receivers.head? = some receiver) (other : id ≠ receiver) :
    Spares q (q'.uncount.leaveLine receiver).1 (woken ++ (q'.uncount.leaveLine receiver).2) id where
  buyer := by
    have same : (q'.uncount.leaveLine receiver).1.buyers = q'.buyers := rfl
    rw [same, buyers_of_pop? popped]
  receiver := by
    have left : id ∈ (q'.uncount.leaveLine receiver).1.receivers ↔ id ∈ q'.receivers :=
      List.mem_erase_of_ne other
    rw [left, receivers_of_pop? popped]
  call call := by
    obtain given | slot | next := called_take popped first call
    · exact .inl (mem_called_of_granted given)
    · exact .inr (List.mem_append_left _ slot)
    · exact .inr (List.mem_append_right _ next)

/-- A buyer that goes away leaves all the others in their places; it wakes those who
gain by it. -/
theorem spares_withdraw (other : id ≠ buyer) :
    Spares q (q.withdraw buyer).1 (q.withdraw buyer).2 id where
  buyer := by rw [withdraw_buyers, List.mem_erase_of_ne other]
  receiver := by rw [withdraw_receivers]
  call := called_withdraw

/-- Closing leaves everybody in place. Those who stand in line are told when their turn
comes. -/
theorem spares_close (id : TaskId) : Spares q q.close.1 q.close.2 id :=
  ⟨Iff.rfl, Iff.rfl, called_close⟩

theorem spares_desert (ends : q.ended = true) (woken : List TaskId) (id : TaskId) :
    Spares q q.desert.1 woken id := by
  rw [desert_of_ended ends]
  exact ⟨Iff.rfl, Iff.rfl, fun call => .inl call⟩

end FlashSale.AdmissionQueue
