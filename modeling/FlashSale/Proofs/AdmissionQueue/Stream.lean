import FlashSale.AdmissionQueue

/-!
# The buffer and the end of the stream

Only putting an order in, taking one out and deserting the queue change the buffer.
Once the stream has ended it stays so: nobody is in line and nobody comes, so that no
slot is given and no order put in any more.
-/

namespace FlashSale.AdmissionQueue

/-- A buyer has a slot, and the queue is as it is just before the buyer uses it. It was
given the slot while it stood in line, or it found a free one. -/
inductive HasSlot (q : AdmissionQueue) (buyer : TaskId) : AdmissionQueue → Prop where
  | granted (given : buyer ∈ q.granted) : HasSlot q buyer (q.claim buyer)
  | free {slots : Nat} (isOpen : q.isClosed = false) (slot : q.slots = slots + 1) :
      HasSlot q buyer { q with slots }

/-- A buyer stands in line, where it has been before or where it has just put itself
because no slot was free. -/
inductive StandsInLine (q : AdmissionQueue) (buyer : TaskId) : AdmissionQueue → Prop where
  | still (standing : buyer ∈ q.waiting) : StandsInLine q buyer q
  | joined (isOpen : q.isClosed = false) (full : q.slots = 0) :
      StandsInLine q buyer { q with waiting := q.waiting ++ [buyer] }

/-- A buyer that asks for a slot is refused, has to wait or has one. It is refused if
and only if the queue is closed to it. -/
theorem request_cases (q : AdmissionQueue) (buyer : TaskId) :
    (q.isClosed = true ∧ q.request buyer = (.refused, q)) ∨
    (∃ queue, StandsInLine q buyer queue ∧ q.request buyer = (.waiting, queue)) ∨
    (∃ queue, HasSlot q buyer queue ∧ q.request buyer = (.granted, queue)) := by
  cases isClosed : q.isClosed with
  | true => exact .inl ⟨rfl, by simp [request, isClosed]⟩
  | false =>
      cases slot : q.slots with
      | zero =>
          refine .inr (.inl ⟨_, .joined isClosed slot, ?_⟩)
          simp [request, isClosed, slot]
      | succ slots =>
          refine .inr (.inr ⟨_, .free isClosed slot, ?_⟩)
          simp [request, isClosed, slot]

variable {q q' : AdmissionQueue} {buyer : TaskId}

theorem HasSlot.buffer (h : HasSlot q buyer q') : q'.buffer = q.buffer := by
  cases h <;> rfl

theorem StandsInLine.buffer (h : StandsInLine q buyer q') : q'.buffer = q.buffer := by
  cases h <;> rfl

@[simp] theorem put_buffer (q : AdmissionQueue) (order : Order) :
    (q.put order).buffer = q.buffer ++ [order] := rfl

@[simp] theorem claim_buffer (q : AdmissionQueue) (buyer : TaskId) :
    (q.claim buyer).buffer = q.buffer := rfl

@[simp] theorem passSlot_buffer (q : AdmissionQueue) : q.passSlot.1.buffer = q.buffer := by
  unfold passSlot
  split <;> rfl

@[simp] theorem withdraw_buffer (q : AdmissionQueue) (buyer : TaskId) :
    (q.withdraw buyer).1.buffer = q.buffer := by
  unfold withdraw
  split <;> simp

@[simp] theorem joinLine_buffer (q : AdmissionQueue) (receiver : TaskId) :
    (q.joinLine receiver).buffer = q.buffer := by
  unfold joinLine
  split <;> rfl

@[simp] theorem leaveLine_buffer (q : AdmissionQueue) (receiver : TaskId) :
    (q.leaveLine receiver).1.buffer = q.buffer := rfl

/-- An order that is popped is the oldest one, and its slot is passed on to those who
stand in line. -/
theorem pop?_eq_some {order : Order} {woken : List TaskId}
    (h : q.pop? = some (order, q', woken)) :
    ∃ rest, q.buffer = order :: rest ∧ q' = (passSlot { q with buffer := rest }).1 := by
  unfold pop? at h
  split at h
  · cases h
  · rename_i first rest eq
    obtain ⟨rfl, passed⟩ := Prod.mk.inj (Option.some.inj h)
    exact ⟨rest, eq, (congrArg Prod.fst passed).symm⟩

theorem buffer_of_pop? {order : Order} {woken : List TaskId}
    (h : q.pop? = some (order, q', woken)) : q.buffer = order :: q'.buffer := by
  obtain ⟨rest, eq, rfl⟩ := pop?_eq_some h
  simpa using eq

/-- The stream has ended when the queue is closed, nobody is about to send any more, and
no order is left. -/
theorem ended_iff : q.ended = true ↔
    q.closed = true ∧ q.waiting = [] ∧ q.granted = [] ∧ q.buffer = [] := by
  simp [ended, and_assoc]

theorem buffer_of_ended (h : q.ended = true) : q.buffer = [] := (ended_iff.mp h).2.2.2

/-- The stream goes on while somebody has a slot, even when the queue has been closed.
-/
theorem HasSlot.not_ended (h : HasSlot q buyer q') : q.ended = false := by
  cases h with
  | granted given =>
      have someone : q.granted ≠ [] := List.ne_nil_of_mem given
      simp [ended, someone]
  | free isOpen slot =>
      have isOpen : q.closed = false := by simpa [isClosed] using (Bool.or_eq_false_iff.mp isOpen).1
      simp [ended, isOpen]

theorem StandsInLine.not_ended (h : StandsInLine q buyer q') : q.ended = false := by
  cases h with
  | still standing =>
      have someone : q.waiting ≠ [] := List.ne_nil_of_mem standing
      simp [ended, someone]
  | joined isOpen full =>
      have isOpen : q.closed = false := by simpa [isClosed] using (Bool.or_eq_false_iff.mp isOpen).1
      simp [ended, isOpen]

@[simp] theorem joinLine_ended (q : AdmissionQueue) (receiver : TaskId) :
    (q.joinLine receiver).ended = q.ended := by
  unfold joinLine
  split <;> rfl

@[simp] theorem leaveLine_ended (q : AdmissionQueue) (receiver : TaskId) :
    (q.leaveLine receiver).1.ended = q.ended := rfl

theorem withdraw_ended (h : q.ended = true) : (q.withdraw buyer).1.ended = true := by
  obtain ⟨closed, waiting, granted, buffer⟩ := ended_iff.mp h
  simp [withdraw, ended, closed, waiting, granted, buffer]

/-- A stream that has ended stays so when the queue is closed again. -/
theorem close_ended (h : q.ended = true) : q.close.1.ended = true := by
  obtain ⟨-, waiting, granted, buffer⟩ := ended_iff.mp h
  simp [close, ended, waiting, granted, buffer]

/-- When the last receiver goes away from a closed queue, the stream has ended for good.
-/
theorem desert_ended (h : q.closed = true) : q.desert.1.ended = true := by
  simp [desert, ended, h]

end FlashSale.AdmissionQueue
