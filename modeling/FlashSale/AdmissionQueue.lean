import FlashSale.Order.Basic

/-!
# The admission queue

Orders pass from buyers to workers through a buffer of bounded size. A buyer
needs a slot before it may put an order in; without a free one it stands in line
and is given the slot of an order that leaves, first come, first served. Receivers
stand in a line of their own, and only the first of them takes orders out.

Closing refuses later buyers. Those in line keep their place, so the stream ends
when the queue is closed, nobody is in line or owns a slot, and the buffer is
empty. When no receiver is left at all the queue is deserted: what it holds is
lost, and everybody in line is refused.

The depth is counted apart from the buffer, before an order becomes visible and
after it has left. Operations that let somebody else go on return whom to wake;
nobody here waits, and the order in which tasks run is not this module's concern.
-/

namespace FlashSale

/-- The name of a task. -/
abbrev TaskId := Nat

structure AdmissionQueue where
  capacity : Nat
  /-- Slots that nobody owns. -/
  slots : Nat
  buffer : List Order := []
  depth : Nat := 0
  /-- Buyers in line for a slot. -/
  waiting : List TaskId := []
  /-- Buyers that were given a slot while in line and have not used it yet. -/
  granted : List TaskId := []
  /-- Receivers in line; the first one takes orders. -/
  receivers : List TaskId := []
  closed : Bool := false
  deserted : Bool := false

namespace AdmissionQueue

/-- An empty queue for at least one order. -/
def ofCapacity (capacity : Nat) : AdmissionQueue :=
  { capacity := max capacity 1, slots := max capacity 1 }

/-- The greatest capacity that a queue can have. -/
def maxCapacity : Nat := 2305843009213693951

/-- An empty queue, if its capacity is not out of range. -/
def open? (capacity : Nat) : Option AdmissionQueue :=
  if max capacity 1 ≤ maxCapacity then some (ofCapacity capacity) else none

/-- Whether a buyer who comes now is refused. -/
def isClosed (q : AdmissionQueue) : Bool := q.closed || q.deserted

/-- Whether no order will come any more. -/
def ended (q : AdmissionQueue) : Bool :=
  q.closed && q.waiting.isEmpty && q.granted.isEmpty && q.buffer.isEmpty

/-- The receiver whose turn it is. -/
def front (q : AdmissionQueue) : List TaskId := q.receivers.take 1

/-- What a buyer is told who asks for a slot. -/
inductive Admission where
  | refused
  | granted
  | waiting
deriving DecidableEq, Repr

/-- Asks for a slot: a free one is given at once, else the buyer stands in line. -/
def request (q : AdmissionQueue) (buyer : TaskId) : Admission × AdmissionQueue :=
  if q.isClosed then (.refused, q)
  else
    match q.slots with
    | 0 => (.waiting, { q with waiting := q.waiting ++ [buyer] })
    | slots + 1 => (.granted, { q with slots })

/-- A buyer uses the slot that it was given while in line. -/
def claim (q : AdmissionQueue) (buyer : TaskId) : AdmissionQueue :=
  { q with granted := q.granted.erase buyer }

/-- Passes a slot on to the first in line; with nobody there it becomes free. -/
def passSlot (q : AdmissionQueue) : AdmissionQueue × List TaskId :=
  match q.waiting with
  | [] => ({ q with slots := q.slots + 1 }, [])
  | buyer :: waiting => ({ q with waiting, granted := q.granted ++ [buyer] }, [buyer])

/-- A buyer in line goes away. -/
def withdraw (q : AdmissionQueue) (buyer : TaskId) : AdmissionQueue × List TaskId :=
  if buyer ∈ q.granted then
    let (q, woken) := (q.claim buyer).passSlot
    (q, if q.ended then woken ++ q.front else woken)
  else
    let q := { q with waiting := q.waiting.erase buyer }
    (q, if q.ended then q.front else [])

/-- Counts an order that is about to be put in. -/
def count (q : AdmissionQueue) : AdmissionQueue := { q with depth := q.depth + 1 }

/-- Makes an order visible to receivers. -/
def push (q : AdmissionQueue) (order : Order) : AdmissionQueue :=
  { q with buffer := q.buffer ++ [order] }

/-- Puts an order into a slot that the buyer owns. -/
def put (q : AdmissionQueue) (order : Order) : AdmissionQueue := q.count.push order

/-- Takes the oldest order out and passes its slot on. -/
def pop? (q : AdmissionQueue) : Option (Order × AdmissionQueue × List TaskId) :=
  match q.buffer with
  | [] => none
  | order :: buffer => some (order, passSlot { q with buffer })

/-- Stops counting an order that has left. -/
def uncount (q : AdmissionQueue) : AdmissionQueue := { q with depth := q.depth - 1 }

/-- A receiver stands in line, unless it does already. -/
def joinLine (q : AdmissionQueue) (receiver : TaskId) : AdmissionQueue :=
  if receiver ∈ q.receivers then q else { q with receivers := q.receivers ++ [receiver] }

/-- A receiver leaves the line; if it was the first, the next one's turn comes. -/
def leaveLine (q : AdmissionQueue) (receiver : TaskId) : AdmissionQueue × List TaskId :=
  let rest := { q with receivers := q.receivers.erase receiver }
  (rest, if q.receivers.head? = some receiver then rest.front else [])

/-- Refuses buyers from now on. -/
def close (q : AdmissionQueue) : AdmissionQueue × List TaskId :=
  let q := { q with closed := true }
  (q, if q.ended then q.front else [])

/-- The last receiver is gone. The depth goes on counting what was lost. -/
def desert (q : AdmissionQueue) : AdmissionQueue × List TaskId :=
  ({ q with buffer := [], waiting := [], granted := [], deserted := true }, q.waiting)

end AdmissionQueue

end FlashSale
