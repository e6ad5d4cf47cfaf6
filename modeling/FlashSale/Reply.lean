import FlashSale.Error

/-!
# Replies of a store

A call of an in-memory store either answers, with a value or a refusal, or
comes to grief on a sum that leaves its range. The second ends the task that
made the call; what the call had written by then stays written, so it is part of
the store's next state in both cases.
-/

namespace FlashSale

inductive Reply (α : Type) where
  | answer (result : Except StoreError α)
  | overflow

namespace Reply

variable {α : Type}

def ok (a : α) : Reply α := .answer (.ok a)

def error (e : StoreError) : Reply α := .answer (.error e)

/-- The reply of a store that was switched to be unreachable. -/
def fault (call : StoreCall) : Reply α := error (.injectedFault call)

/-- The answer, unless the call came to grief. -/
def answer? : Reply α → Option (Except StoreError α)
  | answer result => some result
  | overflow => none

@[simp] theorem answer?_ok (a : α) : (ok a).answer? = some (.ok a) := rfl

@[simp] theorem answer?_error (e : StoreError) : (error e : Reply α).answer? = some (.error e) :=
  rfl

end Reply

end FlashSale
