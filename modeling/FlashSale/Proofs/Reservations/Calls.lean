import FlashSale.Reservations
import FlashSale.Sale.Task
import Mathlib.Data.List.Induction

/-!
# Courses of the reservation store

A reservation store is called, at some time each, and its switches are set. The log of a course
notes the calls with their replies; a call that came to grief on a sum has none.
-/

namespace FlashSale

/-- What a call of the reservation store brings back. -/
inductive ReservationReply where
  | unit (result : Except StoreError Unit)
  | flag (result : Except StoreError Bool)

/-- The call is answered, and not by saying no. -/
def ReservationReply.agrees : ReservationReply → Bool
  | unit (.ok ()) => true
  | flag (.ok said) => said
  | _ => false

/-- The call is one that takes stock. Of the calls for an item this is the one that can
be told no. -/
def ReservationCall.isTake : ReservationCall → Bool
  | .take .. => true
  | _ => false

/-- The item whose counter a call is about. -/
def ReservationCall.item? : ReservationCall → Option String
  | setStock item _ => some item
  | take item _ => some item
  | putBack item _ => some item
  | mark _ => none

/-- What happens to a store: it is called at some time, or one of its switches is set.
-/
inductive ReservationAction where
  | call (time : Nat) (call : ReservationCall)
  | unavailable (on : Bool)
  | failIncrements (on : Bool)
deriving DecidableEq

namespace Reservations

/-- A call of the store in memory, with its reply and what it leaves. There is no reply
where a sum leaves its range. -/
def handle (s : Reservations) (now : Nat) :
    ReservationCall → Option ReservationReply × Reservations
  | .setStock item quantity =>
    let (reply, s) := s.setStock item quantity
    (reply.answer?.map .unit, s)
  | .take item quantity =>
    let (reply, s) := s.take item quantity
    (reply.answer?.map .flag, s)
  | .putBack item quantity =>
    let (reply, s) := s.putBack item quantity
    (reply.answer?.map .unit, s)
  | .mark key =>
    let (reply, s) := s.mark now key
    (reply.answer?.map .flag, s)

/-- What an action leaves of the store. -/
def perform (s : Reservations) : ReservationAction → Reservations
  | .call time call => (s.handle time call).2
  | .unavailable on => { s with unavailable := on }
  | .failIncrements on => { s with failIncrements := on }

/-- The store after all of the actions. -/
def after (s : Reservations) (actions : List ReservationAction) : Reservations :=
  actions.foldl perform s

/-- A call that was made, with its time and its reply. Nothing in the log says what the
store had. -/
structure Entry where
  time : Nat
  call : ReservationCall
  reply : Option ReservationReply

/-- The call went through. An error, a no and a call that came to grief are all the same
here. -/
def Entry.succeeded (e : Entry) : Bool := e.reply.any ReservationReply.agrees

/-- What is noted of an action. -/
def note? (s : Reservations) : ReservationAction → Option Entry
  | .call time call => some ⟨time, call, (s.handle time call).1⟩
  | _ => none

/-- The calls of a course. -/
def log (s : Reservations) : List ReservationAction → List Entry
  | [] => []
  | a :: rest => (s.note? a).toList ++ (s.perform a).log rest

variable (s : Reservations) (done : List ReservationAction) (a : ReservationAction)

@[simp] theorem after_nil : s.after [] = s := rfl

@[simp] theorem after_concat : s.after (done ++ [a]) = (s.after done).perform a := by
  simp [after]

@[simp] theorem log_nil : s.log [] = [] := rfl

@[simp] theorem log_concat :
    s.log (done ++ [a]) = s.log done ++ ((s.after done).note? a).toList := by
  induction done generalizing s with
  | nil => simp [log]
  | cons b rest ih => simp [log, after, ih]

end Reservations

end FlashSale
