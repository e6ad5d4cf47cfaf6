import FlashSale.Sale.Run
import Mathlib.Data.List.Induction

/-!
# What may happen to a sale

A sale changes when one of its tasks takes a step, when time passes, and when
somebody outside starts or drops a task, calls a store or throws a switch. An
`Action` is one such change, and a course of the sale is a list of them. Nothing
is said here about which task's turn comes: a task whose turn comes while it waits
finds that it still waits, so that every order of turns is a course.

Which actions the outside world may take is a rule, given with each property.
`Obeys.invariant` carries a property along every course that obeys its rule. The
history of a course notes the steps that can no longer be seen in the state.
-/

namespace FlashSale

/-- One thing that may happen to a sale. -/
inductive Action where
  /-- A task takes one step. -/
  | turn (id : TaskId)
  /-- So many milliseconds pass. -/
  | elapse (ms : Nat)
  | start (t : Task)
  /-- Somebody calls the reservation store, which answers at once. -/
  | reserve (call : ReservationCall)
  | seed (item : String) (stock : Int32)
  | cancel (id : TaskId)
  /-- A task is dropped where no other task can be started. -/
  | abandon (id : TaskId)
  | close
  | shutdown
  | startWorkers (workers : Nat)
  | dropReceiver
  | reservationsUnavailable (on : Bool)
  | failIncrements (on : Bool)
  | ledgerUnavailable (on : Bool)
  | commitDelay (ms : Nat)
  | latency (l : Latency)
  | faultyItem (item : Option String)

/-- The store after a call, whatever it replied. -/
def Reservations.call (s : Reservations) (now : Nat) : ReservationCall → Reservations
  | .setStock item quantity => (s.setStock item quantity).2
  | .take item quantity => (s.take item quantity).2
  | .putBack item quantity => (s.putBack item quantity).2
  | .mark key => (s.mark now key).2

namespace Sale

def perform (s : Sale) : Action → Sale
  | .turn id => s.stepTask id
  | .elapse ms => s.fire (s.now + ms)
  | .start t => s.spawn t
  | .reserve call => { s with reservations := s.reservations.call s.now call }
  | .seed item stock => { s with ledger := (s.ledger.seed s.clock item stock).2 }
  | .cancel id => s.cancel id
  | .abandon id => s.abandon id
  | .close => s.close
  | .shutdown => s.shutdown
  | .startWorkers workers => s.startWorkers workers
  | .dropReceiver => s.dropReceiver
  | .reservationsUnavailable on => { s with reservations.unavailable := on }
  | .failIncrements on => { s with reservations.failIncrements := on }
  | .ledgerUnavailable on => { s with ledger.unavailable := on }
  | .commitDelay ms => { s with ledger.commitDelay := ms }
  | .latency l => { s with latency := l }
  | .faultyItem item => { s with faultyItem := item }

/-- The sale after a course of actions. -/
def after (s : Sale) (actions : List Action) : Sale := actions.foldl perform s

@[simp] theorem after_nil (s : Sale) : s.after [] = s := rfl

@[simp] theorem after_cons (s : Sale) (a : Action) (rest : List Action) :
    s.after (a :: rest) = (s.perform a).after rest := rfl

@[simp] theorem after_append (s : Sale) (first second : List Action) :
    s.after (first ++ second) = (s.after first).after second := List.foldl_append

/-- Every action of the course obeys the rule in the state in which it is taken. -/
def Obeys (rule : Sale → Action → Prop) (s : Sale) : List Action → Prop
  | [] => True
  | a :: rest => rule s a ∧ Obeys rule (s.perform a) rest

variable {rule : Sale → Action → Prop} {s : Sale}

instance decidableObeys [∀ s a, Decidable (rule s a)] :
    ∀ s actions, Decidable (Obeys rule s actions)
  | _, [] => .isTrue trivial
  | s, a :: rest =>
    have : Decidable (Obeys rule (s.perform a) rest) := decidableObeys (s.perform a) rest
    inferInstanceAs (Decidable (rule s a ∧ Obeys rule (s.perform a) rest))

/-- A course obeys a rule if its first part does, and its second part does in the state
that the first one leads to. -/
theorem obeys_append {first second : List Action} :
    Obeys rule s (first ++ second) ↔
      Obeys rule s first ∧ Obeys rule (s.after first) second := by
  induction first generalizing s with
  | nil => simp [Obeys]
  | cons a rest ih => simp [Obeys, ih, and_assoc]

theorem Obeys.mono {rule' : Sale → Action → Prop} (weaken : ∀ s a, rule s a → rule' s a)
    {actions : List Action} (ok : Obeys rule s actions) : Obeys rule' s actions := by
  induction actions generalizing s with
  | nil => trivial
  | cons a rest ih => exact ⟨weaken s a ok.1, ih ok.2⟩

/-- A rule may ask something of each action alone, no matter what state it is taken in.
-/
theorem Obeys.and_forall {p : Action → Prop} {actions : List Action} (ok : Obeys rule s actions)
    (each : ∀ a ∈ actions, p a) : Obeys (fun s a => rule s a ∧ p a) s actions := by
  induction actions generalizing s with
  | nil => trivial
  | cons a rest ih =>
      obtain ⟨first, later⟩ := List.forall_mem_cons.mp each
      exact ⟨⟨ok.1, first⟩, ih ok.2 later⟩

theorem Obeys.and {rule' : Sale → Action → Prop} {actions : List Action} (ok : Obeys rule s actions)
    (ok' : Obeys rule' s actions) : Obeys (fun s a => rule s a ∧ rule' s a) s actions := by
  induction actions generalizing s with
  | nil => trivial
  | cons a rest ih => exact ⟨⟨ok.1, ok'.1⟩, ih ok.2 ok'.2⟩

/-- What holds at the start and is kept by every action that the rule allows holds after
a course. The property may speak of the whole course so far, and not only of its last
state. -/
theorem Obeys.invariant {actions : List Action} (ok : Obeys rule s actions)
    {P : List Action → Prop} (start : P [])
    (step : ∀ done a, P done → rule (s.after done) a → P (done ++ [a])) : P actions := by
  induction actions using List.reverseRecOn with
  | nil => exact start
  | append_singleton done a ih =>
      obtain ⟨before, last⟩ := obeys_append.mp ok
      exact step done a (ih before) last.1

/-- A step that leaves no trace in the state once the sale has gone on. Notes are taken
along a course, and nothing in the sale reads them. -/
inductive Note where
  /-- A worker took an order out of the queue. -/
  | handed (worker : TaskId) (order : Order)
  /-- A worker began the attempt to commit an order. -/
  | attempted (worker : TaskId) (order : Order)
  /-- A purchase wrote the marker of its request. -/
  | marked (buyer : TaskId) (requestId : String) (time : Nat)
  /-- A purchase took its stock. -/
  | reserved (buyer : TaskId) (requestId : String)
deriving DecidableEq, Repr

/-- What is noted of a task that stood at one point and stands at another after its turn. -/
def noteOf (time : Nat) (id : TaskId) : Task → Task → List Note
  | .receive .worker, .settle .worker order _ _ _ => [.handed id order]
  | .settle .worker _ .opening _ _, .settle .worker order .committing _ _ => [.attempted id order]
  | .purchase r _ _ .marking _, .purchase _ _ _ .reserving _ => [.marked id r.requestId time]
  | .purchase r _ _ .reserving _, .purchase _ _ _ (.admitting _) _ => [.reserved id r.requestId]
  | _, _ => []

/-- What is noted of an action. -/
def notes (s : Sale) : Action → List Note
  | .turn id =>
    match s.tasks.get? id, (s.stepTask id).tasks.get? id with
    | some t, some t' => noteOf s.now id t t'
    | _, _ => []
  | _ => []

/-- Only turns are noted. What the outside world does can be told from the course
itself. -/
theorem notes_of_ne_turn {a : Action} (other : ∀ id, a ≠ .turn id) : s.notes a = [] := by
  cases a with
  | turn id => exact absurd rfl (other id)
  | _ => rfl

theorem notes_of_get?_eq_none {me : TaskId} (absent : s.tasks.get? me = none) :
    s.notes (.turn me) = [] := by
  simp only [notes, absent]

/-- The notes of a course. -/
def history (s : Sale) : List Action → List Note
  | [] => []
  | a :: rest => s.notes a ++ (s.perform a).history rest

@[simp] theorem history_nil (s : Sale) : s.history [] = [] := rfl

/-- The history of a longer course goes on with the notes of its last action, which are
taken in the state that the course has led to. -/
theorem history_concat (s : Sale) (done : List Action) (a : Action) :
    s.history (done ++ [a]) = s.history done ++ (s.after done).notes a := by
  induction done generalizing s with
  | nil => simp [history]
  | cons b rest ih => simp [history, ih]

/-- A step of the scheduler is a course: the tasks that are ready take one turn each.
What holds of courses holds of the scheduler. -/
theorem step_eq_after (s : Sale) : ∃ ids : List TaskId, s.step = s.after (ids.map .turn) := by
  unfold step
  split
  · exact ⟨[], rfl⟩
  · rename_i me _ _
    exact ⟨[me], rfl⟩

theorem runFor_eq_after (n : Nat) (s : Sale) :
    ∃ ids : List TaskId, runFor n s = s.after (ids.map .turn) := by
  induction n generalizing s with
  | zero => exact ⟨[], rfl⟩
  | succ n ih =>
      unfold runFor
      split
      · exact ⟨[], rfl⟩
      · obtain ⟨first, hfirst⟩ := step_eq_after s
        obtain ⟨rest, hrest⟩ := ih s.step
        exact ⟨first ++ rest, by rw [hrest, List.map_append, after_append, hfirst]⟩

/-- Running the ready tasks until none is left is a course of turns. So whatever is said
of all courses holds of the scheduler that the program has. -/
theorem run_eq_after (s : Sale) : ∃ ids : List TaskId, s.run = s.after (ids.map .turn) :=
  runFor_eq_after _ s

end Sale

end FlashSale
