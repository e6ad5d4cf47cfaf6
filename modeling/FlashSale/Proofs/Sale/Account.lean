import FlashSale.Proofs.Sale.Passage
import FlashSale.Proofs.Sale.Soundness

/-!
# Every order is accounted for

`Accounted` is what the passages of orders add up to along a course in which orders come
from purchases only: each accepted order stands in the buffer, is with a worker, or was
settled, as often as it was accepted; whatever was handed out is with a worker or was
settled; and the ledger holds what was reported as persisted.

No identifier is assumed to be unique here. An identifier is accepted at most as often
as a purchase was started with it, which is where uniqueness comes in later.
-/

namespace FlashSale

namespace Action

/-- The identifier that a purchase is started with. -/
def call? : Action → Option Uuid
  | .start (.purchase _ _ id _ _) => some id
  | _ => none

/-- The action commits an order without a purchase. -/
def isDirectCommit : Action → Bool
  | .start t => t.isDirectCommit
  | _ => false

end Action

namespace Sale

/-- The identifiers that purchases were started with. -/
def calls (actions : List Action) : List Uuid := actions.filterMap Action.call?

theorem calls_concat (done : List Action) (a : Action) :
    calls (done ++ [a]) = calls done ++ a.call?.toList := by
  cases eq : a.call? <;> simp [calls, eq]

/-- A pipeline's rule under which orders come from purchases only. Nobody outside sends
an order or calls the ledger with one. -/
def OnlyPurchases (s : Sale) (a : Action) : Prop := s.Permits a ∧ a.isDirectCommit = false

/-- Where all the orders are, given the identifiers of the purchases that were started
and the notes of the course. Identifiers are counted here, so that it need not be said
that they are distinct. -/
structure Accounted (s : Sale) (calls : List Uuid) (work : List Note) : Prop where
  bought : ∀ id, ((s.accepted.map Prod.snd).count id : Int) + s.tasks.sum (Task.buys id) ≤
    calls.count id
  passed : ∀ id, ((s.accepted.map Prod.snd).count id : Int) =
    (s.queue.buffer.map Order.id).count id + s.tasks.sum (Task.settles id) +
      (Event.settledIds s.log).count id
  handed : ∀ id, ((idsOf (handings work)).count id : Int) =
    s.tasks.sum (Task.settles id) + (Event.settledIds s.log).count id
  attempted : ∀ id, ((idsOf (attempts work)).count id : Int) =
    s.tasks.sum (Task.commits id) + (Event.settledIds s.log).count id
  handing : ∀ e ∈ handings work, s.Accepts e.2
  attempting : ∀ e ∈ attempts work, e ∈ handings work
  buffer : ∀ order ∈ s.queue.buffer, s.Accepts order
  working : ∀ id t order, s.tasks.get? id = some t → t.order? = some order →
    (id, order) ∈ handings work
  indirect : ∀ id t, s.tasks.get? id = some t → t.isDirectCommit = false
  ledger : ∀ id order, s.ledger.findOrder? id = some order → order.id = id ∧ s.Accepts order
  recorded : s.Recorded
  tallied : s.Tallied
  joined : ∀ id tally, (id, Answer.joined tally) ∈ s.answers →
    s.hasWorkers = false ∧ tally = s.tally

variable {s s' s'' : Sale} {me : TaskId} {t : Task} {turn : Turn} {calls : List Uuid}
  {work : List Note}

theorem Placed.accepted (placed : Placed s me t turn s') :
    s'.accepted = s.accepted ++ turn.accepted := by
  cases placed with
  | again => exact (List.append_nil _).symm
  | wait => exact (List.append_nil _).symm
  | @finish a =>
      have told : [(me, a)].filterMap (fun e => e.2.accepted?) = a.accepted?.toList := by
        cases eq : a.accepted? <;> simp [eq]
      simp only [Sale.accepted, List.filterMap_append, told, Turn.accepted]
  | crash => exact List.filterMap_append

/-- Statistics are given out by a turn that says so, and by no other one. -/
theorem Placed.answers (placed : Placed s me t turn s') {id : TaskId} {tally : Tally}
    (told : (id, Answer.joined tally) ∈ s'.answers) :
    (id, Answer.joined tally) ∈ s.answers ∨ turn = .finish (.joined tally) := by
  cases placed with
  | again => exact .inl told
  | wait => exact .inl told
  | finish =>
      obtain old | new := List.mem_append.mp told
      · exact .inl old
      · cases List.mem_singleton.mp new
        exact .inr rfl
  | crash =>
      obtain old | new := List.mem_append.mp told
      · exact .inl old
      · cases List.mem_singleton.mp new

/-- Without a worker there is none after the step of a task, and nothing more is
counted. So statistics that were given out stay right. -/
theorem alone_after (frame : SameFrame s s') (service : Service s s' t turn)
    (passage : Passage s s' me t turn) (placed : Placed s' me t turn s'')
    (found : s.tasks.get? me = some t) (alone : s.hasWorkers = false) :
    s''.hasWorkers = false ∧ s''.tally = s.tally := by
  have other {id : TaskId} {t' : Task} (here : s.tasks.get? id = some t') : t'.isWorker = false := by
    refine Bool.eq_false_iff.mpr fun worker => ?_
    rw [hasWorkers_iff.mpr ⟨id, t', here, worker⟩] at alone
    cases alone
  constructor
  · refine Bool.eq_false_iff.mpr fun busy => ?_
    obtain ⟨id, t', here, worker⟩ := hasWorkers_iff.mp busy
    obtain before | ⟨rfl, goes⟩ := placed.found here
    · rw [frame.tasks] at before
      rw [other before] at worker
      cases worker
    · rw [(service.next t' goes).2, other found] at worker
      cases worker
  · rw [placed.stores.tally, passage.tally (other found)]

/-- A step of a task keeps every order accounted for. An order that leaves the buffer is
with the worker that took it, and one that leaves its worker was settled. -/
theorem Accounted.of_turn (account : Accounted s calls work) (sound : s.Sound)
    (found : s.tasks.get? me = some t) (deed : Deed s me t s' turn)
    (placed : Placed s' me t turn s'') (below : s'.ledger.VersionsBelowLimit) :
    Accounted s'' calls (work ++ turn.notes s.now me t) := by
  have frame := deed.frame
  have stores := placed.stores
  have service := deed.service sound found
  have alive := deed.worker_ne_crash sound found below
  have passage := deed.passage (sound.tasks me t found) (account.indirect me t found) alive
  have found' : s'.tasks.get? me = some t := by rw [frame.tasks, found]
  have queue := (placed.queue (sound.tasks me t found) service alive).1
  have accepted : s''.accepted = s.accepted ++ turn.accepted := by
    rw [placed.accepted]
    simp only [Sale.accepted, frame.answers]
  have sum (f : Task → Int) : s''.tasks.sum f = s.tasks.sum f - f t + turn.weigh f t := by
    rw [placed.sum found' f, frame.tasks]
  have accepts {order : Order} (before : s.Accepts order) : s''.Accepts order :=
    before.mono fun purchase member => accepted ▸ List.mem_append_left _ member
  have kept {e : TaskId × Order} (member : e ∈ handings work) :
      e ∈ handings (work ++ turn.notes s.now me t) := by
    rw [handings_append]
    exact List.mem_append_left _ member
  constructor
  case bought =>
    intro id
    have before := account.bought id
    have step := passage.bought id
    rw [accepted, List.map_append, List.count_append, sum]
    omega
  case passed =>
    intro id
    have before := account.passed id
    have step := passage.passed id
    rw [accepted, List.map_append, List.count_append, sum, queue, stores.log]
    omega
  case handed =>
    intro id
    have before := account.handed id
    have step := passage.handed id
    rw [handings_append, idsOf, List.map_append, List.count_append, sum, stores.log]
    unfold idsOf at before step
    omega
  case attempted =>
    intro id
    have before := account.attempted id
    have step := passage.attempted id
    rw [attempts_append, idsOf, List.map_append, List.count_append, sum, stores.log]
    unfold idsOf at before step
    omega
  case handing =>
    intro e member
    rw [handings_append] at member
    obtain old | new := List.mem_append.mp member
    · exact accepts (account.handing e old)
    · exact accepts (account.buffer e.2 (passage.handing e new).2)
  case attempting =>
    intro e member
    rw [attempts_append] at member
    obtain old | new := List.mem_append.mp member
    · exact kept (account.attempting e old)
    · obtain ⟨mine, order⟩ := passage.attempting e new
      have held := account.working me t e.2 found order
      rw [← mine] at held
      exact kept held
  case buffer =>
    intro order member
    rw [queue] at member
    obtain old | ⟨purchase, new, fills⟩ := passage.buffer order member
    · exact accepts (account.buffer order old)
    · exact ⟨purchase, accepted ▸ List.mem_append_right _ new, fills⟩
  case working =>
    intro id t' order here has
    obtain before | ⟨rfl, goes⟩ := placed.found here
    · rw [frame.tasks] at before
      exact kept (account.working id t' order before has)
    · obtain mine | ⟨-, new⟩ := passage.next t' order goes has
      · exact kept (account.working id t order found mine)
      · rw [handings_append]
        exact List.mem_append_right _ new
  case indirect =>
    intro id t' here
    obtain before | ⟨rfl, goes⟩ := placed.found here
    · rw [frame.tasks] at before
      exact account.indirect id t' before
    · have call := passage.call t' goes
      cases t' with
      | ledger => cases call
      | _ => rfl
  case ledger =>
    intro id order here
    rw [stores.ledger] at here
    obtain before | ⟨mine, rfl⟩ := passage.ledger id order here
    · obtain ⟨same, before⟩ := account.ledger id order before
      exact ⟨same, accepts before⟩
    · exact ⟨rfl, accepts (account.handing _ (account.working me t order found mine))⟩
  case recorded =>
    intro id
    rw [stores.ledger, stores.log]
    exact passage.recorded account.recorded id
  case tallied =>
    obtain ⟨persisted, compensated, failures⟩ := passage.tallied account.tallied
    constructor
    · rw [stores.tally, stores.log, persisted]
    · rw [stores.tally, stores.log, compensated]
    · rw [stores.tally, stores.log, failures]
  case joined =>
    intro id tally told
    have before : s.hasWorkers = false ∧ tally = s.tally := by
      obtain old | new := placed.answers told
      · rw [frame.answers] at old
        exact account.joined id tally old
      · exact passage.joined tally new
    obtain ⟨alone, rfl⟩ := before
    obtain ⟨alone', same⟩ := alone_after frame service passage placed found alone
    exact ⟨alone', same.symm⟩

end Sale

end FlashSale
