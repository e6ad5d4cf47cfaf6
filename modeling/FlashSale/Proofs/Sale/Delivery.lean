import FlashSale.Proofs.Sale.Line

/-!
# The queue delivers

Whatever is sent through the queue is received in the order in which it was sent, nothing is
lost or doubled, and the buffer holds what was sent and not received yet. Sends that have to
wait are served in the order of arrival. Dropping a send or a receive that waits takes no
order out, and an order whose send was dropped or refused is never delivered.
-/

namespace FlashSale.Sale

open AdmissionQueue

/-- What senders and receivers can rely on after a course of their actions. -/
structure Delivers (capacity : Nat) (s₀ : Sale) (actions : List Action) (s : Sale) : Prop where
  /-- What was sent is what was received, followed by what is in the buffer. -/
  stream : (sent s.answers).map Prod.snd = received s.answers ++ s.queue.buffer
  depth : s.queue.depth = s.queue.buffer.length
  bounded : s.queue.depth ≤ max capacity 1
  /-- A send succeeds with the order with which it was started, and everybody is answered once. -/
  own : ∀ id order, (id, order) ∈ sent s.answers → (id, .send order) ∈ gather started s₀ actions
  once : (s.answers.map Prod.fst).Nodup
  /-- Whoever is dropped is never answered. -/
  dropped : ∀ id ∈ gather dropped s₀ actions, id ∉ s.answers.map Prod.fst
  undelivered : ∀ id order, id ∈ gather Sale.dropped s₀ actions ∨ (id, .notSent order) ∈ s.answers →
    id ∉ (sent s.answers).map Prod.fst
  /-- Dropping somebody takes no order out and answers nobody. -/
  untaken : ∀ a, s.SendsAndReceives a → a.drops? ≠ none →
    (s.perform a).queue.buffer = s.queue.buffer ∧ (s.perform a).answers = s.answers
  /-- Slots are given in the order of arrival, but for those who were dropped in line. -/
  line : gather serving s₀ actions ++ s.queue.waiting =
    (gather arriving s₀ actions).filter fun id => id ∉ gather withdrawing s₀ actions
  /-- Nobody finds a free slot while somebody stands in line. -/
  full : s.queue.waiting ≠ [] → s.queue.slots = 0
  /-- In the order of turns, sends that had to wait also succeed in the order of arrival. -/
  inTurn : Obeys InTurn s₀ actions →
    succeeded s.answers (gather arriving s₀ actions) ++ s.queue.buyers =
      (gather arriving s₀ actions).filter fun id => id ∉ gather Sale.dropped s₀ actions

variable {capacity commitLimit : Nat} {reservations : Reservations} {ledger : Ledger}
  {queue : AdmissionQueue} {s₀ s : Sale} {actions : List Action}

/-- Slots are given in the order of arrival, over a whole course, to all who were not
dropped in line. -/
theorem Exchanging.lined (exchanging : s₀.Exchanging capacity)
    (start : Lined s₀.tasks s₀.queue s₀.nextTask [] [] [])
    (ok : Obeys SendsAndReceives s₀ actions) :
    Lined (s₀.after actions).tasks (s₀.after actions).queue (s₀.after actions).nextTask
      (gather arriving s₀ actions) (gather serving s₀ actions) (gather withdrawing s₀ actions) := by
  refine (exchanging.obeys ok).invariant (P := fun done =>
    Lined (s₀.after done).tasks (s₀.after done).queue (s₀.after done).nextTask
      (gather arriving s₀ done) (gather serving s₀ done) (gather withdrawing s₀ done)) start ?_
  rintro done a lined ⟨exchanging, exchange⟩
  rw [after_append, gather_concat, gather_concat, gather_concat]
  exact lined.exchange exchanging exchange (exchanging.attended.named.perform a).2

/-- In the order of turns, tasks that are ready stay lively and sends succeed in order.
Out of turn a task that was given its slot later could be quicker. -/
theorem Exchanging.ordered (exchanging : s₀.Exchanging capacity) (replied : s₀.RepliesTo [] [])
    (lively : Lively s₀.queue.granted s₀.queue.waiting s₀.ready s₀.nextTask)
    (start : Ordered s₀.queue s₀.answers [] []) (ok : Obeys SendsAndReceives s₀ actions)
    (turns : Obeys InTurn s₀ actions) :
    Ordered (s₀.after actions).queue (s₀.after actions).answers (gather arriving s₀ actions)
      (gather dropped s₀ actions) := by
  have steps := (exchanging.obeys ok).and turns
  have all := steps.invariant (P := fun done =>
    (s₀.after done).RepliesTo (gather started s₀ done) (gather dropped s₀ done) ∧
      Lively (s₀.after done).queue.granted (s₀.after done).queue.waiting (s₀.after done).ready
        (s₀.after done).nextTask ∧
      Ordered (s₀.after done).queue (s₀.after done).answers (gather arriving s₀ done)
        (gather dropped s₀ done)) ⟨replied, lively, start⟩ ?_
  · exact all.2.2
  rintro done a ⟨replied, lively, ordered⟩ ⟨⟨exchanging, exchange⟩, turn⟩
  rw [after_append, gather_concat, gather_concat, gather_concat]
  exact ⟨replied.exchange exchanging exchange, lively.exchange exchanging exchange,
    ordered.exchange replied lively exchanging exchange turn⟩

/-- Dropping a task neither puts an order in nor takes one out. An order is moved in the
one turn that tells of it. -/
theorem Exchange.untaken {a : Action} {tasks : Table TaskId Task} {ready : List TaskId}
    {answers : List (TaskId × Answer)} (exchange : Exchange s a tasks queue ready answers)
    (drops : a.drops? ≠ none) : queue.buffer = s.queue.buffer ∧ answers = s.answers := by
  cases exchange with
  | missed => exact ⟨rfl, rfl⟩
  | @unsent _ id => exact ⟨withdraw_buffer s.queue id, rfl⟩
  | unreceived => exact ⟨rfl, rfl⟩
  | _ => exact absurd rfl drops

/-- The queue neither loses nor doubles nor reorders what is sent through it. This holds
of every course of sends and receives, whoever is dropped or refused. -/
theorem queue_delivers (opened : AdmissionQueue.open? capacity = some queue)
    (start : s₀ = { reservations, ledger, queue, commitLimit })
    (allowed : Obeys SendsAndReceives s₀ actions) (reached : s = s₀.after actions) :
    Delivers capacity s₀ actions s := by
  have opening : Exchanging (max capacity 1) s₀ :=
    start ▸ exchanging_start reservations ledger commitLimit opened
  have replies : s₀.RepliesTo [] [] := start ▸ repliesTo_start reservations ledger commitLimit opened
  have empty : s₀.queue = .ofCapacity capacity := start ▸ ofCapacity_of_open? opened
  have nothing : s₀.answers = [] ∧ s₀.ready = [] := by
    rw [start]
    exact ⟨rfl, rfl⟩
  have lined : Lined s₀.tasks s₀.queue s₀.nextTask [] [] [] := by
    rw [empty]
    constructor <;> simp [AdmissionQueue.ofCapacity]
  have lively : Lively s₀.queue.granted s₀.queue.waiting s₀.ready s₀.nextTask := by
    rw [empty, nothing.2]
    constructor <;> simp [AdmissionQueue.ofCapacity]
  have ordered : Ordered s₀.queue s₀.answers [] [] := by
    rw [empty, nothing.1]
    rfl
  have exchanging := opening.after allowed
  have replied := opening.replied replies allowed
  have line := opening.lined lined allowed
  have inTurn := opening.ordered replies lively ordered allowed
  subst reached
  have orderly := exchanging.attended.orderly
  constructor
  case stream => exact replied.stream
  case depth => exact orderly.depth
  case bounded =>
    have slots := orderly.slots
    rw [orderly.depth]
    omega
  case own =>
    intro id order member
    obtain ⟨-, t, begun, ends⟩ := replied.ended id _ (mem_sent.mp member)
    cases ends
    exact begun
  case once => exact replied.once
  case dropped => exact fun id member => (replied.silent id member).2.1
  case undelivered =>
    rintro id order (dropped | refused) member
    · exact (replied.silent id dropped).2.1 (mem_sent_answered member)
    · obtain ⟨⟨_, other⟩, sends, rfl⟩ := List.mem_map.mp member
      have same := List.inj_on_of_nodup_map replied.once refused (mem_sent.mp sends) rfl
      cases (Prod.mk.inj same).2
  case untaken => exact fun a allowed drops => (exchanging.exchanges allowed).1.untaken drops
  case line => exact line.order
  case full => exact orderly.full
  case inTurn => exact inTurn

/-- Three sends meet a queue for one order. The second is dropped while it waits; when the first
order is received, its slot goes to the third. -/
def contest : List Action :=
  [.start (.send (parcel ⟨1⟩)), .turn 0, .start (.send (parcel ⟨2⟩)), .turn 1,
    .start (.send (parcel ⟨3⟩)), .turn 2, .cancel 1, .start (.receive .caller), .turn 3, .turn 2]

theorem queue_delivers_contest : ∃ queue s₀ s,
    AdmissionQueue.open? 1 = some queue ∧
    s₀ = { reservations := { ttl := 1000 }, ledger := {}, queue, commitLimit := 5000 } ∧
    Obeys SendsAndReceives s₀ contest ∧ s = s₀.after contest ∧ Delivers 1 s₀ contest s ∧
    Obeys InTurn s₀ contest ∧ gather arriving s₀ contest = [1, 2] ∧
    received s.answers = [parcel ⟨1⟩] ∧ sent s.answers = [(0, parcel ⟨1⟩), (2, parcel ⟨3⟩)] := by
  have turns (s₀ : Sale) (start : s₀ =
      { reservations := { ttl := 1000 }, ledger := {}, queue := .ofCapacity 1, commitLimit := 5000 }) :
      Obeys SendsAndReceives s₀ contest ∧ Obeys InTurn s₀ contest := by
    subst start
    refine ⟨⟨⟨rfl, rfl⟩, ⟨rfl, rfl⟩, ⟨rfl, rfl⟩, ⟨rfl, rfl⟩, ⟨rfl, rfl⟩, ⟨rfl, rfl⟩, ⟨rfl, rfl⟩,
      ⟨rfl, rfl⟩, ⟨rfl, rfl⟩, ⟨rfl, rfl⟩, trivial⟩, ?_⟩
    refine ⟨?_, ?_, ?_, ?_, ?_, ?_, ?_, ?_, ?_, ?_, trivial⟩ <;> rintro id ⟨⟩ <;> rfl
  exact ⟨_, _, _, rfl, rfl, (turns _ rfl).1, rfl, queue_delivers rfl rfl (turns _ rfl).1 rfl,
    (turns _ rfl).2, rfl, rfl, rfl⟩

end FlashSale.Sale
