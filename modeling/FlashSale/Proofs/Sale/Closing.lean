import FlashSale.Proofs.Sale.Line

/-!
# Closing the queue

When no task is ready, a send waits only while the buffer is full, and a receive only while
the buffer is empty and the queue open: nobody sleeps through the moment for which it
waited. The stream ends for receivers once the queue is closed, the buffer empty and the
line gone, and then it has ended for good. Whoever comes to send after the queue was closed
gets the order back, and whoever stood in line by then is never turned away.
-/

namespace FlashSale.Sale

open AdmissionQueue

/-- The task is ready, and in its turn it is handed its order back. So a sender that is
refused does not have to wait for it. -/
def HandsBack (s : Sale) (id : TaskId) (order : Order) : Prop :=
  id ∈ s.ready ∧ (s.perform (.turn id)).answers = s.answers ++ [(id, .notSent order)]

/-- What senders and receivers can rely on when it comes to waiting and closing. The
waiting is told of states in which no task is ready, as a ready task is not yet waiting.
-/
structure Closes (capacity : Nat) (s₀ : Sale) (actions : List Action) (s : Sale) : Prop where
  /-- When no task is ready, a send waits only while the buffer is full. -/
  sendWaits : s.ready = [] → ∀ id order, s.tasks.get? id = some (.send order) →
    s.queue.buffer.length = max capacity 1
  /-- When no task is ready, a receive waits only while the buffer is empty and the queue open. -/
  receiveWaits : s.ready = [] → ∀ id, s.tasks.get? id = some (.receive .caller) →
    s.queue.buffer = [] ∧ .close ∉ actions
  /-- The stream ends only when the queue is closed, nothing is buffered and nobody in line. -/
  ended : ∀ id, (id, .received none) ∈ s.answers →
    .close ∈ actions ∧ s.queue.buffer = [] ∧ s.queue.buyers = []
  /-- Nothing is received after the end of the stream. -/
  forGood : ∀ before later, actions = before ++ later →
    ∀ id, (id, .received none) ∈ (s₀.after before).answers →
      received s.answers = received (s₀.after before).answers
  /-- Whoever comes after the queue was closed gets the order back, unless it is dropped before. -/
  refused : ∀ before later, actions = before ++ later → .close ∈ before →
    ∀ id order, (id, .send order) ∈ gather started (s₀.after before) later →
      (∀ a, (id, a) ∈ s.answers → a = .notSent order) ∧
        (s.HandsBack id order ∨ id ∈ gather dropped s₀ actions ∨ (id, .notSent order) ∈ s.answers)
  /-- Whoever has stood in line is never turned away. -/
  kept : ∀ before later, actions = before ++ later →
    ∀ id ∈ (s₀.after before).queue.buyers, ∀ order, (id, .notSent order) ∉ s.answers
  again : .close ∈ actions → s.perform .close = s

variable {capacity commitLimit : Nat} {reservations : Reservations} {ledger : Ledger}
  {s s₀ : Sale} {a : Action} {id : TaskId} {order : Order} {actions : List Action}
  {tasks : Table TaskId Task} {queue : AdmissionQueue} {ready : List TaskId}
  {answers : List (TaskId × Answer)}

/-- A stream that has ended has ended for good, whatever is done. -/
theorem Exchange.stays_ended (exchange : Exchange s a tasks queue ready answers)
    (ends : s.queue.ended = true) : queue.ended = true := by
  obtain ⟨closed, waiting, granted, buffer⟩ := ended_iff.mp ends
  have shut : s.queue.isClosed = true := by simp [isClosed, closed]
  cases exchange with
  | claimed _ given =>
      rw [granted] at given
      cases given
  | placed _ _ isOpen =>
      rw [shut] at isOpen
      cases isOpen
  | joined _ _ isOpen =>
      rw [shut] at isOpen
      cases isOpen
  | @took id order queue woken _ _ popped =>
      have more := buffer_of_pop? popped
      rw [joinLine_buffer, buffer] at more
      cases more
  | ended => rw [leaveLine_ended, joinLine_ended, ends]
  | idle => rw [joinLine_ended, ends]
  | unsent => exact withdraw_ended ends
  | unreceived => rw [leaveLine_ended, ends]
  | closed => exact close_ended ends
  | _ => exact ends

theorem Exchange.ends (exchange : Exchange s a tasks queue ready answers)
    (told : (id, .received none) ∈ answers) :
    (id, .received none) ∈ s.answers ∨ s.queue.ended = true := by
  cases exchange with
  | claimed => exact .inl (by simpa using told)
  | placed => exact .inl (by simpa using told)
  | refused => exact .inl (by simpa using told)
  | took => exact .inl (by simpa using told)
  | ended _ _ ends => exact .inr ends
  | _ => exact .inl told

theorem Exchange.received_of_ended (exchange : Exchange s a tasks queue ready answers)
    (ends : s.queue.ended = true) : received answers = received s.answers := by
  cases exchange with
  | @took id order queue woken _ _ popped =>
      have more := buffer_of_pop? popped
      rw [joinLine_buffer, buffer_of_ended ends] at more
      cases more
  | claimed => simp [received_concat, Answer.received?]
  | placed => simp [received_concat, Answer.received?]
  | refused => simp [received_concat, Answer.received?]
  | ended => simp [received_concat, Answer.received?]
  | _ => rfl

theorem Exchange.stays (exchange : Exchange s a tasks queue ready answers)
    (exchanging : s.Exchanging capacity) (member : id ∈ s.queue.buyers) :
    id ∈ queue.buyers ∨ tasks.get? id = none := by
  by_cases here : tasks.contains id = true
  · left
    cases exchange.line exchanging with
    | joined _ _ _ _ granted waiting =>
        rw [buyers, granted, waiting, ← List.append_assoc]
        exact List.mem_append_left _ member
    | passed passed granted waiting =>
        rw [buyers, granted, List.append_assoc, ← waiting, ← List.filter_append]
        exact List.mem_filter.mpr ⟨member, here⟩
  · exact .inr (Option.not_isSome_iff_eq_none.mp here)

/-- A send that is refused did not stand in line: those who do keep their places when
the queue is closed. -/
theorem Exchange.refusal (exchange : Exchange s a tasks queue ready answers)
    (refused : (id, .notSent order) ∈ answers) :
    (id, .notSent order) ∈ s.answers ∨
      (s.tasks.get? id = some (.send order) ∧ id ∉ s.queue.buyers) := by
  cases exchange with
  | claimed => exact .inl (by simpa using refused)
  | placed => exact .inl (by simpa using refused)
  | @refused me mine found new =>
      obtain old | ⟨rfl, rfl⟩ : (id, .notSent order) ∈ s.answers ∨ id = me ∧ order = mine := by
        simpa using refused
      · exact .inl old
      · exact .inr ⟨found, new⟩
  | took => exact .inl (by simpa using refused)
  | ended => exact .inl (by simpa using refused)
  | _ => exact .inl refused

/-- Nobody joins the line of a closed queue. Those who stand in it are then fewer and
fewer. -/
theorem Exchange.buyers_of_closed (exchange : Exchange s a tasks queue ready answers)
    (exchanging : s.Exchanging capacity) (closed : s.queue.closed = true)
    (member : id ∈ queue.buyers) : id ∈ s.queue.buyers := by
  cases exchange.line exchanging with
  | joined _ _ isOpen =>
      rw [isClosed, closed] at isOpen
      cases isOpen
  | passed passed granted waiting =>
      rw [buyers, granted, List.append_assoc, ← waiting, ← List.filter_append] at member
      exact (List.mem_filter.mp member).1

/-- Only those in line still get an order into a closed queue. -/
theorem Exchange.sent_of_closed (exchange : Exchange s a tasks queue ready answers)
    (closed : s.queue.closed = true) (sends : (id, .sent order) ∈ answers) :
    (id, .sent order) ∈ s.answers ∨ id ∈ s.queue.buyers := by
  cases exchange with
  | @claimed me mine _ given =>
      obtain old | ⟨rfl, rfl⟩ : (id, .sent order) ∈ s.answers ∨ id = me ∧ order = mine := by
        simpa using sends
      · exact .inl old
      · exact .inr (mem_buyers.mpr (.inl given))
  | placed _ _ isOpen =>
      rw [isClosed, closed] at isOpen
      cases isOpen
  | refused => exact .inl (by simpa using sends)
  | took => exact .inl (by simpa using sends)
  | ended => exact .inl (by simpa using sends)
  | _ => exact .inl sends

/-- A send that does not stand in the line of a closed queue is ready, and is refused.
Nobody who waits for something is in such a place. -/
theorem handsBack_of_closed (attended : s.Attended capacity)
    (found : s.tasks.get? id = some (.send order)) (closed : s.queue.closed = true)
    (outside : id ∉ s.queue.buyers) : s.HandsBack id order := by
  have ungiven : id ∉ s.queue.granted := fun given => outside (mem_buyers.mpr (.inl given))
  have absent : id ∉ s.queue.waiting := fun standing => outside (mem_buyers.mpr (.inr standing))
  have offered : s.offer id order = (.refused, s) := by
    simp [offer, ungiven, absent, request, isClosed, closed]
  constructor
  · obtain ready | waits := (attended.attends id).waits _ found
    · exact ready
    cases waits with
    | time sleeps => cases sleeps
    | slot _ standing => exact absurd standing absent
  · simp only [perform, stepTask, found, act, stepSend, offered, place]

theorem Exchanging.closed_iff (exchanging : s.Exchanging capacity)
    (isOpen : s.queue.closed = false) (ok : Obeys SendsAndReceives s actions) :
    (s.after actions).queue.closed = true ↔ .close ∈ actions := by
  refine (exchanging.obeys ok).invariant (P := fun done =>
    (s.after done).queue.closed = true ↔ .close ∈ done) (by simp [isOpen]) ?_
  rintro done a closed ⟨-, exchange⟩
  rw [after_append, List.mem_append, ← closed, List.mem_singleton, eq_comm (b := a)]
  exact exchange.doors.1

/-- When somebody was told of the end of the stream, it has ended. The induction is on
the course, and the end stays. -/
theorem Exchanging.ended_of_told (exchanging : s.Exchanging capacity) (untold : s.answers = [])
    (ok : Obeys SendsAndReceives s actions) :
    ∀ id, (id, .received none) ∈ (s.after actions).answers →
      (s.after actions).queue.ended = true := by
  refine (exchanging.obeys ok).invariant (P := fun done =>
    ∀ id, (id, .received none) ∈ (s.after done).answers → (s.after done).queue.ended = true) ?_ ?_
  · intro id told
    rw [after_nil, untold] at told
    cases told
  · rintro done a before ⟨-, exchange⟩ id told
    rw [after_append] at told ⊢
    exact exchange.stays_ended ((exchange.ends told).elim (before id) fun ends => ends)

theorem Exchanging.received_of_ended (exchanging : s.Exchanging capacity)
    (ends : s.queue.ended = true) (ok : Obeys SendsAndReceives s actions) :
    received (s.after actions).answers = received s.answers := by
  have all := (exchanging.obeys ok).invariant (P := fun done =>
    (s.after done).queue.ended = true ∧ received (s.after done).answers = received s.answers)
    ⟨ends, rfl⟩ ?_
  · exact all.2
  rintro done a ⟨ends, same⟩ ⟨-, exchange⟩
  rw [after_append]
  exact ⟨exchange.stays_ended ends, (exchange.received_of_ended ends).trans same⟩

/-- Whoever stands in line is never turned away. The send goes through or is dropped,
and closing the queue makes no difference to it. -/
theorem Exchanging.never_refused (exchanging : s.Exchanging capacity)
    (member : id ∈ s.queue.buyers) (unanswered : id ∉ s.answers.map Prod.fst)
    (ok : Obeys SendsAndReceives s actions) :
    (id, .notSent order) ∉ (s.after actions).answers := by
  have all := (exchanging.obeys ok).invariant (P := fun done =>
    (id ∈ (s.after done).queue.buyers ∨
      ((s.after done).tasks.get? id = none ∧ id < (s.after done).nextTask)) ∧
    (id, .notSent order) ∉ (s.after done).answers) ?_ ?_
  · exact all.2
  · exact ⟨.inl member, fun refused => unanswered (List.mem_map_of_mem refused)⟩
  · rintro done a ⟨before, silent⟩ ⟨exchanging, exchange⟩
    have later := (exchanging.attended.named.perform a).2
    rw [after_append]
    constructor
    · obtain member | ⟨gone, named⟩ := before
      · have named := exchanging.attended.buyer_named member
        exact (exchange.stays exchanging member).imp_right fun gone => ⟨gone, named.trans_le later⟩
      · exact .inr ⟨exchange.gone gone named, named.trans_le later⟩
    · intro refused
      obtain old | ⟨found, outside⟩ := exchange.refusal refused
      · exact silent old
      · obtain member | ⟨gone, -⟩ := before
        · exact outside member
        · rw [gone] at found
          cases found

/-- Whoever does not stand in the line of a closed queue gets no order into it. The
queue stays closed, and nobody joins its line. -/
theorem Exchanging.never_sent (exchanging : s.Exchanging capacity) (closed : s.queue.closed = true)
    (outside : id ∉ s.queue.buyers) (unanswered : id ∉ s.answers.map Prod.fst)
    (ok : Obeys SendsAndReceives s actions) :
    (s.after actions).queue.closed = true ∧ id ∉ (s.after actions).queue.buyers ∧
      ∀ order, (id, .sent order) ∉ (s.after actions).answers := by
  refine (exchanging.obeys ok).invariant (P := fun done =>
    (s.after done).queue.closed = true ∧ id ∉ (s.after done).queue.buyers ∧
      ∀ order, (id, .sent order) ∉ (s.after done).answers) ?_ ?_
  · exact ⟨closed, outside, fun order sends => unanswered (List.mem_map_of_mem sends)⟩
  · rintro done a ⟨closed, outside, silent⟩ ⟨exchanging, exchange⟩
    rw [after_append]
    refine ⟨exchange.doors.1.mpr (.inl closed), fun member => ?_, fun order sends => ?_⟩
    · exact outside (exchange.buyers_of_closed exchanging closed member)
    · exact (exchange.sent_of_closed closed sends).elim (silent order) outside

/-- A task that is started later has a later name. So it is none of those that stood in
line before. -/
theorem Named.le_of_started (named : s.Named) {t : Task}
    (begun : (id, t) ∈ gather started s actions) : s.nextTask ≤ id := by
  induction actions generalizing s with
  | nil => cases begun
  | cons a rest ih =>
      obtain ⟨still, later⟩ := named.perform a
      obtain first | next := List.mem_append.mp begun
      · cases a with
        | start => exact Nat.le_of_eq (Prod.mk.inj (List.mem_singleton.mp first)).1.symm
        | _ => cases first
      · exact later.trans (ih still next)

/-- Closing a closed queue changes nothing. Whoever was to be woken by it was woken the
first time. -/
theorem close_of_closed (attended : s.Attended capacity) (closed : s.queue.closed = true) :
    s.close = s := by
  have same : { s.queue with closed := true } = s.queue := by rw [← closed]
  have awake : ∀ id ∈ s.queue.close.2, id ∈ s.ready := by
    intro id member
    rw [AdmissionQueue.close] at member
    dsimp only at member
    split at member
    · rename_i ends
      rw [same] at ends member
      have serves : s.queue.serves = true := by rw [serves, ends, Bool.or_true]
      exact (attended.attends id).call (mem_called.mpr (.inr ⟨serves, member⟩))
    · cases member
  have nobody : s.queue.close.2.filter (fun id => id ∉ s.ready) = [] :=
    List.filter_eq_nil_iff.mpr fun id member => by simpa using awake id member
  have queue : s.queue.close.1 = s.queue := same
  simp only [Sale.close, wake, nobody, queue, List.append_nil]

theorem Attended.full_of_send (attended : s.Attended capacity) (quiet : s.ready = [])
    (found : s.tasks.get? id = some (.send order)) : s.queue.buffer.length = capacity := by
  cases attended.waits quiet found with
  | time sleeps => cases sleeps
  | slot _ standing =>
      exact attended.orderly.buffer_full (attended.calm quiet) (List.ne_nil_of_mem standing)

/-- A receiver waits only while the queue is open: somebody in line would keep the stream of a closed
queue going, and would find the buffer full. -/
theorem Attended.open_of_receive (attended : s.Attended capacity) (room : 0 < capacity)
    (quiet : s.ready = []) {owner : Owner} (found : s.tasks.get? id = some (.receive owner)) :
    s.queue.closed = false := by
  obtain ⟨empty, goesOn⟩ := attended.idle_receiver quiet found
  have uncalled := attended.calm quiet
  refine Bool.eq_false_iff.mpr fun closed => ?_
  have standing : s.queue.waiting ≠ [] := by
    intro nobody
    have granted := (List.append_eq_nil_iff.mp uncalled).1
    rw [ended_iff.mpr ⟨closed, nobody, granted, empty⟩] at goesOn
    cases goesOn
  have full := attended.orderly.buffer_full uncalled standing
  rw [empty, List.length_nil] at full
  omega

/-- A send that found the queue closed was handed its order back or dropped, or still has its turn to
come. -/
theorem RepliesTo.refused {begun : List (TaskId × Task)} {lost : List TaskId}
    (replied : s.RepliesTo begun lost) (attended : s.Attended capacity)
    (closed : s.queue.closed = true) (outside : id ∉ s.queue.buyers)
    (unsent : ∀ order, (id, .sent order) ∉ s.answers) (send : (id, .send order) ∈ begun) :
    (∀ a, (id, a) ∈ s.answers → a = .notSent order) ∧
      (s.HandsBack id order ∨ id ∈ lost ∨ (id, .notSent order) ∈ s.answers) := by
  have told (a : Answer) (answer : (id, a) ∈ s.answers) : a = .notSent order := by
    obtain ⟨-, t, begun, ends⟩ := replied.ended id a answer
    obtain rfl := replied.unique send begun
    cases ends with
    | sent => exact absurd answer (unsent order)
    | notSent => rfl
  refine ⟨told, ?_⟩
  obtain alive | answered | lost := replied.found id _ send
  · exact .inl (handsBack_of_closed attended alive closed outside)
  · obtain ⟨⟨_, a⟩, answer, rfl⟩ := List.mem_map.mp answered
    exact .inr (.inr (told a answer ▸ answer))
  · exact .inr (.inl lost)

/-- Nobody waits in vain, and closing turns away exactly those who come later. What is
buffered or in line when the queue is closed is still received, and then the stream has
ended for good. -/
theorem queue_closes (opened : AdmissionQueue.open? capacity = some queue)
    (start : s₀ = { reservations, ledger, queue, commitLimit })
    (allowed : Obeys SendsAndReceives s₀ actions) (reached : s = s₀.after actions) :
    Closes capacity s₀ actions s := by
  have opening : Exchanging (max capacity 1) s₀ :=
    start ▸ exchanging_start reservations ledger commitLimit opened
  have replies : s₀.RepliesTo [] [] := start ▸ repliesTo_start reservations ledger commitLimit opened
  have isOpen : s₀.queue.closed = false := by
    rw [start, ofCapacity_of_open? opened]
    rfl
  have untold : s₀.answers = [] := by rw [start]
  have exchanging := opening.after allowed
  have replied := opening.replied replies allowed
  have ends := opening.ended_of_told untold allowed
  have closed := opening.closed_iff isOpen allowed
  subst reached
  have attended := exchanging.attended
  constructor
  case sendWaits =>
    intro quiet id order found
    exact attended.full_of_send quiet found
  case receiveWaits =>
    intro quiet id found
    refine ⟨(attended.idle_receiver quiet found).1, fun closes => ?_⟩
    have isOpen := attended.open_of_receive (by omega) quiet found
    rw [closed.mpr closes] at isOpen
    cases isOpen
  case ended =>
    intro id told
    obtain ⟨isClosed, waiting, granted, buffer⟩ := ended_iff.mp (ends id told)
    exact ⟨closed.mp isClosed, buffer, by simp [AdmissionQueue.buyers, granted, waiting]⟩
  case forGood =>
    rintro before later rfl id told
    obtain ⟨first, second⟩ := obeys_append.mp allowed
    rw [after_append]
    exact (opening.after first).received_of_ended (opening.ended_of_told untold first id told)
      second
  case refused =>
    rintro before later rfl closes id order begun
    obtain ⟨first, second⟩ := obeys_append.mp allowed
    have middle := opening.after first
    have new := middle.attended.named.le_of_started begun
    have outside : id ∉ (s₀.after before).queue.buyers := by
      intro member
      exact Nat.not_lt.mpr new (middle.attended.buyer_named member)
    have unanswered := (opening.replied replies first).unanswered_of_new new
    obtain ⟨isClosed, outside, unsent⟩ := middle.never_sent
      ((opening.closed_iff isOpen first).mpr closes) outside unanswered second
    rw [← after_append] at isClosed outside unsent
    have begun : (id, .send order) ∈ gather started s₀ (before ++ later) := by
      rw [gather_append]
      exact List.mem_append_right _ begun
    exact replied.refused attended isClosed outside unsent begun
  case kept =>
    rintro before later rfl id member order
    obtain ⟨first, second⟩ := obeys_append.mp allowed
    have middle := opening.after first
    obtain ⟨t, alive, -⟩ := (middle.attended.attends id).buyer member
    have unanswered := (opening.replied replies first).unanswered alive
    rw [after_append]
    exact middle.never_refused member unanswered second
  case again => exact fun closes => close_of_closed attended (closed.mpr closes)

/-- A queue for one order is closed, twice, while a send waits in line. A send that comes later is
refused. Both orders are received, and then the stream has ended for two receivers. -/
def closing : List Action :=
  [.start (.send (parcel ⟨1⟩)), .turn 0, .start (.send (parcel ⟨2⟩)), .turn 1, .close,
    .start (.send (parcel ⟨3⟩)), .turn 2, .close, .start (.receive .caller), .turn 3, .turn 1,
    .start (.receive .caller), .turn 4, .start (.receive .caller), .turn 5,
    .start (.receive .caller), .turn 6]

theorem queue_closes_twice : ∃ queue s₀ s,
    AdmissionQueue.open? 1 = some queue ∧
    s₀ = { reservations := { ttl := 1000 }, ledger := {}, queue, commitLimit := 5000 } ∧
    Obeys SendsAndReceives s₀ closing ∧ s = s₀.after closing ∧ Closes 1 s₀ closing s ∧
    s.ready = [] ∧
    s.answers = [(0, .sent (parcel ⟨1⟩)), (2, .notSent (parcel ⟨3⟩)),
      (3, .received (some (parcel ⟨1⟩))), (1, .sent (parcel ⟨2⟩)),
      (4, .received (some (parcel ⟨2⟩))), (5, .received none), (6, .received none)] := by
  have obeys (s₀ : Sale) (start : s₀ =
      { reservations := { ttl := 1000 }, ledger := {}, queue := .ofCapacity 1, commitLimit := 5000 }) :
      Obeys SendsAndReceives s₀ closing := by
    subst start
    exact ⟨⟨rfl, rfl⟩, ⟨rfl, rfl⟩, ⟨rfl, rfl⟩, ⟨rfl, rfl⟩, ⟨rfl, rfl⟩, ⟨rfl, rfl⟩, ⟨rfl, rfl⟩,
      ⟨rfl, rfl⟩, ⟨rfl, rfl⟩, ⟨rfl, rfl⟩, ⟨rfl, rfl⟩, ⟨rfl, rfl⟩, ⟨rfl, rfl⟩, ⟨rfl, rfl⟩,
      ⟨rfl, rfl⟩, ⟨rfl, rfl⟩, ⟨rfl, rfl⟩, trivial⟩
  exact ⟨_, _, _, rfl, rfl, obeys _ rfl, rfl, queue_closes rfl rfl (obeys _ rfl) rfl, rfl, rfl⟩

end FlashSale.Sale
