import FlashSale.Proofs.Sale.Exchange

/-!
# Who is told what

A send or a receive that was started goes on, has been answered once, or was dropped and is
never answered. The orders of the sends that succeeded are those that were received, followed
by those in the buffer, so that nothing is lost, doubled or put out of order on the way.
-/

namespace FlashSale

namespace Answer

/-- The order that a send put into the queue. -/
def sent? : Answer → Option Order
  | sent order => some order
  | _ => none

/-- The order that a receive took out of the queue. -/
def received? : Answer → Option Order
  | received order => order
  | _ => none

end Answer

/-- A send or a receive may end with the answer. Which order comes with a receive
depends on the queue. -/
inductive Task.Ends : Task → Answer → Prop where
  | sent {order} : Ends (.send order) (.sent order)
  | notSent {order} : Ends (.send order) (.notSent order)
  | received {order} : Ends (.receive .caller) (.received order)

namespace Sale

open AdmissionQueue

/-- The sends that succeeded and their orders, as they came into the queue. -/
def sent (answers : List (TaskId × Answer)) : List (TaskId × Order) :=
  answers.filterMap fun e => e.2.sent?.map (e.1, ·)

/-- The orders that were received, as they came out of the queue. -/
def received (answers : List (TaskId × Answer)) : List Order :=
  answers.filterMap fun e => e.2.received?

/-- The task that an action starts, under the name that it gets. -/
def started (s : Sale) : Action → List (TaskId × Task)
  | .start t => [(s.nextTask, t)]
  | _ => []

/-- The task that an action drops, if it is there. -/
def dropped (s : Sale) (a : Action) : List TaskId :=
  (a.drops?.filter fun id => s.tasks.contains id).toList

theorem mem_sent {answers : List (TaskId × Answer)} {id : TaskId} {order : Order} :
    (id, order) ∈ sent answers ↔ (id, .sent order) ∈ answers := by
  simp only [sent, List.mem_filterMap, Option.map_eq_some_iff, Prod.mk.injEq]
  constructor
  · rintro ⟨⟨id', a⟩, member, order', told, rfl, rfl⟩
    cases a with
    | sent => exact Option.some.inj told ▸ member
    | _ => cases told
  · exact fun member => ⟨_, member, order, rfl, rfl, rfl⟩

theorem sent_concat (answers : List (TaskId × Answer)) (id : TaskId) (a : Answer) :
    sent (answers ++ [(id, a)]) = sent answers ++ (a.sent?.map (id, ·)).toList := by
  rw [sent, List.filterMap_append]
  cases told : a.sent? <;> simp [sent, told]

theorem received_concat (answers : List (TaskId × Answer)) (id : TaskId) (a : Answer) :
    received (answers ++ [(id, a)]) = received answers ++ a.received?.toList := by
  rw [received, List.filterMap_append]
  cases told : a.received? <;> simp [received, told]

/-- What became of the tasks that were begun, given those that were dropped. `stream` is
what the queue owes to its users: no order is lost on the way. -/
structure Replied (tasks : Table TaskId Task) (buffer : List Order)
    (answers : List (TaskId × Answer)) (next : TaskId) (begun : List (TaskId × Task))
    (lost : List TaskId) : Prop where
  stream : (sent answers).map Prod.snd = received answers ++ buffer
  names : ∀ e ∈ begun, e.1 < next
  distinct : (begun.map Prod.fst).Nodup
  alive : ∀ id t, tasks.get? id = some t → (id, t) ∈ begun
  ended : ∀ id a, (id, a) ∈ answers → tasks.get? id = none ∧ ∃ t, (id, t) ∈ begun ∧ t.Ends a
  once : (answers.map Prod.fst).Nodup
  silent : ∀ id ∈ lost, tasks.get? id = none ∧ id ∉ answers.map Prod.fst ∧ id ∈ begun.map Prod.fst
  found : ∀ id t, (id, t) ∈ begun →
    tasks.get? id = some t ∨ id ∈ answers.map Prod.fst ∨ id ∈ lost

section Steps

variable {tasks : Table TaskId Task} {buffer : List Order} {answers : List (TaskId × Answer)}
  {next : TaskId} {begun : List (TaskId × Task)} {lost : List TaskId} {id : TaskId} {t : Task}

theorem Replied.later (replied : Replied tasks buffer answers next begun lost) {later : TaskId}
    (le : next ≤ later) : Replied tasks buffer answers later begun lost :=
  { replied with names := fun e begun => (replied.names e begun).trans_le le }

/-- A task that is there has not been answered yet, and so it is answered once at most.
-/
theorem Replied.unanswered (replied : Replied tasks buffer answers next begun lost)
    (found : tasks.get? id = some t) : id ∉ answers.map Prod.fst := by
  intro answered
  obtain ⟨⟨_, a⟩, member, rfl⟩ := List.mem_map.mp answered
  have gone := (replied.ended _ a member).1
  rw [found] at gone
  cases gone

theorem Replied.unanswered_of_new (replied : Replied tasks buffer answers next begun lost)
    (new : next ≤ id) : id ∉ answers.map Prod.fst := by
  intro answered
  obtain ⟨⟨_, a⟩, told, rfl⟩ := List.mem_map.mp answered
  obtain ⟨-, t, begun, -⟩ := replied.ended _ a told
  exact Nat.not_lt.mpr new (replied.names _ begun)

/-- A task has one name, and a name belongs to one task. Answers can be told apart by
their names. -/
theorem Replied.unique (replied : Replied tasks buffer answers next begun lost) {t' : Task}
    (first : (id, t) ∈ begun) (second : (id, t') ∈ begun) : t = t' :=
  (Prod.mk.inj (List.inj_on_of_nodup_map replied.distinct first second rfl)).2

theorem Replied.start (replied : Replied tasks buffer answers next begun lost) (t : Task)
    (new : tasks.get? next = none) :
    Replied (tasks.insert next t) buffer answers (next + 1) (begun ++ [(next, t)]) lost := by
  have unused : ∀ id ∈ begun.map Prod.fst, id ≠ next := by
    intro id named
    obtain ⟨e, member, rfl⟩ := List.mem_map.mp named
    exact Nat.ne_of_lt (replied.names e member)
  constructor
  case stream => exact replied.stream
  case names =>
    intro e member
    obtain old | rfl := by simpa using member
    · exact Nat.lt_succ_of_lt (replied.names e old)
    · exact Nat.lt_succ_self next
  case distinct =>
    rw [List.map_append]
    exact replied.distinct.append (List.nodup_singleton _) fun id old same =>
      unused id old (by simpa using same)
  case alive =>
    intro id t' here
    rw [Table.get?_insert] at here
    split at here
    · cases here
      subst id
      exact List.mem_append_right _ (List.mem_singleton_self _)
    · exact List.mem_append_left _ (replied.alive id t' here)
  case ended =>
    intro id a member
    obtain ⟨gone, t', old, ends⟩ := replied.ended id a member
    refine ⟨?_, t', List.mem_append_left _ old, ends⟩
    rw [Table.get?_insert_of_ne (unused id (List.mem_map_of_mem old)), gone]
  case once => exact replied.once
  case silent =>
    intro id member
    obtain ⟨gone, unanswered, old⟩ := replied.silent id member
    refine ⟨?_, unanswered, ?_⟩
    · rw [Table.get?_insert_of_ne (unused id old), gone]
    · rw [List.map_append]
      exact List.mem_append_left _ old
  case found =>
    intro id t' member
    obtain old | ⟨rfl, rfl⟩ := by simpa using member
    · rw [Table.get?_insert_of_ne (unused id (List.mem_map_of_mem old))]
      exact replied.found id t' old
    · exact .inl (Table.get?_insert_self ..)

/-- A task is answered and over. If its order was moved, the stream of orders must have
moved with it. -/
theorem Replied.answer (replied : Replied tasks buffer answers next begun lost)
    (found : tasks.get? id = some t) {a : Answer} (ends : t.Ends a) {buffer' : List Order}
    (stream : (sent (answers ++ [(id, a)])).map Prod.snd =
      received (answers ++ [(id, a)]) ++ buffer') :
    Replied (tasks.erase id) buffer' (answers ++ [(id, a)]) next begun lost := by
  have gone : (tasks.erase id).get? id = none := Table.get?_erase_self ..
  constructor
  case stream => exact stream
  case names => exact replied.names
  case distinct => exact replied.distinct
  case alive => exact fun id' t' here => replied.alive id' t' (get?_of_erase here)
  case ended =>
    intro id' a' member
    obtain old | ⟨rfl, rfl⟩ := by simpa using member
    · obtain ⟨absent, rest⟩ := replied.ended id' a' old
      exact ⟨Table.get?_erase_eq_none absent, rest⟩
    · exact ⟨gone, t, replied.alive _ t found, ends⟩
  case once =>
    rw [List.map_append]
    refine replied.once.append (List.nodup_singleton _) fun id' old same => ?_
    obtain rfl : id' = id := by simpa using same
    exact replied.unanswered found old
  case silent =>
    intro id' member
    obtain ⟨absent, unanswered, old⟩ := replied.silent id' member
    refine ⟨Table.get?_erase_eq_none absent, fun member => ?_, old⟩
    obtain answered | rfl : id' ∈ answers.map Prod.fst ∨ id' = id := by simpa using member
    · exact unanswered answered
    · rw [found] at absent
      cases absent
  case found =>
    intro id' t' member
    rw [List.map_append]
    by_cases same : id' = id
    · exact .inr (.inl (by simp [same]))
    · rw [Table.get?_erase_of_ne same]
      exact (replied.found id' t' member).imp_right (.imp_left (List.mem_append_left _))

theorem Replied.lose (replied : Replied tasks buffer answers next begun lost)
    (found : tasks.get? id = some t) :
    Replied (tasks.erase id) buffer answers next begun (lost ++ [id]) := by
  constructor
  case stream => exact replied.stream
  case names => exact replied.names
  case distinct => exact replied.distinct
  case alive => exact fun id' t' here => replied.alive id' t' (get?_of_erase here)
  case ended =>
    intro id' a member
    obtain ⟨absent, rest⟩ := replied.ended id' a member
    exact ⟨Table.get?_erase_eq_none absent, rest⟩
  case once => exact replied.once
  case silent =>
    intro id' member
    obtain old | rfl : id' ∈ lost ∨ id' = id := by simpa using member
    · obtain ⟨absent, rest⟩ := replied.silent id' old
      exact ⟨Table.get?_erase_eq_none absent, rest⟩
    · refine ⟨Table.get?_erase_self .., replied.unanswered found, ?_⟩
      exact List.mem_map_of_mem (replied.alive _ t found)
  case found =>
    intro id' t' member
    by_cases same : id' = id
    · exact .inr (.inr (by simp [same]))
    · rw [Table.get?_erase_of_ne same]
      exact (replied.found id' t' member).imp_right (.imp_right (List.mem_append_left _))

end Steps

variable {capacity : Nat} {s s₀ : Sale} {a : Action} {begun : List (TaskId × Task)}
  {lost : List TaskId}

/-- The state of a sale as far as replies are concerned. -/
def RepliesTo (s : Sale) (begun : List (TaskId × Task)) (lost : List TaskId) : Prop :=
  Replied s.tasks s.queue.buffer s.answers s.nextTask begun lost

/-- Whatever an action does among senders and receivers, it keeps account of who was
told what. -/
theorem RepliesTo.exchange (replied : s.RepliesTo begun lost) (exchanging : s.Exchanging capacity)
    {tasks : Table TaskId Task} {queue : AdmissionQueue} {ready : List TaskId}
    {answers : List (TaskId × Answer)} (exchange : Exchange s a tasks queue ready answers) :
    Replied tasks queue.buffer answers (s.perform a).nextTask (begun ++ s.started a)
      (lost ++ s.dropped a) := by
  have later := (exchanging.attended.named.perform a).2
  have stream : (sent s.answers).map Prod.snd = received s.answers ++ s.queue.buffer :=
    replied.stream
  -- An order that is put in comes after all that are in the buffer.
  have put {id : TaskId} {order : Order} : (sent (s.answers ++ [(id, .sent order)])).map Prod.snd =
      received (s.answers ++ [(id, .sent order)]) ++ (s.queue.buffer ++ [order]) := by
    simp [sent_concat, received_concat, stream, Answer.sent?, Answer.received?]
  have told {id : TaskId} {a : Answer} (unsent : a.sent? = none) (unreceived : a.received? = none) :
      (sent (s.answers ++ [(id, a)])).map Prod.snd =
        received (s.answers ++ [(id, a)]) ++ s.queue.buffer := by
    simp [sent_concat, received_concat, stream, unsent, unreceived]
  have missing {id : TaskId} (drops : a.drops? = some id) (absent : s.tasks.get? id = none) :
      s.dropped a = [] := by simp [dropped, drops, Table.contains, absent]
  have losing {id : TaskId} {t : Task} (drops : a.drops? = some id)
      (found : s.tasks.get? id = some t) : s.dropped a = [id] := by
    simp [dropped, drops, Table.contains, found]
  have idle {id : TaskId} (drops : a.drops? = some id) : s.started a = [] := by
    cases a with
    | start => cases drops
    | _ => rfl
  have same {tasks : Table TaskId Task} {buffer : List Order} {answers : List (TaskId × Answer)}
      (replied : Replied tasks buffer answers s.nextTask begun lost) (idle : s.started a = [])
      (kept : s.dropped a = []) :
      Replied tasks buffer answers (s.perform a).nextTask (begun ++ s.started a)
        (lost ++ s.dropped a) := by
    rw [idle, kept, List.append_nil, List.append_nil]
    exact replied.later later
  have lose {id : TaskId} {t : Task} (drops : a.drops? = some id)
      (found : s.tasks.get? id = some t) :
      Replied (s.tasks.erase id) s.queue.buffer s.answers (s.perform a).nextTask
        (begun ++ s.started a) (lost ++ s.dropped a) := by
    rw [losing drops found, idle drops, List.append_nil]
    exact (replied.lose found).later later
  cases exchange with
  | slept => exact same replied rfl rfl
  | claimed found => exact same (replied.answer found .sent put) rfl rfl
  | placed found => exact same (replied.answer found .sent put) rfl rfl
  | refused found => exact same (replied.answer found .notSent (told rfl rfl)) rfl rfl
  | stood => exact same replied rfl rfl
  | joined => exact same replied rfl rfl
  | @took id order queue woken found first popped =>
      have buffer : s.queue.buffer = order :: queue.buffer := by
        rw [← joinLine_buffer s.queue id]
        exact buffer_of_pop? popped
      have taken : (sent (s.answers ++ [(id, .received (some order))])).map Prod.snd =
          received (s.answers ++ [(id, .received (some order))]) ++ queue.buffer := by
        simp [sent_concat, received_concat, stream, buffer, Answer.sent?, Answer.received?]
      exact same (replied.answer found .received taken) rfl rfl
  | ended found =>
      rw [leaveLine_buffer, joinLine_buffer]
      exact same (replied.answer found .received (told rfl rfl)) rfl rfl
  | idle =>
      rw [joinLine_buffer]
      exact same replied rfl rfl
  | elapsed => exact same replied rfl rfl
  | @started t =>
      have kept : s.dropped (.start t) = [] := rfl
      rw [kept, List.append_nil]
      exact replied.start t exchanging.attended.unused
  | missed drops absent => exact same replied (idle drops) (missing drops absent)
  | unsent drops found =>
      rw [withdraw_buffer]
      exact lose drops found
  | unreceived drops found => exact lose drops found
  | closed => exact same replied rfl rfl
  | released => exact same replied rfl rfl

theorem repliesTo_start {queue : AdmissionQueue} (reservations : Reservations) (ledger : Ledger)
    (commitLimit : Nat) (opened : AdmissionQueue.open? capacity = some queue) :
    RepliesTo { reservations, ledger, queue, commitLimit } [] [] := by
  obtain rfl := ofCapacity_of_open? opened
  constructor <;> simp [sent, received, ofCapacity]

/-- Along a course of sends and receives, everybody is told what is due to them. -/
theorem Exchanging.replied {actions : List Action} (exchanging : s₀.Exchanging capacity)
    (start : s₀.RepliesTo [] []) (ok : Obeys SendsAndReceives s₀ actions) :
    (s₀.after actions).RepliesTo (gather started s₀ actions) (gather dropped s₀ actions) := by
  refine (exchanging.obeys ok).invariant (P := fun done =>
    (s₀.after done).RepliesTo (gather started s₀ done) (gather dropped s₀ done)) start ?_
  rintro done a replied ⟨exchanging, exchange⟩
  rw [after_append, gather_concat, gather_concat]
  exact replied.exchange exchanging exchange

end Sale

end FlashSale
