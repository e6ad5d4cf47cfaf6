import FlashSale.Proofs.Sale.Orders

/-!
# How a step takes orders along

`Passage` says how a step of a task moves the counts of orders, and with them the orders
themselves, the tally and the ledger. It holds of every deed of a sound pipeline, but for
a direct commit, which is no purchase's.
-/

namespace FlashSale.Sale

/-- How a step takes orders along. For each identifier, what comes into a place has left
another one. -/
structure Passage (s s' : Sale) (me : TaskId) (t : Task) (turn : Turn) : Prop where
  bought : ∀ id, ((turn.accepted.map Prod.snd).count id : Int) + turn.weigh (Task.buys id) t ≤
    t.buys id
  passed : ∀ id, ((turn.accepted.map Prod.snd).count id : Int) +
      (s.queue.buffer.map Order.id).count id + t.settles id + (Event.settledIds s.log).count id =
    (s'.queue.buffer.map Order.id).count id + turn.weigh (Task.settles id) t +
      (Event.settledIds s'.log).count id
  handed : ∀ id, ((idsOf (handings (turn.notes s.now me t))).count id : Int) + t.settles id +
      (Event.settledIds s.log).count id =
    turn.weigh (Task.settles id) t + (Event.settledIds s'.log).count id
  attempted : ∀ id, ((idsOf (attempts (turn.notes s.now me t))).count id : Int) + t.commits id +
      (Event.settledIds s.log).count id =
    turn.weigh (Task.commits id) t + (Event.settledIds s'.log).count id
  handing : ∀ work ∈ handings (turn.notes s.now me t), work.1 = me ∧ work.2 ∈ s.queue.buffer
  attempting : ∀ work ∈ attempts (turn.notes s.now me t), work.1 = me ∧ t.order? = some work.2
  buffer : ∀ order ∈ s'.queue.buffer, order ∈ s.queue.buffer ∨
    ∃ purchase ∈ turn.accepted, order.Fills purchase.1 purchase.2
  next : ∀ t' order, turn = .again t' → t'.order? = some order → t.order? = some order ∨
    (order ∈ s.queue.buffer ∧ (me, order) ∈ handings (turn.notes s.now me t))
  call : ∀ t', turn = .again t' → t'.isLedgerCall = false
  ledger : ∀ id order, s'.ledger.findOrder? id = some order →
    s.ledger.findOrder? id = some order ∨ (t.order? = some order ∧ id = order.id)
  recorded : s.Recorded → s'.Recorded
  tallied : s.Tallied → s'.Tallied
  tally : t.isWorker = false → s'.tally = s.tally
  joined : ∀ tally, turn = .finish (.joined tally) → s.hasWorkers = false ∧ tally = s.tally

variable {s s' : Sale} {me : TaskId} {t : Task} {turn : Turn}

/-- The task ends its step as a task that has no order, makes the same order if it makes
one, and calls no ledger; or it waits or is over. Such a step has nothing to do with
orders. -/
inductive Idle (t : Task) : Turn → Prop where
  | again {t' : Task} (none : t'.order? = none) (buys : ∀ id, t'.buys id = t.buys id)
      (call : t'.isLedgerCall = false) : Idle t (.again t')
  | wait {time} : Idle t (.wait time)
  | finish {a} (refused : a.accepted? = none) : Idle t (.finish a)
  | crash : Idle t .crash

/-- A step that takes no order along: what it reports settles nothing, and every order stays
where it is. -/
theorem Passage.of_still (accepted : turn.accepted = [])
    (settles : ∀ id, turn.weigh (Task.settles id) t = t.settles id)
    (commits : ∀ id, turn.weigh (Task.commits id) t = t.commits id)
    (buys : ∀ id, turn.weigh (Task.buys id) t ≤ t.buys id)
    (handings : handings (turn.notes s.now me t) = []) (attempts : attempts (turn.notes s.now me t) = [])
    (next : ∀ t' order, turn = .again t' → t'.order? = some order → t.order? = some order)
    (call : ∀ t', turn = .again t' → t'.isLedgerCall = false)
    (events : List Event) (log : s'.log = s.log ++ events)
    (unsettled : ∀ e ∈ events, e.settledId? = none) (buffer : s'.queue.buffer = s.queue.buffer)
    (orders : s'.ledger.orders = s.ledger.orders) (tally : s'.tally = s.tally)
    (joined : ∀ tally, turn = .finish (.joined tally) → s.hasWorkers = false ∧ tally = s.tally) :
    Passage s s' me t turn := by
  have settled : Event.settledIds s'.log = Event.settledIds s.log := by
    rw [log]
    exact filterMap_append_none unsettled
  have found (id : Uuid) : s'.ledger.findOrder? id = s.ledger.findOrder? id := by
    rw [Ledger.findOrder?, orders, Ledger.findOrder?]
  constructor
  case bought =>
    intro id
    rw [accepted]
    exact (Int.zero_add _).trans_le (buys id)
  case passed =>
    intro id
    rw [accepted, buffer, settles, settled]
    simp
  case handed =>
    intro id
    rw [handings, settles, settled]
    simp [idsOf]
  case attempted =>
    intro id
    rw [attempts, commits, settled]
    simp [idsOf]
  case handing =>
    intro work member
    rw [handings] at member
    cases member
  case attempting =>
    intro work member
    rw [attempts] at member
    cases member
  case buffer =>
    intro order member
    exact .inl (buffer ▸ member)
  case next =>
    intro t' order goes here
    exact .inl (next t' order goes here)
  case call => exact call
  case ledger =>
    intro id order here
    exact .inl (found id ▸ here)
  case recorded =>
    intro recorded
    exact recorded.quiet log (fun e he => (settled_none (unsettled e he)).1) orders
  case tallied => exact fun tallied => tallied.quiet log unsettled tally
  case tally => exact fun _ => tally
  case joined => exact joined

/-- The step of a task that neither has an order nor gets one. Most deeds are of this
kind. -/
theorem Passage.of_idle (empty : t.order? = none) (idle : Idle t turn) (events : List Event)
    (log : s'.log = s.log ++ events) (unsettled : ∀ e ∈ events, e.settledId? = none)
    (buffer : s'.queue.buffer = s.queue.buffer) (orders : s'.ledger.orders = s.ledger.orders)
    (tally : s'.tally = s.tally)
    (joined : ∀ tally, turn = .finish (.joined tally) → s.hasWorkers = false ∧ tally = s.tally) :
    Passage s s' me t turn := by
  have noOrder (id : Uuid) := order?_eq_none empty id
  cases idle with
  | again none' buys call =>
      refine .of_still rfl (fun id => ?_) (fun id => ?_) (fun id => (buys id).le) ?_ ?_ ?_ ?_ events
        log unsettled buffer orders tally joined
      · exact (order?_eq_none none' id).1.trans (noOrder id).1.symm
      · exact (order?_eq_none none' id).2.trans (noOrder id).2.symm
      · exact (noteOf_idle none' s.now).1
      · exact (noteOf_idle none' s.now).2
      · rintro _ order ⟨⟩ here
        rw [none'] at here
        cases here
      · rintro _ ⟨⟩
        exact call
  | wait =>
      exact .of_still rfl (fun _ => rfl) (fun _ => rfl) (fun _ => Int.le_refl _) rfl rfl (by simp)
        (by simp) events log unsettled buffer orders tally joined
  | finish refused =>
      refine .of_still ?_ (fun id => (noOrder id).1.symm) (fun id => (noOrder id).2.symm) ?_ rfl rfl
        (by simp) (by simp) events log unsettled buffer orders tally joined
      · rw [Turn.accepted, refused]
        rfl
      · exact buys_nonneg t
  | crash =>
      exact .of_still rfl (fun id => (noOrder id).1.symm) (fun id => (noOrder id).2.symm)
        (buys_nonneg t) rfl rfl (by simp) (by simp) events log unsettled buffer orders tally joined

theorem Passage.of_silent (empty : t.order? = none) (idle : Idle t turn) (log : s'.log = s.log)
    (buffer : s'.queue.buffer = s.queue.buffer) (orders : s'.ledger.orders = s.ledger.orders)
    (tally : s'.tally = s.tally)
    (joined : ∀ tally, turn = .finish (.joined tally) → s.hasWorkers = false ∧ tally = s.tally) :
    Passage s s' me t turn :=
  .of_idle empty idle [] (by rw [log, List.append_nil]) (by simp) buffer orders tally joined

/-- A worker reports what came of its order and receives again. The order is out of its
hands and in the reports. -/
theorem Passage.of_settled {order : Order} {stage : Settlement.Stage} {due giveUp : Nat} {e : Event}
    (begun : stage ≠ .opening) (log : s'.log = s.log ++ [e]) (settled : e.settledId? = some order.id)
    (buffer : s'.queue.buffer = s.queue.buffer)
    (ledger : ∀ id found, s'.ledger.findOrder? id = some found →
      s.ledger.findOrder? id = some found ∨ (some order = some found ∧ id = found.id))
    (recorded : s.Recorded → s'.Recorded) (tallied : s.Tallied → s'.Tallied) :
    Passage s s' me (.settle .worker order stage due giveUp) (.again (.receive .worker)) := by
  have count (id : Uuid) : ((Event.settledIds s'.log).count id : Int) =
      (Event.settledIds s.log).count id + if order.id = id then 1 else 0 := by
    rw [log, Event.settledIds, List.filterMap_append, List.count_append]
    by_cases same : order.id = id <;> simp [settled, Event.settledIds, same]
  have commits (id : Uuid) :
      Task.commits id (.settle .worker order stage due giveUp) = if order.id = id then 1 else 0 := by
    cases stage with
    | opening => exact absurd rfl begun
    | _ => rfl
  constructor
  case bought => exact fun _ => Int.le_refl 0
  case passed =>
    intro id
    rw [buffer, count]
    simp only [Turn.accepted, Turn.weigh, Task.settles, List.map_nil, List.count_nil]
    omega
  case handed =>
    intro id
    rw [count, Turn.notes, (noteOf_idle rfl s.now).1]
    simp only [Turn.weigh, Task.settles, idsOf, List.map_nil, List.count_nil]
    omega
  case attempted =>
    intro id
    rw [count, commits, Turn.notes, (noteOf_idle rfl s.now).2]
    simp only [Turn.weigh, Task.commits, idsOf, List.map_nil, List.count_nil]
    omega
  case handing =>
    intro work member
    rw [Turn.notes, (noteOf_idle rfl s.now).1] at member
    cases member
  case attempting =>
    intro work member
    rw [Turn.notes, (noteOf_idle rfl s.now).2] at member
    cases member
  case buffer => exact fun order member => .inl (buffer ▸ member)
  case next =>
    rintro _ _ ⟨⟩ here
    cases here
  case call =>
    rintro _ ⟨⟩
    rfl
  case ledger => exact ledger
  case recorded => exact recorded
  case tallied => exact tallied
  case tally =>
    intro other
    cases other
  case joined =>
    rintro _ ⟨⟩

section Deeds

variable {r : PurchaseRequest} {web : Bool} {id : Uuid} {due giveUp : Nat}

/-- A purchase is accepted with the order that it put into the queue. It will not buy
again. -/
theorem Passage.of_admitted {order : Order} {e : Event} (filled : order.Fills r id)
    (log : s'.log = s.log ++ [e]) (unsettled : e.settledId? = none)
    (buffer : s'.queue.buffer = s.queue.buffer ++ [order])
    (ledger : s'.ledger = s.ledger) (tally : s'.tally = s.tally) :
    Passage s s' me (.purchase r web id (.admitting order) due)
      (.finish (.purchased r web (.ok order.id))) := by
  obtain ⟨now, rfl⟩ := filled
  have unsettled : ∀ e' ∈ [e], e'.settledId? = none := by
    intro e' he
    rw [List.mem_singleton.mp he]
    exact unsettled
  have found (id' : Uuid) : s'.ledger.findOrder? id' = s.ledger.findOrder? id' := by rw [ledger]
  have settled : Event.settledIds s'.log = Event.settledIds s.log := by
    rw [log]
    exact filterMap_append_none unsettled
  constructor
  case bought =>
    intro id'
    simp only [Turn.accepted, Turn.weigh, Task.buys, Answer.accepted?, Option.toList, List.map,
      Order.pending]
    by_cases same : id = id' <;> simp [same]
  case passed =>
    intro id'
    rw [buffer, settled, List.map_append, List.count_append]
    simp only [Turn.accepted, Turn.weigh, Task.settles, Answer.accepted?, Option.toList, List.map]
    omega
  case handed =>
    intro id'
    rw [settled]
    rfl
  case attempted =>
    intro id'
    rw [settled]
    rfl
  case handing => exact fun _ member => (List.not_mem_nil member).elim
  case attempting => exact fun _ member => (List.not_mem_nil member).elim
  case buffer =>
    intro order member
    rw [buffer] at member
    obtain old | new := List.mem_append.mp member
    · exact .inl old
    · rw [List.mem_singleton.mp new]
      exact .inr ⟨(r, id), List.mem_singleton_self _, now, rfl⟩
  case next =>
    rintro _ _ ⟨⟩
  case call =>
    rintro _ ⟨⟩
  case ledger => exact fun id' order here => .inl (found id' ▸ here)
  case recorded =>
    intro recorded
    exact recorded.quiet log (fun e he => (settled_none (unsettled e he)).1) (congrArg _ ledger)
  case tallied => exact fun tallied => tallied.quiet log unsettled tally
  case tally => exact fun _ => tally
  case joined =>
    rintro _ ⟨⟩

/-- A purchase takes an order along once, when the order is admitted. -/
theorem Deed.passage_purchase {stage : Purchase.Stage}
    (deed : Deed s me (.purchase r web id stage due) s' turn)
    (own : Task.Sound (.purchase r web id stage due)) :
    Passage s s' me (.purchase r web id stage due) turn := by
  cases deed with
  | asleep => exact .of_silent rfl .wait rfl rfl rfl rfl (by simp)
  | turnedAway => exact .of_silent rfl (.finish rfl) rfl rfl rfl rfl (by simp)
  | entered => exact .of_silent rfl (.again rfl (fun _ => rfl) rfl) rfl rfl rfl rfl (by simp)
  | marked => exact .of_silent rfl (.again rfl (fun _ => rfl) rfl) rfl rfl rfl rfl (by simp)
  | duplicate => exact .of_idle rfl (.finish rfl) _ rfl (by simp [Event.settledId?]) rfl rfl rfl (by simp)
  | markRefused =>
      exact .of_idle rfl (.finish rfl) _ rfl endEvents_unsettled rfl rfl rfl (by simp)
  | markOverflowed => exact .of_silent rfl .crash rfl rfl rfl rfl (by simp)
  | reserved => exact .of_silent rfl (.again rfl (fun _ => rfl) rfl) rfl rfl rfl rfl (by simp)
  | soldOut => exact .of_idle rfl (.finish rfl) _ rfl (by simp [Event.settledId?]) rfl rfl rfl (by simp)
  | takeRefused =>
      exact .of_idle rfl (.finish rfl) _ rfl endEvents_unsettled rfl rfl rfl (by simp)
  | takeOverflowed => exact .of_silent rfl .crash rfl rfl rfl rfl (by simp)
  | @admitted _ _ _ order _ queue _ slot =>
      refine .of_admitted own.2 rfl rfl ?_ rfl rfl
      rw [AdmissionQueue.put_buffer, slot.buffer]
  | refused =>
      exact .of_idle rfl (.again rfl (fun _ => rfl) rfl) _ rfl (by simp [Event.settledId?]) rfl rfl
        rfl (by simp)
  | inLine line => exact .of_silent rfl .wait rfl line.buffer rfl rfl (by simp)
  | released => exact .of_idle rfl (.finish rfl) _ rfl endEvents_unsettled rfl rfl rfl (by simp)
  | releaseFailed =>
      refine .of_idle rfl (.finish rfl) _ rfl ?_ rfl rfl rfl (by simp)
      rintro e (_ | ⟨_, he⟩)
      · rfl
      · exact endEvents_unsettled e he
  | releaseOverflowed => exact .of_silent rfl .crash rfl rfl rfl rfl (by simp)

/-- A worker gives a commit up. It still has the order, whose attempt was noted when it
began. -/
theorem Passage.of_restoring {order : Order} {commit : CommitError} {due' giveUp' : Nat} :
    Passage s s me (.settle .worker order .committing due giveUp)
      (.again (.settle .worker order (.restoring commit) due' giveUp')) := by
  refine .of_still rfl (fun _ => rfl) (fun _ => rfl) (fun _ => Int.le_refl 0) rfl rfl ?_ ?_ []
    (List.append_nil _).symm (by simp) rfl rfl rfl (by simp)
  · rintro _ _ ⟨⟩ here
    exact here
  · rintro _ ⟨⟩
    rfl

/-- A worker begins to commit the order that it was handed. This is noted as the
attempt. -/
theorem Passage.of_begun {order : Order} {due' giveUp' : Nat} :
    Passage s s me (.settle .worker order .opening due giveUp)
      (.again (.settle .worker order .committing due' giveUp')) := by
  constructor
  case bought => exact fun _ => Int.le_refl 0
  case passed =>
    intro id
    simp only [Turn.accepted, Turn.weigh, Task.settles, List.map_nil, List.count_nil]
    omega
  case handed =>
    intro id
    change ((0 : Nat) : Int) + _ + _ = _
    exact congrArg (· + _) (Int.zero_add _)
  case attempted =>
    intro id
    change (([order.id].count id : Nat) : Int) + 0 + _ = (if order.id = id then 1 else 0) + _
    by_cases same : order.id = id <;> simp [same]
  case handing => exact fun _ member => (List.not_mem_nil member).elim
  case attempting =>
    intro work member
    obtain rfl := List.mem_singleton.mp member
    exact ⟨rfl, rfl⟩
  case buffer => exact fun _ member => .inl member
  case next =>
    rintro _ _ ⟨⟩ here
    exact .inl here
  case call =>
    rintro _ ⟨⟩
    rfl
  case ledger => exact fun _ _ here => .inl here
  case recorded => exact id
  case tallied => exact id
  case tally => exact fun _ => rfl
  case joined =>
    rintro _ ⟨⟩

/-- A worker is handed the oldest order of the queue. This is noted as the handing out.
-/
theorem Passage.of_handed {order : Order} {due' giveUp' : Nat} {rest : List Order}
    (before : s.queue.buffer = order :: rest) (after : s'.queue.buffer = rest)
    (ledger : s'.ledger = s.ledger) (log : s'.log = s.log) (tally : s'.tally = s.tally) :
    Passage s s' me (.receive .worker) (.again (.settle .worker order .opening due' giveUp')) := by
  constructor
  case bought => exact fun _ => Int.le_refl 0
  case passed =>
    intro id
    rw [before, after, log, List.map_cons, List.count_cons]
    simp only [Turn.accepted, Turn.weigh, Task.settles, List.map_nil, List.count_nil]
    by_cases same : order.id = id <;> simp [same]
  case handed =>
    intro id
    rw [log]
    change (([order.id].count id : Nat) : Int) + 0 + _ = (if order.id = id then 1 else 0) + _
    by_cases same : order.id = id <;> simp [same]
  case attempted =>
    intro id
    rw [log]
    rfl
  case handing =>
    intro work member
    obtain rfl := List.mem_singleton.mp member
    exact ⟨rfl, before ▸ List.mem_cons_self ..⟩
  case attempting => exact fun _ member => (List.not_mem_nil member).elim
  case buffer =>
    intro other member
    rw [after] at member
    exact .inl (before ▸ List.mem_cons_of_mem _ member)
  case next =>
    rintro _ _ ⟨⟩ ⟨⟩
    exact .inr ⟨before ▸ List.mem_cons_self .., List.mem_singleton_self _⟩
  case call =>
    rintro _ ⟨⟩
    rfl
  case ledger =>
    intro id other here
    rw [ledger] at here
    exact .inl here
  case recorded =>
    intro recorded
    exact recorded.quiet (log.trans (List.append_nil _).symm) (by simp) (congrArg _ ledger)
  case tallied =>
    intro tallied
    exact tallied.quiet (log.trans (List.append_nil _).symm) (by simp) tally
  case tally => exact fun _ => tally
  case joined =>
    rintro _ ⟨⟩

/-- What a worker does to settle an order takes it from the worker to the reports. -/
theorem Deed.passage_settle {order : Order} {stage : Settlement.Stage}
    (deed : Deed s me (.settle .worker order stage due giveUp) s' turn) (alive : turn ≠ .crash) :
    Passage s s' me (.settle .worker order stage due giveUp) turn := by
  cases deed with
  | asleep =>
      exact .of_still rfl (fun _ => rfl) (fun _ => rfl) (fun _ => Int.le_refl 0) rfl rfl (by simp)
        (by simp) [] (List.append_nil _).symm (by simp) rfl rfl rfl (by simp)
  | begun => exact .of_begun
  | committed inTime reply =>
      refine .of_settled (by simp) rfl rfl rfl ?_ (fun recorded => recorded.commit reply rfl rfl)
        fun tallied => tallied.record rfl rfl
      obtain ⟨-, row, left, version, -, -, -, rfl⟩ := Ledger.commit_eq_ok reply
      intro id found here
      change (s.ledger.orders.insert order.id order).get? id = some found at here
      rw [Table.get?_insert] at here
      split at here
      · cases here
        exact .inr ⟨rfl, ‹_›⟩
      · exact .inl here
  | commitRefused inTime reply =>
      obtain rfl := Ledger.commit_eq_error reply
      exact .of_restoring
  | commitTimedOut => exact .of_restoring
  | restored =>
      exact .of_settled (by simp) rfl rfl rfl (fun _ _ here => .inl here)
        (fun recorded => recorded.quiet rfl (by simp [outcomeEvent, Event.savedId?]) rfl)
        fun tallied => tallied.record rfl rfl
  | @restoreFailed _ _ _ _ _ failure about =>
      exact .of_settled (by simp) rfl (congrArg some about.1) rfl (fun _ _ here => .inl here)
        (fun recorded => recorded.quiet rfl (by simp [outcomeEvent, Event.savedId?]) rfl)
        fun tallied => tallied.record rfl rfl
  | collapsed => exact absurd rfl alive
  | commitOverflowed => exact absurd rfl alive
  | restoreOverflowed => exact absurd rfl alive

theorem Deed.passage_receive (deed : Deed s me (.receive .worker) s' turn) :
    Passage s s' me (.receive .worker) turn := by
  cases deed with
  | asleep => exact .of_silent rfl .wait rfl rfl rfl rfl (by simp)
  | handed popped =>
      have buffer := AdmissionQueue.buffer_of_pop? popped
      rw [AdmissionQueue.joinLine_buffer] at buffer
      exact .of_handed buffer rfl rfl rfl rfl
  | drained =>
      exact .of_idle rfl (.finish rfl) _ rfl (by simp [Event.settledId?]) (by simp) rfl rfl (by simp)
  | idle => exact .of_silent rfl .wait rfl (by simp) rfl rfl (by simp)

theorem Deed.passage_ledger {call : LedgerCall} {start : Option Nat}
    (deed : Deed s me (.ledger call start) s' turn)
    (indirect : Task.isDirectCommit (.ledger call start) = false) :
    Passage s s' me (.ledger call start) turn := by
  cases deed with
  | asleep => exact .of_silent rfl .wait rfl rfl rfl rfl (by simp)
  | commitBegun => cases indirect
  | commitCollapsed => cases indirect
  | commitCalled => cases indirect
  | looked ends =>
      obtain ⟨result, rfl⟩ | rfl := ends
      · exact .of_silent rfl (.finish rfl) rfl rfl rfl rfl (by simp)
      · exact .of_silent rfl .crash rfl rfl rfl rfl (by simp)
  | updated ends =>
      obtain ⟨result, rfl⟩ | rfl := ends
      · exact .of_silent rfl (.finish rfl) rfl rfl (Ledger.update_orders ..) rfl (by simp)
      · exact .of_silent rfl .crash rfl rfl (Ledger.update_orders ..) rfl (by simp)

theorem Deed.passage_release {item : String} {quantity : Int32}
    (deed : Deed s me (.release item quantity due) s' turn) :
    Passage s s' me (.release item quantity due) turn := by
  cases deed with
  | asleep => exact .of_silent rfl .wait rfl rfl rfl rfl (by simp)
  | returned => exact .of_silent rfl (.finish rfl) rfl rfl rfl rfl (by simp)
  | returnFailed =>
      exact .of_idle rfl (.finish rfl) _ rfl (by simp [Event.settledId?]) rfl rfl rfl (by simp)
  | returnOverflowed => exact .of_silent rfl .crash rfl rfl rfl rfl (by simp)

theorem Deed.passage_join (deed : Deed s me .join s' turn) : Passage s s' me .join turn := by
  cases deed with
  | asleep => exact .of_silent rfl .wait rfl rfl rfl rfl (by simp)
  | joined alone =>
      refine .of_idle rfl (.finish rfl) _ rfl joinEvents_unsettled rfl rfl rfl ?_
      rintro _ ⟨⟩
      exact ⟨alone, rfl⟩
  | joining => exact .of_silent rfl .wait rfl rfl rfl rfl (by simp)

end Deeds

/-- Every step of a pipeline takes its orders along, unless a task commits an order
directly. This puts the cases together, one for each kind of task. -/
theorem Deed.passage (deed : Deed s me t s' turn) (own : t.Sound)
    (indirect : t.isDirectCommit = false) (alive : t.isWorker = true → turn ≠ .crash) :
    Passage s s' me t turn := by
  cases t with
  | purchase => exact deed.passage_purchase own
  | release => exact deed.passage_release
  | settle owner =>
      obtain rfl : owner = .worker := own.1
      exact deed.passage_settle (alive rfl)
  | receive owner =>
      obtain rfl : owner = .worker := own
      exact deed.passage_receive
  | ledger => exact deed.passage_ledger indirect
  | join => exact deed.passage_join
  | send => cases own
  | reservation => cases own

end FlashSale.Sale
