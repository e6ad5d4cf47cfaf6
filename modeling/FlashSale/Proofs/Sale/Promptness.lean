import FlashSale.Proofs.Sale.Inventory

/-!
# No commit fails without a reason

The ledger is available, commits take no longer than their limit, and the ledger was
seeded with at least the stock that was set. Then the row of the item covers every
order for it that is under way: what is out never exceeds what was set, less what is
persisted. So a commit of such an order is answered in time and with success, and its
stock is never put back.
-/

namespace FlashSale

namespace Event

/-- The event reports that an order for the item was not persisted. -/
def Spoils (item : String) : Event → Prop
  | stockRestored order _ => order.itemId = item
  | storesDiverged failure => failure.itemId = item
  | _ => False

end Event

namespace Task

/-- An order for the item is yet to be attempted, or is answered no later than it is given up. -/
def OnTime (item : String) : Task → Prop
  | settle _ order stage due giveUp =>
    order.itemId = item → stage = .opening ∨ (stage = .committing ∧ due ≤ giveUp)
  | _ => True

end Task

namespace Action

/-- The action neither makes the ledger unavailable nor delays commits beyond the limit.
It may do anything else. -/
def IsPrompt (limit : Nat) : Action → Prop
  | .ledgerUnavailable on => on = false
  | .commitDelay ms => ms ≤ limit
  | _ => True

end Action

namespace Sale

/-- No order for the item was given up. Every order that was handed out is with its
worker or in the ledger. -/
structure Prompt (s : Sale) (item : String) (work : List Note) : Prop where
  available : s.ledger.unavailable = false
  delay : s.ledger.commitDelay ≤ s.commitLimit
  onTime : ∀ id t, s.tasks.get? id = some t → t.OnTime item
  unspoiled : ∀ e ∈ s.log, ¬ e.Spoils item
  finished : ∀ e ∈ handings work, e.2.itemId = item →
    (∃ stage due giveUp, s.tasks.get? e.1 = some (.settle .worker e.2 stage due giveUp)) ∨
      s.ledger.findOrder? e.2.id = some e.2

variable {s s' s'' : Sale} {me : TaskId} {t t' : Task} {turn : Turn} {item : String} {c d : Int}
  {calls : List Uuid} {work : List Note}

/-- The commit of an order for an item that was seeded with enough goes through. The row
covers every order for the item that is out. -/
theorem Stocked.commit_ok (stocked : Stocked s item c d) (sound : s.Sound)
    (account : Accounted s calls work) (distinct : calls.Nodup) (enough : c ≤ d)
    (available : s.ledger.unavailable = false) (below : s.ledger.VersionsBelowLimit)
    {order : Order} {stage : Settlement.Stage} {due giveUp : Nat}
    (found : s.tasks.get? me = some (.settle .worker order stage due giveUp))
    (same : order.itemId = item) :
    ∃ ledger, s.ledger.commit s.clock order = (.answer (.ok ()), ledger) := by
  obtain ⟨row, seeded, -, whole⟩ := stocked.balanced
  have positive : 0 < order.quantity.toInt := (sound.tasks me _ found).2
  refine Ledger.commit_ok available (account.unsaved distinct found) (same ▸ seeded) positive ?_
    (below item row seeded)
  have out := sound.owned_le_out item found
  have total := s.total_eq item
  have lost := sound.lost_nonneg item
  have counter := stocked.counter
  rw [stocked.total] at total
  rw [account.stored_eq distinct] at whole
  rw [owned_settle, Order.stockOf, if_pos same] at out
  omega

theorem not_spoils {e : Event} (unsettled : e.settledId? = none) : ¬ e.Spoils item := by
  intro spoils
  cases e with
  | stockRestored => cases unsettled
  | storesDiverged => cases unsettled
  | _ => exact spoils

/-- Only an order whose commit failed is reported as not persisted. So it is enough that
no commit fails. -/
theorem Deed.spoils (deed : Deed s me t s' turn) {e : Event} (reported : e ∈ s'.log)
    (spoils : e.Spoils item) : e ∈ s.log ∨ ∃ owner order commit due giveUp,
      t = .settle owner order (.restoring commit) due giveUp ∧ order.itemId = item := by
  have old {events : List Event} (unsettled : ∀ e ∈ events, e.settledId? = none)
      (reported : e ∈ s.log ++ events) : e ∈ s.log := by
    obtain old | new := List.mem_append.mp reported
    · exact old
    · exact absurd spoils (not_spoils (unsettled e new))
  cases deed with
  | duplicate => exact .inl (old (by simp [Event.settledId?]) reported)
  | markRefused => exact .inl (old endEvents_unsettled reported)
  | soldOut => exact .inl (old (by simp [Event.settledId?]) reported)
  | takeRefused => exact .inl (old endEvents_unsettled reported)
  | admitted => exact .inl (old (by simp [Event.settledId?]) reported)
  | refused => exact .inl (old (by simp [Event.settledId?]) reported)
  | released => exact .inl (old endEvents_unsettled reported)
  | releaseFailed =>
      refine .inl (old ?_ reported)
      rintro e (_ | ⟨_, he⟩)
      · rfl
      · exact endEvents_unsettled e he
  | returnFailed => exact .inl (old (by simp [Event.settledId?]) reported)
  | @committed owner order =>
      cases owner with
      | caller => exact .inl reported
      | worker =>
          obtain before | new := List.mem_append.mp reported
          · exact .inl before
          · rw [List.mem_singleton.mp new] at spoils
            cases spoils
  | @restored owner order commit due giveUp =>
      cases owner with
      | caller => exact .inl reported
      | worker =>
          obtain before | new := List.mem_append.mp reported
          · exact .inl before
          · rw [List.mem_singleton.mp new] at spoils
            exact .inr ⟨_, _, _, _, _, rfl, spoils⟩
  | @restoreFailed owner order commit due giveUp failure about =>
      cases owner with
      | caller => exact .inl reported
      | worker =>
          obtain before | new := List.mem_append.mp reported
          · exact .inl before
          · rw [List.mem_singleton.mp new] at spoils
            exact .inr ⟨_, _, _, _, _, rfl, about.2.1.symm.trans spoils⟩
  | drained => exact .inl (old (by simp [Event.settledId?]) reported)
  | joined => exact .inl (old joinEvents_unsettled reported)
  | _ => exact .inl reported

/-- A task stays on time if no commit for the item fails. A commit that begins is
answered by its limit, as delays are within it. -/
theorem Deed.onTime (deed : Deed s me t s' turn) (goes : turn = .again t')
    (delay : s.ledger.commitDelay ≤ s.commitLimit) (before : t.OnTime item)
    (succeeds : ∀ owner order due giveUp, t = .settle owner order .committing due giveUp →
      order.itemId = item → ∃ ledger, s.ledger.commit s.clock order = (.answer (.ok ()), ledger)) :
    t'.OnTime item := by
  cases deed with
  | begun =>
      cases goes
      intro _
      exact .inr ⟨rfl, by omega⟩
  | handed =>
      cases goes
      intro _
      exact .inl rfl
  | @committed owner => cases owner <;> cases goes; trivial
  | commitRefused inTime reply =>
      cases goes
      intro same
      obtain ⟨ledger, ok⟩ := succeeds _ _ _ _ rfl same
      rw [ok] at reply
      cases reply
  | commitTimedOut late ends =>
      cases goes
      intro same
      obtain opening | ⟨-, inTime⟩ := before same
      · cases opening
      · omega
  | @restored owner => cases owner <;> cases goes; trivial
  | @restoreFailed owner => cases owner <;> cases goes; trivial
  | called ends => obtain ⟨_, rfl⟩ | ⟨_, rfl⟩ | rfl := ends <;> cases goes
  | commitCalled ends => obtain ⟨_, rfl⟩ | rfl := ends <;> cases goes
  | looked ends => obtain ⟨_, rfl⟩ | rfl := ends <;> cases goes
  | updated ends => obtain ⟨_, rfl⟩ | rfl := ends <;> cases goes
  | _ => cases goes <;> trivial

theorem handings_notes {e : TaskId × Order} (noted : e ∈ handings (turn.notes s.now me t)) :
    e.1 = me ∧ ∃ stage due giveUp, turn = .again (.settle .worker e.2 stage due giveUp) := by
  cases turn with
  | again t' =>
      rw [Turn.notes, noteOf.eq_def] at noted
      split at noted
      · obtain rfl := List.mem_singleton.mp noted
        exact ⟨rfl, _, _, _, rfl⟩
      · cases noted
      · cases noted
      · cases noted
      · cases noted
  | _ => cases noted

/-- A worker leaves an order for the item only when the order is in the ledger. It does
not crash, and its commit does not fail. -/
theorem Deed.finished {order : Order} {stage : Settlement.Stage} {due giveUp : Nat}
    (deed : Deed s me (.settle .worker order stage due giveUp) s' turn)
    (alive : turn ≠ .crash) (onTime : Task.OnTime item (.settle .worker order stage due giveUp))
    (same : order.itemId = item)
    (succeeds : stage = .committing →
      ∃ ledger, s.ledger.commit s.clock order = (.answer (.ok ()), ledger)) :
    (∃ time, turn = .wait time) ∨
      (∃ stage due giveUp, turn = .again (.settle .worker order stage due giveUp)) ∨
      s'.ledger.findOrder? order.id = some order := by
  cases deed with
  | asleep => exact .inl ⟨_, rfl⟩
  | begun => exact .inr (.inl ⟨_, _, _, rfl⟩)
  | commitRefused => exact .inr (.inl ⟨_, _, _, rfl⟩)
  | commitTimedOut => exact .inr (.inl ⟨_, _, _, rfl⟩)
  | committed inTime reply =>
      obtain ⟨-, row, left, version, -, -, -, rfl⟩ := Ledger.commit_eq_ok reply
      exact .inr (.inr (Table.get?_insert_self ..))
  | restored =>
      obtain opening | ⟨committing, -⟩ := onTime same
      · cases opening
      · cases committing
  | restoreFailed =>
      obtain opening | ⟨committing, -⟩ := onTime same
      · cases opening
      · cases committing
  | _ => exact absurd rfl alive

theorem Prompt.of_turn (prompt : Prompt s item work) (found : s.tasks.get? me = some t)
    (deed : Deed s me t s' turn) (placed : Placed s' me t turn s'')
    (alive : t.isWorker = true → turn ≠ .crash)
    (succeeds : ∀ owner order due giveUp, t = .settle owner order .committing due giveUp →
      order.itemId = item → ∃ ledger, s.ledger.commit s.clock order = (.answer (.ok ()), ledger)) :
    Prompt s'' item (work ++ turn.notes s.now me t) := by
  have frame := deed.frame
  have stores := placed.stores
  have settings := deed.ledger_called.settings
  have onTime := prompt.onTime me t found
  constructor
  case available =>
    rw [stores.ledger, settings.unavailable]
    exact prompt.available
  case delay =>
    rw [stores.ledger, settings.commitDelay, stores.commitLimit, frame.commitLimit]
    exact prompt.delay
  case onTime =>
    intro id t' here
    obtain before | ⟨rfl, goes⟩ := placed.found here
    · exact prompt.onTime id t' (frame.tasks ▸ before)
    · exact deed.onTime goes prompt.delay onTime succeeds
  case unspoiled =>
    intro e reported spoils
    rw [stores.log] at reported
    obtain before | ⟨owner, order, commit, due, giveUp, rfl, same⟩ := deed.spoils reported spoils
    · exact prompt.unspoiled e before spoils
    · obtain opening | ⟨committing, -⟩ := onTime same
      · cases opening
      · cases committing
  case finished =>
    intro e member same
    rw [handings_append] at member
    obtain old | new := List.mem_append.mp member
    · obtain ⟨stage, due, giveUp, busy⟩ | stored := prompt.finished e old same
      · by_cases mine : e.1 = me
        · obtain rfl := Option.some.inj (found.symm.trans (mine ▸ busy))
          have left := deed.finished (alive rfl) onTime same fun committing =>
            succeeds .worker e.2 due giveUp (by rw [committing]) same
          obtain ⟨time, rfl⟩ | ⟨stage, due, giveUp, rfl⟩ | stored := left
          · have waits : s''.tasks = s.tasks := by
              cases placed
              exact frame.tasks
            exact .inl ⟨_, _, _, waits ▸ busy⟩
          · cases placed
            exact .inl ⟨stage, due, giveUp, mine ▸ Table.get?_insert_self ..⟩
          · exact .inr (stores.ledger ▸ stored)
        · have kept := (placed.kept mine).trans (congrArg (·.get? e.1) frame.tasks)
          exact .inl ⟨stage, due, giveUp, kept.trans busy⟩
      · exact .inr (stores.ledger ▸ deed.ledger_called.keeps _ _ stored)
    · obtain ⟨mine, stage, due, giveUp, rfl⟩ := handings_notes new
      cases placed
      exact .inl ⟨stage, due, giveUp, mine ▸ Table.get?_insert_self ..⟩

/-- A change from outside settles no order and takes no worker away. Its reports are of
other matters. -/
structure Bystands (s s' : Sale) : Prop where
  log : ∃ events, s'.log = s.log ++ events ∧ ∀ e ∈ events, e.settledId? = none
  workers : ∀ id t, s.tasks.get? id = some t → t.isWorker = true → s'.tasks.get? id = some t

theorem Bystands.of_eq (log : s'.log = s.log) (tasks : s'.tasks = s.tasks) : Bystands s s' where
  log := ⟨[], by rw [log, List.append_nil], by simp⟩
  workers _ _ here _ := tasks ▸ here

theorem Bystands.trans (first : Bystands s s') (second : Bystands s' s'') : Bystands s s'' where
  log := by
    obtain ⟨events, eq, quiet⟩ := first.log
    obtain ⟨events', eq', quiet'⟩ := second.log
    refine ⟨events ++ events', by rw [eq', eq, List.append_assoc], fun e member => ?_⟩
    obtain old | new := List.mem_append.mp member
    · exact quiet e old
    · exact quiet' e new
  workers id t here worker := second.workers id t (first.workers id t here worker) worker

theorem bystands_emit (s : Sale) {events : List Event} (quiet : ∀ e ∈ events, e.settledId? = none) :
    Bystands s (s.emit events) where
  log := ⟨events, rfl, quiet⟩
  workers _ _ here _ := here

theorem bystands_spawn (t : Task) (unused : s.tasks.get? s.nextTask = none) :
    Bystands s (s.spawn t) where
  log := ⟨[], (List.append_nil _).symm, by simp⟩
  workers id t' here _ := by
    rw [get?_spawn, if_neg, here]
    rintro rfl
    rw [unused] at here
    cases here

theorem bystands_erase {id : TaskId} (found : s.tasks.get? id = some t)
    (droppable : t.isDroppable = true) {queue : AdmissionQueue} {ready : List TaskId}
    {timers : List (Nat × TaskId)} :
    Bystands s { s with tasks := s.tasks.erase id, queue, ready, timers } where
  log := ⟨[], (List.append_nil _).symm, by simp⟩
  workers id' t' here worker := by
    refine (Table.get?_erase ..).trans ?_
    rw [if_neg, here]
    rintro rfl
    obtain rfl := Option.some.inj (found.symm.trans here)
    cases t with
    | settle => cases droppable
    | receive => cases droppable
    | _ => cases worker

theorem Sound.bystands_drop (sound : s.Sound) {id : TaskId} {leave : Sale → Order → Sale}
    (leaves : ∀ s order, s.tasks.get? s.nextTask = none → Bystands s (leave s order))
    (droppable : ∀ t, s.tasks.get? id = some t → t.isDroppable = true) :
    Bystands s (s.drop id leave) := by
  cases found : s.tasks.get? id with
  | none =>
      rw [drop_of_get?_eq_none found]
      exact .of_eq rfl rfl
  | some t =>
      have droppable := droppable t found
      have dropped := drop_dropped found leave
      generalize s.drop id leave = s' at dropped ⊢
      cases dropped with
      | gone => exact bystands_erase found droppable
      | unbought =>
          refine (bystands_erase found droppable).trans (leaves _ _ ?_)
          exact (Table.get?_erase ..).trans (by rw [sound.unused, ite_self])
      | unsent => cases droppable
      | unreceived => cases droppable

/-- A permitted action that is no turn is a change from outside. Calls, faults and
dropped purchases are among them. -/
theorem Sound.bystands (sound : s.Sound) {a : Action} (allowed : s.Permits a)
    (other : ∀ id, a ≠ .turn id) : Bystands s (s.perform a) := by
  cases a with
  | turn id => exact absurd rfl (other id)
  | start t => exact bystands_spawn t sound.unused
  | cancel id =>
      refine sound.bystands_drop (fun s order unused => ?_) allowed
      exact (bystands_emit s (by simp [Event.settledId?])).trans (bystands_spawn _ unused)
  | abandon id =>
      refine sound.bystands_drop (fun s order unused => ?_) allowed
      exact bystands_emit s (by simp [Event.settledId?])
  | shutdown =>
      have told : Bystands s (s.emit [.queueClosing s.queue.depth]) :=
        bystands_emit s (by simp [Event.settledId?])
      have closed : Bystands s (s.emit [.queueClosing s.queue.depth]).close :=
        told.trans (.of_eq rfl rfl)
      exact closed.trans (bystands_spawn .join sound.unused)
  | startWorkers => cases allowed
  | dropReceiver => cases allowed
  | latency => cases allowed
  | faultyItem => cases allowed
  | _ => exact .of_eq rfl rfl

theorem perform_settings {a : Action} (allowed : s.Permits a) (other : ∀ id, a ≠ .turn id)
    (quick : a.IsPrompt s.commitLimit) (available : s.ledger.unavailable = false)
    (delay : s.ledger.commitDelay ≤ s.commitLimit) :
    (s.perform a).ledger.unavailable = false ∧
      (s.perform a).ledger.commitDelay ≤ (s.perform a).commitLimit := by
  cases a with
  | turn id => exact absurd rfl (other id)
  | seed item stock =>
      have kept := s.ledger.seed_settings s.clock item stock
      exact ⟨kept.unavailable.trans available, kept.commitDelay.trans_le delay⟩
  | cancel id =>
      have kept := s.cancel_calls id
      rw [Sale.perform, kept.ledger, kept.commitLimit]
      exact ⟨available, delay⟩
  | abandon id =>
      have kept := s.abandon_calls id
      rw [Sale.perform, kept.ledger, kept.commitLimit]
      exact ⟨available, delay⟩
  | ledgerUnavailable on => exact ⟨quick, delay⟩
  | commitDelay ms => exact ⟨available, quick⟩
  | startWorkers => cases allowed
  | dropReceiver => cases allowed
  | _ => exact ⟨available, delay⟩

/-- Every action that is permitted and prompt gives no order for the item up. The row
covers the order that is committed, by `Stocked.commit_ok`. -/
theorem Prompt.perform (prompt : Prompt s item work) (stocked : Stocked s item c d) (sound : s.Sound)
    (account : Accounted s calls work) (distinct : calls.Nodup) (enough : c ≤ d) {a : Action}
    (allowed : s.Permits a) (quick : a.IsPrompt s.commitLimit)
    (below : (s.perform a).ledger.VersionsBelowLimit) :
    Prompt (s.perform a) item (work ++ s.notes a) := by
  have succeeds {id : TaskId} {t : Task} (found : s.tasks.get? id = some t) (owner : Owner)
      (order : Order) (due giveUp : Nat) (commits : t = .settle owner order .committing due giveUp)
      (same : order.itemId = item) :
      ∃ ledger, s.ledger.commit s.clock order = (.answer (.ok ()), ledger) := by
    subst commits
    obtain rfl : owner = .worker := (sound.tasks id _ found).1
    exact stocked.commit_ok sound account distinct enough prompt.available
      (perform_versions _ below) found same
  by_cases turns : ∃ id, a = .turn id
  · obtain ⟨id, rfl⟩ := turns
    change Prompt (s.stepTask id) item _
    cases found : s.tasks.get? id with
    | none =>
        rw [notes_of_get?_eq_none found, List.append_nil, stepTask_of_get?_eq_none found]
        exact ⟨prompt.available, prompt.delay, prompt.onTime, prompt.unspoiled, prompt.finished⟩
    | some t =>
        obtain ⟨s', turn, deed, placed⟩ := stepTask_cases found
        rw [notes_turn found deed placed]
        have alive := deed.worker_ne_crash sound found (placed.stores.ledger ▸ below)
        exact prompt.of_turn found deed placed alive (succeeds found)
  · have other (id : TaskId) : a ≠ .turn id := fun turn => turns ⟨id, turn⟩
    have bystands := sound.bystands allowed other
    obtain ⟨events, log, quiet⟩ := bystands.log
    obtain ⟨available, delay⟩ := perform_settings allowed other quick prompt.available prompt.delay
    rw [notes_of_ne_turn other, List.append_nil]
    constructor
    case available => exact available
    case delay => exact delay
    case onTime =>
      intro id t here
      cases perform_origin here with
      | kept found => exact prompt.onTime id t found
      | started =>
          cases t with
          | settle => cases allowed
          | _ => trivial
      | turned => exact absurd rfl (other id)
      | _ => trivial
    case unspoiled =>
      intro e reported
      rw [log] at reported
      obtain old | new := List.mem_append.mp reported
      · exact prompt.unspoiled e old
      · exact not_spoils (quiet e new)
    case finished =>
      intro e member same
      obtain ⟨stage, due, giveUp, busy⟩ | stored := prompt.finished e member same
      · exact .inl ⟨stage, due, giveUp, bystands.workers e.1 _ busy rfl⟩
      · exact .inr (s.perform_keeps a _ _ stored)

end Sale

end FlashSale
