import FlashSale.Proofs.Ledger.History
import FlashSale.Proofs.Sale.Outside

/-!
# The records of a ledger during a sale

In a sale the calls that change the ledger are made by whoever seeds an item and by tasks: an
order is committed when the delay of its commit is over, and a row is updated at once. Between
them the ledger is switched off and on, commits are delayed, and others look at rows.

`records_told` is the law of all that. Whatever the order in which things happen, the orders and
rows of the ledger are told from the calls that were made, each of which is told the truth: one
that is refused changes nothing, and one that goes through changes its row and its order alone.
-/

namespace FlashSale

/-- The call that a task makes when its turn comes, if it would change the ledger.
Before its time has come it makes none. -/
def Task.mutation? (now : Nat) : Task → Option Mutation
  | settle _ order .committing due _ => if due ≤ now then some (.commit order) else none
  | ledger (.commit order) (some due) => if due ≤ now then some (.commit order) else none
  | ledger (.update item quantity version) _ => some (.update item quantity version)
  | _ => none

namespace Sale

/-- The call that is made of the ledger. Whoever is outside seeds an item, and all other
calls are made by tasks at their turns. -/
def mutation? (s : Sale) : Action → Option Mutation
  | .seed item stock => some (.seed item stock)
  | .turn me => (s.tasks.get? me).bind (Task.mutation? s.now)
  | _ => none

/-- The call, with the moment it is made and what it is told. -/
def madeCall? (s : Sale) (a : Action) : Option Ledger.Entry :=
  (s.mutation? a).map fun m => ⟨s.clock, m, (s.ledger.mutate s.clock m).1⟩

/-- The calls that a course makes of the ledger, in the order in which they are made.
They are read off the states that the course goes through. -/
def ledgerCalls (s : Sale) : List Action → List Ledger.Entry
  | [] => []
  | a :: rest => (s.madeCall? a).toList ++ (s.perform a).ledgerCalls rest

variable {s s' : Sale} {a : Action} {me : TaskId} {t : Task} {turn : Turn} {m : Mutation}
  {actions : List Action}

theorem ledgerCalls_append (s : Sale) (first second : List Action) :
    s.ledgerCalls (first ++ second) =
      s.ledgerCalls first ++ (s.after first).ledgerCalls second := by
  induction first generalizing s with
  | nil => rfl
  | cons a rest ih => simp [ledgerCalls, ih]

/-- Two ledgers have the same orders and the same rows. They may differ in their
switches and delays. -/
structure SameRecords (l l' : Ledger) : Prop where
  orders : l'.orders = l.orders
  inventory : l'.inventory = l.inventory

theorem conclude_ledger (s : Sale) (owner : Owner) (order : Order) (outcome : Outcome) :
    (s.conclude owner order outcome).1.ledger = s.ledger := by
  cases owner <;> rfl

theorem afterCommit_ledger (s : Sale) (owner : Owner) (order : Order) (ended : Awaited) :
    (s.afterCommit owner order ended).1.ledger = s.ledger := by
  unfold afterCommit
  split
  · exact s.conclude_ledger owner order _
  · rfl

/-- The ledger once the task has made its call, if it makes one. A task makes at most
one call in a turn. -/
def ledgerAfter (s : Sale) (t : Task) : Ledger :=
  match t.mutation? s.now with
  | some m => (s.ledger.mutate s.clock m).2
  | none => s.ledger

theorem stepSettle_ledger (s : Sale) (owner : Owner) (order : Order) (stage : Settlement.Stage)
    (due giveUp : Nat) : (s.stepSettle owner order stage due giveUp).1.ledger =
      s.ledgerAfter (.settle owner order stage due giveUp) := by
  cases stage with
  | opening =>
      simp only [stepSettle]
      split <;> rfl
  | committing =>
      simp only [stepSettle, ledgerAfter, Task.mutation?]
      split
      · rcases replied : s.ledger.commit s.clock order with ⟨result | _, ledger⟩
        · simp [afterCommit_ledger, Ledger.mutate, replied]
        · simp [Ledger.mutate, replied]
      split
      · exact s.afterCommit_ledger owner order .timedOut
      · rfl
  | restoring commit =>
      simp only [stepSettle]
      split
      · rcases s.reservations.putBack order.itemId order.quantity with ⟨result | _, reservations⟩
        · exact conclude_ledger ..
        · rfl
      split
      · exact conclude_ledger ..
      · rfl

theorem stepLedger_ledger (s : Sale) (call : LedgerCall) (due : Option Nat) :
    (s.stepLedger call due).1.ledger = s.ledgerAfter (.ledger call due) := by
  cases call with
  | commit order =>
      cases due with
      | none =>
          simp only [stepLedger]
          split <;> rfl
      | some due =>
          simp only [stepLedger, ledgerAfter, Task.mutation?]
          split
          · rw [if_neg (by omega)]
          · rw [if_pos (by omega)]
            exact congrArg Sale.ledger (answer_fst ..)
  | inventory item => exact congrArg Sale.ledger (answer_fst ..)
  | update item quantity version => exact congrArg Sale.ledger (answer_fst ..)

/-- What a task does to the ledger is its call. Nothing else that it does in its turn
touches the ledger. -/
theorem act_ledger (s : Sale) (me : TaskId) (t : Task) :
    (s.act me t).1.ledger = s.ledgerAfter t := by
  have deed := s.act_deed me t
  cases t with
  | settle owner order stage due giveUp => exact s.stepSettle_ledger owner order stage due giveUp
  | ledger call due => exact s.stepLedger_ledger call due
  | _ =>
      generalize (s.act me _).1 = s', (s.act me _).2 = turn at deed ⊢
      cases deed <;> rfl

theorem stepTask_ledger (found : s.tasks.get? me = some t) :
    (s.stepTask me).ledger = s.ledgerAfter t :=
  (stepTask_placed found).stores.ledger.trans (s.act_ledger me t)

/-- An action that makes a call leaves the ledger as the call does. -/
theorem perform_of_mutation (made : s.mutation? a = some m) :
    (s.perform a).ledger = (s.ledger.mutate s.clock m).2 := by
  cases a with
  | turn me =>
      obtain ⟨t, found, call⟩ := Option.bind_eq_some_iff.mp made
      refine (stepTask_ledger found).trans ?_
      rw [ledgerAfter, call]
  | seed item stock =>
      cases made
      rfl
  | _ => cases made

theorem perform_records (quiet : s.mutation? a = none) :
    SameRecords s.ledger (s.perform a).ledger := by
  cases a with
  | turn me =>
      change SameRecords s.ledger (s.stepTask me).ledger
      cases found : s.tasks.get? me with
      | none =>
          rw [stepTask_of_get?_eq_none found]
          exact ⟨rfl, rfl⟩
      | some t =>
          rw [mutation?, found, Option.bind_some] at quiet
          rw [stepTask_ledger found, ledgerAfter, quiet]
          exact ⟨rfl, rfl⟩
  | seed => cases quiet
  | cancel id =>
      rw [perform, (s.cancel_calls id).ledger]
      exact ⟨rfl, rfl⟩
  | abandon id =>
      rw [perform, (s.abandon_calls id).ledger]
      exact ⟨rfl, rfl⟩
  | startWorkers workers =>
      obtain ⟨tasks, ready, eq, -⟩ := s.startWorkers_eq workers
      rw [perform, eq]
      exact ⟨rfl, rfl⟩
  | dropReceiver =>
      obtain ⟨queue, ready, -, eq⟩ := s.dropReceiver_eq
      rw [perform, eq]
      exact ⟨rfl, rfl⟩
  | _ => exact ⟨rfl, rfl⟩

/-- The ledger of a sale has the history of the calls that were made of it. The
induction is on the course, one action at a time. -/
theorem after_history (orders : s.ledger.orders = ∅) (inventory : s.ledger.inventory = ∅)
    (actions : List Action) : Ledger.History (s.ledgerCalls actions) (s.after actions).ledger := by
  induction actions using List.reverseRecOn with
  | nil => exact .opened orders inventory
  | append_singleton done a ih =>
      rw [ledgerCalls_append, after_append, after_cons, after_nil, ledgerCalls, ledgerCalls,
        List.append_nil]
      cases made : (s.after done).mutation? a with
      | none =>
          have same := perform_records made
          rw [madeCall?, made]
          simpa using ih.switched same.orders same.inventory
      | some m =>
          rw [madeCall?, made, perform_of_mutation made]
          exact ih.called (s.after done).clock m

theorem stepLedger_told {call : LedgerCall} {due : Option Nat} {result : Except StoreError Unit}
    (made : (Task.ledger call due).mutation? s.now = some m)
    (replied : (s.ledger.mutate s.clock m).1 = .answer result) :
    (s.stepLedger call due).2 = .finish (.unit result) := by
  cases call with
  | commit order =>
      cases due with
      | none => cases made
      | some due =>
          simp only [Task.mutation?] at made
          split at made
          · cases made
            change (s.ledger.commit s.clock order).1 = _ at replied
            simp only [stepLedger, if_neg (Nat.not_lt.mpr ‹due ≤ s.now›), replied]
            rfl
          · cases made
  | inventory item => cases made
  | update item quantity version =>
      cases made
      change (s.ledger.update s.clock item quantity version).1 = _ at replied
      simp only [stepLedger, replied]
      rfl

theorem stepTask_finish {a : Answer} (found : s.tasks.get? me = some t)
    (ends : (s.act me t).2 = .finish a) : (s.stepTask me).answers = s.answers ++ [(me, a)] := by
  have frame := (s.act_deed me t).frame
  have placed := stepTask_placed found
  rw [ends] at placed
  generalize s.stepTask me = s' at placed ⊢
  cases placed with
  | finish => rw [frame.answers]

/-- A call that somebody outside makes is answered with what the ledger told, by the
task that made it. -/
theorem stepTask_told {call : LedgerCall} {due : Option Nat} {result : Except StoreError Unit}
    (found : s.tasks.get? me = some (.ledger call due))
    (made : (Task.ledger call due).mutation? s.now = some m)
    (replied : (s.ledger.mutate s.clock m).1 = .answer result) :
    (s.stepTask me).answers = s.answers ++ [(me, .unit result)] :=
  stepTask_finish found (stepLedger_told made replied)

/-- An action keeps the law of the ledger: it changes no record, or it is a call that has its effect
and tells it. -/
structure Lawful (s : Sale) (a : Action) : Prop where
  quiet : s.madeCall? a = none → SameRecords s.ledger (s.perform a).ledger
  effect : ∀ e, s.madeCall? a = some e → s.ledger.Effect e.call (s.perform a).ledger e.reply
  told : ∀ e me call due result, s.madeCall? a = some e → a = .turn me →
    s.tasks.get? me = some (.ledger call due) → e.reply = .answer result →
    (s.perform a).answers = s.answers ++ [(me, .unit result)]

/-- An action keeps the law of the ledger at a state that is told from the calls before
it. That versions stay below their limit is needed, as a call would not be answered
there. -/
theorem lawful {log : List Ledger.Entry} (told : s.ledger.Told log)
    (positive : ∀ e, s.madeCall? a = some e → e.call.Positive)
    (below : (s.perform a).ledger.VersionsBelowLimit) : s.Lawful a where
  quiet none := perform_records (Option.map_eq_none_iff.mp none)
  effect e made := by
    obtain ⟨m, call, rfl⟩ := Option.map_eq_some_iff.mp made
    rw [perform_of_mutation call] at below ⊢
    have mutated := s.ledger.mutate_mutated s.clock m
    refine mutated.effect (mutated.answers (positive _ made) below fun row found => ?_)
    exact (told.rows m.item row found).2.nonneg
  told e me call due result made turn found replied := by
    obtain ⟨m, call, rfl⟩ := Option.map_eq_some_iff.mp made
    subst turn
    rw [mutation?, found, Option.bind_some] at call
    exact stepTask_told found call replied

/-- The ledger of a sale that opens without orders and rows is told from the calls that are made of
it, and every action keeps its law. -/
theorem records_told {s : Sale} (actions : List Action) (orders : s.ledger.orders = ∅)
    (inventory : s.ledger.inventory = ∅) (positive : ∀ e ∈ s.ledgerCalls actions, e.call.Positive)
    (below : (s.after actions).ledger.VersionsBelowLimit) :
    (s.after actions).ledger.Told (s.ledgerCalls actions) ∧
      ∀ done a rest, actions = done ++ a :: rest → (s.after done).Lawful a := by
  refine ⟨(after_history orders inventory actions).told below, ?_⟩
  rintro done a rest rfl
  rw [ledgerCalls_append] at positive
  obtain ⟨now, -⟩ := List.forall_mem_append.mp (List.forall_mem_append.mp positive).2
  rw [after_append, after_cons] at below
  have below := after_versions _ below
  have told := (after_history orders inventory done).told (perform_versions _ below)
  exact lawful told (fun e made => now e (by simp [made])) below

/-- A shop that has just opened. -/
def emptyShop : Sale := { reservations := { ttl := 1000 }, queue := .ofCapacity 1 }

/-- An item is seeded again while the commit of an order for it is delayed; an update that was
computed before is refused. -/
def restock : List Action :=
  [.seed "tea" 5, .commitDelay 10,
    .start (.ledger (.commit (.pending ⟨1⟩ "ann" "tea" 2 (.ofMillis 0))) none), .turn 0, .turn 0,
    .seed "tea" 8, .elapse 10, .turn 0, .start (.ledger (.update "tea" 4 1) none), .turn 1,
    .ledgerUnavailable true, .start (.ledger (.inventory "tea") none), .turn 2]

theorem records_told_restock :
    emptyShop.ledger.orders = ∅ ∧ emptyShop.ledger.inventory = ∅ ∧
    (∀ e ∈ emptyShop.ledgerCalls restock, e.call.Positive) ∧
    (emptyShop.after restock).ledger.VersionsBelowLimit ∧
    ((emptyShop.after restock).ledger.Told (emptyShop.ledgerCalls restock) ∧
      ∀ done a rest, restock = done ++ a :: rest → (emptyShop.after done).Lawful a) ∧
    ((emptyShop.after restock).ledger.inventory.get? "tea").map
      (fun row => (row.quantity, row.version)) = some (6, 2) :=
  ⟨rfl, rfl, by decide, by decide, records_told restock rfl rfl (by decide) (by decide), by decide⟩

end Sale

end FlashSale
