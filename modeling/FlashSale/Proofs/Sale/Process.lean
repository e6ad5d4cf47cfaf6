import FlashSale.Proofs.Ledger.Commit
import FlashSale.Proofs.Reservations.Imprint
import FlashSale.Proofs.Sale.Turn

/-!
# The turns of a task that settles an order

A task that settles an order begins the commit, waits for it, and then either returns or goes
on to put the stock back, after which it returns in any case. The lemmas here say what each of
these turns does to the sale, with the choice that the clock and the replies of the stores make.

What it is to return depends on the owner: a caller is handed the outcome, a worker counts and
reports it and receives again.
-/

namespace FlashSale.Sale

open Reservations (putBack_fits putBack_refused counter_ge)

/-- Both stores are as they were. -/
structure SameHoldings (s s' : Sale) : Prop where
  reservations : s'.reservations = s.reservations
  ledger : s'.ledger = s.ledger

/-- The outcome is handed to whom the order is settled for. A caller is told it and is
gone; a worker counts it, reports it and goes on. -/
inductive Returns (s s' : Sale) (me : TaskId) (order : Order) (outcome : Outcome) :
    Owner → Prop where
  | handed (answers : s'.answers = s.answers ++ [(me, .settled order outcome)])
      (gone : s'.tasks.get? me = none) : Returns s s' me order outcome .caller
  | counted (tally : s'.tally = s.tally.record outcome)
      (log : s'.log = s.log ++ [outcomeEvent order outcome])
      (next : s'.tasks.get? me = some (.receive .worker)) : Returns s s' me order outcome .worker

/-- What comes of the one attempt to put the stock of an order back after its commit
failed. In either case the outcome names the failure of the commit. -/
inductive Restores (s s' : Sale) (order : Order) (commit : CommitError) : Outcome → Prop where
  | compensated {total : Int64}
      (works : (s.reservations.unavailable || s.reservations.failIncrements) = false)
      (sum : total.toInt = s.reservations.counter order.itemId + order.quantity.toInt)
      (raised : s'.reservations = { s.reservations with
        counters := s.reservations.counters.insert order.itemId total }) :
      Restores s s' order commit (.compensated commit)
  | failed (refuses : (s.reservations.unavailable || s.reservations.failIncrements) = true)
      (kept : s'.reservations = s.reservations) :
      Restores s s' order commit (.compensationFailed
        { orderId := order.id, itemId := order.itemId, quantity := order.quantity, commit
          cause := .store (.injectedFault .incrementStock) })

variable {s : Sale} {me : TaskId} {owner : Owner} {order : Order} {due giveUp : Nat}
  {commit : CommitError}

/-- A task that is done with an order does nothing but return. The stores are as the
call before has left them. -/
theorem turn_of_concluded {s₁ : Sale} {t : Task} {outcome : Outcome}
    (found : s.tasks.get? me = some t) (acts : s.act me t = s₁.conclude owner order outcome)
    (answers : s₁.answers = s.answers) (tally : s₁.tally = s.tally) (log : s₁.log = s.log) :
    SameHoldings s₁ (s.stepTask me) ∧ Returns s (s.stepTask me) me order outcome owner := by
  have placed := stepTask_placed found
  rw [acts] at placed
  generalize s.stepTask me = s' at placed ⊢
  cases owner with
  | caller =>
      cases placed with
      | finish => exact ⟨⟨rfl, rfl⟩, .handed (by rw [← answers]; rfl) (Table.get?_erase_self ..)⟩
  | worker =>
      cases placed with
      | again =>
          refine ⟨⟨rfl, rfl⟩, .counted (by rw [← tally]; rfl) (by rw [← log]; rfl) ?_⟩
          exact Table.get?_insert_self ..

theorem turn_of_opening (found : s.tasks.get? me = some (.settle owner order .opening due giveUp))
    (healthy : s.faultyItem ≠ some order.itemId) :
    s.stepTask me = { s with
      tasks := s.tasks.insert me (.settle owner order .committing (s.now + s.ledger.commitDelay)
        (s.now + s.commitLimit)) } := by
  simp only [stepTask, found, act, stepSettle, if_neg healthy, place]

section Committing

variable (found : s.tasks.get? me = some (.settle owner order .committing due giveUp))

include found

/-- Before the end of the commit and before the limit, the task waits for whichever
comes first. -/
theorem turn_of_waiting (early : s.now < due) (patient : s.now < giveUp) :
    s.stepTask me =
      { s with ready := s.ready.erase me, timers := s.timers ++ [(min due giveUp, me)] } := by
  simp only [stepTask, found, act, stepSettle, if_neg (Nat.not_le.mpr early),
    if_neg (Nat.not_le.mpr patient), place]

theorem turn_of_timeout (late : s.now < due) (ends : giveUp ≤ s.now) :
    s.stepTask me = { s with
      tasks := s.tasks.insert me (.settle owner order (.restoring (.timeout s.limit))
        (s.now + s.latency.putBack) (s.now + s.commitLimit)) } := by
  simp only [stepTask, found, act, stepSettle, if_neg (Nat.not_le.mpr late), if_pos ends,
    afterCommit, Settlement.committed, Settlement.error?, place]

/-- A commit that the ledger refuses changes nothing, and the task goes on to put the
stock back. -/
theorem turn_of_refused {e : StoreError} (inTime : due ≤ s.now)
    (reply : s.ledger.commit s.clock order = (.answer (.error e), s.ledger)) :
    s.stepTask me = { s with
      tasks := s.tasks.insert me (.settle owner order (.restoring (.store e))
        (s.now + s.latency.putBack) (s.now + s.commitLimit)) } := by
  simp only [stepTask, found, act, stepSettle, if_pos inTime, reply, afterCommit,
    Settlement.committed, Settlement.error?, place]

/-- A commit that goes through is all that happens to the stores, and the task returns.
-/
theorem turn_of_committed {ledger : Ledger} (inTime : due ≤ s.now)
    (reply : s.ledger.commit s.clock order = (.answer (.ok ()), ledger)) :
    SameHoldings { s with ledger } (s.stepTask me) ∧
      Returns s (s.stepTask me) me order .persisted owner := by
  refine turn_of_concluded found ?_ rfl rfl rfl
  simp only [act, stepSettle, if_pos inTime, reply, afterCommit, Settlement.committed,
    Settlement.error?]

end Committing

/-- The stock is put back once, and the task returns whether or not that went well.
There is no second attempt. -/
theorem turn_of_restoring
    (found : s.tasks.get? me = some (.settle owner order (.restoring commit) due giveUp))
    (inTime : due ≤ s.now) (positive : 0 < order.quantity.toInt)
    (fits : s.reservations.counter order.itemId + order.quantity.toInt ≤ 9223372036854775807) :
    ∃ outcome, Restores s (s.stepTask me) order commit outcome ∧
      (s.stepTask me).ledger = s.ledger ∧
      Returns s (s.stepTask me) me order outcome owner := by
  cases refuses : s.reservations.unavailable || s.reservations.failIncrements with
  | true =>
      have acts : s.act me (.settle owner order (.restoring commit) due giveUp) =
          s.conclude owner order (.compensationFailed
            { orderId := order.id, itemId := order.itemId, quantity := order.quantity, commit
              cause := .store (.injectedFault .incrementStock) }) := by
        simp only [act, stepSettle, if_pos inTime, putBack_refused refuses]
        rfl
      obtain ⟨same, returns⟩ := turn_of_concluded found acts rfl rfl rfl
      exact ⟨_, .failed refuses same.reservations, same.ledger, returns⟩
  | false =>
      have lower := s.reservations.counter_ge order.itemId
      obtain ⟨total, sum, replies⟩ := putBack_fits refuses (by omega) fits
      have acts : s.act me (.settle owner order (.restoring commit) due giveUp) =
          { s with
            reservations.counters := s.reservations.counters.insert order.itemId total }.conclude
              owner order (.compensated commit) := by
        simp only [act, stepSettle, if_pos inTime, replies]
        rfl
      obtain ⟨same, returns⟩ := turn_of_concluded found acts rfl rfl rfl
      exact ⟨_, .compensated refuses sum same.reservations, same.ledger, returns⟩

end FlashSale.Sale
