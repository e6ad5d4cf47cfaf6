import FlashSale.Proofs.Ledger.Dates
import FlashSale.Proofs.Reservations.Counters
import FlashSale.Settlement

/-!
# Orders settled one by one

What becomes of the two stores and of the statistics when orders are settled one after the
other and nothing else happens. Each is committed; if the ledger refuses it, its stock is put
back, and if that fails too, it only counts as a failure. There are no tasks here and no
queue: this is what a pool of workers is held against. The books keep no dates, so that it does
not matter when an order is settled.

As long as no number leaves its range every order is settled, and the ledger ends with the
orders that it accepts first come, first served.
-/

namespace FlashSale

/-- The stores, and what was counted of the outcomes. Nothing says when a row was changed last:
orders are committed as if at one moment. -/
structure Books where
  reservations : Reservations
  ledger : Ledger
  tally : Tally

namespace Books

/-- Puts the stock of an order back, unless the counter would leave its range. Whether
that succeeds or fails, it is counted. -/
def restore? (b : Books) (order : Order) : Option Books :=
  match b.reservations.putBack order.itemId order.quantity with
  | (.overflow, _) => none
  | (.answer (.ok ()), reservations) =>
    some { b with reservations, tally.compensated := b.tally.compensated + 1 }
  | (.answer (.error _), reservations) =>
    some { b with reservations, tally.compensationFailures := b.tally.compensationFailures + 1 }

/-- Commits an order, or else puts its stock back. There is no result where a number
would leave its range. -/
def settle? (b : Books) (order : Order) : Option Books :=
  match b.ledger.commit (.ofMillis 0) order with
  | (.overflow, _) => none
  | (.answer (.ok ()), ledger) =>
    some { b with ledger, tally.persisted := b.tally.persisted + 1 }
  | (.answer (.error _), ledger) => restore? { b with ledger } order

/-- Settles orders one after the other. -/
def settleAll? (b : Books) (orders : List Order) : Option Books :=
  orders.foldlM settle? b

/-- No version reaches its limit and no counter leaves its range when the order is
settled. Then settling it has a result. -/
structure Fits (b : Books) (order : Order) : Prop where
  version : b.ledger.Accepts order → ∀ row, b.ledger.inventory.get? order.itemId = some row →
    row.version.toInt < 2147483647
  counter : ¬ b.ledger.Accepts order → ∀ reservations,
    b.reservations.putBack order.itemId order.quantity ≠ (.overflow, reservations)

/-- No number leaves its range while the orders are settled one after the other. -/
def FitsAll (b : Books) : List Order → Prop
  | [] => True
  | order :: rest => b.Fits order ∧ ∀ b', b.settle? order = some b' → b'.FitsAll rest

variable {b b' : Books} {order : Order} {orders done rest : List Order}

@[simp] theorem settleAll?_nil : b.settleAll? [] = some b := rfl

theorem settleAll?_cons (rest : List Order) :
    b.settleAll? (order :: rest) = (b.settle? order).bind (settleAll? · rest) := rfl

/-- One more order is settled after the others. The lists of a pool grow at their end.
-/
theorem settleAll?_concat (settled : b.settleAll? done = some b') :
    b.settleAll? (done ++ [order]) = b'.settle? order := by
  rw [settleAll?, List.foldlM_append]
  change (b.settleAll? done).bind _ = _
  rw [settled]
  exact Option.bind_fun_some _

/-- Each order fits when its turn comes, which is after the orders before it have been
settled. -/
theorem FitsAll.fits (all : b.FitsAll (done ++ order :: rest))
    (settled : b.settleAll? done = some b') : b'.Fits order := by
  induction done generalizing b with
  | nil =>
      obtain rfl := Option.some.inj settled
      exact all.1
  | cons first done ih =>
      rw [settleAll?_cons] at settled
      obtain ⟨next, one, settled⟩ := Option.bind_eq_some_iff.mp settled
      exact ih (all.2 next one) settled

/-- An order fits where the version is below its limit and the counter has room for it.
Only one of the two is used, but which one is open. -/
theorem Fits.of_room (positive : 0 < order.quantity.toInt)
    (below : ∀ row, b.ledger.inventory.get? order.itemId = some row →
      row.version.toInt < 2147483647)
    (room : b.reservations.counter order.itemId + order.quantity.toInt ≤ 9223372036854775807) :
    b.Fits order := by
  refine ⟨fun _ => below, fun _ reservations overflowed => ?_⟩
  have least := b.reservations.counter_ge order.itemId
  obtain low | high := Reservations.putBack_overflow overflowed
  · omega
  · omega

theorem settle?_of_ok {ledger : Ledger}
    (committed : b.ledger.commit (.ofMillis 0) order = (.answer (.ok ()), ledger)) :
    b.settle? order = some { b with ledger, tally.persisted := b.tally.persisted + 1 } := by
  rw [settle?, committed]

theorem settle?_of_not_accepts (refused : ¬ b.ledger.Accepts order) :
    b.settle? order = b.restore? order := by
  obtain ⟨e, refused⟩ : ∃ e,
      b.ledger.commit (.ofMillis 0) order = (.answer (.error e), b.ledger) :=
    Ledger.commit_of_not_accepts refused
  rw [settle?, refused]

theorem restore?_of_ok {reservations : Reservations}
    (restored : b.reservations.putBack order.itemId order.quantity =
      (.answer (.ok ()), reservations)) :
    b.restore? order =
      some { b with reservations, tally.compensated := b.tally.compensated + 1 } := by
  rw [restore?, restored]

theorem restore?_of_error {reservations : Reservations} {e : StoreError}
    (failed : b.reservations.putBack order.itemId order.quantity =
      (.answer (.error e), reservations)) :
    b.restore? order =
      some { b with
        reservations, tally.compensationFailures := b.tally.compensationFailures + 1 } := by
  rw [restore?, failed]

/-- Putting stock back leaves the ledger alone and persists nothing. As long as the
counter has room, there is a result. -/
theorem restore?_eq_some (fits : ∀ reservations,
      b.reservations.putBack order.itemId order.quantity ≠ (.overflow, reservations)) :
    ∃ b', b.restore? order = some b' ∧ b'.ledger = b.ledger ∧
      b'.tally.persisted = b.tally.persisted := by
  rcases replied : b.reservations.putBack order.itemId order.quantity with ⟨reply | _, reservations⟩
  · cases reply with
    | ok => exact ⟨_, restore?_of_ok replied, rfl, rfl⟩
    | error e => exact ⟨_, restore?_of_error replied, rfl, rfl⟩
  · exact absurd replied (fits reservations)

/-- Settling an order commits it, or leaves the ledger alone and puts its stock back if
it can. Nothing else happens to the stores. -/
theorem settle?_cases (settled : b.settle? order = some b') :
    (b.ledger.commit (.ofMillis 0) order = (.answer (.ok ()), b'.ledger) ∧
        b'.reservations = b.reservations) ∨
      (b'.ledger = b.ledger ∧ (b'.reservations = b.reservations ∨
        b.reservations.putBack order.itemId order.quantity =
          (.answer (.ok ()), b'.reservations))) := by
  rcases replied : b.ledger.commit (.ofMillis 0) order with ⟨reply | _, ledger⟩
  · cases reply with
    | ok =>
        rw [settle?_of_ok replied] at settled
        cases settled
        exact .inl ⟨rfl, rfl⟩
    | error e =>
        obtain rfl := Ledger.commit_eq_error replied
        rw [settle?, replied] at settled
        change b.restore? order = some b' at settled
        rw [restore?] at settled
        rcases restored : b.reservations.putBack order.itemId order.quantity with
          ⟨reply | _, reservations⟩
        all_goals rw [restored] at settled
        · cases reply with
          | ok =>
              cases settled
              exact .inr ⟨rfl, .inr rfl⟩
          | error e =>
              cases settled
              exact .inr ⟨rfl, .inl (Reservations.putBack_of_ne_ok restored nofun)⟩
        · cases settled
  · rw [settle?, replied] at settled
    cases settled

/-- All orders fit, in whatever order they are settled, where there is room for all of them
together: each raises one version by at most one and one counter by at most its quantity. -/
theorem FitsAll.of_room (positive : ∀ order ∈ orders, 0 < order.quantity.toInt)
    (below : ∀ item row, b.ledger.inventory.get? item = some row →
      row.version.toInt + orders.length ≤ 2147483647)
    (room : ∀ item, b.reservations.counter item +
      (orders.map fun order => order.quantity.toInt).sum ≤ 9223372036854775807) :
    b.FitsAll orders := by
  induction orders generalizing b with
  | nil => trivial
  | cons order rest ih =>
      obtain ⟨fair, positive⟩ := List.forall_mem_cons.mp positive
      have later : 0 ≤ (rest.map fun order => order.quantity.toInt).sum := by
        refine List.sum_nonneg fun n member => ?_
        obtain ⟨other, here, rfl⟩ := List.mem_map.mp member
        exact Int.le_of_lt (positive other here)
      simp only [List.length_cons, List.map_cons, List.sum_cons] at below room
      push_cast at below
      refine ⟨.of_room fair (fun row found => ?_) ?_, fun b' settled => ih positive ?_ ?_⟩
      · have one := below _ row found
        omega
      · have one := room order.itemId
        omega
      · intro item row found
        obtain ⟨committed, -⟩ | ⟨same, -⟩ := settle?_cases settled
        · obtain ⟨before, here, risen⟩ := Ledger.commit_version_le committed found
          have one := below item before here
          omega
        · rw [same] at found
          have one := below item row found
          omega
      · intro item
        have one := room item
        obtain ⟨-, same⟩ | ⟨-, same | restored⟩ := settle?_cases settled
        · rw [same]
          omega
        · rw [same]
          omega
        · obtain ⟨total, sum, written⟩ := Reservations.putBack_eq_ok restored
          rw [written, Reservations.counter_insert]
          split
          · rename_i own
            rw [own] at one
            omega
          · omega

/-- The ledger is left with what it had and the orders that were accepted, which are what was
counted as persisted. -/
structure Persists (b : Books) (accepted : List Order) (b' : Books) : Prop where
  count : b'.tally.persisted = b.tally.persisted + accepted.length
  orders : ∀ id order, b'.ledger.findOrder? id = some order ↔
    b.ledger.findOrder? id = some order ∨ (order ∈ accepted ∧ order.id = id)

/-- An order that is accepted is persisted before those that are accepted after it. The
lists begin with it. -/
theorem Persists.cons {ledger : Ledger} {accepted : List Order} (accepts : b.ledger.Accepts order)
    (committed : b.ledger.commit (.ofMillis 0) order = (.answer (.ok ()), ledger))
    (later : Persists { b with ledger, tally.persisted := b.tally.persisted + 1 } accepted b') :
    b.Persists (order :: accepted) b' := by
  have found := Ledger.commit_findOrder? committed
  have new : b.ledger.findOrder? order.id = none := Ledger.findOrder?_eq_none_iff.mpr accepts.2.1
  refine ⟨?_, fun id other => ?_⟩
  · rw [later.count, List.length_cons]
    dsimp only
    omega
  · rw [later.orders, List.mem_cons]
    change ledger.findOrder? id = some other ∨ _ ↔ _
    rw [found]
    by_cases same : id = order.id
    · subst same
      rw [if_pos rfl, new, Option.some.injEq, or_and_right, eq_comm]
      simp only [reduceCtorEq, false_or]
      constructor
      · rintro (rfl | later)
        · exact .inl ⟨rfl, rfl⟩
        · exact .inr later
      · rintro (⟨rfl, -⟩ | later)
        · exact .inl rfl
        · exact .inr later
    · rw [if_neg same]
      constructor
      · rintro (old | ⟨later, rfl⟩)
        · exact .inl old
        · exact .inr ⟨.inr later, rfl⟩
      · rintro (old | ⟨rfl | later, rfl⟩)
        · exact .inl old
        · exact absurd rfl same
        · exact .inr ⟨later, rfl⟩

/-- As long as the numbers fit all orders are settled, and those are persisted that the ledger
accepts first come, first served. -/
theorem settleAll?_persists (positive : ∀ order ∈ orders, 0 < order.quantity.toInt)
    (fits : b.FitsAll orders) :
    ∃ b', b.settleAll? orders = some b' ∧ b.Persists (b.ledger.accepted orders) b' := by
  induction orders generalizing b with
  | nil =>
      have nothing : b.ledger.accepted [] = [] := by
        rw [Ledger.accepted]
        split <;> rfl
      refine ⟨b, rfl, ?_, fun id order => ?_⟩
      · rw [nothing]
        rfl
      · simp [nothing]
  | cons order rest ih =>
      obtain ⟨first, later⟩ := fits
      obtain ⟨fair, positive⟩ := List.forall_mem_cons.mp positive
      by_cases accepts : b.ledger.Accepts order
      · obtain ⟨ledger, committed⟩ : ∃ ledger,
            b.ledger.commit (.ofMillis 0) order = (.answer (.ok ()), ledger) :=
          Ledger.commit_of_accepts fair accepts (first.version accepts)
        have settled := settle?_of_ok committed
        obtain ⟨b', all, persists⟩ := ih positive (later _ settled)
        refine ⟨b', by rw [settleAll?_cons, settled]; exact all, ?_⟩
        rw [Ledger.accepted_of_accepts committed accepts]
        exact .cons accepts committed persists
      · obtain ⟨next, restored, ledger, persisted⟩ := restore?_eq_some (first.counter accepts)
        have settled : b.settle? order = some next :=
          (settle?_of_not_accepts accepts).trans restored
        obtain ⟨b', all, persists⟩ := ih positive (later _ settled)
        refine ⟨b', by rw [settleAll?_cons, settled]; exact all, ?_⟩
        rw [Ledger.accepted_of_not_accepts accepts, ← ledger]
        exact ⟨by rw [persists.count, persisted], fun id other => by rw [persists.orders, ledger]⟩

end Books

end FlashSale
