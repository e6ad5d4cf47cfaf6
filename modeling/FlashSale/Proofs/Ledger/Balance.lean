import FlashSale.Proofs.Ledger.Commit
import FlashSale.Proofs.Table

/-!
# Orders and inventory together

What the ledger was seeded with of an item is in the row of the item or in the orders
for it. A commit moves the quantity of its order from the one to the other, and takes
no more than the row has. Calls for other items leave the balance alone.
-/

namespace FlashSale

/-- The quantity of an order, if the order is for the item. -/
def Order.stockOf (item : String) (o : Order) : Int :=
  if o.itemId = item then o.quantity.toInt else 0

theorem Order.stockOf_pending (id : Uuid) (user item : String) (quantity : Int32)
    (now : Timestamp) (other : String) :
    (Order.pending id user item quantity now).stockOf other =
      if item = other then quantity.toInt else 0 := rfl

theorem Order.stockOf_nonneg {o : Order} (positive : 0 < o.quantity.toInt) (item : String) :
    0 ≤ o.stockOf item := by
  unfold stockOf
  split <;> omega

namespace Ledger

/-- The row of the item and the orders for it make up what was seeded. The row has not
less than nothing. -/
def Balanced (item : String) (d : Int) (l : Ledger) : Prop :=
  ∃ row, l.inventory.get? item = some row ∧ 0 ≤ row.quantity.toInt ∧
    row.quantity.toInt + l.orders.sum (Order.stockOf item) = d

variable {l l' : Ledger} {now : Timestamp} {item : String} {d : Int}

/-- Seeding an item of which there are no orders balances it, whatever the row had
before. -/
theorem seed_balanced {stock : Int32} (empty : l.orders = ∅)
    (h : l.seed now item stock = (.answer (.ok ()), l')) : Balanced item stock.toInt l' := by
  have orders : l'.orders = ∅ := by
    have kept := l.seed_orders now item stock
    rw [h] at kept
    rw [kept, empty]
  have sum : l'.orders.sum (Order.stockOf item) = 0 := by
    rw [orders]
    rfl
  unfold seed at h
  split at h
  · cases h
  rename_i nonneg
  have nonneg : 0 ≤ stock.toInt := by
    rw [Int32.lt_iff_toInt_lt] at nonneg
    exact Int.not_lt.mp nonneg
  split at h
  · rename_i row found
    obtain ⟨-, version, -, rfl⟩ := writeQuantity_eq_answer h
    exact ⟨_, Table.get?_insert_self .., nonneg, by rw [sum, Int.add_zero]⟩
  · cases h
    exact ⟨_, Table.get?_insert_self .., nonneg, (congrArg _ sum).trans (Int.add_zero _)⟩

/-- A commit keeps the balance, whether it is answered with success or not, and for
whichever item it is. -/
theorem Balanced.commit (balanced : Balanced item d l) {order : Order} {reply : Except StoreError Unit}
    (h : l.commit now order = (.answer reply, l')) : Balanced item d l' := by
  cases reply with
  | error e =>
      obtain rfl := commit_eq_error h
      exact balanced
  | ok =>
      obtain ⟨absent, row, left, version, found, covered, rest, rfl⟩ := commit_eq_ok h
      obtain ⟨row', found', nonneg, whole⟩ := balanced
      have sum : (l.orders.insert order.id order).sum (Order.stockOf item) =
          l.orders.sum (Order.stockOf item) + order.stockOf item :=
        Table.sum_insert_fresh absent order _
      by_cases same : item = order.itemId
      · subst same
        obtain rfl := Option.some.inj (found.symm.trans found')
        refine ⟨_, Table.get?_insert_self .., ?_, ?_⟩
        · dsimp only
          omega
        · dsimp only
          rw [sum, Order.stockOf, if_pos rfl]
          omega
      · refine ⟨row', (Table.get?_insert ..).trans (by rw [if_neg same, found']), nonneg, ?_⟩
        dsimp only
        rw [sum, Order.stockOf, if_neg (Ne.symm same), Int.add_zero]
        exact whole

/-- Writing the row of another item leaves the balance alone. Seeding and updating come
to this. -/
theorem Balanced.write (balanced : Balanced item d l) {other : String} {row : Inventory}
    {quantity : Int32} (differs : item ≠ other) :
    Balanced item d (l.writeQuantity other row quantity now).2 := by
  obtain ⟨row', found, nonneg, whole⟩ := balanced
  unfold writeQuantity
  split
  · exact ⟨row', (Table.get?_insert ..).trans (by rw [if_neg differs, found]), nonneg, whole⟩
  · exact ⟨row', (Table.get?_insert ..).trans (by rw [if_neg differs, found]), nonneg, whole⟩

theorem Balanced.seed (balanced : Balanced item d l) {other : String} {stock : Int32}
    (differs : item ≠ other) : Balanced item d (l.seed now other stock).2 := by
  unfold Ledger.seed
  split
  · exact balanced
  split
  · exact balanced.write differs
  · obtain ⟨row, found, nonneg, whole⟩ := balanced
    exact ⟨row, (Table.get?_insert ..).trans (by rw [if_neg differs, found]), nonneg, whole⟩

theorem Balanced.update (balanced : Balanced item d l) {other : String} {quantity version : Int32}
    (differs : item ≠ other) : Balanced item d (l.update now other quantity version).2 := by
  unfold Ledger.update
  split
  · exact balanced
  split
  · exact balanced
  split
  · exact balanced
  split
  · exact balanced.write differs
  · exact balanced

end Ledger

end FlashSale
