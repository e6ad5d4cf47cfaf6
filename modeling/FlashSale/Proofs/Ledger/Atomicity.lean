import FlashSale.Proofs.Ledger.History

/-!
# Calls that are left half done

A call that comes to grief leaves behind what it had written by then, and the next caller goes
on with that. A quantity that is out of range is noticed before anything is written. A version
at its limit is noticed too late: the quantity stands in the row already.

`atomic_iff` says that this is the only way in which a call is neither completed nor without
effect. In particular an order that was not stored may have taken its quantity out of the row.
-/

namespace FlashSale.Ledger

/-- The orders are the same and every row is. -/
structure Untouched (l l' : Ledger) : Prop where
  orders : l'.orders = l.orders
  rows : ∀ item, l'.inventory.get? item = l.inventory.get? item

/-- A call is completed, or it fails and no record shows that it was made. -/
inductive Atomic (l : Ledger) (now : Timestamp) (m : Mutation) : Reply Unit → Ledger → Prop where
  | completed {l'} (mutated : Mutated l now m (.answer (.ok ())) l') :
      Atomic l now m (.answer (.ok ())) l'
  | untouched {reply l'} (failed : reply ≠ .answer (.ok ())) (same : Untouched l l') :
      Atomic l now m reply l'

/-- The call would write another quantity into a row whose version is at its limit. The
row and the call tell so before anything is written. -/
def Tears (l : Ledger) (m : Mutation) : Prop :=
  ∃ row quantity, l.inventory.get? m.item = some row ∧ m.Admitted l row ∧
    row.version.toInt = 2147483647 ∧ quantity.toInt = m.level row.quantity.toInt ∧
    quantity ≠ row.quantity

variable {l l' : Ledger} {now : Timestamp} {m : Mutation} {reply : Reply Unit}

theorem Untouched.refl (l : Ledger) : Untouched l l := ⟨rfl, fun _ => rfl⟩

/-- Nothing is seen of a quantity that was there before. A call may be torn without
anybody noticing it. -/
theorem untouched_of_same {row : Inventory} {item : String}
    (found : l.inventory.get? item = some row) :
    Untouched l { l with
      inventory := l.inventory.insert item { row with quantity := row.quantity } } where
  orders := rfl
  rows other := by
    rw [Table.get?_insert]
    split
    · rename_i same
      rw [same, found]
    · rfl

/-- A call that tears a row comes to grief once the new quantity stands in it. Its order
is not stored. -/
theorem Mutated.torn_of_tears (mutated : Mutated l now m reply l') (tears : l.Tears m) :
    reply = .overflow ∧ l'.orders = l.orders ∧ ∃ row quantity,
      l.inventory.get? m.item = some row ∧ quantity.toInt = m.level row.quantity.toInt ∧
      quantity ≠ row.quantity ∧
      l'.inventory.get? m.item = some { row with quantity } := by
  obtain ⟨row, quantity, found, admitted, last, level, differs⟩ := tears
  cases mutated with
  | refused unfit => exact absurd admitted (unfit row found)
  | created _ _ absent => cases absent.symm.trans found
  | @wrote _ _ version here _ _ risen =>
      obtain rfl := Option.some.inj (found.symm.trans here)
      have upper := version.toInt_lt
      omega
  | outside here _ unfit =>
      obtain rfl := Option.some.inj (found.symm.trans here)
      cases (word32?_eq_some_iff.mpr level).symm.trans unfit
  | torn here _ level' =>
      obtain rfl := Option.some.inj (found.symm.trans here)
      obtain rfl := Int32.toInt_inj.mp (level.trans level'.symm)
      exact ⟨rfl, rfl, row, quantity, found, level, differs, Table.get?_insert_self ..⟩

theorem Mutated.atomic (mutated : Mutated l now m reply l') (whole : ¬ l.Tears m) :
    Atomic l now m reply l' := by
  cases mutated with
  | refused => exact .untouched nofun (.refl l)
  | created seeds nonneg absent => exact .completed (.created seeds nonneg absent)
  | wrote found admitted level risen => exact .completed (.wrote found admitted level risen)
  | outside => exact .untouched nofun (.refl l)
  | @torn row quantity found admitted level last =>
      by_cases same : quantity = row.quantity
      · subst same
        exact .untouched nofun (untouched_of_same found)
      · exact absurd ⟨row, quantity, found, admitted, last, level, same⟩ whole

/-- A call is completed or leaves every record as it was, unless it would write another
quantity into a row whose version is at its limit. There it is never so. -/
theorem atomic_iff (l : Ledger) (now : Timestamp) (m : Mutation) :
    Atomic l now m (l.mutate now m).1 (l.mutate now m).2 ↔ ¬ l.Tears m := by
  have mutated := l.mutate_mutated now m
  refine ⟨fun atomic tears => ?_, mutated.atomic⟩
  obtain ⟨grief, -, row, quantity, found, -, differs, torn⟩ := mutated.torn_of_tears tears
  generalize (l.mutate now m).1 = reply, (l.mutate now m).2 = l' at atomic grief torn
  cases atomic with
  | completed => cases grief
  | untouched _ same =>
      have kept := ((same.rows m.item).trans found).symm.trans torn
      exact differs (congrArg Inventory.quantity (Option.some.inj kept)).symm

/-- A ledger whose only row was changed as often as can be counted. -/
def wornOut : Ledger where
  inventory := Table.empty.insert "tea"
    { Inventory.fresh "tea" 5 (.ofMillis 0) with version := 2147483647 }

/-- An order that is not stored takes its quantity all the same. The numbers of the row
are those of a row that was changed often. -/
theorem wornOut_torn :
    (∀ e ∈ wornOut.inventory.entries, 0 ≤ e.2.quantity ∧ 0 ≤ e.2.version) ∧
    ∃ l', wornOut.commit (.ofMillis 0) (.pending ⟨1⟩ "ann" "tea" 2 (.ofMillis 0)) =
        (.overflow, l') ∧
      l'.findOrder? ⟨1⟩ = none ∧
      (wornOut.inventory.get? "tea").map Inventory.quantity = some 5 ∧
      (l'.inventory.get? "tea").map Inventory.quantity = some 3 :=
  ⟨by decide, _, rfl, rfl, rfl, rfl⟩

end FlashSale.Ledger
