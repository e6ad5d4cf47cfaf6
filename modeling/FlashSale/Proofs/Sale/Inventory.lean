import FlashSale.Proofs.Sale.Accounting

/-!
# Both stores have the stock of an item

The stock of an item was set in the reservation store and seeded in the ledger, and
nobody changes either directly again. Then the total of the item stays what was set,
and the row of the item with the orders for it stays what was seeded. The two never
look at each other; they are held together by the orders alone.
-/

namespace FlashSale

namespace Task

/-- The task writes the row of the item in the ledger. -/
def updates (item : String) : Task → Bool
  | ledger (.update wanted _ _) _ => wanted = item
  | _ => false

end Task

namespace Action

/-- The action changes the row of the item directly, or starts a task that does. -/
def Reseeds (item : String) : Action → Prop
  | .seed wanted _ => wanted = item
  | .start t => t.updates item = true
  | _ => False

end Action

namespace Sale

/-- A pipeline's rule under which only purchases move the stock of the item. Other items
may be restocked at will. -/
def StockFixed (item : String) (s : Sale) (a : Action) : Prop :=
  s.OnlyPurchases a ∧ ¬ a.Restocks item ∧ ¬ a.Reseeds item

/-- The stock of the item in the reservation store and in the ledger. The two amounts
need not be the same. -/
structure Stocked (s : Sale) (item : String) (c d : Int) : Prop where
  total : s.total item = c
  counter : 0 ≤ s.counter item
  balanced : s.ledger.Balanced item d
  untouched : ∀ id t, s.tasks.get? id = some t → t.updates item = false

variable {s s' : Sale} {me : TaskId} {t t' : Task} {turn : Turn} {item : String} {c d : Int}
  {calls : List Uuid} {work : List Note}

theorem Deed.updates_eq_false (deed : Deed s me t s' turn) (goes : turn = .again t')
    (item : String) : t'.updates item = false := by
  cases deed.next goes <;> rfl

/-- A step keeps the balance of an item that its task does not update. Only a commit
that succeeds moves units, from the row to its order. -/
theorem Deed.balanced (deed : Deed s me t s' turn) (indirect : t.isDirectCommit = false)
    (other : t.updates item = false) (alive : t.isWorker = true → turn ≠ .crash) (own : t.Sound)
    (balanced : s.ledger.Balanced item d) : s'.ledger.Balanced item d := by
  cases deed with
  | @committed owner _ _ _ _ _ reply => cases owner <;> exact balanced.commit reply
  | commitRefused _ reply => exact balanced.commit reply
  | @commitOverflowed owner =>
      obtain rfl : owner = .worker := own.1
      exact absurd rfl (alive rfl)
  | @restored owner => cases owner <;> exact balanced
  | @restoreFailed owner => cases owner <;> exact balanced
  | commitCalled => cases indirect
  | updated =>
      refine balanced.update ?_
      rintro rfl
      simp [Task.updates] at other
  | _ => exact balanced

/-- An action that leaves the stock of the item to purchases keeps the balance of its
row. -/
theorem perform_balanced (sound : s.Sound) (account : Accounted s calls work) {a : Action}
    (allowed : s.StockFixed item a) (below : (s.perform a).ledger.VersionsBelowLimit)
    (untouched : ∀ id t, s.tasks.get? id = some t → t.updates item = false)
    (balanced : s.ledger.Balanced item d) : (s.perform a).ledger.Balanced item d := by
  obtain ⟨⟨allowed, -⟩, -, fixed⟩ := allowed
  cases a with
  | turn id =>
      change (s.stepTask id).ledger.VersionsBelowLimit at below
      change (s.stepTask id).ledger.Balanced item d
      cases found : s.tasks.get? id with
      | none =>
          rw [stepTask_of_get?_eq_none found]
          exact balanced
      | some t =>
          obtain ⟨s', turn, deed, placed⟩ := stepTask_cases found
          rw [placed.stores.ledger] at below ⊢
          exact deed.balanced (account.indirect id t found) (untouched id t found)
            (deed.worker_ne_crash sound found below) (sound.tasks id t found) balanced
  | seed wanted stock => exact balanced.seed (Ne.symm fixed)
  | cancel id => exact (s.cancel_calls id).ledger ▸ balanced
  | abandon id => exact (s.abandon_calls id).ledger ▸ balanced
  | startWorkers => cases allowed
  | dropReceiver => cases allowed
  | _ => exact balanced

theorem Stocked.perform (stocked : Stocked s item c d) (sound : s.Sound)
    (account : Accounted s calls work) {a : Action} (allowed : s.StockFixed item a)
    (below : (s.perform a).ledger.VersionsBelowLimit) : Stocked (s.perform a) item c d where
  total := ((sound.perform allowed.1.1 below).2 item allowed.2.1).trans stocked.total
  counter := sound.perform_counter_nonneg allowed.1.1 allowed.2.1 stocked.counter
  balanced := perform_balanced sound account allowed below stocked.untouched stocked.balanced
  untouched id t here := by
    cases perform_origin here with
    | kept found => exact stocked.untouched id t found
    | started => exact Bool.eq_false_iff.mpr allowed.2.2
    | turned found deed goes => exact deed.updates_eq_false goes item
    | _ => rfl

/-- The orders of the ledger are those that workers reported as persisted. This ties the
total of one store to the balance of the other. -/
theorem Accounted.stored_eq (account : Accounted s calls work) (distinct : calls.Nodup)
    (item : String) : s.ledger.orders.sum (Order.stockOf item) = s.persisted item := by
  have keys : (s.ledger.orders.entries.map Prod.fst).Perm (Event.savedIds s.log) := by
    refine (List.perm_ext_iff_of_nodup s.ledger.orders.nodup (account.saved_nodup distinct)).mpr ?_
    intro id
    rw [← account.recorded id, Option.isSome_iff_exists]
    simp only [Ledger.findOrder?, Table.get?_eq_some_iff, List.mem_map, Prod.exists,
      exists_and_right, exists_eq_right]
  have values : s.ledger.orders.entries.map Prod.snd =
      (s.ledger.orders.entries.map Prod.fst).filterMap s.ledger.findOrder? := by
    rw [List.filterMap_map, ← List.filterMap_eq_map]
    refine List.filterMap_congr fun e member => ?_
    exact (Table.get?_eq_some_iff.mpr member).symm
  have orders : (s.ledger.orders.entries.map Prod.snd).Perm (Event.savedIn s.ledger s.log) := by
    rw [values]
    exact keys.filterMap _
  have sum := (orders.map (Order.stockOf item)).sum_eq
  rw [List.map_map] at sum
  exact sum

end Sale

end FlashSale
