import FlashSale.Proofs.Sale.Promptness

/-!
# No item is sold twice

A pipeline is started over two stores that both have the stock of an item, and only
purchases move it from then on. Neither store is asked to agree with the other, yet no
more is persisted than either of them had: the counter and the row of the item never
fall below zero, and what is persisted left them both.

If the ledger had at least what was set, stays available and answers in time, then no
order for the item fails: whatever a worker has finished is persisted.
-/

namespace FlashSale.Sale

variable {s : Sale} {item : String} {c d : Int} {calls : List Uuid} {work : List Note}
  {actions : List Action}

/-- Over a course in which only purchases move the stock of the item, both stores keep
theirs, and orders stay accounted for. -/
theorem Stocked.after (stocked : Stocked s item c d) (sound : s.Sound)
    (account : Accounted s calls work) (ok : Obeys (StockFixed item) s actions)
    (below : (s.after actions).ledger.VersionsBelowLimit) :
    Accounted (s.after actions) (calls ++ Sale.calls actions) (work ++ s.history actions) ∧
      Stocked (s.after actions) item c d := by
  have steps := sound.obeys (fun _ _ allowed => allowed.1.1) ok below
  refine steps.invariant (P := fun done =>
    Accounted (s.after done) (calls ++ Sale.calls done) (work ++ s.history done) ∧
      Stocked (s.after done) item c d) ⟨?_, stocked⟩ ?_
  · simpa [Sale.calls] using account
  · rintro done a ⟨account, stocked⟩ ⟨allowed, sound, below⟩
    rw [after_append, calls_concat, history_concat, ← List.append_assoc, ← List.append_assoc]
    exact ⟨account.perform sound allowed.1 below, stocked.perform sound account allowed below⟩

/-- Over such a course no order for the item is given up, if the ledger stays quick and
available. -/
theorem Prompt.after (prompt : Prompt s item work) (stocked : Stocked s item c d) (sound : s.Sound)
    (account : Accounted s calls work) (distinct : (calls ++ Sale.calls actions).Nodup)
    (enough : c ≤ d) (ok : Obeys (StockFixed item) s actions)
    (quick : ∀ a ∈ actions, a.IsPrompt s.commitLimit)
    (below : (s.after actions).ledger.VersionsBelowLimit) :
    Prompt (s.after actions) item (work ++ s.history actions) := by
  have steps := sound.obeys (fun _ _ allowed => allowed.1.1.1) (ok.and_forall quick) below
  -- The identifiers so far do not repeat, because those of the whole course do not.
  have kept := steps.invariant (P := fun done => (calls ++ Sale.calls done).Nodup →
    Accounted (s.after done) (calls ++ Sale.calls done) (work ++ s.history done) ∧
      Stocked (s.after done) item c d ∧ Prompt (s.after done) item (work ++ s.history done)) ?_ ?_
  · exact (kept distinct).2.2
  · intro _
    simpa [Sale.calls] using ⟨account, stocked, prompt⟩
  · rintro done a kept ⟨⟨allowed, quick⟩, sound, below⟩ distinct
    rw [calls_concat, ← List.append_assoc] at distinct
    obtain ⟨account, stocked, prompt⟩ := kept distinct.of_append_left
    rw [← after_commitLimit s done] at quick
    rw [after_append, calls_concat, history_concat, ← List.append_assoc, ← List.append_assoc]
    exact ⟨account.perform sound allowed.1 below, stocked.perform sound account allowed below,
      prompt.perform stocked sound account distinct.of_append_left enough allowed.1.1 quick below⟩

variable {reservations reservations' : Reservations} {ledger ledger' : Ledger} {now : Timestamp}
  {stock seed : Int32} {workers capacity commitLimit : Nat} {s₀ : Sale}

theorem setStock_counter (h : reservations.setStock item stock = (.answer (.ok ()), reservations')) :
    reservations'.counter item = stock.toInt := by
  have available : reservations.unavailable = false := by
    unfold Reservations.setStock at h
    split at h
    · cases h
    · exact Bool.eq_false_iff.mpr ‹_›
  have written : reservations' = (reservations.setStock item stock).2 := by rw [h]
  rw [written, Reservations.setStock_counters available, Reservations.counter_insert, if_pos rfl,
    Int32.toInt_toInt64]

/-- A pipeline that is opened over stocked stores has the stock of the item. Nothing of
it is out yet, and nothing is persisted. -/
theorem pipeline?_stocked
    (set : reservations.setStock item stock = (.answer (.ok ()), reservations'))
    (nonneg : 0 ≤ stock.toInt) (empty : ledger.orders = ∅)
    (seeded : ledger.seed now item seed = (.answer (.ok ()), ledger'))
    (opened : pipeline? reservations' ledger' workers capacity commitLimit = some s₀) :
    Stocked s₀ item stock.toInt seed.toInt := by
  obtain ⟨-, start⟩ := pipeline?_sound opened
  have idle {id : TaskId} {t : Task} (here : s₀.tasks.get? id = some t) := pipeline?_idle opened here
  obtain ⟨tasks, ready, rfl, -⟩ := pipeline?_eq opened
  have counter := setStock_counter set
  constructor
  case total => exact (start item).trans counter
  case counter =>
    change 0 ≤ reservations'.counter item
    rw [counter]
    exact nonneg
  case balanced => exact Ledger.seed_balanced empty seeded
  case untouched =>
    intro id t here
    obtain rfl := (idle here).2
    rfl

/-- No order has failed in a pipeline that was just opened. None has been handed out. -/
theorem pipeline?_prompt
    (opened : pipeline? reservations ledger workers capacity commitLimit = some s₀)
    (available : ledger.unavailable = false) (delay : ledger.commitDelay ≤ commitLimit) :
    Prompt s₀ item [] := by
  have idle {id : TaskId} {t : Task} (here : s₀.tasks.get? id = some t) := pipeline?_idle opened here
  obtain ⟨tasks, ready, rfl, -⟩ := pipeline?_eq opened
  constructor
  case available => exact available
  case delay => exact delay
  case onTime =>
    intro id t here
    obtain rfl := (idle here).2
    trivial
  case unspoiled => simp [Event.Spoils]
  case finished => exact fun e member => (List.not_mem_nil member).elim

/-- What is persisted of the item left both stores, which had enough of it. Each store
bounds it by itself. -/
theorem Stocked.stored_le (stocked : Stocked s item c d) (sound : s.Sound)
    (account : Accounted s calls work) (distinct : calls.Nodup) :
    s.ledger.orders.sum (Order.stockOf item) ≤ min c d ∧
      ∃ row, s.ledger.inventory.get? item = some row ∧
        row.quantity.toInt = d - s.ledger.orders.sum (Order.stockOf item) := by
  obtain ⟨row, found, left, whole⟩ := stocked.balanced
  refine ⟨?_, row, found, by omega⟩
  have whole' := s.total_eq item
  rw [stocked.total, out] at whole'
  have counter := stocked.counter
  have held := sound.held_nonneg item
  have returning := sound.returning_nonneg item
  have buffered := sound.buffered_nonneg item
  have settling := sound.settling_nonneg item
  have lost := sound.lost_nonneg item
  have stored := account.stored_eq distinct item
  omega

/-- Over stocked stores no more of the item is persisted than either store had; and if the ledger
had enough, is there and is quick, every order for the item that a worker is done with is
persisted. -/
theorem never_oversold
    (set : reservations.setStock item stock = (.answer (.ok ()), reservations'))
    (nonneg : 0 ≤ stock.toInt) (empty : ledger.orders = ∅)
    (seeded : ledger.seed now item seed = (.answer (.ok ()), ledger'))
    (opened : pipeline? reservations' ledger' workers capacity commitLimit = some s₀)
    (allowed : Obeys (StockFixed item) s₀ actions) (distinct : (Sale.calls actions).Nodup)
    (reached : s = s₀.after actions) (below : s.ledger.VersionsBelowLimit) :
    (s.ledger.orders.sum (Order.stockOf item) ≤ min stock.toInt seed.toInt ∧
      0 ≤ s.counter item ∧
      ∃ row, s.ledger.inventory.get? item = some row ∧
        row.quantity.toInt = seed.toInt - s.ledger.orders.sum (Order.stockOf item)) ∧
    (stock.toInt ≤ seed.toInt → ledger'.unavailable = false →
      ledger'.commitDelay ≤ commitLimit → (∀ a ∈ actions, a.IsPrompt commitLimit) →
      (∀ e ∈ s.log, ¬ e.Spoils item) ∧
      ∀ e ∈ handings (s₀.history actions), e.2.itemId = item →
        (∃ stage due giveUp, s.tasks.get? e.1 = some (.settle .worker e.2 stage due giveUp)) ∨
          s.ledger.findOrder? e.2.id = some e.2) := by
  subst reached
  have stocked := pipeline?_stocked set nonneg empty seeded opened
  obtain ⟨sound, -⟩ := pipeline?_sound opened
  have permitted : Obeys Permits s₀ actions := allowed.mono fun _ _ ok => ok.1.1
  have empty' : ledger'.orders = ∅ := by
    have kept := ledger.seed_orders now item seed
    rw [seeded] at kept
    exact kept.trans empty
  have account := pipeline?_accounted empty' opened
  constructor
  · obtain ⟨account', stocked'⟩ := stocked.after sound account allowed below
    obtain ⟨stored, row⟩ := stocked'.stored_le (sound.after permitted below) account' distinct
    exact ⟨stored, stocked'.counter, row⟩
  · intro enough available delay quick
    have limit : s₀.commitLimit = commitLimit := by
      obtain ⟨tasks, ready, rfl, -⟩ := pipeline?_eq opened
      rfl
    have prompt := (pipeline?_prompt opened available delay).after stocked sound account distinct
      enough allowed (limit ▸ quick) below
    exact ⟨prompt.unspoiled, prompt.finished⟩

/-- Two purchases ask for all that is on the counter; one gets it and is persisted as late as a
commit may be. -/
def lastUnits : List Action :=
  [.start (.purchase ⟨"r1", "ann", "tea", 2⟩ false ⟨1⟩ .entering 0),
    .start (.purchase ⟨"r2", "bob", "tea", 2⟩ true ⟨2⟩ .entering 0), .turn 1, .turn 2, .turn 1,
    .turn 2, .turn 1, .turn 2, .turn 1, .commitDelay 5000, .turn 0, .turn 0, .turn 0,
    .elapse 5000, .turn 0]

theorem never_oversold_lastUnits : ∃ reservations ledger s₀ s,
    ({ ttl := 1000 } : Reservations).setStock "tea" 2 = (.answer (.ok ()), reservations) ∧
    0 ≤ (2 : Int32).toInt ∧ ({} : Ledger).orders = ∅ ∧
    ({} : Ledger).seed (.ofMillis 0) "tea" 3 = (.answer (.ok ()), ledger) ∧
    pipeline? reservations ledger 1 1 5000 = some s₀ ∧ Obeys (StockFixed "tea") s₀ lastUnits ∧
    (Sale.calls lastUnits).Nodup ∧ s = s₀.after lastUnits ∧ s.ledger.VersionsBelowLimit ∧
    (s.ledger.orders.sum (Order.stockOf "tea") ≤ min (2 : Int32).toInt (3 : Int32).toInt ∧
      0 ≤ s.counter "tea" ∧
      ∃ row, s.ledger.inventory.get? "tea" = some row ∧
        row.quantity.toInt = (3 : Int32).toInt - s.ledger.orders.sum (Order.stockOf "tea")) ∧
    ((∀ e ∈ s.log, ¬ e.Spoils "tea") ∧
      ∀ e ∈ handings (s₀.history lastUnits), e.2.itemId = "tea" →
        (∃ stage due giveUp, s.tasks.get? e.1 = some (.settle .worker e.2 stage due giveUp)) ∨
          s.ledger.findOrder? e.2.id = some e.2) ∧
    s.counter "tea" = 0 ∧ s.persisted "tea" = 2 := by
  have allowed (s₀ : Sale) : Obeys (StockFixed "tea") s₀ lastUnits := by
    simp [lastUnits, Obeys, StockFixed, OnlyPurchases, Permits, Action.isDirectCommit,
      Action.Restocks, Action.Reseeds, Task.isRequest, Task.isDirectCommit, Task.updates]
  have set : ({ ttl := 1000 } : Reservations).setStock "tea" 2 =
      (.answer (.ok ()), { ttl := 1000, counters := Table.empty.insert "tea" 2 }) := rfl
  have seeded : ({} : Ledger).seed (.ofMillis 0) "tea" 3 =
      (.answer (.ok ()),
        { inventory := Table.empty.insert "tea" (.fresh "tea" 3 (.ofMillis 0)) }) := rfl
  have covered (s₀ : Sale) (opened : pipeline?
      { ttl := 1000, counters := Table.empty.insert "tea" 2 }
      { inventory := Table.empty.insert "tea" (.fresh "tea" 3 (.ofMillis 0)) } 1 1 5000 = some s₀)
      (below : (s₀.after lastUnits).ledger.VersionsBelowLimit) :=
    never_oversold set (by decide) rfl seeded opened (allowed s₀) (by decide) rfl below
  obtain ⟨within, prompt⟩ := covered _ rfl (by decide)
  have quick : ∀ a ∈ lastUnits, a.IsPrompt 5000 := by simp [lastUnits, Action.IsPrompt]
  exact ⟨_, _, _, _, set, by decide, rfl, seeded, rfl, allowed _, by decide, rfl, by decide, within,
    prompt (by decide) rfl (by decide) quick, by decide, by decide⟩

end FlashSale.Sale
