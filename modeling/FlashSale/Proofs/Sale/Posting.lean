import FlashSale.Proofs.Sale.Pipeline

/-!
# What a step does to the stock

A step of a task moves units of an item between the counter, the buffer and the
task, or spends them: it reports an order as persisted, or a quantity as lost. A
`Posting` is the balance of one step. It holds of every deed in a sound sale, and it
names no deed, so that a property of the stock needs no cases on what tasks do.

A deed that meets an overflow is ruled out here: a quantity to be put back is out, and
the counter has room for it.
-/

namespace FlashSale.Sale

open Event

/-- The balance of a step for the stock. What lies on the counter, in the buffer and
with the task comes to the same as before, less what the step reports as spent. -/
structure Posting (s s' : Sale) (t : Task) (turn : Turn) : Prop where
  balance : ∀ item, s'.shelved item + turn.weigh (Task.owned item) t = s.shelved item + t.owned item
  persisted_le : ∀ item, s.persisted item ≤ s'.persisted item
  lost_le : ∀ item, s.lost item ≤ s'.lost item
  saved : SavedFor s'.ledger s'.log
  losses : LossesPositive s'.log

variable {s s' : Sale} {me : TaskId} {t : Task} {turn : Turn}

/-- What a step reports is spent; everything else only moves. The other ways to a
posting are cases of this one. -/
theorem Posting.of_events (sound : s.Sound) (keeps : s.ledger.Keeps s'.ledger)
    (events : List Event) (log : s'.log = s.log ++ events)
    (saves : SavedFor s'.ledger events) (loses : LossesPositive events)
    (moved : ∀ item, s'.counter item + s'.buffered item + turn.weigh (Task.owned item) t +
        ((savedIn s'.ledger events).map (Order.stockOf item)).sum + lostIn item events =
      s.counter item + s.buffered item + t.owned item) : Posting s s' t turn := by
  have persisted (item : String) : s'.persisted item =
      s.persisted item + ((savedIn s'.ledger events).map (Order.stockOf item)).sum := by
    unfold persisted
    rw [log, savedIn_append, savedIn_keeps keeps sound.saved, List.map_append, List.sum_append]
  have lost (item : String) : s'.lost item = s.lost item + lostIn item events := by
    unfold lost
    rw [log, lostIn_append]
  refine ⟨fun item => ?_, fun item => ?_, fun item => ?_, ?_, ?_⟩
  · have moved := moved item
    unfold shelved
    rw [persisted, lost]
    omega
  · have nonneg := saves.nonneg item
    rw [persisted]
    omega
  · have nonneg := loses.nonneg item
    rw [lost]
    omega
  · rw [log]
    exact savedFor_append.mpr ⟨sound.saved.keeps keeps, saves⟩
  · rw [log]
    exact lossesPositive_append.mpr ⟨sound.losses, loses⟩

/-- A step that spends nothing. It may report what is of no account to the stock, such
as an order that was accepted. -/
theorem Posting.of_quiet (sound : s.Sound) (keeps : s.ledger.Keeps s'.ledger)
    (events : List Event) (log : s'.log = s.log ++ events) (neutral : ∀ e ∈ events, e.IsNeutral)
    (moved : ∀ item, s'.counter item + s'.buffered item + turn.weigh (Task.owned item) t =
      s.counter item + s.buffered item + t.owned item) : Posting s s' t turn := by
  refine .of_events sound keeps events log ?_ ?_ fun item => ?_
  · intro id reported
    obtain ⟨e, he, saved⟩ := List.mem_filterMap.mp reported
    rw [(neutral e he).2] at saved
    cases saved
  · intro loss reported
    obtain ⟨e, he, lost⟩ := List.mem_filterMap.mp reported
    rw [(neutral e he).1] at lost
    cases lost
  · rw [savedIn_neutral neutral, lostIn_neutral neutral, ← moved item]
    simp

/-- A step that changes no stock, no ledger and no log. There is nothing to balance but
what moves between the task and the counter. -/
theorem Posting.of_silent (sound : s.Sound) (ledger : s'.ledger = s.ledger) (log : s'.log = s.log)
    (moved : ∀ item, s'.counter item + s'.buffered item + turn.weigh (Task.owned item) t =
      s.counter item + s.buffered item + t.owned item) : Posting s s' t turn := by
  refine .of_quiet sound ?_ [] (by rw [log, List.append_nil]) neutral_nil moved
  rw [ledger]
  exact .refl _

/-- A step that reports stock as lost for which its task answered. What leaves the task
in this way is counted as lost, and nothing else is spent. -/
theorem Posting.of_loss (sound : s.Sound) (ledger : s'.ledger = s.ledger) {e : Event}
    {events : List Event} (log : s'.log = s.log ++ e :: events)
    (neutral : ∀ e ∈ events, e.IsNeutral) {wanted : String} {quantity : Int32}
    (loss : e.loss? = some (wanted, quantity)) (unsaved : e.savedId? = none)
    (positive : 0 < quantity.toInt)
    (moved : ∀ item, s'.counter item + s'.buffered item + turn.weigh (Task.owned item) t +
        (if wanted = item then quantity.toInt else 0) =
      s.counter item + s.buffered item + t.owned item) : Posting s s' t turn := by
  have others : events.filterMap loss? = [] ∧ events.filterMap savedId? = [] :=
    ⟨List.filterMap_eq_nil_iff.mpr fun e he => (neutral e he).1,
      List.filterMap_eq_nil_iff.mpr fun e he => (neutral e he).2⟩
  refine .of_events sound (ledger ▸ .refl _) _ log ?_ ?_ fun item => ?_
  · simp [SavedFor, unsaved, others.2]
  · simpa [LossesPositive, loss, others.1] using positive
  · simpa [savedIn, lostIn, loss, unsaved, others] using moved item

/-- Taken stock belongs to the order that is made for it: the counter of that item goes
down by as much, and no other counter changes. -/
theorem counter_take {reservations : Reservations} {wanted : String} {quantity : Int32}
    (reply : s.reservations.take wanted quantity = (.answer (.ok true), reservations))
    (item : String) : reservations.counter item =
      s.counter item - if wanted = item then quantity.toInt else 0 := by
  obtain ⟨-, left, rest, rfl⟩ := Reservations.take_eq_ok_true reply
  rw [Reservations.counter_insert, rest]
  unfold counter
  by_cases same : item = wanted
  · simp [same]
  · simp [same, Ne.symm same]

theorem counter_putBack {reservations : Reservations} {wanted : String} {quantity : Int32}
    (reply : s.reservations.putBack wanted quantity = (.answer (.ok ()), reservations))
    (item : String) : reservations.counter item =
      s.counter item + if wanted = item then quantity.toInt else 0 := by
  obtain ⟨total, sum, rfl⟩ := Reservations.putBack_eq_ok reply
  rw [Reservations.counter_insert, sum]
  unfold counter
  by_cases same : item = wanted
  · simp [same]
  · simp [same, Ne.symm same]

theorem counter_mark {reservations : Reservations} {now : Nat} {key : String} {reply : Reply Bool}
    (h : s.reservations.mark now key = (reply, reservations)) (item : String) :
    reservations.counter item = s.counter item := by
  have same := s.reservations.mark_counter now key item
  rw [h] at same
  exact same

/-- Stock that a task answers for can always be put back. All the stock together fits in
a counter, so that the counter has room for what is out. -/
theorem Sound.putBack_ne_overflow (sound : s.Sound) (found : s.tasks.get? me = some t)
    {reservations : Reservations} {wanted : String} {quantity : Int32}
    (positive : 0 < quantity.toInt) (own : t.owned wanted = quantity.toInt) :
    s.reservations.putBack wanted quantity ≠ (.overflow, reservations) := by
  intro overflow
  have out := sound.owned_le_out wanted found
  have room := sound.room wanted
  have lower := s.reservations.counter_ge wanted
  have range := Reservations.putBack_overflow overflow
  unfold counter at room
  omega

section Deeds

variable {r : PurchaseRequest} {web : Bool} {id : Uuid} {due giveUp : Nat}

theorem owned_admitting (order : Order) (item : String) :
    Task.owned item (.purchase r web id (.admitting order) due) = order.stockOf item := by
  simp [Task.owned, Task.held, Task.returning, Task.settling]

theorem owned_releasing (order : Order) (item : String) :
    Task.owned item (.purchase r web id (.releasing order) due) = order.stockOf item := by
  simp [Task.owned, Task.held, Task.returning, Task.settling]

theorem owned_release (wanted : String) (quantity : Int32) (item : String) :
    Task.owned item (.release wanted quantity due) =
      if wanted = item then quantity.toInt else 0 := by
  simp [Task.owned, Task.held, Task.returning, Task.settling]

theorem owned_settle (owner : Owner) (order : Order) (stage : Settlement.Stage) (item : String) :
    Task.owned item (.settle owner order stage due giveUp) = order.stockOf item := by
  simp [Task.owned, Task.held, Task.returning, Task.settling]

/-- What a purchase does balances: stock is taken, handed on with an order, or given
back. -/
theorem Deed.posting_purchase {stage : Purchase.Stage}
    (deed : Deed s me (.purchase r web id stage due) s' turn) (sound : s.Sound)
    (found : s.tasks.get? me = some (.purchase r web id stage due)) :
    Posting s s' (.purchase r web id stage due) turn := by
  have own := sound.tasks me _ found
  cases deed with
  | asleep => exact .of_silent sound rfl rfl fun _ => rfl
  | turnedAway => exact .of_silent sound rfl rfl fun _ => rfl
  | entered => exact .of_silent sound rfl rfl fun _ => rfl
  | marked reply =>
      exact .of_silent sound rfl rfl fun item =>
        congrArg (· + s.buffered item + 0) (counter_mark reply item)
  | duplicate reply =>
      exact .of_quiet sound (.refl _) _ rfl (neutral_singleton rfl rfl) fun item =>
        congrArg (· + s.buffered item + 0) (counter_mark reply item)
  | markRefused reply =>
      exact .of_quiet sound (.refl _) _ rfl failureEvents_neutral fun item =>
        congrArg (· + s.buffered item + 0) (counter_mark reply item)
  | markOverflowed reply =>
      exact .of_silent sound rfl rfl fun item =>
        congrArg (· + s.buffered item + 0) (counter_mark reply item)
  | @reserved _ _ _ _ reservations reply =>
      refine .of_silent sound rfl rfl fun item => ?_
      have taken := counter_take reply item
      change reservations.counter item + s.buffered item + Task.owned item _ =
        s.counter item + s.buffered item + 0
      rw [owned_admitting, Order.stockOf_pending, taken]
      omega
  | soldOut reply =>
      obtain rfl := Reservations.take_of_ne_ok_true reply (by simp)
      exact .of_quiet sound (.refl _) _ rfl (neutral_singleton rfl rfl) fun _ => rfl
  | takeRefused reply =>
      obtain rfl := Reservations.take_of_ne_ok_true reply (by simp)
      exact .of_quiet sound (.refl _) _ rfl failureEvents_neutral fun _ => rfl
  | takeOverflowed reply =>
      have positive : 0 < r.quantity.toInt := own
      exact absurd reply (Reservations.take_ne_overflow (by omega))
  | @admitted _ _ _ order _ queue _ slot =>
      refine .of_quiet sound (.refl _) _ rfl (neutral_singleton rfl rfl) fun item => ?_
      have filled : ((queue.put order).buffer.map (Order.stockOf item)).sum =
          s.buffered item + order.stockOf item := by
        rw [AdmissionQueue.put_buffer, slot.buffer, List.map_append, List.sum_append]
        simp [buffered]
      change s.counter item + ((queue.put order).buffer.map (Order.stockOf item)).sum + 0 =
        s.counter item + s.buffered item + Task.owned item _
      rw [filled, owned_admitting]
      omega
  | refused =>
      exact .of_quiet sound (.refl _) _ rfl (neutral_singleton rfl rfl) fun _ => rfl
  | inLine line =>
      refine .of_silent sound rfl rfl fun item => ?_
      simp only [buffered, line.buffer]
      rfl
  | @released _ _ _ _ _ reservations reply =>
      obtain ⟨positive, now, rfl⟩ := own
      refine .of_quiet sound (.refl _) _ rfl failureEvents_neutral fun item => ?_
      have back := counter_putBack reply item
      change reservations.counter item + s.buffered item + 0 =
        s.counter item + s.buffered item + Task.owned item _
      rw [owned_releasing, Order.stockOf_pending, back]
      omega
  | releaseFailed reply =>
      obtain ⟨positive, now, rfl⟩ := own
      obtain rfl := Reservations.putBack_of_ne_ok reply (by simp)
      refine .of_loss sound rfl rfl failureEvents_neutral rfl rfl positive fun item => ?_
      rw [owned_releasing]
      exact congrArg (· + _) (Int.add_zero _)
  | releaseOverflowed reply =>
      obtain ⟨positive, now, rfl⟩ := own
      refine absurd reply (sound.putBack_ne_overflow found positive ?_)
      rw [owned_releasing]
      exact if_pos rfl

theorem Deed.posting_release {wanted : String} {quantity : Int32}
    (deed : Deed s me (.release wanted quantity due) s' turn) (sound : s.Sound)
    (found : s.tasks.get? me = some (.release wanted quantity due)) :
    Posting s s' (.release wanted quantity due) turn := by
  have positive : 0 < quantity.toInt := sound.tasks me _ found
  cases deed with
  | asleep => exact .of_silent sound rfl rfl fun _ => rfl
  | @returned _ _ _ reservations reply =>
      refine .of_silent sound rfl rfl fun item => ?_
      have back := counter_putBack reply item
      change reservations.counter item + s.buffered item + 0 =
        s.counter item + s.buffered item + Task.owned item _
      rw [owned_release, back]
      omega
  | returnFailed reply =>
      obtain rfl := Reservations.putBack_of_ne_ok reply (by simp)
      refine .of_loss sound rfl rfl neutral_nil rfl rfl positive fun item => ?_
      rw [owned_release]
      exact congrArg (· + _) (Int.add_zero _)
  | returnOverflowed reply =>
      refine absurd reply (sound.putBack_ne_overflow found positive ?_)
      rw [owned_release]
      exact if_pos rfl

/-- Settling an order never comes to grief, as long as versions stay below their limit.
The commit is the only step that could overflow. -/
theorem Deed.settle_ne_crash {owner : Owner} {order : Order} {stage : Settlement.Stage}
    (deed : Deed s me (.settle owner order stage due giveUp) s' turn) (sound : s.Sound)
    (found : s.tasks.get? me = some (.settle owner order stage due giveUp))
    (below : s'.ledger.VersionsBelowLimit) : turn ≠ .crash := by
  obtain ⟨rfl, positive⟩ : owner = .worker ∧ 0 < order.quantity.toInt := sound.tasks me _ found
  rintro rfl
  cases deed with
  | collapsed faulty =>
      rw [sound.faultless] at faulty
      cases faulty
  | commitOverflowed inTime reply => exact absurd below (Ledger.commit_eq_overflow positive reply)
  | restoreOverflowed inTime reply =>
      refine absurd reply (sound.putBack_ne_overflow found positive ?_)
      rw [owned_settle]
      exact if_pos rfl

/-- What is done to settle an order balances: it is persisted, put back, or lost with a
report. -/
theorem Deed.posting_settle {owner : Owner} {order : Order} {stage : Settlement.Stage}
    (deed : Deed s me (.settle owner order stage due giveUp) s' turn) (sound : s.Sound)
    (found : s.tasks.get? me = some (.settle owner order stage due giveUp))
    (below : s'.ledger.VersionsBelowLimit) :
    Posting s s' (.settle owner order stage due giveUp) turn := by
  have alive := deed.settle_ne_crash sound found below
  obtain ⟨rfl, positive⟩ : owner = .worker ∧ 0 < order.quantity.toInt := sound.tasks me _ found
  cases deed with
  | asleep => exact .of_silent sound rfl rfl fun _ => rfl
  | collapsed => exact absurd rfl alive
  | begun => exact .of_silent sound rfl rfl fun _ => rfl
  | @committed _ _ _ _ ledger inTime reply =>
      have stored : ledger.findOrder? order.id = some order := by
        obtain ⟨-, row, left, version, -, -, -, rfl⟩ := Ledger.commit_eq_ok reply
        exact Table.get?_insert_self ..
      have saves : savedIn ledger [.orderSaved order.id] = [order] := by
        simp [savedIn, savedId?, stored]
      refine .of_events sound (Ledger.commit_keeps reply) [.orderSaved order.id] rfl ?_ ?_ fun item => ?_
      · intro id reported
        obtain rfl : id = order.id := by simpa [savedId?] using reported
        exact ⟨order, stored, positive⟩
      · simp [LossesPositive, loss?]
      · change s.counter item + s.buffered item + 0 +
          ((savedIn ledger [.orderSaved order.id]).map (Order.stockOf item)).sum + 0 =
            s.counter item + s.buffered item + Task.owned item _
        rw [saves, owned_settle]
        simp
  | commitRefused inTime reply =>
      obtain rfl := Ledger.commit_eq_error reply
      exact .of_silent sound rfl rfl fun _ => rfl
  | commitOverflowed => exact absurd rfl alive
  | commitTimedOut => exact .of_silent sound rfl rfl fun _ => rfl
  | @restored _ _ commit _ _ reservations inTime reply =>
      refine .of_quiet sound (.refl _) [.stockRestored order commit] rfl
        (neutral_singleton rfl rfl) fun item => ?_
      have back := counter_putBack reply item
      change reservations.counter item + s.buffered item + 0 =
        s.counter item + s.buffered item + Task.owned item _
      rw [owned_settle, back]
      unfold Order.stockOf
      omega
  | @restoreFailed _ _ _ _ _ failure about =>
      obtain ⟨-, sameItem, sameQuantity⟩ := about
      refine .of_loss sound rfl (e := .storesDiverged failure) rfl neutral_nil rfl rfl
        (by rwa [sameQuantity]) fun item => ?_
      rw [owned_settle, sameItem, sameQuantity]
      exact congrArg (· + _) (Int.add_zero _)
  | restoreOverflowed => exact absurd rfl alive

theorem Deed.posting_receive (deed : Deed s me (.receive .worker) s' turn) (sound : s.Sound) :
    Posting s s' (.receive .worker) turn := by
  cases deed with
  | asleep => exact .of_silent sound rfl rfl fun _ => rfl
  | @handed order queue _ _ popped =>
      refine .of_silent sound rfl rfl fun item => ?_
      have taken : s.buffered item = order.stockOf item +
          ((queue.uncount.leaveLine me).1.buffer.map (Order.stockOf item)).sum := by
        have buffer := AdmissionQueue.buffer_of_pop? popped
        rw [AdmissionQueue.joinLine_buffer] at buffer
        simp [buffered, buffer, AdmissionQueue.uncount]
      change s.counter item + ((queue.uncount.leaveLine me).1.buffer.map (Order.stockOf item)).sum +
        Task.owned item _ = s.counter item + s.buffered item + 0
      rw [owned_settle, taken]
      omega
  | drained =>
      refine .of_quiet sound (.refl _) [.queueDrained] rfl (neutral_singleton rfl rfl)
        fun item => ?_
      simp only [buffered, AdmissionQueue.leaveLine_buffer, AdmissionQueue.joinLine_buffer]
      rfl
  | idle =>
      refine .of_silent sound rfl rfl fun item => ?_
      simp only [buffered, AdmissionQueue.joinLine_buffer]
      rfl

theorem Deed.posting_ledger {call : LedgerCall} {start : Option Nat}
    (deed : Deed s me (.ledger call start) s' turn) (sound : s.Sound) :
    Posting s s' (.ledger call start) turn := by
  cases deed with
  | asleep => exact .of_silent sound rfl rfl fun _ => rfl
  | commitBegun => exact .of_silent sound rfl rfl fun _ => rfl
  | commitCollapsed => exact .of_silent sound rfl rfl fun _ => rfl
  | commitCalled ends =>
      refine .of_quiet sound (Ledger.commit_keeps rfl) [] (List.append_nil _).symm
        neutral_nil fun item => ?_
      obtain ⟨result, rfl⟩ | rfl := ends <;> rfl
  | looked ends =>
      refine .of_silent sound rfl rfl fun item => ?_
      obtain ⟨result, rfl⟩ | rfl := ends <;> rfl
  | updated ends =>
      refine .of_quiet sound (.of_orders_eq (Ledger.update_orders ..)) []
        (List.append_nil _).symm neutral_nil fun item => ?_
      obtain ⟨result, rfl⟩ | rfl := ends <;> rfl

theorem Deed.posting_join (deed : Deed s me .join s' turn) (sound : s.Sound) :
    Posting s s' .join turn := by
  cases deed with
  | asleep => exact .of_silent sound rfl rfl fun _ => rfl
  | joined =>
      refine .of_quiet sound (.refl _) _ rfl ?_ fun _ => rfl
      intro e he
      obtain crashed | stopped := List.mem_append.mp he
      · rw [(List.mem_replicate.mp crashed).2]
        exact ⟨rfl, rfl⟩
      · rw [List.mem_singleton.mp stopped]
        exact ⟨rfl, rfl⟩
  | joining => exact .of_silent sound rfl rfl fun _ => rfl

end Deeds

/-- No step takes more from a counter than it has. Only stock that is there is taken,
and what is put back is positive. -/
theorem Deed.counter_nonneg (deed : Deed s me t s' turn) (own : t.Sound) {item : String}
    (nonneg : 0 ≤ s.counter item) : 0 ≤ s'.counter item := by
  have back {reservations : Reservations} {wanted : String} {quantity : Int32}
      (positive : 0 < quantity.toInt)
      (reply : s.reservations.putBack wanted quantity = (.answer (.ok ()), reservations)) :
      0 ≤ reservations.counter item := by
    rw [counter_putBack reply]
    split <;> omega
  have kept {reservations : Reservations} {wanted : String} {quantity : Int32} {reply : Reply Unit}
      (refused : reply ≠ .answer (.ok ()))
      (eq : s.reservations.putBack wanted quantity = (reply, reservations)) :
      0 ≤ reservations.counter item := by
    rw [Reservations.putBack_of_ne_ok eq refused]
    exact nonneg
  have marks {reservations : Reservations} {key : String} {reply : Reply Bool}
      (eq : s.reservations.mark s.now key = (reply, reservations)) :
      0 ≤ reservations.counter item := by
    rw [counter_mark eq]
    exact nonneg
  have takes {reservations : Reservations} {wanted : String} {quantity : Int32} {reply : Reply Bool}
      (eq : s.reservations.take wanted quantity = (reply, reservations)) :
      0 ≤ reservations.counter item := by
    by_cases taken : reply = .answer (.ok true)
    · subst taken
      have covered := (Reservations.take_eq_ok_true eq).1
      rw [counter_take eq]
      split
      · rename_i same
        subst same
        exact Int.sub_nonneg_of_le covered
      · exact (Int.sub_zero _).symm ▸ nonneg
    · rw [Reservations.take_of_ne_ok_true eq taken]
      exact nonneg
  cases deed with
  | marked reply => exact marks reply
  | duplicate reply => exact marks reply
  | markRefused reply => exact marks reply
  | markOverflowed reply => exact marks reply
  | reserved reply => exact takes reply
  | soldOut reply => exact takes reply
  | takeRefused reply => exact takes reply
  | takeOverflowed reply => exact takes reply
  | released reply => exact back own.1 reply
  | releaseFailed reply => exact kept (by simp) reply
  | releaseOverflowed reply => exact kept (by simp) reply
  | returned reply => exact back own reply
  | returnFailed reply => exact kept (by simp) reply
  | returnOverflowed reply => exact kept (by simp) reply
  | @committed owner => cases owner <;> exact nonneg
  | @restored owner _ _ _ _ _ _ reply => cases owner <;> exact back own.2 reply
  | @restoreFailed owner => cases owner <;> exact nonneg
  | restoreOverflowed _ reply => exact kept (by simp) reply
  | called => cases own
  | _ => exact nonneg

/-- A worker is never lost to an overflow, so that orders go on being received. -/
theorem Deed.worker_ne_crash (deed : Deed s me t s' turn) (sound : s.Sound)
    (found : s.tasks.get? me = some t) (below : s'.ledger.VersionsBelowLimit)
    (worker : t.isWorker = true) : turn ≠ .crash := by
  cases t with
  | settle => exact deed.settle_ne_crash sound found below
  | receive =>
      rintro rfl
      cases deed
  | _ => cases worker

/-- Every step of a pipeline balances. This puts the cases together, one for each kind
of task. -/
theorem Deed.posting (deed : Deed s me t s' turn) (sound : s.Sound)
    (found : s.tasks.get? me = some t) (below : s'.ledger.VersionsBelowLimit) :
    Posting s s' t turn := by
  have own := sound.tasks me t found
  cases t with
  | purchase => exact deed.posting_purchase sound found
  | release => exact deed.posting_release sound found
  | settle => exact deed.posting_settle sound found below
  | receive owner =>
      obtain rfl : owner = .worker := own
      exact deed.posting_receive sound
  | ledger => exact deed.posting_ledger sound
  | join => exact deed.posting_join sound
  | send => cases own
  | reservation => cases own

end FlashSale.Sale
