import FlashSale.Proofs.Sale.Accounting

/-!
# A closed pipeline drains

When a shutdown has returned its statistics, no worker is left and the stream has
ended, so that every accepted order was settled. With distinct identifiers each was
then handed to one worker and attempted once, and the statistics count the accepted
orders by what came of them.
-/

namespace FlashSale.Sale

/-- What is true once a shutdown has returned. Orders are those of accepted purchases,
and each is told from its identifier. -/
structure Drained (s : Sale) (work : List Note) (stats : Tally) : Prop where
  /-- The order of an accepted purchase was handed to one worker, which attempted it once. -/
  once : ∀ purchase ∈ s.accepted, ∃ worker order, order.Fills purchase.1 purchase.2 ∧
    (handings work).filter (fun e => e.2.id = purchase.2) = [(worker, order)] ∧
    (attempts work).filter (fun e => e.2.id = purchase.2) = [(worker, order)]
  /-- The workers reported on the accepted orders, once each, and on no others. -/
  settled : (Event.settledIds s.log).Perm (s.accepted.map Prod.snd)
  persisted : stats.persisted =
    (s.accepted.filter fun purchase => purchase.2 ∈ Event.savedIds s.log).length
  compensated : stats.compensated =
    (s.accepted.filter fun purchase => purchase.2 ∈ Event.restoredIds s.log).length
  compensationFailures : stats.compensationFailures =
    (s.accepted.filter fun purchase => purchase.2 ∈ Event.divergedIds s.log).length
  processed : stats.processed = s.accepted.length
  /-- The ledger has the orders that were persisted, and no others. -/
  stored : ∀ id, (s.ledger.findOrder? id).isSome = true ↔ id ∈ Event.savedIds s.log
  contents : ∀ purchase ∈ s.accepted, ∀ order, s.ledger.findOrder? purchase.2 = some order →
    order.id = purchase.2 ∧ order.userId = purchase.1.userId ∧ order.itemId = purchase.1.itemId ∧
      order.quantity = purchase.1.quantity ∧ order.status = .pending
  owned : ∀ id order, s.ledger.findOrder? id = some order → ∃ r, (r, id) ∈ s.accepted

variable {s : Sale} {work : List Note} {calls : List Uuid}

/-- If keys do not repeat, the entries under the keys of a list are as many as these keys. -/
theorem length_filter_mem {α : Type} {l : List (α × Uuid)} {ids : List Uuid}
    (distinct : (l.map Prod.snd).Nodup) (once : ids.Nodup) (known : ∀ id ∈ ids, id ∈ l.map Prod.snd) :
    (l.filter fun e => e.2 ∈ ids).length = ids.length := by
  have keys : ((l.filter fun e => e.2 ∈ ids).map Prod.snd).Perm ids := by
    refine (List.perm_ext_iff_of_nodup (distinct.sublist (List.filter_sublist.map _)) once).mpr ?_
    intro id
    simp only [List.mem_map, List.mem_filter, decide_eq_true_eq]
    constructor
    · rintro ⟨e, ⟨-, member⟩, rfl⟩
      exact member
    · intro member
      obtain ⟨e, here, rfl⟩ := List.mem_map.mp (known id member)
      exact ⟨e, ⟨here, member⟩, rfl⟩
  rw [← keys.length_eq, List.length_map]

/-- Work on an order that was done once is the only work on it. Counts then tell more
than numbers. -/
theorem work_eq_singleton {work : List (TaskId × Order)} {id : Uuid}
    (once : (idsOf work).count id = 1) :
    ∃ e ∈ work, e.2.id = id ∧ work.filter (fun e => e.2.id = id) = [e] := by
  have length : (work.filter fun e => e.2.id = id).length = 1 := by
    rw [← List.countP_eq_length_filter, ← once, idsOf, List.count, List.countP_map]
    refine List.countP_congr fun e _ => ?_
    simp
  obtain ⟨e, only⟩ := List.length_eq_one_iff.mp length
  have member : e ∈ work.filter fun e => e.2.id = id := only ▸ List.mem_singleton_self e
  obtain ⟨here, same⟩ := List.mem_filter.mp member
  exact ⟨e, here, by simpa using same, only⟩

theorem Sound.settles_eq_zero (sound : s.Sound) (alone : s.hasWorkers = false) (id : Uuid) :
    s.tasks.sum (Task.settles id) = 0 ∧ s.tasks.sum (Task.commits id) = 0 := by
  have none {me : TaskId} {t : Task} (found : s.tasks.get? me = some t) : t.order? = none := by
    cases t with
    | settle owner =>
        obtain rfl : owner = .worker := (sound.tasks me _ found).1
        rw [hasWorkers_iff.mpr ⟨me, _, found, rfl⟩] at alone
        cases alone
    | _ => rfl
  constructor
  · exact Table.sum_eq_zero fun me t found => (order?_eq_none (none found) id).1
  · exact Table.sum_eq_zero fun me t found => (order?_eq_none (none found) id).2

/-- Every accepted order was settled, handed out and attempted when the workers are
gone. The buffer is empty then, as the stream has ended. -/
theorem Accounted.drained (account : Accounted s calls work) (sound : s.Sound)
    (alone : s.hasWorkers = false) :
    (Event.settledIds s.log).Perm (s.accepted.map Prod.snd) ∧
      (idsOf (handings work)).Perm (s.accepted.map Prod.snd) ∧
      (idsOf (attempts work)).Perm (s.accepted.map Prod.snd) := by
  have ended : s.queue.ended = true := by
    obtain busy | ended := sound.staffed
    · rw [alone] at busy
      cases busy
    · exact ended
  have buffer := AdmissionQueue.buffer_of_ended ended
  have passed (id : Uuid) :
      (s.accepted.map Prod.snd).count id = (Event.settledIds s.log).count id := by
    have passed := account.passed id
    rw [buffer, (sound.settles_eq_zero alone id).1, List.map_nil, List.count_nil] at passed
    omega
  refine ⟨?_, ?_, ?_⟩ <;> refine List.perm_iff_count.mpr fun id => ?_
  · exact (passed id).symm
  · have handed := account.handed id
    rw [(sound.settles_eq_zero alone id).1] at handed
    have passed := passed id
    omega
  · have attempted := account.attempted id
    rw [(sound.settles_eq_zero alone id).2] at attempted
    have passed := passed id
    omega

variable {reservations : Reservations} {ledger : Ledger} {workers capacity commitLimit : Nat}
  {s₀ : Sale} {actions : List Action} {id : TaskId} {stats : Tally}

/-- When a shutdown has returned, every accepted order was handed out, attempted and
settled once. The statistics tell how many ended in each way. -/
theorem shutdown_drains
    (opened : pipeline? reservations ledger workers capacity commitLimit = some s₀)
    (empty : ledger.orders = ∅) (allowed : Obeys OnlyPurchases s₀ actions)
    (distinct : (Sale.calls actions).Nodup) (reached : s = s₀.after actions)
    (below : s.ledger.VersionsBelowLimit) (returned : (id, Answer.joined stats) ∈ s.answers) :
    Drained s (s₀.history actions) stats := by
  subst reached
  obtain ⟨sound₀, -⟩ := pipeline?_sound opened
  have sound := sound₀.after (allowed.mono fun _ _ ok => ok.1) below
  have account : Accounted (s₀.after actions) (Sale.calls actions) (s₀.history actions) := by
    simpa using (pipeline?_accounted empty opened).after sound₀ allowed below
  generalize s₀.after actions = s at sound account returned ⊢
  generalize s₀.history actions = work at account ⊢
  obtain ⟨alone, rfl⟩ := account.joined id stats returned
  obtain ⟨settled, handed, attempted⟩ := account.drained sound alone
  have unique := account.accepted_nodup distinct
  have same {p q : PurchaseRequest × Uuid} (hp : p ∈ s.accepted) (hq : q ∈ s.accepted)
      (key : p.2 = q.2) : p = q := List.inj_on_of_nodup_map unique hp hq key
  have reports := settledIds_perm s.log
  have apart := reports.nodup_iff.mp (settled.nodup_iff.mpr unique)
  have known {ids : List Uuid} (sub : ∀ id ∈ ids, id ∈ Event.savedIds s.log ++
      Event.restoredIds s.log ++ Event.divergedIds s.log) :
      ∀ id ∈ ids, id ∈ s.accepted.map Prod.snd :=
    fun id member => settled.mem_iff.mp (reports.mem_iff.mpr (sub id member))
  have tallied := account.tallied
  constructor
  case once =>
    intro purchase member
    have key : purchase.2 ∈ s.accepted.map Prod.snd := List.mem_map_of_mem member
    have one := List.count_eq_one_of_mem unique key
    obtain ⟨⟨worker, order⟩, here, ours, only⟩ :=
      work_eq_singleton ((handed.count_eq purchase.2).trans one)
    obtain ⟨attempt, there, ours', only'⟩ :=
      work_eq_singleton ((attempted.count_eq purchase.2).trans one)
    -- The attempt was made on what was handed out, and only one order was.
    have made : attempt = (worker, order) := by
      have among : attempt ∈ (handings work).filter fun e => e.2.id = purchase.2 :=
        List.mem_filter.mpr ⟨account.attempting attempt there, by simpa using ours'⟩
      rw [only] at among
      exact List.mem_singleton.mp among
    obtain ⟨other, accepted, fills⟩ := account.handing _ here
    have mine : other = purchase := by
      refine same accepted member ?_
      obtain ⟨now, rfl⟩ := fills
      exact ours
    subst mine made
    exact ⟨worker, order, fills, only, only'⟩
  case settled => exact settled
  case persisted =>
    rw [tallied.persisted, length_filter_mem unique apart.of_append_left.of_append_left]
    exact known fun id member => by simp [member]
  case compensated =>
    rw [tallied.compensated, length_filter_mem unique apart.of_append_left.of_append_right]
    exact known fun id member => by simp [member]
  case compensationFailures =>
    rw [tallied.compensationFailures, length_filter_mem unique apart.of_append_right]
    exact known fun id member => by simp [member]
  case processed =>
    have length := settled.length_eq
    rw [reports.length_eq, List.length_append, List.length_append, List.length_map] at length
    rw [Tally.processed, tallied.persisted, tallied.compensated, tallied.compensationFailures,
      length]
  case stored => exact account.recorded
  case contents =>
    intro purchase member order found
    obtain ⟨key, other, accepted, now, rfl⟩ := account.ledger purchase.2 order found
    obtain rfl := same accepted member key
    exact ⟨rfl, rfl, rfl, rfl, rfl⟩
  case owned =>
    intro uuid order found
    obtain ⟨same, purchase, member, now, rfl⟩ := account.ledger uuid order found
    exact ⟨purchase.1, same ▸ member⟩

/-- A purchase waits in the queue when the pipeline is shut down; its worker persists it, sees the
end of the stream and leaves. -/
def lateSale : List Action :=
  [.seed "tea" 9, .start (.purchase ⟨"r1", "ann", "tea", 2⟩ false ⟨1⟩ .entering 0), .turn 1,
    .turn 1, .turn 1, .turn 1, .shutdown, .turn 0, .turn 0, .turn 0, .turn 0, .turn 2]

theorem shutdown_drains_lateSale : ∃ s₀ s,
    pipeline? { ttl := 1000, counters := Table.empty.insert "tea" 5 } {} 1 1 5000 = some s₀ ∧
    ({} : Ledger).orders = ∅ ∧ Obeys OnlyPurchases s₀ lateSale ∧ (Sale.calls lateSale).Nodup ∧
    s = s₀.after lateSale ∧ s.ledger.VersionsBelowLimit ∧
    (2, Answer.joined ⟨1, 0, 0⟩) ∈ s.answers ∧
    Drained s (s₀.history lateSale) ⟨1, 0, 0⟩ := by
  have allowed (s₀ : Sale) : Obeys OnlyPurchases s₀ lateSale :=
    ⟨⟨trivial, rfl⟩, ⟨rfl, rfl⟩, ⟨trivial, rfl⟩, ⟨trivial, rfl⟩, ⟨trivial, rfl⟩, ⟨trivial, rfl⟩,
      ⟨trivial, rfl⟩, ⟨trivial, rfl⟩, ⟨trivial, rfl⟩, ⟨trivial, rfl⟩, ⟨trivial, rfl⟩,
      ⟨trivial, rfl⟩, trivial⟩
  have drains (s₀ : Sale)
      (opened : pipeline? { ttl := 1000, counters := Table.empty.insert "tea" 5 } {} 1 1 5000 =
        some s₀)
      (below : (s₀.after lateSale).ledger.VersionsBelowLimit)
      (returned : (2, Answer.joined ⟨1, 0, 0⟩) ∈ (s₀.after lateSale).answers) :=
    shutdown_drains opened rfl (allowed s₀) (by decide) rfl below returned
  have returned : (2, Answer.joined ⟨1, 0, 0⟩) ∈
      [(1, .purchased ⟨"r1", "ann", "tea", 2⟩ false (.ok ⟨1⟩)), (0, .ended),
        (2, Answer.joined ⟨1, 0, 0⟩)] := by simp
  exact ⟨_, _, rfl, rfl, allowed _, by decide, rfl, by decide, returned,
    drains _ rfl (by decide) returned⟩

end FlashSale.Sale
