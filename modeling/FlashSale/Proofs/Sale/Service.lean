import FlashSale.Proofs.Sale.Pipeline

/-!
# Workers stay at their work

A worker goes from receiving to settling and back, and it leaves only when the stream
has ended. Nothing that a task does reopens a stream that has ended. So the orders of
a pipeline are never without a worker, which is the part of soundness that is not
about stock.

Overflows are not considered here: a deed that meets one is ruled out by its posting.
-/

namespace FlashSale.Sale

open AdmissionQueue

/-- How a step leaves the workers and the stream. It says nothing of stock, so that
neither follows from the other. -/
structure Service (s s' : Sale) (t : Task) (turn : Turn) : Prop where
  next : ∀ t', turn = .again t' → t'.Sound ∧ t'.isWorker = t.isWorker
  buffer : ∀ order ∈ s'.queue.buffer, 0 < order.quantity.toInt
  ended : s.queue.ended = true → s'.queue.ended = true
  leaving : t.isWorker = true → ∀ a, turn = .finish a → s'.queue.ended = true

variable {s s' : Sale} {me : TaskId} {t : Task} {turn : Turn}

/-- A step that leaves the queue alone and after which its task goes on, as a worker if
it was one. -/
theorem Service.of_again {t' : Task} (sound : s.Sound) (queue : s'.queue = s.queue)
    (next : t'.Sound) (worker : t'.isWorker = t.isWorker) : Service s s' t (.again t') where
  next := by
    rintro _ ⟨⟩
    exact ⟨next, worker⟩
  buffer := queue ▸ sound.buffer
  ended := queue ▸ id
  leaving := by
    rintro _ _ ⟨⟩

/-- A step that leaves the queue alone and after which its task, no worker, may be over. -/
theorem Service.of_other (sound : s.Sound) (queue : s'.queue = s.queue)
    (ends : ∀ t', turn ≠ .again t') (other : t.isWorker = false) : Service s s' t turn where
  next t' goes := absurd goes (ends t')
  buffer := queue ▸ sound.buffer
  ended := queue ▸ id
  leaving worker := by
    rw [other] at worker
    cases worker

/-- A step that leaves the queue alone and after which its task waits or has crashed. -/
theorem Service.of_stopped (sound : s.Sound) (queue : s'.queue = s.queue)
    (ends : ∀ t', turn ≠ .again t') (stays : ∀ a, turn ≠ .finish a) : Service s s' t turn where
  next t' goes := absurd goes (ends t')
  buffer := queue ▸ sound.buffer
  ended := queue ▸ id
  leaving _ a ends := absurd ends (stays a)

section Deeds

variable {r : PurchaseRequest} {web : Bool} {id : Uuid} {due giveUp : Nat}

/-- A purchase keeps the queue in service: it puts in only orders for positive
quantities. -/
theorem Deed.service_purchase {stage : Purchase.Stage}
    (deed : Deed s me (.purchase r web id stage due) s' turn) (sound : s.Sound)
    (own : Task.Sound (.purchase r web id stage due)) :
    Service s s' (.purchase r web id stage due) turn := by
  cases deed with
  | entered fit =>
      have positive : 0 < r.quantity.toInt := by
        rw [Int32.le_iff_toInt_le] at fit
        exact Int.lt_of_not_ge fit
      exact .of_again sound rfl positive rfl
  | marked => exact .of_again sound rfl own rfl
  | reserved => exact .of_again sound rfl ⟨own, _, rfl⟩ rfl
  | refused => exact .of_again sound rfl own rfl
  | @admitted _ _ _ order _ queue _ slot =>
      obtain ⟨positive, now, rfl⟩ := own
      refine ⟨by simp, fun order member => ?_, fun ends => ?_, fun worker => nomatch worker⟩
      · rw [put_buffer, slot.buffer] at member
        obtain old | new := List.mem_append.mp member
        · exact sound.buffer order old
        · rw [List.mem_singleton.mp new]
          exact positive
      · rw [slot.not_ended] at ends
        cases ends
  | inLine line =>
      refine ⟨by simp, ?_, fun ends => ?_, by simp⟩
      · rw [line.buffer]
        exact sound.buffer
      · rw [line.not_ended] at ends
        cases ends
  | _ => exact .of_other sound rfl (by simp) rfl

theorem Deed.service_settle {order : Order} {stage : Settlement.Stage}
    (deed : Deed s me (.settle .worker order stage due giveUp) s' turn) (sound : s.Sound)
    (own : Task.Sound (.settle .worker order stage due giveUp)) :
    Service s s' (.settle .worker order stage due giveUp) turn := by
  cases deed with
  | begun => exact .of_again sound rfl own rfl
  | committed => exact .of_again sound rfl rfl rfl
  | commitRefused => exact .of_again sound rfl own rfl
  | commitTimedOut => exact .of_again sound rfl own rfl
  | restored => exact .of_again sound rfl rfl rfl
  | restoreFailed => exact .of_again sound rfl rfl rfl
  | _ => exact .of_stopped sound rfl (by simp) (by simp)

theorem Deed.service_receive (deed : Deed s me (.receive .worker) s' turn) (sound : s.Sound) :
    Service s s' (.receive .worker) turn := by
  cases deed with
  | asleep => exact .of_stopped sound rfl (by simp) (by simp)
  | @handed order queue _ _ popped =>
      have buffer := buffer_of_pop? popped
      rw [joinLine_buffer] at buffer
      refine ⟨?_, fun other member => ?_, fun ends => ?_, by simp⟩
      · rintro _ ⟨⟩
        exact ⟨⟨rfl, sound.buffer order (by simp [buffer])⟩, rfl⟩
      · exact sound.buffer other (by simpa [buffer, uncount] using Or.inr member)
      · rw [buffer_of_ended ends] at buffer
        cases buffer
  | drained ends =>
      exact ⟨by simp, by simpa using sound.buffer, by simp, fun _ _ _ => by simpa using ends⟩
  | idle => exact ⟨by simp, by simpa using sound.buffer, by simp, by simp⟩

theorem Deed.service_ledger {call : LedgerCall} {start : Option Nat}
    (deed : Deed s me (.ledger call start) s' turn) (sound : s.Sound) :
    Service s s' (.ledger call start) turn := by
  cases deed with
  | commitBegun => exact .of_again sound rfl trivial rfl
  | commitCalled ends =>
      refine .of_other sound rfl ?_ rfl
      obtain ⟨result, rfl⟩ | rfl := ends <;> simp
  | looked ends =>
      refine .of_other sound rfl ?_ rfl
      obtain ⟨result, rfl⟩ | rfl := ends <;> simp
  | updated ends =>
      refine .of_other sound rfl ?_ rfl
      obtain ⟨result, rfl⟩ | rfl := ends <;> simp
  | _ => exact .of_other sound rfl (by simp) rfl

end Deeds

/-- No step of a pipeline reopens its stream, and no worker leaves before the stream
ends. This puts the cases together. -/
theorem Deed.service (deed : Deed s me t s' turn) (sound : s.Sound)
    (found : s.tasks.get? me = some t) : Service s s' t turn := by
  have own := sound.tasks me t found
  cases t with
  | purchase => exact deed.service_purchase sound own
  | settle owner order stage due giveUp =>
      obtain rfl : owner = .worker := own.1
      exact deed.service_settle sound own
  | receive owner =>
      obtain rfl : owner = .worker := own
      exact deed.service_receive sound
  | ledger => exact deed.service_ledger sound
  | release => cases deed <;> exact .of_other sound rfl (by simp) rfl
  | join => cases deed <;> exact .of_other sound rfl (by simp) rfl
  | send => cases own
  | reservation => cases own

end FlashSale.Sale
