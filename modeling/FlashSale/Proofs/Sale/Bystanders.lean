import FlashSale.Proofs.Sale.Attendance
import FlashSale.Proofs.Sale.Lasting

/-!
# Tasks that wait their turn

A task that neither takes its turn nor is dropped is where it was, whatever happens around it.
If it was ready it is ready, and a timer that it has set stays set until its time comes, when
the task is ready. This holds of every action, one that deserts the queue included.
-/

namespace FlashSale.Sale

variable {s s' s'' : Sale} {a : Action} {me id : TaskId} {t : Task}

/-- A task bides its time. Either the timer that it has set is still ahead, or its time
has come and the task is ready. -/
structure Bides (s s' : Sale) (me : TaskId) : Prop where
  now : s.now ≤ s'.now
  task : s'.tasks.get? me = s.tasks.get? me
  ready : me ∈ s.ready → me ∈ s'.ready
  timer : ∀ time, s.now < time → (time, me) ∈ s.timers →
    (s'.now < time ∧ (time, me) ∈ s'.timers) ∨ (time ≤ s'.now ∧ me ∈ s'.ready)

namespace Bides

theorem of_eq (now : s'.now = s.now) (task : s'.tasks.get? me = s.tasks.get? me)
    (ready : me ∈ s.ready → me ∈ s'.ready) (timers : s'.timers = s.timers) : Bides s s' me where
  now := now.ge
  task := task
  ready := ready
  timer _ later member := .inl ⟨now ▸ later, timers ▸ member⟩

theorem refl (s : Sale) (me : TaskId) : Bides s s me := of_eq rfl rfl id rfl

theorem trans (first : Bides s s' me) (second : Bides s' s'' me) : Bides s s'' me where
  now := first.now.trans second.now
  task := second.task.trans first.task
  ready := second.ready ∘ first.ready
  timer time later member := by
    obtain ⟨later, still⟩ | ⟨come, ready⟩ := first.timer time later member
    · exact second.timer time later still
    · exact .inr ⟨come.trans second.now, second.ready ready⟩

end Bides

theorem wake_bides (s : Sale) (queue : AdmissionQueue) (ids : List TaskId) (me : TaskId) :
    Bides s (wake { s with queue } ids) me :=
  .of_eq rfl rfl (List.mem_append_left _) rfl

theorem emit_bides (s : Sale) (events : List Event) (me : TaskId) : Bides s (s.emit events) me :=
  .of_eq rfl rfl (fun ready => ready) rfl

theorem spawn_bides (t : Task) (known : me < s.nextTask) : Bides s (s.spawn t) me :=
  .of_eq rfl (Table.get?_insert_of_ne (Nat.ne_of_lt known)) (List.mem_append_left _) rfl

theorem retire_bides (t : Task) (other : me ≠ id) : Bides s (s.retire id t) me := by
  have retired := s.retire_retired id t
  generalize s.retire id t = s' at retired ⊢
  cases retired with
  | intro =>
      refine ⟨Nat.le_refl _, Table.get?_erase_of_ne other, fun ready => ?_,
        fun _ later timer => .inl ⟨later, ?_⟩⟩
      · exact List.mem_append_left _ ((List.mem_erase_of_ne other).mpr ready)
      · exact List.mem_filter.mpr ⟨timer, by simpa using other⟩

theorem place_bides (t : Task) (turn : Turn) (other : me ≠ id) :
    Bides s (s.place id t turn) me := by
  cases turn with
  | again t' => exact .of_eq rfl (Table.get?_insert_of_ne other) (fun ready => ready) rfl
  | wait time =>
      have ready : me ∈ s.ready → me ∈ s.ready.erase id := (List.mem_erase_of_ne other).mpr
      cases time with
      | none => exact .of_eq rfl rfl ready rfl
      | some time =>
          exact ⟨Nat.le_refl _, rfl, ready,
            fun _ later timer => .inl ⟨later, List.mem_append_left _ timer⟩⟩
  | finish a =>
      have rest := retire_bides (s := s) t other
      exact ⟨rest.now, rest.task, rest.ready, rest.timer⟩
  | crash =>
      have rest := retire_bides (s := s) t other
      exact ⟨rest.now, rest.task, rest.ready, rest.timer⟩

/-- The turn of another task is bided: it may wake the task, but nothing else. -/
theorem stepTask_bides (other : me ≠ id) : Bides s (s.stepTask id) me := by
  cases found : s.tasks.get? id with
  | none =>
      rw [stepTask_of_get?_eq_none found]
      exact .of_eq rfl rfl (List.mem_erase_of_ne other).mpr rfl
  | some t =>
      have deed := s.act_deed id t
      have call := s.act_call id t
      simp only [stepTask, found]
      have acted : Bides s (s.act id t).1 me :=
        .of_eq deed.frame.now (by rw [deed.frame.tasks]) call.still_ready deed.timers
      exact acted.trans (place_bides t _ other)

/-- As time passes, the timers of the task that are due make it ready, and the others
stay set. -/
theorem fire_bides {time : Nat} (later : s.now ≤ time) : Bides s (s.fire time) me := by
  rw [fire_eq_wake]
  refine ⟨later, rfl, fun ready => mem_ready_wake.mpr (.inl ready), fun moment _ timer => ?_⟩
  by_cases due : moment ≤ time
  · refine .inr ⟨due, mem_ready_wake.mpr (.inr (List.mem_map.mpr ⟨(moment, me), ?_, rfl⟩))⟩
    exact List.mem_filter.mpr ⟨timer, by simpa using due⟩
  · exact .inl ⟨Nat.lt_of_not_le due, List.mem_filter.mpr ⟨timer, by simpa using due⟩⟩

/-- Another task may be dropped, and may leave one behind under a new name. -/
theorem drop_bides {leave : Sale → Order → Sale} (other : me ≠ id) (known : me < s.nextTask)
    (leaves : ∀ s order, me < s.nextTask → Bides s (leave s order) me) :
    Bides s (s.drop id leave) me := by
  cases found : s.tasks.get? id with
  | none =>
      rw [drop_of_get?_eq_none found]
      exact .refl s me
  | some t =>
      have gone (t : Task) : Bides s (s.retire id t) me := retire_bides t other
      have withdrawn (t : Task) : Bides s ((s.retire id t).withdraw id) me :=
        (gone t).trans (wake_bides (s.retire id t) _ _ me)
      simp only [drop, found]
      cases t with
      | purchase r web uuid stage due =>
          cases stage with
          | admitting order =>
              refine (withdrawn _).trans (leaves _ order ?_)
              obtain ⟨queue, ready, timers, -, eq⟩ :=
                s.retire_eq id (.purchase r web uuid (.admitting order) due)
              rw [eq]
              exact known
          | _ => exact gone _
      | send order => exact withdrawn _
      | receive owner =>
          have left : Bides s (s.leaveLine id) me := wake_bides s _ _ me
          exact left.trans (retire_bides _ other)
      | _ => exact gone _

theorem spawns_bides (t : Task) (known : me < s.nextTask) (count : Nat) :
    Bides s ((List.range count).foldl (fun s _ => s.spawn t) s) me := by
  induction count with
  | zero => exact .refl s me
  | succ count ih =>
      obtain ⟨tasks, ready, eq, -⟩ := s.spawns_eq t count
      rw [List.range_succ, List.foldl_append]
      refine ih.trans (spawn_bides t ?_)
      rw [eq]
      exact Nat.lt_of_lt_of_le known (Nat.le_add_right ..)

/-- Whatever others do, a task that is named bides its time. Its own turn is left out,
and that it is dropped. -/
theorem perform_bides (known : me < s.nextTask) (own : a ≠ .turn me) (spared : a.drops? ≠ some me) :
    Bides s (s.perform a) me := by
  cases a with
  | turn id => exact stepTask_bides fun same => own (congrArg _ same.symm)
  | elapse ms => exact fire_bides (Nat.le_add_right ..)
  | start t => exact spawn_bides t known
  | cancel id =>
      refine drop_bides (fun same => spared (congrArg some same.symm)) known fun s order known => ?_
      exact (emit_bides s _ me).trans (spawn_bides _ known)
  | abandon id =>
      refine drop_bides (fun same => spared (congrArg some same.symm)) known fun s order _ => ?_
      exact emit_bides s _ me
  | close => exact wake_bides s _ _ me
  | shutdown =>
      have closed (s : Sale) : Bides s s.close me := wake_bides s _ _ me
      exact ((emit_bides s _ me).trans (closed _)).trans (spawn_bides .join known)
  | startWorkers workers =>
      have started := spawns_bides (s := s) (.receive .worker) known (max workers 1)
      exact ⟨started.now, started.task, started.ready, started.timer⟩
  | dropReceiver =>
      change Bides s s.dropReceiver me
      unfold dropReceiver desertIfAlone
      split
      · exact .of_eq rfl rfl (fun ready => ready) rfl
      · have left := wake_bides s s.queue.desert.1 s.queue.desert.2 me
        exact ⟨left.now, left.task, left.ready, left.timer⟩
  | _ => exact .of_eq rfl rfl (fun ready => ready) rfl

/-- Only the clock that moves shows another time. So all that happens between two moves
of it happens at one moment. -/
theorem perform_now (still : ∀ ms, a ≠ .elapse ms) : (s.perform a).now = s.now := by
  cases a with
  | turn id =>
      change (s.stepTask id).now = s.now
      cases found : s.tasks.get? id with
      | none => rw [stepTask_of_get?_eq_none found]
      | some t =>
          obtain ⟨s', turn, deed, placed⟩ := stepTask_cases found
          exact placed.now.trans deed.frame.now
  | elapse ms => exact absurd rfl (still ms)
  | cancel id => exact (s.cancel_calls id).now
  | abandon id => exact (s.abandon_calls id).now
  | startWorkers workers =>
      obtain ⟨tasks, ready, eq, -⟩ := s.startWorkers_eq workers
      rw [perform, eq]
  | dropReceiver =>
      obtain ⟨queue, ready, -, eq⟩ := s.dropReceiver_eq
      rw [perform, eq]
  | _ => rfl

end FlashSale.Sale
