import FlashSale.Proofs.Sale.Deadline
import FlashSale.Proofs.Settlement.Course
import Mathlib.Logic.Relation

/-!
# Settlements of a sale

A settlement of a sale goes through its course, whatever else goes on. The ledger of a sale carries
a commit out and replies in one turn, so that no limit comes in between, and a commit that was
given up stores nothing. What others store is stored all the same: a settlement does not look
whether its order is there before it puts the stock back.
-/

namespace FlashSale.Sale

open Settlement (Course Point Step Reachable)
open Relation (ReflTransGen)

variable {s s' : Sale} {me : TaskId} {owner : Owner} {order : Order} {due giveUp : Nat}
variable {limit : Duration} {c c' : Course} {actions : List Action}

/-- The course says whether the order is in the ledger; an order that it has stored is
reported. Others may store orders too, which the course knows as done by somebody else.
-/
structure Agrees (s : Sale) (order : Order) (c : Course) : Prop where
  holds : c.Exists ↔ (s.ledger.findOrder? order.id).isSome = true
  prompt : c.stored = true → c.point = .ended .persisted

/-- Where a turn of its task takes the settlement of an order: to another stage, or to
its end with an outcome. -/
inductive Arrives (s s' : Sale) (me : TaskId) (owner : Owner) (order : Order) : Point → Prop where
  | goesOn (stage : Settlement.Stage) (due giveUp : Nat)
      (task : s'.tasks.get? me = some (.settle owner order stage due giveUp)) :
      Arrives s s' me owner order stage.point
  | returns (outcome : Outcome) (told : Returns s s' me order outcome owner) :
      Arrives s s' me owner order (.ended outcome)

/-- A turn of the task is a part of the course, unless the task crashes. -/
def TurnFollows (s s' : Sale) (me : TaskId) (owner : Owner) (order : Order) (c : Course) : Prop :=
  s'.answers = s.answers ++ [(me, .crashed)] ∨ ∃ c', ReflTransGen (Step order s.limit) c c' ∧
    s'.Agrees order c' ∧ Arrives s s' me owner order c'.point

namespace Agrees

theorem not_stored (agrees : s.Agrees order c) (stage : Settlement.Stage)
    (here : c.point = stage.point) : c.stored = false := by
  refine eq_false_of_ne_true fun stored => ?_
  have ended := agrees.prompt stored
  rw [here] at ended
  cases stage <;> cases ended

/-- A settlement that has stored nothing, in a sale whose ledger is as it was. Then the
course may go on as it likes. -/
theorem of_ledger (agrees : s.Agrees order c) (ledger : s'.ledger = s.ledger)
    (notStored : c.stored = false) (stored : c'.stored = c.stored) (taken : c'.taken = c.taken) :
    s'.Agrees order c' where
  holds := by
    rw [ledger, Course.Exists, stored, taken]
    exact agrees.holds
  prompt := by
    rw [stored, notStored]
    exact nofun

/-- An order that has come into the ledger meanwhile was stored by somebody else. The
settlement does not look, and stands where it stood. -/
theorem meanwhile (agrees : s.Agrees order c) (keeps : s.ledger.Keeps s'.ledger)
    (limit : Duration) : ∃ c', ReflTransGen (Step order limit) c c' ∧ s'.Agrees order c' ∧
      c'.point = c.point := by
  by_cases before : (s.ledger.findOrder? order.id).isSome = true
  · obtain ⟨stored, found⟩ := Option.isSome_iff_exists.mp before
    have still : (s'.ledger.findOrder? order.id).isSome = true := by rw [keeps _ _ found]; rfl
    exact ⟨c, .refl, ⟨iff_of_true (agrees.holds.mpr before) still, agrees.prompt⟩, rfl⟩
  have absent : ¬ c.Exists := mt agrees.holds.mp before
  by_cases now : (s'.ledger.findOrder? order.id).isSome = true
  · have notStored : c.stored = false := eq_false_of_ne_true fun stored => absent (.inl stored)
    exact ⟨_, .single (.elsewhere notStored), ⟨iff_of_true (.inr rfl) now, agrees.prompt⟩, rfl⟩
  · exact ⟨c, .refl, ⟨iff_of_false absent now, agrees.prompt⟩, rfl⟩

end Agrees

theorem answers_of_crash {t : Task} (found : s.tasks.get? me = some t)
    (crashes : (s.act me t).2 = .crash) :
    (s.stepTask me).answers = s.answers ++ [(me, .crashed)] := by
  have same := (s.act_deed me t).frame.answers
  have placed := stepTask_placed found
  rw [crashes] at placed
  generalize s.stepTask me = s' at placed ⊢
  cases placed with
  | crash => rw [← same]

theorem opening_follows (agrees : s.Agrees order c)
    (found : s.tasks.get? me = some (.settle owner order .opening due giveUp))
    (here : c.point = .committing .out) : TurnFollows s (s.stepTask me) me owner order c := by
  by_cases faulty : s.faultyItem = some order.itemId
  · exact .inl (answers_of_crash found (by simp [act, stepSettle, faulty]))
  · have turn := turn_of_opening found faulty
    have notStored := agrees.not_stored .opening here
    refine .inr ⟨c, .refl, agrees.of_ledger (by rw [turn]) notStored rfl rfl, ?_⟩
    rw [here, turn]
    exact .goesOn .committing _ _ (Table.get?_insert_self ..)

/-- A commit is carried out only if nobody else has stored an order with the identifier.
So what it stores is its own. -/
theorem course_of_committed {ledger : Ledger} (agrees : s.Agrees order c)
    (found : s.tasks.get? me = some (.settle owner order .committing due giveUp))
    (here : c.point = .committing .out) (inTime : due ≤ s.now)
    (reply : s.ledger.commit s.clock order = (.answer (.ok ()), ledger)) :
    ∃ c', ReflTransGen (Step order s.limit) c c' ∧ (s.stepTask me).Agrees order c' ∧
      Arrives s (s.stepTask me) me owner order c'.point := by
  obtain ⟨same, returns⟩ := turn_of_committed found inTime reply
  obtain ⟨absent, row, left, version, -, -, -, written⟩ := Ledger.commit_eq_ok reply
  have new : c.taken = false := by
    refine eq_false_of_ne_true fun taken => ?_
    have stored := agrees.holds.mp (.inr taken)
    rw [absent] at stored
    cases stored
  have stored : ((s.stepTask me).ledger.findOrder? order.id).isSome = true := by
    rw [same.ledger, written, Ledger.findOrder?, Table.get?_insert_self]
    rfl
  exact ⟨_, .tail (.single (.commit here new)) (.committed rfl),
    ⟨iff_of_true (.inl rfl) stored, fun _ => rfl⟩, .returns .persisted returns⟩

theorem committing_follows (agrees : s.Agrees order c)
    (found : s.tasks.get? me = some (.settle owner order .committing due giveUp))
    (here : c.point = .committing .out) : TurnFollows s (s.stepTask me) me owner order c := by
  have notStored := agrees.not_stored .committing here
  by_cases inTime : due ≤ s.now
  · rcases reply : s.ledger.commit s.clock order with ⟨result | _, ledger⟩
    · cases result with
      | ok => exact .inr (course_of_committed agrees found here inTime reply)
      | error e =>
          obtain rfl := Ledger.commit_eq_error reply
          have turn := turn_of_refused found inTime reply
          refine .inr ⟨_, .tail (.single (.commitRefused e here)) (.committed rfl), ?_, ?_⟩
          · exact agrees.of_ledger (by rw [turn]) notStored rfl rfl
          · rw [turn]
            exact .goesOn (.restoring _) _ _ (Table.get?_insert_self ..)
    · exact .inl (answers_of_crash found (by simp [act, stepSettle, inTime, reply]))
  by_cases ends : giveUp ≤ s.now
  · have turn := turn_of_timeout found (Nat.not_le.mp inTime) ends
    refine .inr ⟨_, .single (.commitExpires here), ?_, ?_⟩
    · exact agrees.of_ledger (by rw [turn]) notStored rfl rfl
    · rw [turn]
      exact .goesOn (.restoring _) _ _ (Table.get?_insert_self ..)
  · have turn := turn_of_waiting found (Nat.not_le.mp inTime) (Nat.not_le.mp ends)
    refine .inr ⟨c, .refl, agrees.of_ledger (by rw [turn]) notStored rfl rfl, ?_⟩
    rw [here, turn]
    exact .goesOn .committing _ _ found

theorem restoring_follows {commit : CommitError} (agrees : s.Agrees order c)
    (found : s.tasks.get? me = some (.settle owner order (.restoring commit) due giveUp))
    (here : c.point = .restoring commit .out) :
    TurnFollows s (s.stepTask me) me owner order c := by
  have notStored := agrees.not_stored (.restoring commit) here
  by_cases inTime : due ≤ s.now
  · rcases reply : s.reservations.putBack order.itemId order.quantity with
      ⟨result | _, reservations⟩
    · have acts : s.act me (.settle owner order (.restoring commit) due giveUp) =
          { s with reservations }.conclude owner order
            (Settlement.restored s.limit order commit (.replied result)) := by
        simp only [act, stepSettle, if_pos inTime, reply]
        rfl
      obtain ⟨same, returns⟩ := turn_of_concluded found acts rfl rfl rfl
      exact .inr ⟨_, .tail (.single (.putBack result here)) (.restored rfl),
        agrees.of_ledger same.ledger notStored rfl rfl, .returns _ returns⟩
    · exact .inl (answers_of_crash found (by simp [act, stepSettle, inTime, reply]))
  by_cases ends : giveUp ≤ s.now
  · have acts : s.act me (.settle owner order (.restoring commit) due giveUp) =
        s.conclude owner order (Settlement.restored s.limit order commit .timedOut) := by
      simp only [act, stepSettle, if_neg inTime, if_pos ends]
    obtain ⟨same, returns⟩ := turn_of_concluded found acts rfl rfl rfl
    exact .inr ⟨_, .single (.restoreExpires here),
      agrees.of_ledger same.ledger notStored rfl rfl, .returns _ returns⟩
  · have turn : s.stepTask me = { s with
        ready := s.ready.erase me, timers := s.timers ++ [(min due giveUp, me)] } := by
      simp only [stepTask, found, act, stepSettle, if_neg inTime, if_neg ends, place]
    refine .inr ⟨c, .refl, agrees.of_ledger (by rw [turn]) notStored rfl rfl, ?_⟩
    rw [here, turn]
    exact .goesOn (.restoring commit) _ _ found

/-- Every turn of the task is a part of the course, whatever its stage. -/
theorem turn_follows {stage : Settlement.Stage} (agrees : s.Agrees order c)
    (found : s.tasks.get? me = some (.settle owner order stage due giveUp))
    (here : c.point = stage.point) : TurnFollows s (s.stepTask me) me owner order c := by
  cases stage with
  | opening => exact opening_follows agrees found here
  | committing => exact committing_follows agrees found here
  | restoring commit => exact restoring_follows agrees found here

/-- The task crashed at one of its turns. -/
def Crashes (s : Sale) (me : TaskId) (actions : List Action) : Prop :=
  ∃ before rest, actions = before ++ .turn me :: rest ∧
    ((s.after before).stepTask me).answers = (s.after before).answers ++ [(me, .crashed)]

/-- Where the settlement of an order stands after some actions. Once it has returned it
stands at its outcome for good. -/
inductive Stands (s : Sale) (me : TaskId) (owner : Owner) (order : Order) (actions : List Action) :
    Point → Prop where
  | settling (stage : Settlement.Stage) (due giveUp : Nat)
      (task : (s.after actions).tasks.get? me = some (.settle owner order stage due giveUp)) :
      Stands s me owner order actions stage.point
  | returned (outcome : Outcome) {before rest} (split : actions = before ++ .turn me :: rest)
      (told : Returns (s.after before) ((s.after before).stepTask me) me order outcome owner) :
      Stands s me owner order actions (.ended outcome)

theorem reachable_of_steps (reached : Reachable order limit c)
    (steps : ReflTransGen (Step order limit) c c') : Reachable order limit c' := by
  induction steps with
  | refl => exact reached
  | tail _ step ih => exact ih.step step

/-- A settlement goes its course, whatever else goes on, until its task crashes. The
induction is on the actions, the turns of the task taking the course on. -/
theorem settlement_follows (named : s.Named)
    (found : s.tasks.get? me = some (.settle owner order .opening due giveUp))
    (new : s.ledger.findOrder? order.id = none) (spared : ∀ a ∈ actions, a.drops? ≠ some me) :
    s.Crashes me actions ∨ ∃ c, Reachable order s.limit c ∧ (s.after actions).Agrees order c ∧
      Stands s me owner order actions c.point := by
  induction actions using List.reverseRecOn with
  | nil =>
      have nothing : s.Agrees order {} :=
        ⟨iff_of_false (by simp [Course.Exists]) (by simp [new]), nofun⟩
      exact .inr ⟨{}, .start, nothing, .settling .opening _ _ found⟩
  | append_singleton done a ih =>
      obtain ⟨before, last⟩ := List.forall_mem_append.mp spared
      have kept : a.drops? ≠ some me := last a (List.mem_singleton.mpr rfl)
      obtain ⟨first, rest, split, crashes⟩ | ⟨c, reached, agrees, stands⟩ := ih before
      · exact .inl ⟨first, rest ++ [a], concat_of_split split a, crashes⟩
      have meanwhile := agrees.meanwhile (perform_keeps _ a) s.limit
      rw [← after_concat] at meanwhile
      generalize here : c.point = p at stands
      cases stands with
      | returned outcome split told =>
          obtain ⟨c', steps, agrees, same⟩ := meanwhile
          refine .inr ⟨c', reachable_of_steps reached steps, agrees, ?_⟩
          rw [same, here]
          exact .returned outcome (concat_of_split split a) told
      | settling stage due giveUp task =>
          by_cases own : a = .turn me
          · subst own
            have follows := turn_follows agrees task here
            rw [TurnFollows, s.after_limit] at follows
            obtain crashes | ⟨c', steps, agrees, arrives⟩ := follows
            · exact .inl ⟨done, [], rfl, crashes⟩
            refine .inr ⟨c', reachable_of_steps reached steps, ?_, ?_⟩
            · rw [after_concat]
              exact agrees
            generalize c'.point = p' at arrives ⊢
            cases arrives with
            | goesOn stage due giveUp task =>
                exact .settling stage due giveUp (by rw [after_concat]; exact task)
            | returns outcome told => exact .returned outcome rfl told
          · obtain ⟨c', steps, agrees, same⟩ := meanwhile
            have known := (named.after done).2
            refine .inr ⟨c', reachable_of_steps reached steps, agrees, ?_⟩
            rw [same, here]
            have bides := perform_bides (Nat.lt_of_lt_of_le (named me _ found) known) own kept
            exact .settling stage due giveUp (by rw [after_concat]; exact bides.task.trans task)

/-- A shop that is to settle an order whose commit is kept waiting for longer than the limit. -/
def stalledShop : Sale :=
  let reservations : Reservations := { ttl := 1000, counters := Table.empty.insert "tea" 4 }
  let ledger : Ledger :=
    { inventory := Table.empty.insert "tea" (.fresh "tea" 5 (.ofMillis 0)), commitDelay := 100 }
  let shop : Sale := { reservations, ledger, queue := .ofCapacity 1, commitLimit := 10 }
  shop.spawn (.settle .caller (parcel ⟨1⟩) .opening 0 0)

/-- Somebody else commits the order before the limit comes. -/
def storedMeanwhile : List Action :=
  [.turn 0, .turn 0, .commitDelay 0, .start (.ledger (.commit (parcel ⟨1⟩)) none), .turn 1,
    .turn 1, .elapse 10, .turn 0, .turn 0]

/-- The order is stored when the limit comes, and its stock is put back. -/
theorem storedMeanwhile_compensated :
    (stalledShop.ledger.findOrder? ⟨1⟩ = none ∧
      stalledShop.reservations.stock? "tea" = some 4) ∧
    (stalledShop.after storedMeanwhile).answers = [(1, .unit (.ok ())),
      (0, .settled (parcel ⟨1⟩) (.compensated (.timeout (.ofMillis 10))))] ∧
    ((stalledShop.after storedMeanwhile).ledger.findOrder? ⟨1⟩ = some (parcel ⟨1⟩) ∧
      (stalledShop.after storedMeanwhile).reservations.stock? "tea" = some 5) :=
  ⟨by decide, rfl, by decide⟩

end FlashSale.Sale
