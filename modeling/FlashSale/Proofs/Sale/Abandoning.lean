import FlashSale.Proofs.Purchase.Course
import FlashSale.Proofs.Reservations.Markers
import FlashSale.Proofs.Sale.Outside
import Mathlib.Logic.Relation

/-!
# Abandoned purchases of a sale

A purchase of a sale goes through its course: a turn in which it does not wait carries out the
call that is out and follows the rule for the reply, and being cancelled is being abandoned.
The counters of the store change as the course says.
-/

namespace FlashSale.Sale

open Purchase (Course Point Step)
open Reservations (mark_sameCounters take_of_ne_ok_true)

variable {s s' : Sale} {me : TaskId} {turn : Turn} {r : PurchaseRequest} {web : Bool} {id : Uuid}
variable {stage : Purchase.Stage} {due : Nat} {c c' : Course}

/-- At the end of a turn the purchase stands at the point. It waits there for a reply,
or it is over. -/
inductive StandsAt (r : PurchaseRequest) (web : Bool) (id : Uuid) : Turn → Point → Prop where
  | again (stage : Purchase.Stage) (due : Nat) :
      StandsAt r web id (.again (.purchase r web id stage due)) stage.point
  | finished (result : Except PurchaseError Uuid) :
      StandsAt r web id (.finish (.purchased r web result)) (.ended result)

/-- The counters have changed as the course of the purchase says. Of the calls of a
purchase, one at most changes them in a turn. -/
inductive Accords (r : PurchaseRequest) (s s' : Sale) (c c' : Course) : Prop where
  | same (counters : s'.reservations.counters = s.reservations.counters)
      (taken : c'.taken = c.taken) (putBack : c'.putBack = c.putBack)
  | took (reply : s.reservations.take r.itemId r.quantity = (.answer (.ok true), s'.reservations))
      (taken : c'.taken = c.taken ++ [r.goods]) (putBack : c'.putBack = c.putBack)
  | gaveBack (result : Except StoreError Unit)
      (reply : s.reservations.putBack r.itemId r.quantity = (.answer result, s'.reservations))
      (taken : c'.taken = c.taken) (putBack : c'.putBack = c.putBack ++ [(r.goods, result)])

section Calls

variable (reply : Except StoreError Bool)

theorem course_mark (here : c.point = .marking .out) (live : c.abandoned = false) :
    Relation.ReflTransGen (Step r id) c
      (Course.follow { c with point := .marking (.carriedOut reply) } (Purchase.marked r reply)) :=
  .tail (.single (.mark reply here)) (.marked rfl live)

theorem course_takeNone (here : c.point = .reserving .out) (live : c.abandoned = false)
    (other : reply ≠ .ok true) (now : Timestamp) :
    Relation.ReflTransGen (Step r id) c (Course.follow
      { c with point := .reserving (.carriedOut reply) } (Purchase.reserved r id now reply)) :=
  .tail (.single (.takeNone here other)) (.reserved now rfl live)

theorem course_take (here : c.point = .reserving .out) (live : c.abandoned = false)
    (now : Timestamp) : Relation.ReflTransGen (Step r id) c (Course.follow
      { c with point := .reserving (.carriedOut (.ok true)), taken := c.taken ++ [r.goods] }
      (Purchase.reserved r id now (.ok true))) :=
  .tail (.single (.take here)) (.reserved now rfl live)

theorem course_putBack {order : Order} (result : Except StoreError Unit)
    (here : c.point = .releasing order .out) (live : c.abandoned = false) :
    Relation.ReflTransGen (Step r id) c (Course.follow
      { c with
        point := .releasing order (.carriedOut result)
        putBack := c.putBack ++ [(r.goods, result)] } (Purchase.released r result)) :=
  .tail (.single (.putBack result here)) (.released rfl live)

theorem counters_of_mark {now : Nat} {key : String} {answer : Reply Bool}
    {reservations reservations' : Reservations}
    (marks : reservations.mark now key = (answer, reservations')) :
    reservations'.counters = reservations.counters := by
  have same := (mark_sameCounters reservations now key).counters
  rwa [marks] at same

end Calls

/-- A turn of a purchase is a part of its course. A turn in which it waits is none, and
a crash is left out, as the course knows no overflow. -/
theorem Deed.course (deed : Deed s me (.purchase r web id stage due) s' turn)
    (here : c.point = stage.point) (live : c.abandoned = false) :
    (∃ time, turn = .wait time ∧ s'.reservations = s.reservations) ∨ turn = .crash ∨
      ∃ c', Relation.ReflTransGen (Step r id) c c' ∧ c'.abandoned = false ∧
        StandsAt r web id turn c'.point ∧ Accords r s s' c c' := by
  cases deed with
  | asleep t later => exact .inl ⟨_, rfl, rfl⟩
  | inLine line => exact .inl ⟨_, rfl, rfl⟩
  | markOverflowed reply => exact .inr (.inl rfl)
  | takeOverflowed reply => exact .inr (.inl rfl)
  | releaseOverflowed reply => exact .inr (.inl rfl)
  | turnedAway unfit =>
      refine .inr (.inr ⟨_, .single (.enter here live), live, ?_, .same rfl rfl rfl⟩)
      simp only [Course.follow, Purchase.entered, if_pos unfit]
      exact .finished _
  | entered fit =>
      refine .inr (.inr ⟨_, .single (.enter here live), live, ?_, .same rfl rfl rfl⟩)
      simp only [Course.follow, Purchase.entered, if_neg fit]
      exact .again .marking _
  | marked reply =>
      exact .inr (.inr ⟨_, course_mark (.ok true) here live, live, .again .reserving _,
        .same (counters_of_mark reply) rfl rfl⟩)
  | duplicate reply =>
      exact .inr (.inr ⟨_, course_mark (.ok false) here live, live, .finished _,
        .same (counters_of_mark reply) rfl rfl⟩)
  | @markRefused _ _ _ _ _ e reply =>
      exact .inr (.inr ⟨_, course_mark (.error e) here live, live, .finished _,
        .same (counters_of_mark reply) rfl rfl⟩)
  | reserved reply =>
      exact .inr (.inr ⟨_, course_take here live s.clock, live, .again (.admitting _) _,
        .took reply rfl rfl⟩)
  | soldOut reply =>
      have same := congrArg Reservations.counters (take_of_ne_ok_true reply (by simp))
      exact .inr (.inr ⟨_, course_takeNone (.ok false) here live (by simp) s.clock, live,
        .finished _, .same same rfl rfl⟩)
  | @takeRefused _ _ _ _ _ e reply =>
      have same := congrArg Reservations.counters (take_of_ne_ok_true reply (by simp))
      exact .inr (.inr ⟨_, course_takeNone (.error e) here live (by simp) s.clock, live,
        .finished _, .same same rfl rfl⟩)
  | admitted slot =>
      exact .inr (.inr ⟨_, .single (.admitted here live), live, .finished _, .same rfl rfl rfl⟩)
  | refused isClosed =>
      exact .inr (.inr ⟨_, .single (.refused here live), live, .again (.releasing _) _,
        .same rfl rfl rfl⟩)
  | released reply =>
      exact .inr (.inr ⟨_, course_putBack (.ok ()) here live, live, .finished _,
        .gaveBack (.ok ()) reply rfl rfl⟩)
  | @releaseFailed _ _ _ _ _ _ e reply =>
      exact .inr (.inr ⟨_, course_putBack (.error e) here live, live, .finished _,
        .gaveBack (.error e) reply rfl rfl⟩)

theorem stage_point (stage : Purchase.Stage) : stage.point.stage? = some stage := by
  cases stage <;> rfl

/-- A purchase of a sale that is cancelled is abandoned: a task is started for what it
holds. If it holds nothing, it is only gone. -/
theorem cancel_course (found : s.tasks.get? me = some (.purchase r web id stage due))
    (here : c.point = stage.point) :
    (stage.held? = none ∧ c.abandon.owed = c.owed ∧ (s.cancel me).tasks = s.tasks.erase me) ∨
      ∃ order due', stage.held? = some order ∧ c.abandon.owed = c.owed ++ [order.goods] ∧
        (s.cancel me).tasks = (s.tasks.erase me).insert s.nextTask
          (.release order.itemId order.quantity due') := by
  have dropped := drop_dropped found releaseLater
  change Dropped s me releaseLater _ (s.cancel me) at dropped
  have stands : c.point.stage? = some stage := by rw [here, stage_point]
  generalize s.cancel me = s' at dropped ⊢
  cases dropped with
  | gone free after =>
      have none : stage.held? = none := by
        cases stage with
        | admitting order => exact (free _ _ _ _ _ rfl).elim
        | _ => rfl
      exact .inl ⟨none, by simp [Course.abandon, stands, none], rfl⟩
  | @unbought _ _ _ order _ _ _ =>
      exact .inr ⟨order, _, rfl, by simp [Course.abandon, stands, Purchase.Stage.held?], rfl⟩

/-- A shop that is closed and has ten of tea. Its store takes a while to put stock back. -/
def closedShop : Sale :=
  let reservations : Reservations := { ttl := 1000, counters := Table.empty.insert "tea" 10 }
  let shop : Sale := { reservations, queue := .ofCapacity 1, latency := { putBack := 100 } }
  shop.close.spawn (.purchase ⟨"r1", "ann", "tea", 2⟩ false ⟨1⟩ .entering 0)

/-- The purchase is refused by the queue, begins to put its stock back, and is cancelled. -/
def cancelledRelease : List Action :=
  [.turn 0, .turn 0, .turn 0, .turn 0, .turn 0, .cancel 0, .elapse 1000]

/-- Nobody is left who might put the stock back. -/
theorem cancelledRelease_short :
    closedShop.reservations.stock? "tea" = some 10 ∧
      ((closedShop.after cancelledRelease).tasks.entries = [] ∧
        (closedShop.after cancelledRelease).queue.buffer = [] ∧
        (closedShop.after cancelledRelease).answers.length = 0) ∧
      (closedShop.after cancelledRelease).reservations.stock? "tea" = some 8 := by
  decide

end FlashSale.Sale
