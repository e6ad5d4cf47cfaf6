import FlashSale.Proofs.AdmissionQueue.Depth
import FlashSale.Proofs.Sale.Exchange
import Mathlib.Logic.Relation

/-!
# The crowd of a sale

In a sale of sends and receives nobody is interrupted. A send that has a slot counts its order
and puts it in before anybody else has a turn, and a receive does all that it has to do with an
order. Between two actions there are only those who stand in line, `InLines`, and an action is a
path of the crowd's steps from the ones to the others. Hence what holds of every crowd that can
be reached holds of the queue of a sale.
-/

namespace FlashSale

open Relation (ReflTransGen)

namespace AdmissionQueue

variable {q : AdmissionQueue} {id me : TaskId} {order : Order} {woken : List TaskId}

theorem withdraw_of_outside (outside : id ∉ q.buyers) : (q.withdraw id).1 = q := by
  have ungiven : id ∉ q.granted := fun given => outside (mem_buyers.mpr (.inl given))
  have gone : id ∉ q.waiting := fun standing => outside (mem_buyers.mpr (.inr standing))
  rw [withdraw, if_neg ungiven, List.erase_of_not_mem gone]

theorem leaveLine_of_outside (outside : id ∉ q.receivers) : (q.leaveLine id).1 = q := by
  rw [leaveLine, List.erase_of_not_mem outside]

namespace Crowd

variable {c c' : Crowd} {capacity : Nat}

/-- A sender that has a slot does the rest, with nobody in between: it counts its order
and puts it in. -/
theorem path_put (here : c.errands.get? me = some (.counting order)) :
    ReflTransGen Step c (c.finish me (c.queue.put order)) := by
  have counts : Step c (c.follow me (.putting order) c.queue.count) := .count me here
  have pushes := Step.push me (follow_errand c me (.putting order) c.queue.count)
  rw [follow_finish] at pushes
  exact .tail (.single counts) pushes

/-- A sender in line that was given a slot takes it and does the rest. -/
theorem path_given (here : c.errands.get? me = some (.standing order)) (given : me ∈ c.queue.granted) :
    ReflTransGen Step c (c.finish me ((c.queue.claim me).put order)) := by
  have claims : Step c (c.follow me (.counting order) (c.queue.claim me)) := .claim me here given
  have puts := path_put (follow_errand c me (.counting order) (c.queue.claim me))
  rw [follow_finish] at puts
  exact .head claims puts

section Newcomer

variable (idle : c.errands.get? me = none) (isOpen : c.queue.isClosed = false)

include idle isOpen in
/-- A sender that comes while a slot is free gets its order in without standing in line.
-/
theorem path_free {slots : Nat} (free : c.queue.slots = slots + 1) (order : Order) :
    ReflTransGen Step c (c.finish me (put { c.queue with slots } order)) := by
  have reply : c.queue.ask me = (.granted, { c.queue with slots }) := by
    rw [ask_of_open isOpen]
    simp [request, isOpen, free]
  have enters : Step c (c.follow me (.entering order) c.queue) := .enter me order idle isOpen
  have granted := Step.granted me (follow_errand c me (.entering order) c.queue) reply
  have puts := path_put (follow_errand c me (.counting order) { c.queue with slots })
  rw [follow_follow] at granted
  rw [follow_finish] at puts
  exact .head enters (.head granted puts)

include idle isOpen in
theorem path_full (full : c.queue.slots = 0) (order : Order) :
    ReflTransGen Step c
      (c.follow me (.standing order) { c.queue with waiting := c.queue.waiting ++ [me] }) := by
  have reply : c.queue.ask me =
      (.waiting, { c.queue with waiting := c.queue.waiting ++ [me] }) := by
    rw [ask_of_open isOpen]
    simp [request, isOpen, full]
  have enters : Step c (c.follow me (.entering order) c.queue) := .enter me order idle isOpen
  have stands := Step.stand me (follow_errand c me (.entering order) c.queue) reply
  rw [follow_follow] at stands
  exact .tail (.single enters) stands

end Newcomer

/-- A receiver whose turn it is does all that it has to do with an order, down to the
count and its place in line. -/
theorem path_take (here : c.errands.get? me = some .receiving)
    (first : c.queue.receivers.head? = some me) (popped : c.queue.pop? = some (order, q, woken)) :
    ReflTransGen Step c (c.finish me (q.uncount.leaveLine me).1) := by
  have takes : Step c (c.follow me (.leaving order) q) := .take me here first popped
  have leaves := Step.leave me (follow_errand c me (.leaving order) q)
  have uncounts := Step.uncount me (follow_errand c me (.discounting order) (q.leaveLine me).1)
  rw [follow_follow] at leaves
  rw [follow_finish] at uncounts
  exact .tail (.tail (.single takes) leaves) uncounts

theorem Reachable.after_path (reached : Reachable capacity c) (path : ReflTransGen Step c c') :
    Reachable capacity c' := by
  induction path with
  | refl => exact reached
  | tail _ step ih => exact ih.step step

end Crowd

end AdmissionQueue

namespace Sale

open AdmissionQueue
open AdmissionQueue.Crowd

variable {s : Sale} {capacity : Nat} {tasks tasks' : Table TaskId Task} {queue q q' : AdmissionQueue}
  {errands : Table TaskId Errand} {me id : TaskId} {order : Order} {owner : Owner} {woken : List TaskId}

/-- The errand of a task between two actions: it stands in line if it has come to the queue. -/
def errand? (tasks : Table TaskId Task) (q : AdmissionQueue) (id : TaskId) : Option Errand :=
  match tasks.get? id with
  | some (.send order) => if id ∈ q.buyers then some (.standing order) else none
  | some (.receive _) => if id ∈ q.receivers then some .receiving else none
  | _ => none

/-- The errands are those of the tasks that stand in line. Between two actions nobody is
in the middle of anything else. -/
def InLines (tasks : Table TaskId Task) (q : AdmissionQueue) (errands : Table TaskId Errand) : Prop :=
  ∀ id, errands.get? id = errand? tasks q id

theorem errand?_congr (task : tasks'.get? id = tasks.get? id)
    (buyer : id ∈ q'.buyers ↔ id ∈ q.buyers) (receiver : id ∈ q'.receivers ↔ id ∈ q.receivers) :
    errand? tasks' q' id = errand? tasks q id := by
  unfold errand?
  rw [task]
  split
  · exact if_congr buyer rfl rfl
  · exact if_congr receiver rfl rfl
  · rfl

theorem errand?_of_absent (absent : tasks.get? id = none) : errand? tasks q id = none := by
  rw [errand?, absent]

theorem errand?_of_send (found : tasks.get? id = some (.send order)) :
    errand? tasks q id = if id ∈ q.buyers then some (.standing order) else none := by
  rw [errand?, found]

theorem errand?_of_receive (found : tasks.get? id = some (.receive owner)) :
    errand? tasks q id = if id ∈ q.receivers then some .receiving else none := by
  rw [errand?, found]

/-- Whoever is over has no errand any more; the others have theirs. A change of the
queue that spares them does not move them. -/
theorem InLines.over (lines : InLines tasks q errands)
    (spares : ∀ id, id ≠ me → Spares q q' woken id) :
    InLines (tasks.erase me) q' (errands.erase me) := by
  intro id
  by_cases same : id = me
  · subst same
    rw [errand?_of_absent (Table.get?_erase_self ..), Table.get?_erase_self]
  · have spared := spares id same
    have task : (tasks.erase me).get? id = tasks.get? id := Table.get?_erase_of_ne same
    rw [Table.get?_erase_of_ne same, errand?_congr task spared.buyer spared.receiver]
    exact lines id

theorem InLines.drop (lines : InLines tasks q errands) (idle : errands.get? me = none) :
    InLines (tasks.erase me) q errands := by
  have same (id : TaskId) (_ : id ≠ me) : Spares q q [] id := ⟨Iff.rfl, Iff.rfl, .inl⟩
  have kept := lines.over same
  rwa [Table.erase_of_get?_eq_none idle] at kept

/-- Whoever has come to stand in line has an errand; the others have theirs. -/
theorem InLines.comes {e : Errand} (lines : InLines tasks q errands)
    (spares : ∀ id, id ≠ me → Spares q q' woken id) (own : errand? tasks q' me = some e) :
    InLines tasks q' (errands.insert me e) := by
  intro id
  by_cases same : id = me
  · subst same
    rw [own, Table.get?_insert_self]
  · have spared := spares id same
    rw [Table.get?_insert_of_ne same, errand?_congr rfl spared.buyer spared.receiver]
    exact lines id

/-- A receiver that takes its turn stands in line afterwards, and did so before or comes
now. Coming is a step of the crowd. -/
theorem InLines.join (lines : InLines tasks q errands)
    (found : tasks.get? me = some (.receive owner)) :
    ∃ errands', ReflTransGen Step ⟨q, errands⟩ ⟨q.joinLine me, errands'⟩ ∧
      InLines tasks (q.joinLine me) errands' ∧ errands'.get? me = some .receiving := by
  have own := lines me
  rw [errand?_of_receive found] at own
  by_cases standing : me ∈ q.receivers
  · rw [if_pos standing] at own
    rw [joinLine_of_mem standing]
    exact ⟨errands, .refl, lines, own⟩
  · rw [if_neg standing] at own
    have stands : me ∈ (q.joinLine me).receivers := by simp [joinLine, standing]
    refine ⟨_, .single (.join me own), lines.comes (fun _ => spares_joinLine) ?_,
      Table.get?_insert_self ..⟩
    rw [errand?_of_receive found, if_pos stands]

section Exchange

variable {a : Action} {ready : List TaskId} {answers : List (TaskId × Answer)}

/-- What an action does among senders and receivers is a path of the crowd, from those
in line before to those in line after it. -/
theorem Exchange.crowd (exchange : Exchange s a tasks queue ready answers)
    (attended : s.Attended capacity) (lines : InLines s.tasks s.queue errands) :
    ∃ errands', ReflTransGen Step ⟨s.queue, errands⟩ ⟨queue, errands'⟩ ∧
      InLines tasks queue errands' := by
  cases exchange with
  | slept | stood | elapsed | missed | released => exact ⟨errands, .refl, lines⟩
  | @claimed id order found given =>
      have here : errands.get? id = some (.standing order) := by
        rw [lines id, errand?_of_send found, if_pos (mem_buyers.mpr (.inl given))]
      exact ⟨_, path_given here given, lines.over fun _ => spares_claim_put given order⟩
  | @placed id order slots found new isOpen slot =>
      have idle : errands.get? id = none := by rw [lines id, errand?_of_send found, if_neg new]
      exact ⟨_, path_free idle isOpen slot order,
        lines.over fun id _ => spares_free_put slots order id⟩
  | @refused id order found new isClosed =>
      have idle : errands.get? id = none := by rw [lines id, errand?_of_send found, if_neg new]
      exact ⟨errands, .refl, lines.drop idle⟩
  | @joined id order found new isOpen full =>
      have idle : errands.get? id = none := by rw [lines id, errand?_of_send found, if_neg new]
      refine ⟨_, path_full idle isOpen full order, lines.comes (fun _ => spares_join isOpen) ?_⟩
      rw [errand?_of_send found, if_pos (by simp [buyers])]
  | took found first popped =>
      -- It may have stood in line before, or come in this turn.
      obtain ⟨errands', joins, lined, here⟩ := lines.join found
      exact ⟨_, joins.trans (path_take here first popped),
        lined.over fun _ => spares_take popped first⟩
  | @ended id found first ends =>
      obtain ⟨errands', joins, lined, here⟩ := lines.join found
      exact ⟨_, joins.tail (.giveUp id here), lined.over fun _ => spares_leaveLine⟩
  | idle found =>
      obtain ⟨errands', joins, lined, -⟩ := lines.join found
      exact ⟨errands', joins, lined⟩
  | @started t =>
      refine ⟨errands, .refl, fun id => ?_⟩
      rw [lines id]
      by_cases same : id = s.nextTask
      · subst same
        -- The name is new, so that nobody of this name can have come to the queue before.
        obtain ⟨buyer, receiver⟩ := (attended.attends s.nextTask).not_in_line attended.unused
        rw [errand?_of_absent attended.unused, errand?, Table.get?_insert_self]
        simp only [if_neg buyer, if_neg receiver]
        split <;> rfl
      · exact (errand?_congr (Table.get?_insert_of_ne same) Iff.rfl Iff.rfl).symm
  | @unsent _ id order drops found =>
      have own := lines id
      rw [errand?_of_send found] at own
      by_cases standing : id ∈ s.queue.buyers
      · rw [if_pos standing] at own
        exact ⟨_, .single (.withdraw id own), lines.over fun _ => spares_withdraw⟩
      · rw [if_neg standing] at own
        rw [withdraw_of_outside standing]
        exact ⟨errands, .refl, lines.drop own⟩
  | @unreceived _ id drops found =>
      have own := lines id
      rw [errand?_of_receive found] at own
      by_cases standing : id ∈ s.queue.receivers
      · rw [if_pos standing] at own
        exact ⟨_, .single (.giveUp id own), lines.over fun _ => spares_leaveLine⟩
      · rw [if_neg standing] at own
        rw [leaveLine_of_outside standing]
        exact ⟨errands, .refl, lines.drop own⟩
  | closed => exact ⟨errands, .single .close, lines⟩

end Exchange

variable {actions : List Action}

/-- A whole course is a path of the crowd, by induction on its actions. Its crowd has
those in line who are in line at the end. -/
theorem Exchanging.crowd (exchanging : s.Exchanging capacity) (ok : Obeys SendsAndReceives s actions)
    (lines : InLines s.tasks s.queue errands) :
    ∃ errands', ReflTransGen Step ⟨s.queue, errands⟩ ⟨(s.after actions).queue, errands'⟩ ∧
      InLines (s.after actions).tasks (s.after actions).queue errands' := by
  induction actions generalizing s errands with
  | nil => exact ⟨errands, .refl, lines⟩
  | cons a rest ih =>
      obtain ⟨allowed, ok⟩ := ok
      obtain ⟨exchange, -⟩ := exchanging.exchanges allowed
      obtain ⟨errands', first, lined⟩ := exchange.crowd exchanging.attended lines
      obtain ⟨errands'', later, lined⟩ := ih (exchanging.perform allowed) ok lined
      exact ⟨errands'', first.trans later, lined⟩

/-- The queue of a sale of sends and receives is that of a crowd in which everybody
stands in line. What holds of every crowd then holds of it. -/
theorem crowd_reachable {s₀ : Sale} {reservations : Reservations} {ledger : Ledger}
    {commitLimit : Nat} (opened : AdmissionQueue.open? capacity = some queue)
    (start : s₀ = { reservations, ledger, queue, commitLimit })
    (allowed : Obeys SendsAndReceives s₀ actions) (reached : s = s₀.after actions) :
    ∃ errands, Reachable capacity ⟨s.queue, errands⟩ ∧ InLines s.tasks s.queue errands := by
  subst start reached
  have exchanging := exchanging_start reservations ledger commitLimit opened
  have nobody : InLines (∅ : Table TaskId Task) queue ∅ := fun _ => rfl
  obtain ⟨errands, path, lines⟩ := exchanging.crowd allowed nobody
  obtain rfl := ofCapacity_of_open? opened
  exact ⟨errands, Reachable.start.after_path path, lines⟩

end Sale

end FlashSale
