import FlashSale.Proofs.Sale.Bystanders
import FlashSale.Proofs.Sale.Process
import FlashSale.Proofs.Sale.Records

/-!
# Settled to the millisecond

An order is settled while anything else goes on: other tasks take turns, stores are called and
switched off and on, the delay of commits is changed. What becomes of the order depends on the
delay at the beginning and on two states of the sale. If the delay is within the limit the
commit is decided by the ledger as it is when the delay is over, else it is given up when the
limit is; and after a commit that failed the stock is put back by the reservation store as it is
at that same moment.

`Settling` says how far the settlement of an order has come after a course. `settled_on_time` says
that it gets so far on every course on which time waits for the task: it passes neither when it
is the task's turn nor beyond what the task waits for. Time cannot pass the moment of the decision
before the task has returned, so that the task returns at that moment.
-/

namespace FlashSale

namespace Action

/-- The task whose turn the action is. -/
def turns? : Action → Option TaskId
  | turn id => some id
  | _ => none

/-- The time that passes with the action. -/
def elapsed? : Action → Option Nat
  | elapse ms => some ms
  | _ => none

/-- The latency that the action sets. -/
def latency? : Action → Option Latency
  | latency l => some l
  | _ => none

end Action

namespace Sale

/-- Time waits for the task, which is not dropped; the reservation store keeps nobody waiting, and
when it is the task's turn the counter of the item has room for what the order may put back. -/
structure Timely (me : TaskId) (order : Order) (s : Sale) (a : Action) : Prop where
  urgent : ∀ ms ∈ a.elapsed?, me ∉ s.ready ∧
    ∀ timer ∈ s.timers, timer.2 = me → s.now + ms ≤ timer.1
  spared : a.drops? ≠ some me
  quick : ∀ l ∈ a.latency?, l.putBack = 0
  fits : a.turns? = some me →
    s.reservations.counter order.itemId + order.quantity.toInt ≤ 9223372036854775807

instance (me : TaskId) (order : Order) (s : Sale) (a : Action) : Decidable (Timely me order s a) :=
  decidable_of_iff ((∀ ms ∈ a.elapsed?, me ∉ s.ready ∧
      ∀ timer ∈ s.timers, timer.2 = me → s.now + ms ≤ timer.1) ∧
    a.drops? ≠ some me ∧ (∀ l ∈ a.latency?, l.putBack = 0) ∧
    (a.turns? = some me →
      s.reservations.counter order.itemId + order.quantity.toInt ≤ 9223372036854775807))
    ⟨fun ⟨urgent, spared, quick, fits⟩ => ⟨urgent, spared, quick, fits⟩,
      fun ⟨urgent, spared, quick, fits⟩ => ⟨urgent, spared, quick, fits⟩⟩

/-- A turn of the task leaves both stores as they are. Other actions may do what they
like with them. -/
def Aloof (me : TaskId) (s : Sale) (a : Action) : Prop :=
  a = .turn me → SameHoldings s (s.perform a)

/-- A task is about to settle an order, and it is its turn. Nothing is known of the
stores but that putting stock back takes no time. -/
structure Opening (s : Sale) (me : TaskId) (owner : Owner) (order : Order) : Prop where
  named : s.Named
  task : ∃ due giveUp, s.tasks.get? me = some (.settle owner order .opening due giveUp)
  ready : me ∈ s.ready
  healthy : s.faultyItem ≠ some order.itemId
  quick : s.latency.putBack = 0
  positive : 0 < order.quantity.toInt

/-- The moment at which it is decided what becomes of a commit that begins now. It is
fixed at the beginning, since a delay that is set later is for later commits. -/
def moment (s : Sale) : Nat := s.now + min s.ledger.commitDelay s.commitLimit

/-- The commit fails at the turn of the task that comes after the course. It is refused
by the ledger as it is then, or given up at the limit without asking it again. -/
inductive Fails (s : Sale) (order : Order) (front : List Action) : CommitError → Prop where
  | refused {e} (inTime : s.ledger.commitDelay ≤ s.commitLimit)
      (moment : (s.after front).now = s.now + s.ledger.commitDelay)
      (reply : (s.after front).ledger.commit (s.after front).clock order =
        (.answer (.error e), (s.after front).ledger)) : Fails s order front (.store e)
  | timedOut (late : s.commitLimit < s.ledger.commitDelay)
      (moment : (s.after front).now = s.now + s.commitLimit) :
      Fails s order front (.timeout s.limit)

/-- The task returns with the outcome at its turn that comes after the course. Each
outcome is traced to the replies of the stores at that moment. -/
inductive Verdict (s : Sale) (me : TaskId) (order : Order) (course : List Action) :
    Outcome → Prop where
  | persisted {ledger} (inTime : s.ledger.commitDelay ≤ s.commitLimit)
      (moment : (s.after course).now = s.now + s.ledger.commitDelay)
      (reply : (s.after course).ledger.commit (s.after course).clock order =
        (.answer (.ok ()), ledger))
      (stored : ((s.after course).stepTask me).ledger = ledger)
      (untouched : ((s.after course).stepTask me).reservations = (s.after course).reservations) :
      Verdict s me order course .persisted
  /-- The commit failed when the task had its turn before this one, at the same moment. -/
  | restored {front between commit outcome} (split : course = front ++ .turn me :: between)
      (fails : Fails s order front commit) (idle : .turn me ∉ between)
      (moment : (s.after course).now = (s.after front).now)
      (unstored : ((s.after course).stepTask me).ledger = (s.after course).ledger)
      (restores : Restores (s.after course) ((s.after course).stepTask me) order commit outcome) :
      Verdict s me order course outcome

/-- How far the settlement of an order has come after a course. In the first two cases
the turns of the task have left both stores alone so far. -/
inductive Settling (s : Sale) (me : TaskId) (owner : Owner) (order : Order) (course : List Action) :
    Prop where
  | committing (aloof : Obeys (Aloof me) s course)
      (task : (s.after course).tasks.get? me = some (.settle owner order .committing
        (s.now + s.ledger.commitDelay) (s.now + s.commitLimit)))
      (early : (s.after course).now ≤ s.moment)
      (waits : me ∈ (s.after course).ready ∨
        (s.after course).now < s.moment ∧ (s.moment, me) ∈ (s.after course).timers)
  | restoring {front between commit} (split : course = front ++ .turn me :: between)
      (aloof : Obeys (Aloof me) s course) (fails : Fails s order front commit)
      (idle : .turn me ∉ between) (moment : (s.after course).now = (s.after front).now)
      (ready : me ∈ (s.after course).ready)
      (task : (s.after course).tasks.get? me =
        some (.settle owner order (.restoring commit) (s.after front).now
          ((s.after front).now + s.commitLimit)))
  | returned {before rest outcome} (split : course = before ++ .turn me :: rest)
      (aloof : Obeys (Aloof me) s before) (verdict : Verdict s me order before outcome)
      (returns : Returns (s.after before) ((s.after before).stepTask me) me order outcome owner)
      (leaves : owner = .caller → (s.after course).tasks.get? me = none ∧
        Obeys (Aloof me) ((s.after before).stepTask me) rest)

variable {s : Sale} {me : TaskId} {owner : Owner} {order : Order} {course : List Action}
  {a : Action}

theorem Fails.moment {front : List Action} {commit : CommitError}
    (fails : Fails s order front commit) : (s.after front).now = s.moment := by
  cases fails with
  | refused inTime moment => rw [moment, Sale.moment, Nat.min_eq_left inTime]
  | timedOut late moment => rw [moment, Sale.moment, Nat.min_eq_right (Nat.le_of_lt late)]

/-- Whatever the outcome is, the task returns at the moment of the decision. Putting the
stock back takes no time. -/
theorem Verdict.moment {outcome : Outcome} (verdict : Verdict s me order course outcome) :
    (s.after course).now = s.moment := by
  cases verdict with
  | persisted inTime moment => rw [moment, Sale.moment, Nat.min_eq_left inTime]
  | restored _ fails _ moment => rw [moment, fails.moment]

/-- The task keeps its name, and the reservation store keeps nobody waiting who puts
stock back. This much lasts on a timely course. -/
structure Lasts (s : Sale) (me : TaskId) : Prop where
  named : s.Named
  known : me < s.nextTask
  quick : s.latency.putBack = 0

theorem Lasts.perform (lasts : s.Lasts me) (timely : Timely me order s a) :
    (s.perform a).Lasts me := by
  obtain ⟨named, more⟩ := lasts.named.perform a
  refine ⟨named, Nat.lt_of_lt_of_le lasts.known more, ?_⟩
  by_cases slower : ∃ l, a = .latency l
  · obtain ⟨l, rfl⟩ := slower
    exact timely.quick l rfl
  · rw [perform_latency (not_exists.mp slower)]
    exact lasts.quick

theorem Opening.lasts (opening : s.Opening me owner order)
    (timely : Obeys (Timely me order) s course) : (s.after course).Lasts me := by
  refine timely.invariant (P := fun course => (s.after course).Lasts me) ?_
    fun done a lasts next => ?_
  · obtain ⟨due, giveUp, found⟩ := opening.task
    exact ⟨opening.named, opening.named me _ found, opening.quick⟩
  · rw [after_append]
    exact lasts.perform next

theorem obeys_concat {rule : Sale → Action → Prop} (obeys : Obeys rule s course)
    (last : rule (s.after course) a) : Obeys rule s (course ++ [a]) :=
  obeys_append.mpr ⟨obeys, last, trivial⟩

theorem after_concat (s : Sale) (course : List Action) (a : Action) :
    s.after (course ++ [a]) = (s.after course).perform a := after_append ..

theorem concat_of_split {before rest : List Action} (split : course = before ++ .turn me :: rest)
    (a : Action) : course ++ [a] = before ++ .turn me :: (rest ++ [a]) := by
  rw [split, List.append_assoc, List.cons_append]

/-- Time does not pass while it is the task's turn. So what it does next it does at the
same moment. -/
theorem Timely.now (timely : Timely me order s a) (ready : me ∈ s.ready) :
    (s.perform a).now = s.now :=
  perform_now fun ms passes => (timely.urgent ms (by rw [passes]; rfl)).1 ready

/-- Time does not pass beyond what the task waits for. So the task is never late for the
moment at which it is to decide. -/
theorem Timely.now_le {time : Nat} (timely : Timely me order s a) (early : s.now ≤ time)
    (timer : (time, me) ∈ s.timers) : (s.perform a).now ≤ time := by
  by_cases passes : ∃ ms, a = .elapse ms
  · obtain ⟨ms, rfl⟩ := passes
    exact (timely.urgent ms rfl).2 _ timer rfl
  · exact (perform_now (not_exists.mp passes)).trans_le early

/-- Another action leaves the settlement where it is, if it does not take it past the
moment. The task is not dropped, and its timer stays until it is due. -/
theorem Settling.other (settling : Settling s me owner order course)
    (lasts : (s.after course).Lasts me) (timely : Timely me order (s.after course) a)
    (other : a ≠ .turn me) : Settling s me owner order (course ++ [a]) := by
  have bides := perform_bides lasts.known other timely.spared
  have aloof_concat {s : Sale} {course : List Action} (aloof : Obeys (Aloof me) s course) :
      Obeys (Aloof me) s (course ++ [a]) := obeys_concat aloof fun own => absurd own other
  have idle_concat {between : List Action} (idle : .turn me ∉ between) :
      .turn me ∉ between ++ [a] := by
    simpa [idle] using Ne.symm other
  cases settling with
  | committing aloof task early waits =>
      refine .committing (aloof_concat aloof) ?_ ?_ ?_
      · rw [after_concat]
        exact bides.task.trans task
      · rw [after_concat]
        obtain ready | ⟨-, timer⟩ := waits
        · exact (timely.now ready).trans_le early
        · exact timely.now_le early timer
      · rw [after_concat]
        obtain ready | ⟨later, timer⟩ := waits
        · exact .inl (bides.ready ready)
        · obtain still | come := bides.timer _ later timer
          · exact .inr still
          · exact .inl come.2
  | @restoring front between commit split aloof fails idle moment ready task =>
      refine .restoring (concat_of_split split _) (aloof_concat aloof) fails (idle_concat idle)
        ?_ ?_ ?_
      · rw [after_concat, timely.now ready, moment]
      · rw [after_concat]
        exact bides.ready ready
      · rw [after_concat]
        exact bides.task.trans task
  | @returned before rest outcome split aloof verdict returns leaves =>
      refine .returned (concat_of_split split _) aloof verdict returns fun calls => ?_
      obtain ⟨gone, still⟩ := leaves calls
      rw [after_concat]
      exact ⟨bides.task.trans gone, aloof_concat still⟩

/-- A commit that fails leaves both stores as they are, and the task goes on at once.
Putting the stock back belongs to its next turn, at the same moment. -/
theorem Settling.of_fails {commit : CommitError} (lasts : (s.after course).Lasts me)
    (aloof : Obeys (Aloof me) s course) (fails : Fails s order course commit)
    (ready : me ∈ (s.after course).ready)
    (turn : (s.after course).stepTask me = { s.after course with
      tasks := (s.after course).tasks.insert me (.settle owner order (.restoring commit)
        ((s.after course).now + (s.after course).latency.putBack)
        ((s.after course).now + (s.after course).commitLimit)) }) :
    Settling s me owner order (course ++ [.turn me]) := by
  refine .restoring rfl (obeys_concat aloof fun _ => ?_) fails List.not_mem_nil ?_ ?_ ?_
  · rw [perform, turn]
    exact ⟨rfl, rfl⟩
  all_goals rw [after_concat, perform, turn]
  · exact ready
  · rw [lasts.quick, s.after_commitLimit]
    exact Table.get?_insert_self ..

theorem leaves_of_returns {s' : Sale} {outcome : Outcome}
    (returns : Returns s s' me order outcome owner) (calls : owner = .caller) :
    s'.tasks.get? me = none ∧ Obeys (Aloof me) s' [] := by
  cases returns with
  | handed _ gone => exact ⟨gone, trivial⟩
  | counted => cases calls

section Own

variable (aloof : Obeys (Aloof me) s course)
  (task : (s.after course).tasks.get? me = some (.settle owner order .committing
    (s.now + s.ledger.commitDelay) (s.now + s.commitLimit)))

include aloof task

theorem Settling.turn_early (early : (s.after course).now < s.moment) :
    Settling s me owner order (course ++ [.turn me]) := by
  have bound : s.moment = s.now + min s.ledger.commitDelay s.commitLimit := rfl
  have turn := turn_of_waiting task (by omega) (by omega)
  refine .committing (obeys_concat aloof fun _ => ?_) ?_ ?_ ?_
  · rw [perform, turn]
    exact ⟨rfl, rfl⟩
  all_goals rw [after_concat, perform, turn]
  · exact task
  · exact Nat.le_of_lt early
  · refine .inr ⟨early, List.mem_append_right _ (List.mem_singleton.mpr ?_)⟩
    rw [Sale.moment, Nat.add_min_add_left]

/-- At the moment of a delay within the limit, the ledger decides as it is then. -/
theorem Settling.turn_inTime (lasts : (s.after course).Lasts me)
    (inTime : s.ledger.commitDelay ≤ s.commitLimit)
    (moment : (s.after course).now = s.now + s.ledger.commitDelay)
    (ready : me ∈ (s.after course).ready) (positive : 0 < order.quantity.toInt)
    (below : ((s.after course).stepTask me).ledger.VersionsBelowLimit) :
    Settling s me owner order (course ++ [.turn me]) := by
  rcases reply : (s.after course).ledger.commit (s.after course).clock order
    with ⟨result | _, ledger⟩
  · cases result with
    | ok =>
        obtain ⟨same, returns⟩ := turn_of_committed task moment.ge reply
        refine .returned rfl aloof (.persisted inTime moment reply same.ledger same.reservations)
          returns fun calls => ?_
        rw [after_concat]
        exact leaves_of_returns returns calls
    | error e =>
        obtain rfl := Ledger.commit_eq_error reply
        exact .of_fails lasts aloof (.refused inTime moment reply) ready
          (turn_of_refused task moment.ge reply)
  · -- Only a version at its limit could bring the task down.
    refine absurd below ?_
    have written : ((s.after course).stepTask me).ledger = ledger := by
      rw [stepTask_ledger task]
      simp only [ledgerAfter, Task.mutation?, if_pos moment.ge, Ledger.mutate, reply]
    rw [written]
    exact Ledger.commit_eq_overflow positive reply

theorem Settling.turn_late (lasts : (s.after course).Lasts me)
    (late : s.commitLimit < s.ledger.commitDelay)
    (moment : (s.after course).now = s.now + s.commitLimit) (ready : me ∈ (s.after course).ready) :
    Settling s me owner order (course ++ [.turn me]) := by
  have turn := turn_of_timeout task (by omega) moment.ge
  rw [s.after_limit] at turn
  exact .of_fails lasts aloof (.timedOut late moment) ready turn

end Own

/-- The turn of the task takes the settlement on, as far as the clock allows. The cases
are those of how far it had come. -/
theorem Settling.own (settling : Settling s me owner order course)
    (lasts : (s.after course).Lasts me) (positive : 0 < order.quantity.toInt)
    (fits : (s.after course).reservations.counter order.itemId + order.quantity.toInt ≤
      9223372036854775807)
    (below : ((s.after course).stepTask me).ledger.VersionsBelowLimit) :
    Settling s me owner order (course ++ [.turn me]) := by
  cases settling with
  | committing aloof task early waits =>
      have bound : s.moment = s.now + min s.ledger.commitDelay s.commitLimit := rfl
      by_cases soon : (s.after course).now < s.moment
      · exact .turn_early aloof task soon
      have ready := waits.resolve_right fun later => soon later.1
      by_cases inTime : s.ledger.commitDelay ≤ s.commitLimit
      · exact .turn_inTime aloof task lasts inTime (by omega) ready positive below
      · exact .turn_late aloof task lasts (by omega) (by omega) ready
  | @restoring front between commit split aloof fails idle moment ready task =>
      obtain ⟨outcome, restores, ledger, returns⟩ :=
        turn_of_restoring task moment.ge positive fits
      refine .returned rfl aloof (.restored split fails idle moment ledger restores) returns
        fun calls => ?_
      rw [after_concat]
      exact leaves_of_returns returns calls
  | @returned before rest outcome split aloof verdict returns leaves =>
      refine .returned (concat_of_split split _) aloof verdict returns fun calls => ?_
      obtain ⟨gone, still⟩ := leaves calls
      have nothing : (s.after course).stepTask me =
          { s.after course with ready := (s.after course).ready.erase me } :=
        stepTask_of_get?_eq_none gone
      have same : s.after course = ((s.after before).stepTask me).after rest := by
        rw [split, after_append]
        rfl
      refine ⟨?_, obeys_concat still fun _ => ?_⟩
      · rw [after_concat, perform, nothing]
        exact gone
      · rw [← same, perform, nothing]
        exact ⟨rfl, rfl⟩

/-- The first turn begins the commit, and the moment of its decision is set. -/
theorem Opening.settling (opening : s.Opening me owner order) :
    Settling s me owner order [.turn me] := by
  obtain ⟨due, giveUp, found⟩ := opening.task
  have turn : s.after [.turn me] = _ := turn_of_opening found opening.healthy
  have early : s.now ≤ s.moment := Nat.le_add_right ..
  refine .committing ⟨fun _ => ?_, trivial⟩ ?_ ?_ ?_
  · change SameHoldings s (s.after [.turn me])
    rw [turn]
    exact ⟨rfl, rfl⟩
  all_goals rw [turn]
  · exact Table.get?_insert_self ..
  · exact early
  · exact .inl opening.ready

/-- On a timely course the settlement gets as far as the clock allows. The induction
adds one action at the end, a turn of the task or another one. -/
theorem Opening.settling_after (opening : s.Opening me owner order) (actions : List Action)
    (timely : Obeys (Timely me order) s (.turn me :: actions))
    (below : (s.after (.turn me :: actions)).ledger.VersionsBelowLimit) :
    Settling s me owner order (.turn me :: actions) := by
  induction actions using List.reverseRecOn with
  | nil => exact opening.settling
  | append_singleton done a ih =>
      rw [← List.cons_append] at timely below ⊢
      obtain ⟨before, last, -⟩ := obeys_append.mp timely
      rw [after_concat] at below
      have settling := ih before (perform_versions _ below)
      have lasts := opening.lasts before
      by_cases own : a = .turn me
      · subst own
        exact settling.own lasts opening.positive (last.fits rfl) below
      · exact settling.other lasts last own

/-- The task has returned by the time that the moment is past. While it had not, time
could not pass the moment. -/
theorem Settling.returned_of_past (settling : Settling s me owner order course)
    (past : s.moment < (s.after course).now) : ∃ before rest outcome,
      course = before ++ .turn me :: rest ∧ (s.after before).now = s.moment ∧
      Verdict s me order before outcome := by
  cases settling with
  | committing _ _ early => exact absurd early (Nat.not_le.mpr past)
  | restoring _ _ fails _ moment =>
      rw [moment, fails.moment] at past
      exact absurd past (Nat.lt_irrefl _)
  | returned split _ verdict => exact ⟨_, _, _, split, verdict.moment, verdict⟩

/-- Whatever happens while an order is settled, its commit is decided at the moment that the delay
and the limit come to, against the ledger as it is then; a commit that fails is followed at that
moment by one attempt to put the stock back; and the task returns at that moment. -/
theorem settled_on_time (opening : s.Opening me owner order) (actions : List Action)
    (timely : Obeys (Timely me order) s (.turn me :: actions))
    (below : (s.after (.turn me :: actions)).ledger.VersionsBelowLimit) :
    Settling s me owner order (.turn me :: actions) ∧
      (s.moment < (s.after (.turn me :: actions)).now → ∃ before rest outcome,
        Action.turn me :: actions = before ++ .turn me :: rest ∧
        (s.after before).now = s.moment ∧ Verdict s me order before outcome) := by
  have settling := opening.settling_after actions timely below
  exact ⟨settling, settling.returned_of_past⟩

/-- A shop with one task, which is to settle an order. -/
def slowShop : Sale :=
  let ledger : Ledger :=
    { inventory := Table.empty.insert "tea" (.fresh "tea" 5 (.ofMillis 0)), commitDelay := 10 }
  let shop : Sale :=
    { reservations := { ttl := 1000 }, ledger, queue := .ofCapacity 1, commitLimit := 10 }
  shop.spawn (.settle .caller (parcel ⟨1⟩) .opening 0 0)

/-- The delay comes to exactly the limit. In the meantime the stock is sold out, and the reservation
store begins to fail. -/
def mishap : List Action :=
  [.turn 0, .commitDelay 50, .seed "tea" 0, .elapse 10, .failIncrements true, .turn 0, .turn 0,
    .failIncrements false, .elapse 1]

theorem settled_on_time_mishap :
    slowShop.Opening 0 .caller (parcel ⟨1⟩) ∧
    Obeys (Timely 0 (parcel ⟨1⟩)) slowShop (.turn 0 :: mishap) ∧
    (slowShop.after (.turn 0 :: mishap)).ledger.VersionsBelowLimit ∧
    (Settling slowShop 0 .caller (parcel ⟨1⟩) (.turn 0 :: mishap) ∧
      (slowShop.moment < (slowShop.after (.turn 0 :: mishap)).now → ∃ before rest outcome,
        Action.turn 0 :: mishap = before ++ .turn 0 :: rest ∧
        (slowShop.after before).now = slowShop.moment ∧
        Verdict slowShop 0 (parcel ⟨1⟩) before outcome)) ∧
    slowShop.moment = 10 ∧ (slowShop.after (.turn 0 :: mishap)).now = 11 ∧
    (slowShop.after (.turn 0 :: mishap)).answers = [(0, .settled (parcel ⟨1⟩)
      (.compensationFailed ⟨⟨1⟩, "tea", 1, .store .optimisticLockConflict,
        .store (.injectedFault .incrementStock)⟩))] := by
  have opening : slowShop.Opening 0 .caller (parcel ⟨1⟩) :=
    ⟨Named.spawn (fun _ _ found => by cases found) _, ⟨0, 0, rfl⟩, by decide, nofun, rfl, by decide⟩
  have timely : Obeys (Timely 0 (parcel ⟨1⟩)) slowShop (.turn 0 :: mishap) := by decide
  exact ⟨opening, timely, by decide, settled_on_time opening mishap timely (by decide), rfl, rfl,
    rfl⟩

end Sale

end FlashSale
