import FlashSale.Proofs.Http.Responses
import FlashSale.Proofs.Sale.Duplicates
import FlashSale.Proofs.Sale.Pipeline

/-!
# Purchases over the web

A purchase comes in over the web through the router, which lets through only what is complete.
`Posted` is what is true of such a purchase from then on. Whatever else happens to the sale, it
ends in one of the ways that have a status; the order whose identifier is told is the one that
the same turn put into the queue, and the log reports just the purchases that were answered
that the service failed, in the order of these answers.
-/

namespace FlashSale

/-- The request and the error of a failure that is reported for the web. A purchase that
was not made over the web reports none. -/
def Event.failure? : Event → Option (String × PurchaseError)
  | purchaseFailed requestId e => some (requestId, e)
  | _ => none

/-- The request and the error of a purchase over the web that is answered with the status 500. -/
def Answer.failure? : Answer → Option (String × PurchaseError)
  | purchased r true (.error e) =>
    if (Http.purchased (.error e)).status = 500 then some (r.requestId, e) else none
  | _ => none

/-- A purchase over the web is for a positive quantity and makes an order for its
request. The router has looked at the quantity before. -/
def Task.Posted : Task → Prop
  | purchase r true id stage _ =>
    0 < r.quantity.toInt ∧ ∀ order, stage = .admitting order → order.Fills r id
  | _ => True

namespace Sale

/-- No purchase over the web has been made yet. There may have been others. -/
structure Unvisited (s : Sale) : Prop where
  tasks : ∀ me r id stage due, s.tasks.get? me ≠ some (.purchase r true id stage due)
  answers : ∀ me r result, (me, .purchased r true result) ∉ s.answers
  log : ∀ e ∈ s.log, e.failure? = none

/-- A purchase over the web is started for a request that the router lets through, and at its
beginning. -/
def ThroughRouter (s : Sale) (a : Action) : Prop :=
  ∀ r id stage due, a = .start (.purchase r true id stage due) → stage = .entering ∧
    ∃ request, Http.route s.queue.depth s.queue.capacity request = .purchase r

/-- One turn of a task put an order for the request into the queue and told its identifier. -/
def Admits (s₀ : Sale) (actions : List Action) (me : TaskId) (r : PurchaseRequest) (id : Uuid) :
    Prop :=
  ∃ before rest order, actions = before ++ .turn me :: rest ∧ order.Fills r id ∧
    (s₀.after (before ++ [.turn me])).queue.buffer = (s₀.after before).queue.buffer ++ [order] ∧
    (s₀.after (before ++ [.turn me])).answers =
      (s₀.after before).answers ++ [(me, .purchased r true (.ok order.id))]

variable {s s' s₀ : Sale} {a : Action} {me : TaskId} {t t' : Task} {turn : Turn}
  {actions : List Action}

theorem Next.posted (next : Next s t t') (posted : t.Posted) : t'.Posted := by
  have elsewhere {r : PurchaseRequest} {web : Bool} {id : Uuid} {stage stage' : Purchase.Stage}
      {due due' : Nat} (posted : (Task.purchase r web id stage due).Posted)
      (apart : ∀ order, stage' ≠ .admitting order) :
      (Task.purchase r web id stage' due').Posted := by
    cases web with
    | false => trivial
    | true => exact ⟨posted.1, fun order made => absurd made (apart order)⟩
  cases next with
  | entered => exact elsewhere posted (by simp)
  | marked => exact elsewhere posted (by simp)
  | refused => exact elsewhere posted (by simp)
  | @reserved _ web =>
      cases web with
      | false => trivial
      | true =>
          refine ⟨posted.1, fun order made => ?_⟩
          cases made
          exact ⟨_, rfl⟩
  | _ => trivial

/-- Purchases over the web stay what they are: an action moves them on or starts one
that came through the router. -/
theorem perform_posted (posted : ∀ me t, s.tasks.get? me = some t → t.Posted)
    (ok : s.ThroughRouter a) : ∀ me t, (s.perform a).tasks.get? me = some t → t.Posted := by
  intro me t here
  cases perform_origin here with
  | kept found => exact posted me t found
  | started =>
      cases t with
      | purchase r web id stage due =>
          cases web with
          | false => trivial
          | true =>
              obtain ⟨rfl, request, routed⟩ := ok r id stage due rfl
              have complete := Http.complete_of_route routed
              refine ⟨Int.not_le.mp fun unfit => complete (.inr (.inr (.inr unfit))), ?_⟩
              rintro order ⟨⟩
      | _ => trivial
  | turned found deed goes => exact (deed.next goes).posted (posted _ _ found)
  | _ => trivial

open Purchase in
/-- The end of a purchase is reported as a failure if it is answered as one. A refusal
that is the buyer's is not reported. -/
theorem endEvents_failures (r : PurchaseRequest) (web : Bool) (e : PurchaseError) :
    (endEvents r web (.error e)).filterMap Event.failure? =
      (Answer.purchased r web (.error e)).failure?.toList := by
  cases web with
  | false => rfl
  | true =>
      simp only [endEvents, failureEvents, Answer.failure?, Http.purchased_status_eq_500_iff]
      cases e.isInternal <;> rfl

/-- A refusal that is the buyer's is not reported, over the web or not. -/
theorem failure?_of_not_internal (r : PurchaseRequest) (web : Bool) {e : PurchaseError}
    (own : e.isInternal = false) : (Answer.purchased r web (.error e)).failure? = none := by
  cases web <;> simp [Answer.failure?, Http.purchased_status_eq_500_iff, own]

theorem filterMap_failure?_single (a : Answer) :
    ([(me, a)].filterMap fun e => e.2.failure?) = a.failure?.toList := by
  cases given : a.failure? <;> simp [given]

/-- A purchase that is refused reports a failure just when its answer is one. The other
events of its step are no failures. -/
theorem refused_failures (log : List Event) (r : PurchaseRequest) (web : Bool) (e : PurchaseError)
    (others : List Event) (neutral : others.filterMap Event.failure? = []) :
    (log ++ (others ++ Purchase.endEvents r web (.error e))).filterMap Event.failure? =
      log.filterMap Event.failure? ++
        [(me, Answer.purchased r web (.error e))].filterMap fun e => e.2.failure? := by
  rw [List.filterMap_append, List.filterMap_append, neutral, endEvents_failures,
    filterMap_failure?_single, List.nil_append]

theorem conclude_failures (s : Sale) (owner : Owner) (order : Order) (outcome : Outcome) :
    (s.conclude owner order outcome).1.log.filterMap Event.failure? =
      s.log.filterMap Event.failure? ++
        ((s.conclude owner order outcome).2.answers me).filterMap fun e => e.2.failure? := by
  cases owner with
  | caller => exact (List.append_nil _).symm
  | worker => cases outcome <;> simp [conclude, emit, outcomeEvent, Event.failure?, Turn.answers]

/-- A step reports a failure just when it ends a purchase over the web with it. This is
one case after the other, and only purchases count. -/
theorem Deed.failures (deed : Deed s me t s' turn) :
    s'.log.filterMap Event.failure? =
      s.log.filterMap Event.failure? ++ (turn.answers me).filterMap fun e => e.2.failure? := by
  -- What a buyer is to blame for is reported in events of its own.
  have blamed (r : PurchaseRequest) (web : Bool) {e : PurchaseError} (own : e.isInternal = false)
      (others : List Event) (neutral : others.filterMap Event.failure? = []) :
      (s.log ++ others).filterMap Event.failure? = s.log.filterMap Event.failure? ++
        [(me, Answer.purchased r web (.error e))].filterMap fun e => e.2.failure? := by
    rw [List.filterMap_append, neutral, filterMap_failure?_single,
      failure?_of_not_internal r web own, Option.toList_none]
  cases deed with
  | @turnedAway r web =>
      have silent := List.append_nil s.log
      exact (congrArg _ silent.symm).trans (blamed r web rfl [] rfl)
  | @duplicate r web => exact blamed r web rfl [.duplicateRequest r.requestId] rfl
  | @soldOut r web =>
      exact blamed r web rfl [.insufficientStock r.requestId r.itemId r.quantity] rfl
  | @markRefused r web => exact refused_failures s.log r web _ [] rfl
  | @takeRefused r web => exact refused_failures s.log r web _ [] rfl
  | @released r web => exact refused_failures s.log r web _ [] rfl
  | @releaseFailed r web _ _ _ _ e =>
      exact refused_failures s.log r web .queueClosed [.releaseFailed r.itemId r.quantity e] rfl
  | committed => exact conclude_failures ..
  | restored => exact conclude_failures ..
  | restoreFailed => exact conclude_failures ..
  | called ends =>
      obtain ⟨_, rfl⟩ | ⟨_, rfl⟩ | rfl := ends <;> simp [Turn.answers, Answer.failure?]
  | commitCalled ends => obtain ⟨_, rfl⟩ | rfl := ends <;> simp [Turn.answers, Answer.failure?]
  | looked ends => obtain ⟨_, rfl⟩ | rfl := ends <;> simp [Turn.answers, Answer.failure?]
  | updated ends => obtain ⟨_, rfl⟩ | rfl := ends <;> simp [Turn.answers, Answer.failure?]
  | joined => simp [Turn.answers, Answer.failure?, Event.failure?, List.filterMap_append]
  | _ => simp [Turn.answers, Answer.failure?, Event.failure?]

variable {r : PurchaseRequest} {web : Bool} {result : Except PurchaseError Uuid} {id : Uuid}

/-- Only a purchase is answered as one. -/
theorem Deed.purchased (deed : Deed s me t s' turn)
    (told : (me, .purchased r web result) ∈ turn.answers me) :
    (∃ id stage due, t = .purchase r web id stage due) ∧
      turn = .finish (.purchased r web result) := by
  have ended {t : Task} {r' : PurchaseRequest} {web' : Bool} {result' : Except PurchaseError Uuid}
      (made : ∃ id stage due, t = .purchase r' web' id stage due)
      (told : (me, .purchased r web result) ∈ [(me, Answer.purchased r' web' result')]) :
      (∃ id stage due, t = .purchase r web id stage due) ∧
        Turn.finish (.purchased r' web' result') = .finish (.purchased r web result) := by
    cases List.mem_singleton.mp told
    exact ⟨made, rfl⟩
  cases deed with
  | turnedAway => exact ended ⟨_, _, _, rfl⟩ told
  | duplicate => exact ended ⟨_, _, _, rfl⟩ told
  | markRefused => exact ended ⟨_, _, _, rfl⟩ told
  | soldOut => exact ended ⟨_, _, _, rfl⟩ told
  | takeRefused => exact ended ⟨_, _, _, rfl⟩ told
  | admitted => exact ended ⟨_, _, _, rfl⟩ told
  | released => exact ended ⟨_, _, _, rfl⟩ told
  | releaseFailed => exact ended ⟨_, _, _, rfl⟩ told
  | @committed owner => cases owner <;> simp [conclude, Turn.answers] at told
  | @restored owner => cases owner <;> simp [conclude, Turn.answers] at told
  | @restoreFailed owner => cases owner <;> simp [conclude, Turn.answers] at told
  | called ends => obtain ⟨_, rfl⟩ | ⟨_, rfl⟩ | rfl := ends <;> simp [Turn.answers] at told
  | commitCalled ends => obtain ⟨_, rfl⟩ | rfl := ends <;> simp [Turn.answers] at told
  | looked ends => obtain ⟨_, rfl⟩ | rfl := ends <;> simp [Turn.answers] at told
  | updated ends => obtain ⟨_, rfl⟩ | rfl := ends <;> simp [Turn.answers] at told
  | _ => simp [Turn.answers] at told

/-- Nobody who asks for something is told to ask for something: the quantity was looked
at before. -/
theorem Deed.fit (deed : Deed s me t s' turn) (posted : t.Posted)
    (told : (me, .purchased r true result) ∈ turn.answers me) (quantity : Int32) :
    result ≠ .error (.invalidQuantity quantity) := by
  rintro rfl
  obtain ⟨⟨id, stage, due, rfl⟩, rfl⟩ := deed.purchased told
  cases deed with
  | turnedAway unfit =>
      exact absurd posted.1 (Int.not_lt.mpr (Int32.le_iff_toInt_le.mp unfit))

/-- A purchase that is told an identifier put the order with it into the queue. It was
one step that did both. -/
theorem Deed.admits (deed : Deed s me t s' turn) (posted : t.Posted)
    (told : (me, .purchased r true (.ok id)) ∈ turn.answers me) :
    ∃ order, order.Fills r id ∧ order.id = id ∧ s'.queue.buffer = s.queue.buffer ++ [order] := by
  obtain ⟨⟨uuid, stage, due, rfl⟩, goes⟩ := deed.purchased told
  cases deed with
  | @admitted _ _ _ order _ _ _ slot =>
      cases goes
      have fills := posted.2 order rfl
      have named : order.id = uuid := by
        obtain ⟨now, rfl⟩ := fills
        rfl
      refine ⟨order, named ▸ fills, rfl, ?_⟩
      rw [AdmissionQueue.put_buffer, slot.buffer]
  | _ => cases goes

/-- Nobody is told anything, and no failure is reported for the web. Everything but
turns is silent. -/
structure Silent (s s' : Sale) : Prop where
  answers : s'.answers = s.answers
  failures : s'.log.filterMap Event.failure? = s.log.filterMap Event.failure?

theorem emit_silent {events : List Event} (others : events.filterMap Event.failure? = []) :
    Silent s (s.emit events) := by
  refine ⟨rfl, ?_⟩
  rw [emit, List.filterMap_append, others, List.append_nil]

/-- A purchase that is dropped is not answered, and its guard reports no failure for the
web. -/
theorem drop_silent {leave : Sale → Order → Sale} (leaves : ∀ s order, Silent s (leave s order)) :
    Silent s (s.drop me leave) := by
  cases found : s.tasks.get? me with
  | none =>
      rw [drop_of_get?_eq_none found]
      exact ⟨rfl, rfl⟩
  | some t =>
      have dropped := drop_dropped found leave
      generalize s.drop me leave = s' at dropped ⊢
      cases dropped with
      | @unbought r web uuid order due ready timers =>
          have left := leaves { s with
            tasks := s.tasks.erase me, queue := (s.queue.withdraw me).1, ready, timers } order
          exact ⟨left.answers, left.failures⟩
      | _ => exact ⟨rfl, rfl⟩

/-- Only the turn of a task tells anybody anything. -/
theorem perform_silent (other : ∀ id, a ≠ .turn id) : Silent s (s.perform a) := by
  cases a with
  | turn id => exact absurd rfl (other id)
  | cancel id =>
      refine drop_silent fun s order => ?_
      have reported : Silent s (s.emit [.purchaseAbandoned order.itemId order.quantity]) :=
        emit_silent rfl
      exact ⟨reported.answers, reported.failures⟩
  | abandon id => exact drop_silent fun s order => emit_silent rfl
  | shutdown =>
      have reported : Silent s (s.emit [.queueClosing s.queue.depth]) := emit_silent rfl
      exact ⟨reported.answers, reported.failures⟩
  | startWorkers workers =>
      obtain ⟨tasks, ready, eq, -⟩ := s.startWorkers_eq workers
      have reported : Silent s (s.emit [.workersStarted (max workers 1)]) := emit_silent rfl
      rw [perform, eq]
      exact ⟨reported.answers, reported.failures⟩
  | dropReceiver =>
      obtain ⟨queue, ready, -, eq⟩ := s.dropReceiver_eq
      rw [perform, eq]
      exact ⟨rfl, rfl⟩
  | _ => exact ⟨rfl, rfl⟩

/-- An action tells nobody anything, or it is the turn of a task, which tells what it
ends with. All answers are thus told by deeds. -/
theorem perform_silent_or_turn (s : Sale) (a : Action) : Silent s (s.perform a) ∨
    ∃ me t s' turn, a = .turn me ∧ s.tasks.get? me = some t ∧ Deed s me t s' turn ∧
      Placed s' me t turn (s.perform a) := by
  by_cases turns : ∃ me, a = .turn me
  · obtain ⟨me, rfl⟩ := turns
    change Silent s (s.stepTask me) ∨ _
    cases found : s.tasks.get? me with
    | none =>
        rw [stepTask_of_get?_eq_none found]
        exact .inl ⟨rfl, rfl⟩
    | some t =>
        obtain ⟨s', turn, deed, placed⟩ := stepTask_cases found
        exact .inr ⟨me, t, s', turn, rfl, found, deed, placed⟩
  · exact .inl (perform_silent fun id same => turns ⟨id, same⟩)

/-- What is true after every course of what came in over the web. It is kept by every
action, and `Responds` follows from it. -/
structure Visited (s₀ : Sale) (actions : List Action) : Prop where
  posted : ∀ me t, (s₀.after actions).tasks.get? me = some t → t.Posted
  fit : ∀ me r result, (me, .purchased r true result) ∈ (s₀.after actions).answers →
    ∀ quantity, result ≠ .error (.invalidQuantity quantity)
  admits : ∀ me r id, (me, .purchased r true (.ok id)) ∈ (s₀.after actions).answers →
    s₀.Admits actions me r id
  logged : (s₀.after actions).log.filterMap Event.failure? =
    (s₀.after actions).answers.filterMap fun e => e.2.failure?

theorem Admits.concat (admits : s₀.Admits actions me r id) (a : Action) :
    s₀.Admits (actions ++ [a]) me r id := by
  obtain ⟨before, rest, order, rfl, fills, put, told⟩ := admits
  exact ⟨before, rest ++ [a], order, List.append_assoc .., fills, put, told⟩

theorem Unvisited.visited (unvisited : s₀.Unvisited) : s₀.Visited [] where
  posted me t here := by
    cases t with
    | purchase r web id stage due =>
        cases web with
        | false => trivial
        | true => exact absurd here (unvisited.tasks me r id stage due)
    | _ => trivial
  fit me r result told := absurd told (unvisited.answers me r result)
  admits me r id told := absurd told (unvisited.answers me r (.ok id))
  logged := by
    have none_told : s₀.answers.filterMap (fun e => e.2.failure?) = [] := by
      refine List.filterMap_eq_nil_iff.mpr fun ⟨me, answer⟩ member => ?_
      cases answer with
      | purchased r web result =>
          cases web with
          | false => rfl
          | true => exact absurd member (unvisited.answers me r result)
      | _ => rfl
    exact (List.filterMap_eq_nil_iff.mpr unvisited.log).trans none_told.symm

/-- One more action keeps it, as long as purchases come in through the router. An answer
that was told before was told by an earlier turn. -/
theorem Visited.perform (visited : s₀.Visited actions)
    (ok : (s₀.after actions).ThroughRouter a) : s₀.Visited (actions ++ [a]) := by
  have last : s₀.after (actions ++ [a]) = (s₀.after actions).perform a := after_append ..
  have posted := perform_posted visited.posted ok
  obtain silent | ⟨me, t, s', turn, rfl, found, deed, placed⟩ :=
    (s₀.after actions).perform_silent_or_turn a
  · refine ⟨last ▸ posted, ?_, ?_, ?_⟩
    · rw [last, silent.answers]
      exact visited.fit
    · rw [last, silent.answers]
      exact fun me r id told => (visited.admits me r id told).concat a
    · rw [last, silent.answers, silent.failures]
      exact visited.logged
  · have answers : (s₀.after (actions ++ [.turn me])).answers =
        (s₀.after actions).answers ++ turn.answers me := by
      rw [last, placed.answers_eq, deed.frame.answers]
    have own {me' : TaskId} {answer : Answer} (told : (me', answer) ∈ turn.answers me) :
        me' = me := by
      cases turn <;> simp_all [Turn.answers]
    refine ⟨last ▸ posted, fun me' r result told => ?_, fun me' r id told => ?_, ?_⟩
    · rw [answers] at told
      obtain before | now := List.mem_append.mp told
      · exact visited.fit me' r result before
      · obtain rfl := own now
        exact deed.fit (visited.posted _ t found) now
    · rw [answers] at told
      obtain before | now := List.mem_append.mp told
      · exact (visited.admits me' r id before).concat _
      · obtain rfl := own now
        obtain ⟨⟨uuid, stage, due, rfl⟩, rfl⟩ := deed.purchased now
        obtain ⟨order, fills, rfl, put⟩ := deed.admits (visited.posted _ _ found) now
        refine ⟨actions, [], order, rfl, fills, ?_, answers⟩
        rw [last]
        generalize (s₀.after actions).perform _ = s'' at placed
        cases placed with
        | finish after =>
            rw [after.eq_of_not_receiver rfl]
            exact put
    · rw [answers, last, placed.stores.log, deed.failures, visited.logged, List.filterMap_append]

end Sale

end FlashSale
