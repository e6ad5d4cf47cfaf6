import FlashSale.Proofs.Sale.Replies

/-!
# First come, first served

Buyers are given slots in the order in which they came to stand in line, but for those who
were dropped there. That is so whatever the order in which tasks take turns, since a slot is
given by whoever frees it. If moreover the task whose turn comes is always the first of those
that are ready, sends that had to wait also succeed in the order in which they came.
-/

namespace FlashSale

namespace AdmissionQueue

/-- Those who stand in line after a change of the queue and did not before. -/
def newcomers (q q' : AdmissionQueue) : List TaskId := q'.waiting.filter fun id => id ∉ q.waiting

/-- Those to whom a slot was given by a change of the queue. -/
def served (q q' : AdmissionQueue) : List TaskId := q'.granted.filter fun id => id ∉ q.granted

end AdmissionQueue

namespace Sale

open AdmissionQueue

/-- The buyers that an action brings into the line. -/
def arriving (s : Sale) (a : Action) : List TaskId := s.queue.newcomers (s.perform a).queue

/-- The buyers in line to whom an action gives a slot. -/
def serving (s : Sale) (a : Action) : List TaskId := s.queue.served (s.perform a).queue

/-- The buyer that an action drops while it stands in line. -/
def withdrawing (s : Sale) (a : Action) : List TaskId :=
  (a.drops?.filter fun id => id ∈ s.queue.waiting).toList

variable {capacity : Nat} {s s₀ : Sale} {a : Action} {id me : TaskId} {tasks : Table TaskId Task}
  {queue : AdmissionQueue} {ready : List TaskId} {answers : List (TaskId × Answer)}

/-- How an action moves the line: somebody joins it, or those who are over are taken out
and a slot may be passed on to the first. -/
inductive LineMove (s : Sale) (tasks : Table TaskId Task) (queue : AdmissionQueue) : Prop where
  | joined {id t} (alive : s.tasks.get? id = some t) (new : id ∉ s.queue.buyers)
      (isOpen : s.queue.isClosed = false) (kept : tasks = s.tasks) (granted : queue.granted = s.queue.granted)
      (waiting : queue.waiting = s.queue.waiting ++ [id])
  | passed (passed : List TaskId)
      (granted : queue.granted = s.queue.granted.filter tasks.contains ++ passed)
      (waiting : s.queue.waiting.filter tasks.contains = passed ++ queue.waiting)

theorem contains_erase_iff : (s.tasks.erase me).contains id = true ↔
    id ≠ me ∧ s.tasks.contains id = true := by
  unfold Table.contains
  rw [Table.get?_erase]
  split <;> simp [*]

theorem Exchanging.contains (exchanging : s.Exchanging capacity) (member : id ∈ s.queue.buyers) :
    s.tasks.contains id = true := by
  obtain ⟨t, found, -⟩ := (exchanging.attended.attends id).buyer member
  simp [Table.contains, found]

theorem LineMove.still (granted : queue.granted = s.queue.granted)
    (waiting : queue.waiting = s.queue.waiting)
    (there : ∀ id ∈ s.queue.buyers, tasks.contains id = true) : LineMove s tasks queue := by
  refine .passed [] ?_ ?_
  · rw [granted, List.append_nil]
    exact (List.filter_eq_self.mpr fun id given => there id (mem_buyers.mpr (.inl given))).symm
  · rw [waiting]
    exact List.filter_eq_self.mpr fun id standing => there id (mem_buyers.mpr (.inr standing))

theorem filter_contains_erase (exchanging : s.Exchanging capacity) {line : List TaskId}
    (nodup : line.Nodup) (sub : ∀ id ∈ line, id ∈ s.queue.buyers) (me : TaskId) :
    line.filter (s.tasks.erase me).contains = line.erase me := by
  rw [nodup.erase_eq_filter]
  refine List.filter_congr fun id member => ?_
  have there := exchanging.contains (sub id member)
  rw [Bool.eq_iff_iff, contains_erase_iff]
  simp [there]

/-- Every action moves the line in one of the two ways. -/
theorem Exchange.line (exchange : Exchange s a tasks queue ready answers)
    (exchanging : s.Exchanging capacity) : LineMove s tasks queue := by
  have orderly := exchanging.attended.orderly
  have nodup := List.nodup_append.mp orderly.buyers
  have there : ∀ id ∈ s.queue.buyers, s.tasks.contains id = true := fun id => exchanging.contains
  have others {me : TaskId} (outside : me ∉ s.queue.buyers) :
      ∀ id ∈ s.queue.buyers, (s.tasks.erase me).contains id = true := by
    intro id member
    refine contains_erase_iff.mpr ⟨?_, there id member⟩
    rintro rfl
    exact outside member
  have no_buyer {me : TaskId} (found : s.tasks.get? me = some (.receive .caller)) :
      me ∉ s.queue.buyers := (exchanging.attended.attends me).not_buyer found rfl
  have granted_erase (me : TaskId) := filter_contains_erase exchanging nodup.1
    (fun id given => mem_buyers.mpr (.inl given)) me
  have waiting_erase (me : TaskId) := filter_contains_erase exchanging nodup.2.1
    (fun id standing => mem_buyers.mpr (.inr standing)) me
  have line (receiver : TaskId) : (s.queue.joinLine receiver).granted = s.queue.granted ∧
      (s.queue.joinLine receiver).waiting = s.queue.waiting := by
    unfold joinLine
    split <;> exact ⟨rfl, rfl⟩
  cases exchange with
  | slept => exact .still rfl rfl there
  | @claimed id order found given =>
      have apart : id ∉ s.queue.waiting := fun standing => nodup.2.2 id given id standing rfl
      refine .passed [] ?_ ?_
      · rw [granted_erase, List.append_nil]
        rfl
      · rw [waiting_erase, List.erase_of_not_mem apart]
        rfl
  | placed _ new => exact .still rfl rfl (others new)
  | refused _ new => exact .still rfl rfl (others new)
  | stood => exact .still rfl rfl there
  | joined found new isOpen => exact .joined found new isOpen rfl rfl rfl
  | @took id order taken woken found first popped =>
      obtain ⟨granted, waiting⟩ := pop?_lines popped
      rw [(line id).1] at granted
      rw [(line id).2] at waiting
      have outside := no_buyer found
      refine .passed woken ?_ ?_
      · rw [granted_erase, List.erase_of_not_mem fun given => outside (mem_buyers.mpr (.inl given))]
        exact granted
      · rw [waiting_erase,
          List.erase_of_not_mem fun standing => outside (mem_buyers.mpr (.inr standing))]
        exact waiting
  | ended found => exact .still (line _).1 (line _).2 (others (no_buyer found))
  | idle => exact .still (line _).1 (line _).2 there
  | elapsed => exact .still rfl rfl there
  | started =>
      refine .still rfl rfl fun id member => ?_
      have here := there id member
      unfold Table.contains at here ⊢
      rw [Table.get?_insert]
      split
      · rfl
      · exact here
  | missed => exact .still rfl rfl there
  | @unsent _ id =>
      obtain ⟨passed, more, -, -, granted, waiting⟩ := withdraw_lines orderly id
      refine .passed passed ?_ ?_
      · rw [granted_erase, granted]
      · rw [waiting_erase, waiting]
  | unreceived _ found => exact .still rfl rfl (others (no_buyer found))
  | closed => exact .still rfl rfl there
  | released => exact .still rfl rfl there

theorem newcomers_of_sub (sub : ∀ id ∈ queue.waiting, id ∈ s.queue.waiting) :
    s.queue.newcomers queue = [] :=
  List.filter_eq_nil_iff.mpr fun id standing => by simpa using sub id standing

/-- Who joined the line and who was given a slot can be told from the queue before and
after. No action does both. -/
theorem LineMove.newcomers_served (move : LineMove s tasks queue)
    (exchanging : s.Exchanging capacity) :
    (∃ id t, s.tasks.get? id = some t ∧ id ∉ s.queue.buyers ∧ tasks = s.tasks ∧
      queue.granted = s.queue.granted ∧ queue.waiting = s.queue.waiting ++ [id] ∧
      s.queue.newcomers queue = [id] ∧ s.queue.served queue = []) ∨
    (queue.granted = s.queue.granted.filter tasks.contains ++ s.queue.served queue ∧
      s.queue.waiting.filter tasks.contains = s.queue.served queue ++ queue.waiting ∧
      s.queue.newcomers queue = []) := by
  have nodup := List.nodup_append.mp exchanging.attended.orderly.buyers
  cases move with
  | @joined id t alive new _ kept granted waiting =>
      have apart : id ∉ s.queue.waiting := fun standing => new (mem_buyers.mpr (.inr standing))
      refine .inl ⟨id, t, alive, new, kept, granted, waiting, ?_, ?_⟩
      · simp [newcomers, waiting, apart]
      · simp [served, granted]
  | passed passed granted waiting =>
      have sub : ∀ id ∈ passed ++ queue.waiting, id ∈ s.queue.waiting := by
        intro id member
        rw [← waiting] at member
        exact (List.mem_filter.mp member).1
      have given : s.queue.served queue = passed := by
        unfold served
        rw [granted, List.filter_append, List.filter_eq_nil_iff.mpr, List.nil_append]
        · refine List.filter_eq_self.mpr fun id member => ?_
          have standing := sub id (List.mem_append_left _ member)
          simpa using fun given => nodup.2.2 id given id standing rfl
        · intro id member
          simpa using (List.mem_filter.mp member).1
      refine .inr ⟨given.symm ▸ granted, given.symm ▸ waiting, newcomers_of_sub fun id member => ?_⟩
      exact sub id (List.mem_append_right _ member)

theorem Exchange.gone (exchange : Exchange s a tasks queue ready answers)
    (absent : s.tasks.get? id = none) (named : id < s.nextTask) : tasks.get? id = none := by
  refine Option.eq_none_iff_forall_ne_some.mpr fun t here => ?_
  obtain before | ⟨new, -, -⟩ := exchange.get? here
  · rw [absent] at before
    cases before
  · exact Nat.ne_of_lt named new

theorem Exchange.drops (exchange : Exchange s a tasks queue ready answers)
    (drops : a.drops? = some id) : tasks.get? id = none := by
  cases exchange with
  | missed drops' absent =>
      obtain rfl := Option.some.inj (drops'.symm.trans drops)
      exact absent
  | unsent drops' =>
      obtain rfl := Option.some.inj (drops'.symm.trans drops)
      exact Table.get?_erase_self ..
  | unreceived drops' =>
      obtain rfl := Option.some.inj (drops'.symm.trans drops)
      exact Table.get?_erase_self ..
  | _ => cases drops

/-- A buyer leaves the line when it is dropped, or puts its order into its slot. -/
theorem Exchange.leaves (exchange : Exchange s a tasks queue ready answers)
    (exchanging : s.Exchanging capacity) (member : id ∈ s.queue.buyers)
    (gone : tasks.get? id = none) :
    a.drops? = some id ∨
      (id ∈ s.queue.granted ∧ ∃ order, answers = s.answers ++ [(id, .sent order)]) := by
  obtain ⟨t, alive, offers⟩ := (exchanging.attended.attends id).buyer member
  have erased {me : TaskId} (gone : (s.tasks.erase me).get? id = none) : id = me := by
    by_contra other
    rw [Table.get?_erase_of_ne other, alive] at gone
    cases gone
  have there (gone : s.tasks.get? id = none) : False := by
    rw [alive] at gone
    cases gone
  have receives {me : TaskId} (found : s.tasks.get? me = some (.receive .caller)) : id ≠ me := by
    rintro rfl
    obtain rfl := Option.some.inj (alive.symm.trans found)
    cases offers
  cases exchange with
  | @claimed _ order _ given =>
      obtain rfl := erased gone
      exact .inr ⟨given, order, rfl⟩
  | placed _ new =>
      obtain rfl := erased gone
      exact absurd member new
  | refused _ new =>
      obtain rfl := erased gone
      exact absurd member new
  | took found => exact absurd (erased gone) (receives found)
  | ended found => exact absurd (erased gone) (receives found)
  | started =>
      rw [Table.get?_insert] at gone
      split at gone
      · cases gone
      · exact (there gone).elim
  | unsent drops =>
      obtain rfl := erased gone
      exact .inl drops
  | unreceived _ found => exact absurd (erased gone) (receives found)
  | _ => exact (there gone).elim

/-- An action takes a buyer out of the line by dropping it there, and in no other way.
-/
theorem mem_withdrawing : id ∈ s.withdrawing a ↔ a.drops? = some id ∧ id ∈ s.queue.waiting := by
  simp only [withdrawing, Option.mem_toList, Option.filter_eq_some_iff,
    decide_eq_true_eq]

theorem mem_dropped : id ∈ s.dropped a ↔ a.drops? = some id ∧ s.tasks.contains id = true := by
  simp only [dropped, Option.mem_toList, Option.filter_eq_some_iff]

theorem filter_not_mem_append (line gone more : List TaskId) :
    (line.filter fun id => id ∉ gone ++ more) =
      (line.filter fun id => id ∉ gone).filter fun id => id ∉ more := by
  rw [List.filter_filter]
  refine List.filter_congr fun id _ => ?_
  rw [Bool.eq_iff_iff]
  simp only [List.mem_append, Bool.and_eq_true, decide_eq_true_eq]
  tauto

/-- Slots were given in the order of arrival, but for those who left the line. `came`,
`given` and `left` are the buyers of the course so far, each in the order of the
actions. -/
structure Lined (tasks : Table TaskId Task) (queue : AdmissionQueue) (next : TaskId)
    (came given left : List TaskId) : Prop where
  order : given ++ queue.waiting = came.filter fun id => id ∉ left
  given : ∀ id ∈ given, id ∈ queue.granted ∨ (tasks.get? id = none ∧ id < next)
  left : ∀ id ∈ left, tasks.get? id = none ∧ id < next

/-- The account goes on with what the action adds to it: who comes goes to its end, and
who is given a slot was the first of those who waited. -/
theorem Lined.exchange {came given left : List TaskId}
    (lined : Lined s.tasks s.queue s.nextTask came given left) (exchanging : s.Exchanging capacity)
    (exchange : Exchange s a tasks queue ready answers) {next : TaskId} (le : s.nextTask ≤ next) :
    Lined tasks queue next (came ++ s.queue.newcomers queue) (given ++ s.queue.served queue)
      (left ++ s.withdrawing a) := by
  have nodup := List.nodup_append.mp exchanging.attended.orderly.buyers
  have gone_still {id : TaskId} (gone : s.tasks.get? id = none ∧ id < s.nextTask) :
      tasks.get? id = none ∧ id < next :=
    ⟨exchange.gone gone.1 gone.2, gone.2.trans_le le⟩
  have alive {id : TaskId} (member : id ∈ s.queue.buyers) : s.tasks.get? id ≠ none :=
    Option.isSome_iff_ne_none.mp (exchanging.contains member)
  have named {id : TaskId} (member : id ∈ s.queue.buyers) : id < s.nextTask :=
    exchanging.attended.buyer_named member
  have leaves {id : TaskId} (standing : id ∈ s.queue.waiting) :
      id ∉ s.withdrawing a ↔ tasks.contains id = true := by
    rw [mem_withdrawing, Table.contains, Option.isSome_iff_ne_none]
    constructor
    · intro stays gone
      obtain drops | ⟨given, -⟩ :=
        exchange.leaves exchanging (mem_buyers.mpr (.inr standing)) gone
      · exact stays ⟨drops, standing⟩
      · exact nodup.2.2 id given id standing rfl
    · exact fun here dropped => here (exchange.drops dropped.1)
  have stays : (given.filter fun id => id ∉ s.withdrawing a) = given := by
    refine List.filter_eq_self.mpr fun id member => ?_
    have apart : id ∉ s.queue.waiting := by
      intro standing
      obtain given | ⟨gone, -⟩ := lined.given id member
      · exact nodup.2.2 id given id standing rfl
      · exact alive (mem_buyers.mpr (.inr standing)) gone
    simpa [mem_withdrawing] using Or.inr apart
  have filtered : (came.filter fun id => id ∉ left ++ s.withdrawing a) =
      given ++ s.queue.waiting.filter fun id => id ∉ s.withdrawing a := by
    rw [filter_not_mem_append, ← lined.order, List.filter_append, stays]
  have kept : (s.queue.waiting.filter fun id => id ∉ s.withdrawing a) =
      s.queue.waiting.filter tasks.contains :=
    List.filter_congr fun id standing => by
      rw [Bool.eq_iff_iff, decide_eq_true_eq]
      exact leaves standing
  have left' : ∀ id ∈ left ++ s.withdrawing a, tasks.get? id = none ∧ id < next := by
    intro id member
    obtain old | new := List.mem_append.mp member
    · exact gone_still (lined.left id old)
    · obtain ⟨drops, standing⟩ := mem_withdrawing.mp new
      exact ⟨exchange.drops drops, (named (mem_buyers.mpr (.inr standing))).trans_le le⟩
  obtain ⟨id, t, here, new, rfl, granted, waiting, came', served'⟩ | ⟨granted, waiting, came'⟩ :=
    (exchange.line exchanging).newcomers_served exchanging
  · have unleft : id ∉ left ++ s.withdrawing a := by
      intro member
      rw [(left' id member).1] at here
      cases here
    have all : s.queue.waiting.filter s.tasks.contains = s.queue.waiting :=
      List.filter_eq_self.mpr fun id standing => exchanging.contains (mem_buyers.mpr (.inr standing))
    have new : ([id].filter fun id => id ∉ left ++ s.withdrawing a) = [id] :=
      List.filter_eq_self.mpr (by simpa using unleft)
    refine ⟨?_, fun id member => ?_, left'⟩
    · rw [came', served', waiting, List.append_nil, List.filter_append, filtered, kept, all, new,
        List.append_assoc]
    · rw [served', List.append_nil] at member
      rw [granted]
      exact (lined.given id member).imp_right gone_still
  · refine ⟨?_, fun id member => ?_, left'⟩
    · rw [came', List.append_nil, filtered, kept, waiting, List.append_assoc]
    · obtain old | new := List.mem_append.mp member
      · obtain before | gone := lined.given id old
        · by_cases here : tasks.contains id = true
          · rw [granted]
            exact .inl (List.mem_append_left _ (List.mem_filter.mpr ⟨before, here⟩))
          · refine .inr ⟨?_, (named (mem_buyers.mpr (.inl before))).trans_le le⟩
            simpa [Table.contains] using here
        · exact .inr (gone_still gone)
      · rw [granted]
        exact .inl (List.mem_append_right _ new)

/-- The tasks that are ready, as far as buyers are concerned: those in line are not, and
those with a slot are in the order in which they were given it. -/
structure Lively (granted waiting ready : List TaskId) (next : TaskId) : Prop where
  nodup : ready.Nodup
  named : ∀ id ∈ ready, id < next
  asleep : ∀ id ∈ waiting, id ∉ ready
  granted : granted.Sublist ready

section Lively

variable {granted waiting ready more passed : List TaskId} {next : TaskId}

theorem Lively.later (lively : Lively granted waiting ready next) {later : TaskId}
    (le : next ≤ later) : Lively granted waiting ready later :=
  { lively with named := fun id member => (lively.named id member).trans_le le }

/-- Somebody who stands in no line is woken, and comes after those who are ready
already. -/
theorem Lively.wake (lively : Lively granted waiting ready next) (nodup : more.Nodup)
    (named : ∀ id ∈ more, id < next) (outside : ∀ id ∈ more, id ∉ waiting) :
    Lively granted waiting (ready ++ more.filter fun id => id ∉ ready) next where
  nodup := by
    refine lively.nodup.append (nodup.filter _) fun id old new => ?_
    exact of_decide_eq_true (List.mem_filter.mp new).2 old
  named id member := by
    obtain old | new := List.mem_append.mp member
    · exact lively.named id old
    · exact named id (List.mem_filter.mp new).1
  asleep id standing member := by
    obtain old | new := List.mem_append.mp member
    · exact lively.asleep id standing old
    · exact outside id (List.mem_filter.mp new).1 standing
  granted := lively.granted.trans (List.sublist_append_left ..)

/-- The first in line is given a slot and woken. Both lists get it at their end, so that
they stay in the same order. -/
theorem Lively.pass (lively : Lively granted (passed ++ waiting) ready next)
    (nodup : (passed ++ waiting).Nodup) (named : ∀ id ∈ passed, id < next) :
    Lively (granted ++ passed) waiting (ready ++ passed.filter fun id => id ∉ ready) next := by
  have asleep : (passed.filter fun id => id ∉ ready) = passed := by
    refine List.filter_eq_self.mpr fun id member => decide_eq_true ?_
    exact lively.asleep id (List.mem_append_left _ member)
  obtain ⟨first, -, apart⟩ := List.nodup_append.mp nodup
  rw [asleep]
  refine ⟨?_, fun id member => ?_, fun id standing member => ?_, ?_⟩
  · exact lively.nodup.append first fun id old new =>
      lively.asleep id (List.mem_append_left _ new) old
  · exact (List.mem_append.mp member).elim (lively.named id) (named id)
  · obtain old | new := List.mem_append.mp member
    · exact lively.asleep id (List.mem_append_right _ standing) old
    · exact apart id new id standing rfl
  · exact lively.granted.append (List.Sublist.refl _)

theorem Lively.erase (lively : Lively granted waiting ready next) (id : TaskId) :
    Lively (granted.erase id) waiting (ready.erase id) next where
  nodup := lively.nodup.erase id
  named id' member := lively.named id' (List.mem_of_mem_erase member)
  asleep id' standing member := lively.asleep id' standing (List.mem_of_mem_erase member)
  granted := lively.granted.erase id

theorem Lively.sub (lively : Lively granted waiting ready next) {line : List TaskId}
    (sub : ∀ id ∈ line, id ∈ waiting) : Lively granted line ready next :=
  { lively with asleep := fun id standing => lively.asleep id (sub id standing) }

end Lively

/-- Whatever happens, buyers with a slot are ready in the order in which they were given
it. -/
theorem Lively.exchange (before : Lively s.queue.granted s.queue.waiting s.ready s.nextTask)
    (exchanging : s.Exchanging capacity) (exchange : Exchange s a tasks queue ready answers) :
    Lively queue.granted queue.waiting ready (s.perform a).nextTask := by
  have orderly := exchanging.attended.orderly
  have later := (exchanging.attended.named.perform a).2
  have lively := before.later later
  have named {id : TaskId} (alive : s.tasks.contains id = true) : id < (s.perform a).nextTask := by
    obtain ⟨t, found⟩ := Option.isSome_iff_exists.mp alive
    exact (exchanging.attended.named id t found).trans_le later
  have ungiven {id : TaskId} (absent : s.tasks.get? id = none) : id ∉ s.queue.granted := fun given =>
    ((exchanging.attended.attends id).not_in_line absent).1 (mem_buyers.mpr (.inl given))
  have receiving {id : TaskId} (found : s.tasks.get? id = some (.receive .caller)) :
      id ∉ s.queue.granted := fun given =>
    (exchanging.attended.attends id).not_buyer found rfl (mem_buyers.mpr (.inl given))
  -- Receivers stand in no line of buyers.
  have receivers {more : List TaskId} (sub : more.Sublist s.queue.receivers) :
      more.Nodup ∧ (∀ id ∈ more, id < (s.perform a).nextTask) ∧ ∀ id ∈ more, id ∉ s.queue.waiting := by
    refine ⟨orderly.receivers.sublist sub, fun id member => ?_, fun id member standing => ?_⟩
    · obtain ⟨owner, found⟩ := (exchanging.attended.attends id).receiver (sub.subset member)
      exact named (by simp [Table.contains, found])
    · obtain ⟨owner, found⟩ := (exchanging.attended.attends id).receiver (sub.subset member)
      exact (exchanging.attended.attends id).not_buyer found rfl (mem_buyers.mpr (.inr standing))
  have wake {more : List TaskId} (sub : more.Sublist s.queue.receivers) :
      Lively s.queue.granted s.queue.waiting (s.wake more).ready (s.perform a).nextTask :=
    lively.wake (receivers sub).1 (receivers sub).2.1 (receivers sub).2.2
  have turn {id : TaskId} {ready : List TaskId}
      (lively : Lively s.queue.granted s.queue.waiting ready (s.perform a).nextTask)
      (outside : id ∉ s.queue.granted) :
      Lively s.queue.granted s.queue.waiting (ready.erase id) (s.perform a).nextTask := by
    have erased := lively.erase id
    rwa [List.erase_of_not_mem outside] at erased
  have line (receiver : TaskId) : (s.queue.joinLine receiver).granted = s.queue.granted ∧
      (s.queue.joinLine receiver).waiting = s.queue.waiting := by
    unfold joinLine
    split <;> exact ⟨rfl, rfl⟩
  cases exchange with
  | slept absent => exact turn lively (ungiven absent)
  | @claimed id order => exact (wake (front_sublist s.queue)).erase id
  | placed _ new =>
      exact turn (wake (front_sublist s.queue)) fun given => new (mem_buyers.mpr (.inl given))
  | refused _ new => exact turn lively fun given => new (mem_buyers.mpr (.inl given))
  | stood _ ungiven => exact turn lively ungiven
  | @joined id _ _ new =>
      have erased := turn lively fun given => new (mem_buyers.mpr (.inl given))
      refine { erased with asleep := fun id' standing => ?_ }
      obtain old | same := List.mem_append.mp standing
      · exact erased.asleep id' old
      · rw [List.mem_singleton.mp same]
        exact lively.nodup.not_mem_erase
  | @took id order taken woken found first popped =>
      obtain ⟨granted, waiting⟩ := pop?_lines popped
      rw [(line id).1] at granted
      rw [(line id).2] at waiting
      have next : (taken.uncount.leaveLine id).2.Sublist s.queue.receivers := by
        refine (leaveLine_woken ..).trans ?_
        change (taken.receivers.erase id).Sublist _
        rw [receivers_of_pop? popped]
        exact joinLine_erase ..
      obtain ⟨nodup, known, outside⟩ := receivers next
      have buyer {id : TaskId} (standing : id ∈ woken ++ taken.waiting) : id ∈ s.queue.buyers :=
        mem_buyers.mpr (.inr (waiting ▸ standing))
      have line : Lively s.queue.granted (woken ++ taken.waiting) s.ready _ := waiting ▸ lively
      have passed := line.pass (waiting ▸ (List.nodup_append.mp orderly.buyers).2.1) fun id member =>
        named (exchanging.contains (buyer (List.mem_append_left _ member)))
      have woken := passed.wake nodup known fun id member standing =>
        outside id member (waiting ▸ List.mem_append_right _ standing)
      have erased := woken.erase id
      rw [List.erase_of_not_mem, ← granted] at erased
      · exact erased
      · intro member
        obtain given | new := List.mem_append.mp member
        · exact receiving found given
        · exact (exchanging.attended.attends id).not_buyer found rfl
            (buyer (List.mem_append_left _ new))
  | @ended id found =>
      have woken := wake ((leaveLine_woken (s.queue.joinLine id) id).trans (joinLine_erase ..))
      have erased := turn woken (receiving found)
      rw [← (line id).1, ← (line id).2] at erased
      exact erased
  | @idle id found =>
      rw [(line id).1, (line id).2]
      exact turn lively (receiving found)
  | elapsed => exact lively
  | @started t =>
      have alone : ([s.nextTask].filter fun id => id ∉ s.ready) = [s.nextTask] := by
        refine List.filter_eq_self.mpr fun id member => decide_eq_true fun ready => ?_
        rw [List.mem_singleton.mp member] at ready
        exact Nat.lt_irrefl _ (before.named _ ready)
      have woken := lively.wake (List.nodup_singleton s.nextTask) ?_ ?_
      · rwa [alone] at woken
      · intro id member
        rw [List.mem_singleton.mp member]
        exact Nat.lt_succ_self s.nextTask
      · intro id member standing
        rw [List.mem_singleton.mp member] at standing
        exact Nat.lt_irrefl _ (exchanging.attended.buyer_named (mem_buyers.mpr (.inr standing)))
  | missed => exact lively
  | @unsent _ id =>
      obtain ⟨passed, more, woken, sub, granted, waiting⟩ := withdraw_lines orderly id
      obtain ⟨nodup, known, outside⟩ := receivers sub
      have standing {id' : TaskId} (member : id' ∈ passed ++ (s.queue.withdraw id).1.waiting) :
          id' ∈ s.queue.waiting := List.mem_of_mem_erase (waiting ▸ member)
      have line : Lively (s.queue.granted.erase id) (passed ++ (s.queue.withdraw id).1.waiting)
          (s.ready.erase id) _ := (lively.erase id).sub fun _ => standing
      have given := line.pass (waiting ▸ (List.nodup_append.mp orderly.buyers).2.1.erase id)
        fun id member => named (exchanging.contains
          (mem_buyers.mpr (.inr (standing (List.mem_append_left _ member)))))
      have awake := given.wake nodup known fun id member line =>
        outside id member (standing (List.mem_append_right _ line))
      have apart : (more.filter fun id' => id' ∉ s.ready.erase id ++
          passed.filter fun id' => id' ∉ s.ready.erase id) =
          more.filter fun id' => id' ∉ s.ready.erase id := by
        refine List.filter_congr fun id' member => ?_
        have new : id' ∉ passed := fun line =>
          outside id' member (standing (List.mem_append_left _ line))
        simp [new]
      rw [apart, List.append_assoc, ← List.filter_append, ← woken, ← granted] at awake
      exact awake
  | unreceived _ found =>
      exact turn (wake ((leaveLine_woken ..).trans List.erase_sublist)) (receiving found)
  | closed => exact wake (close_woken s.queue)
  | released => exact lively

/-- The task whose turn comes is the first of those that are ready. This is how the
scheduler chooses. -/
def InTurn (s : Sale) (a : Action) : Prop := ∀ id, a = .turn id → s.ready.head? = some id

/-- The sends that succeeded among those that had come to stand in line. Sends that
found a free slot are left out. -/
def succeeded (answers : List (TaskId × Answer)) (came : List TaskId) : List TaskId :=
  ((sent answers).map Prod.fst).filter fun id => id ∈ came

/-- Sends that came to stand in line succeed, and are given slots, in the order of
arrival, but for those that were dropped. -/
def Ordered (queue : AdmissionQueue) (answers : List (TaskId × Answer)) (came lost : List TaskId) :
    Prop :=
  succeeded answers came ++ queue.buyers = came.filter fun id => id ∉ lost

section Ordered

variable {came lost : List TaskId} {begun : List (TaskId × Task)}

theorem mem_sent_answered (member : id ∈ (sent answers).map Prod.fst) : id ∈ answers.map Prod.fst := by
  obtain ⟨⟨id, order⟩, sends, rfl⟩ := List.mem_map.mp member
  exact List.mem_map_of_mem (mem_sent.mp sends)

theorem mem_dropped_unanswered (replied : s.RepliesTo begun lost) (drops : id ∈ s.dropped a) :
    id ∉ s.answers.map Prod.fst := by
  obtain ⟨t, found⟩ := Option.isSome_iff_exists.mp (mem_dropped.mp drops).2
  exact replied.unanswered found

theorem not_mem_lost (replied : s.RepliesTo begun lost) {t : Task}
    (found : s.tasks.get? id = some t) : id ∉ lost := by
  intro member
  have gone := (replied.silent id member).1
  rw [found] at gone
  cases gone

/-- Dropping tasks takes no send away that has succeeded. -/
theorem Ordered.filter_dropped (ordered : Ordered s.queue s.answers came lost)
    (replied : s.RepliesTo begun lost) :
    (came.filter fun id => id ∉ lost ++ s.dropped a) =
      succeeded s.answers came ++ s.queue.buyers.filter fun id => id ∉ s.dropped a := by
  rw [filter_not_mem_append, ← ordered, List.filter_append]
  refine congrArg (· ++ _) (List.filter_eq_self.mpr fun id member => decide_eq_true fun drops => ?_)
  exact mem_dropped_unanswered replied drops (mem_sent_answered (List.mem_filter.mp member).1)

/-- An action after which no further send has succeeded leaves the order as it is. -/
theorem Ordered.quiet (ordered : Ordered s.queue s.answers came lost)
    (replied : s.RepliesTo begun lost) (exchanging : s.Exchanging capacity)
    (exchange : Exchange s a tasks queue ready answers) (same : sent answers = sent s.answers) :
    Ordered queue answers (came ++ s.queue.newcomers queue) (lost ++ s.dropped a) := by
  have stays {id : TaskId} (member : id ∈ s.queue.buyers) :
      id ∉ s.dropped a ↔ tasks.contains id = true := by
    have here := exchanging.contains member
    have there : tasks.contains id = true ↔ tasks.get? id ≠ none := Option.isSome_iff_ne_none
    rw [mem_dropped, there]
    constructor
    · intro stays gone
      obtain drops | ⟨-, order, eq⟩ := exchange.leaves exchanging member gone
      · exact stays ⟨drops, here⟩
      · rw [eq, sent_concat] at same
        have longer := congrArg List.length same
        simp [Answer.sent?] at longer
    · exact fun there drops => there (exchange.drops drops.1)
  have kept : (s.queue.buyers.filter fun id => id ∉ s.dropped a) =
      s.queue.buyers.filter tasks.contains :=
    List.filter_congr fun id member => by
      rw [Bool.eq_iff_iff, decide_eq_true_eq]
      exact stays member
  unfold Ordered
  rw [List.filter_append, ordered.filter_dropped replied, kept]
  obtain ⟨id, t, here, new, rfl, granted, waiting, came', served'⟩ | ⟨granted, waiting, came'⟩ :=
    (exchange.line exchanging).newcomers_served exchanging
  · have all : s.queue.buyers.filter s.tasks.contains = s.queue.buyers :=
      List.filter_eq_self.mpr fun id member => exchanging.contains member
    have only : ([id].filter fun id => id ∉ lost ++ s.dropped a) = [id] := by
      refine List.filter_eq_self.mpr fun id' member => decide_eq_true fun gone => ?_
      rw [List.mem_singleton.mp member] at gone
      obtain old | drops := List.mem_append.mp gone
      · exact not_mem_lost replied here old
      · have absent := exchange.drops (mem_dropped.mp drops).1
        rw [here] at absent
        cases absent
    have still : succeeded answers (came ++ [id]) = succeeded s.answers came := by
      unfold succeeded
      rw [same]
      refine List.filter_congr fun id' member => ?_
      have other : id' ≠ id := by
        rintro rfl
        exact replied.unanswered here (mem_sent_answered member)
      simp [other]
    rw [came', all, only, still]
    simp [AdmissionQueue.buyers, granted, waiting]
  · have still : succeeded answers came = succeeded s.answers came := by
      unfold succeeded
      rw [same]
    rw [came', List.append_nil, still, List.filter_nil, List.append_nil]
    refine congrArg (succeeded s.answers came ++ ·) ?_
    unfold AdmissionQueue.buyers
    rw [List.filter_append, waiting, granted, List.append_assoc]

/-- In the order of turns, the buyer that puts its order into its slot is the first that
was given one. -/
theorem Lively.first (lively : Lively s.queue.granted s.queue.waiting s.ready s.nextTask)
    (turn : s.ready.head? = some id) (given : id ∈ s.queue.granted) :
    ∃ rest, s.queue.granted = id :: rest := by
  obtain ⟨nodup, -, -, sub⟩ := lively
  obtain ⟨others, eq⟩ : ∃ others, s.ready = id :: others := List.head?_eq_some_iff.mp turn
  rw [eq] at sub nodup
  cases granted : s.queue.granted with
  | nil =>
      rw [granted] at given
      cases given
  | cons first rest =>
      rw [granted] at given sub
      cases sub with
      | cons _ later => exact absurd (later.subset given) (List.nodup_cons.mp nodup).1
      | cons_cons => exact ⟨rest, rfl⟩

/-- When tasks take turns in the order in which they got ready, sends succeed in the
order of arrival. -/
theorem Ordered.exchange (ordered : Ordered s.queue s.answers came lost)
    (replied : s.RepliesTo begun lost)
    (lively : Lively s.queue.granted s.queue.waiting s.ready s.nextTask)
    (exchanging : s.Exchanging capacity) (exchange : Exchange s a tasks queue ready answers)
    (turn : s.InTurn a) :
    Ordered queue answers (came ++ s.queue.newcomers queue) (lost ++ s.dropped a) := by
  have quiet := ordered.quiet replied exchanging exchange
  cases exchange with
  | @claimed id order found given =>
      obtain ⟨rest, granted⟩ := lively.first (turn id rfl) given
      have member : id ∈ came := by
        have all : id ∈ succeeded s.answers came ++ s.queue.buyers :=
          List.mem_append_right _ (mem_buyers.mpr (.inl given))
        rw [ordered] at all
        exact (List.mem_filter.mp all).1
      have new : s.queue.newcomers ((s.queue.claim id).put order) = [] :=
        newcomers_of_sub fun _ standing => standing
      have left : ((s.queue.claim id).put order).buyers = rest ++ s.queue.waiting := by
        change (s.queue.granted.erase id) ++ s.queue.waiting = _
        rw [granted, List.erase_cons_head]
      have more : succeeded (s.answers ++ [(id, .sent order)]) came =
          succeeded s.answers came ++ [id] := by
        simp [succeeded, sent_concat, Answer.sent?, member]
      unfold Ordered at ordered ⊢
      rw [new, List.append_nil, more, left]
      simp only [dropped, Action.drops?, Option.filter_none, Option.toList_none, List.append_nil]
      rw [← ordered, AdmissionQueue.buyers, granted]
      simp
  | @placed id order slots found new =>
      have absent : id ∉ came := by
        intro member
        have all : id ∈ succeeded s.answers came ++ s.queue.buyers := by
          rw [ordered]
          exact List.mem_filter.mpr ⟨member, decide_eq_true (not_mem_lost replied found)⟩
        obtain told | buyer := List.mem_append.mp all
        · exact replied.unanswered found (mem_sent_answered (List.mem_filter.mp told).1)
        · exact new buyer
      have none : s.queue.newcomers (put { s.queue with slots } order) = [] :=
        newcomers_of_sub fun _ standing => standing
      have same : succeeded (s.answers ++ [(id, .sent order)]) came = succeeded s.answers came := by
        simp [succeeded, sent_concat, Answer.sent?, absent]
      unfold Ordered at ordered ⊢
      rw [none, List.append_nil, same]
      simp only [dropped, Action.drops?, Option.filter_none, Option.toList_none, List.append_nil]
      exact ordered
  | refused => exact quiet (by simp [sent_concat, Answer.sent?])
  | took => exact quiet (by simp [sent_concat, Answer.sent?])
  | ended => exact quiet (by simp [sent_concat, Answer.sent?])
  | _ => exact quiet rfl

end Ordered

end Sale

end FlashSale
