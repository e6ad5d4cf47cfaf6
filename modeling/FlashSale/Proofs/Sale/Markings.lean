import FlashSale.Proofs.Reservations.Markers
import FlashSale.Proofs.Sale.Outside

/-!
# Who wrote a marker

Only purchases write markers here, each once and before it takes stock. Whatever then
becomes of the purchase, its marker stays in the history of the course, and the store
remembers it until its time comes. `Marked` is what the store, the tasks and the history
have to do with each other.
-/

namespace FlashSale

/-- The task is a call that writes a marker without a purchase. -/
def Task.isMarkCall : Task → Bool
  | reservation (.mark _) _ => true
  | _ => false

/-- The task is a purchase, wherever it stands. -/
def Task.isPurchase : Task → Bool
  | purchase .. => true
  | _ => false

namespace Sale

/-- A rule under which only purchases write markers, and every purchase starts at its
beginning. Anything else may happen. -/
def MarksByPurchase (_ : Sale) : Action → Prop
  | .start (.purchase _ _ _ stage _) => stage = .entering
  | .start t => t.isMarkCall = false
  | .reserve (.mark _) => False
  | _ => True

/-- The buyer, the request and the time of a note that a marker was written. -/
def Note.marked? : Note → Option (TaskId × String × Nat)
  | .marked buyer requestId time => some (buyer, requestId, time)
  | _ => none

/-- The markers that are noted, each with the buyer, the request and the time. -/
def markings (notes : List Note) : List (TaskId × String × Nat) := notes.filterMap Note.marked?

theorem mem_markings {work : List Note} {buyer : TaskId} {requestId : String} {time : Nat} :
    (buyer, requestId, time) ∈ markings work ↔ .marked buyer requestId time ∈ work := by
  simp only [markings, List.mem_filterMap]
  constructor
  · rintro ⟨note, member, told⟩
    cases note with
    | marked =>
        cases told
        exact member
    | _ => cases told
  · intro member
    exact ⟨_, member, rfl⟩

theorem markings_append (work more : List Note) :
    markings (work ++ more) = markings work ++ markings more := List.filterMap_append

/-- The markers of a course, those who wrote them, and what the store has of them. It is
the invariant of courses in which only purchases write markers. -/
structure Marked (s : Sale) (work : List Note) : Prop where
  remembers : s.reservations.Remembers s.now ((markings work).map Prod.snd)
  named : s.Named
  known : ∀ m ∈ markings work, m.1 < s.nextTask
  indirect : ∀ id t, s.tasks.get? id = some t → t.isMarkCall = false
  /-- A purchase that is about to write its marker has not written one. -/
  early : ∀ id r web uuid stage due, s.tasks.get? id = some (.purchase r web uuid stage due) →
    stage = .entering ∨ stage = .marking → ∀ m ∈ markings work, m.1 ≠ id
  /-- A purchase that is about to take stock has written its marker. -/
  taking : ∀ id r web uuid due, s.tasks.get? id = some (.purchase r web uuid .reserving due) →
    ∃ time, (id, r.requestId, time) ∈ markings work
  reserved : ∀ buyer requestId, .reserved buyer requestId ∈ work →
    ∃ time, (buyer, requestId, time) ∈ markings work

variable {s s' s'' : Sale} {me : TaskId} {t t' : Task} {turn : Turn} {work : List Note}

/-- What a step notes of markers is what the store has to remember of it. A step that
notes none forgets none. -/
theorem Deed.remembers (deed : Deed s me t s' turn) (indirect : t.isMarkCall = false)
    {written : List (String × Nat)} (remembers : s.reservations.Remembers s.now written) :
    s'.reservations.Remembers s.now
      (written ++ (markings (turn.notes s.now me t)).map Prod.snd) := by
  have quiet {reservations : Reservations} (none : markings (turn.notes s.now me t) = [])
      (kept : reservations.Remembers s.now written) :
      reservations.Remembers s.now
        (written ++ (markings (turn.notes s.now me t)).map Prod.snd) := by
    rw [none, List.map_nil, List.append_nil]
    exact kept
  have taken {item : String} {quantity : Int32} {reply : Reply Bool} {reservations : Reservations}
      (h : s.reservations.take item quantity = (reply, reservations)) :
      reservations.Remembers s.now written := by
    have same := s.reservations.take_markers item quantity
    rw [h] at same
    exact remembers.same same
  have returned {item : String} {quantity : Int32} {reply : Reply Unit}
      {reservations : Reservations}
      (h : s.reservations.putBack item quantity = (reply, reservations)) :
      reservations.Remembers s.now written := by
    have same := s.reservations.putBack_markers item quantity
    rw [h] at same
    exact remembers.same same
  cases deed with
  | marked reply => exact remembers.mark_ok_true reply
  | duplicate reply => exact quiet rfl (remembers.mark_of_ne reply (by simp))
  | markRefused reply => exact quiet rfl (remembers.mark_of_ne reply (by simp))
  | markOverflowed reply => exact quiet rfl (remembers.mark_of_ne reply (by simp))
  | reserved reply => exact quiet rfl (taken reply)
  | soldOut reply => exact quiet rfl (taken reply)
  | takeRefused reply => exact quiet rfl (taken reply)
  | takeOverflowed reply => exact quiet rfl (taken reply)
  | released reply => exact quiet rfl (returned reply)
  | releaseFailed reply => exact quiet rfl (returned reply)
  | releaseOverflowed reply => exact quiet rfl (returned reply)
  | returned reply => exact quiet rfl (returned reply)
  | returnFailed reply => exact quiet rfl (returned reply)
  | returnOverflowed reply => exact quiet rfl (returned reply)
  | @begun owner => cases owner <;> exact quiet rfl remembers
  | @committed owner => cases owner <;> exact quiet rfl remembers
  | @commitRefused owner => cases owner <;> exact quiet rfl remembers
  | @commitTimedOut owner => cases owner <;> exact quiet rfl remembers
  | @restored owner _ _ _ _ _ _ reply => cases owner <;> exact quiet rfl (returned reply)
  | @restoreFailed owner => cases owner <;> exact quiet rfl remembers
  | restoreOverflowed _ reply => exact quiet rfl (returned reply)
  | @called call due turn ends =>
      have none : markings (turn.notes s.now me (.reservation call due)) = [] := by
        obtain ⟨_, rfl⟩ | ⟨_, rfl⟩ | rfl := ends <;> rfl
      refine quiet none ?_
      cases call with
      | setStock item quantity => exact remembers.same (s.reservations.setStock_markers ..)
      | take item quantity => exact remembers.same (s.reservations.take_markers ..)
      | putBack item quantity => exact remembers.same (s.reservations.putBack_markers ..)
      | mark => cases indirect
  | commitCalled ends =>
      refine quiet ?_ remembers
      obtain ⟨_, rfl⟩ | rfl := ends <;> rfl
  | looked ends =>
      refine quiet ?_ remembers
      obtain ⟨_, rfl⟩ | rfl := ends <;> rfl
  | updated ends =>
      refine quiet ?_ remembers
      obtain ⟨_, rfl⟩ | rfl := ends <;> rfl
  | _ => exact quiet rfl remembers

theorem Deed.isMarkCall_eq_false (deed : Deed s me t s' turn) (goes : turn = .again t') :
    t'.isMarkCall = false := by
  cases deed.next goes <;> rfl

/-- A purchase that is about to write its marker comes from its beginning. -/
theorem Deed.early {r : PurchaseRequest} {web : Bool} {uuid : Uuid} {stage : Purchase.Stage}
    {due : Nat} (deed : Deed s me t s' turn) (goes : turn = .again (.purchase r web uuid stage due))
    (early : stage = .entering ∨ stage = .marking) : ∃ due, t = .purchase r web uuid .entering due := by
  cases deed.next goes with
  | entered => exact ⟨_, rfl⟩
  | _ => simp at early

/-- A purchase that is about to take stock has just written its marker. -/
theorem Deed.taking {r : PurchaseRequest} {web : Bool} {uuid : Uuid} {due : Nat}
    (deed : Deed s me t s' turn) (goes : turn = .again (.purchase r web uuid .reserving due)) :
    markings (turn.notes s.now me t) = [(me, r.requestId, s.now)] := by
  have next := deed.next goes
  subst goes
  cases next
  rfl

/-- Only a purchase that goes on to take stock has written a marker. -/
theorem markings_notes {m : TaskId × String × Nat} (noted : m ∈ markings (turn.notes s.now me t)) :
    m.1 = me ∧ ∃ r web uuid due, turn = .again (.purchase r web uuid .reserving due) := by
  cases turn with
  | again t' =>
      rw [Turn.notes, noteOf.eq_def] at noted
      split at noted
      · cases noted
      · cases noted
      · obtain rfl := List.mem_singleton.mp noted
        exact ⟨rfl, _, _, _, _, rfl⟩
      · cases noted
      · cases noted
  | _ => cases noted

/-- Stock is taken by a purchase that was about to take it. -/
theorem reserved_notes {buyer : TaskId} {requestId : String}
    (noted : .reserved buyer requestId ∈ turn.notes s.now me t) :
    buyer = me ∧ ∃ r web uuid due, t = .purchase r web uuid .reserving due ∧
      r.requestId = requestId := by
  cases turn with
  | again t' =>
      rw [Turn.notes, noteOf.eq_def] at noted
      split at noted
      · cases List.mem_singleton.mp noted
      · cases List.mem_singleton.mp noted
      · cases List.mem_singleton.mp noted
      · cases List.mem_singleton.mp noted
        exact ⟨rfl, _, _, _, _, rfl, rfl⟩
      · cases noted
  | _ => cases noted

theorem Marked.of_turn (marked : Marked s work) (found : s.tasks.get? me = some t)
    (deed : Deed s me t s' turn) (placed : Placed s' me t turn s'') (named : s''.Named) :
    Marked s'' (work ++ turn.notes s.now me t) := by
  have frame := deed.frame
  have stores := placed.stores
  have nextTask : s''.nextTask = s.nextTask := stores.nextTask.trans frame.nextTask
  have now : s''.now = s.now := by
    cases placed <;> exact frame.now
  have kept {m : TaskId × String × Nat} (member : m ∈ markings work) :
      m ∈ markings (work ++ turn.notes s.now me t) := by
    rw [markings_append]
    exact List.mem_append_left _ member
  constructor
  case remembers =>
    rw [stores.reservations, now, markings_append, List.map_append]
    exact deed.remembers (marked.indirect me t found) marked.remembers
  case named => exact named
  case known =>
    intro m member
    rw [nextTask]
    rw [markings_append] at member
    obtain old | new := List.mem_append.mp member
    · exact marked.known m old
    · exact (markings_notes new).1 ▸ marked.named me t found
  case indirect =>
    intro id t' here
    obtain before | ⟨rfl, goes⟩ := placed.found here
    · exact marked.indirect id t' (frame.tasks ▸ before)
    · exact deed.isMarkCall_eq_false goes
  case early =>
    intro id r web uuid stage due here early m member
    rw [markings_append] at member
    obtain before | ⟨rfl, goes⟩ := placed.found here
    · rw [frame.tasks] at before
      obtain old | new := List.mem_append.mp member
      · exact marked.early id r web uuid stage due before early m old
      · -- The one that wrote a marker is about to take stock now.
        obtain ⟨rfl, r', web', uuid', due', rfl⟩ := markings_notes new
        rintro rfl
        cases placed
        rw [Table.get?_insert_self] at here
        cases here
        simp at early
    · obtain ⟨due', rfl⟩ := deed.early goes early
      obtain old | new := List.mem_append.mp member
      · exact marked.early id r web uuid .entering due' found (.inl rfl) m old
      · obtain ⟨-, r', web', uuid', due'', again⟩ := markings_notes new
        rw [goes] at again
        cases again
        simp at early
  case taking =>
    intro id r web uuid due here
    obtain before | ⟨rfl, goes⟩ := placed.found here
    · obtain ⟨time, member⟩ := marked.taking id r web uuid due (frame.tasks ▸ before)
      exact ⟨time, kept member⟩
    · refine ⟨s.now, ?_⟩
      rw [markings_append, deed.taking goes]
      exact List.mem_append_right _ (List.mem_singleton_self _)
  case reserved =>
    intro buyer requestId member
    obtain old | new := List.mem_append.mp member
    · obtain ⟨time, written⟩ := marked.reserved buyer requestId old
      exact ⟨time, kept written⟩
    · obtain ⟨rfl, r, web, uuid, due, rfl, rfl⟩ := reserved_notes new
      obtain ⟨time, written⟩ := marked.taking buyer r web uuid due found
      exact ⟨time, kept written⟩

/-- A change from outside leaves the markers alone and takes no time back. Stock may be
called for all the same. -/
theorem perform_markers {a : Action} (allowed : s.MarksByPurchase a) (other : ∀ id, a ≠ .turn id) :
    Reservations.SameMarkers s.reservations (s.perform a).reservations ∧
      s.now ≤ (s.perform a).now := by
  cases a with
  | turn id => exact absurd rfl (other id)
  | elapse ms => exact ⟨⟨rfl, rfl⟩, Nat.le_add_right ..⟩
  | reserve call =>
      refine ⟨?_, Nat.le_refl _⟩
      cases call with
      | setStock item quantity => exact s.reservations.setStock_markers item quantity
      | take item quantity => exact s.reservations.take_markers item quantity
      | putBack item quantity => exact s.reservations.putBack_markers item quantity
      | mark => cases allowed
  | cancel id =>
      have same := s.cancel_calls id
      rw [perform, same.reservations, same.now]
      exact ⟨⟨rfl, rfl⟩, Nat.le_refl _⟩
  | abandon id =>
      have same := s.abandon_calls id
      rw [perform, same.reservations, same.now]
      exact ⟨⟨rfl, rfl⟩, Nat.le_refl _⟩
  | startWorkers workers =>
      obtain ⟨tasks, ready, eq, -⟩ := s.startWorkers_eq workers
      rw [perform, eq]
      exact ⟨⟨rfl, rfl⟩, Nat.le_refl _⟩
  | dropReceiver =>
      obtain ⟨queue, ready, -, eq⟩ := s.dropReceiver_eq
      rw [perform, eq]
      exact ⟨⟨rfl, rfl⟩, Nat.le_refl _⟩
  | _ => exact ⟨⟨rfl, rfl⟩, Nat.le_refl _⟩

/-- Every action under the rule keeps the invariant. A turn may write a marker or take
stock; anything else leaves the markers alone. -/
theorem Marked.perform (marked : Marked s work) {a : Action} (allowed : s.MarksByPurchase a) :
    Marked (s.perform a) (work ++ s.notes a) := by
  obtain ⟨named, later⟩ := marked.named.perform a
  by_cases turns : ∃ id, a = .turn id
  · obtain ⟨id, rfl⟩ := turns
    change Marked (s.stepTask id) _
    cases found : s.tasks.get? id with
    | none =>
        rw [notes_of_get?_eq_none found, List.append_nil, stepTask_of_get?_eq_none found]
        exact ⟨marked.remembers, marked.named, marked.known, marked.indirect, marked.early,
          marked.taking, marked.reserved⟩
    | some t =>
        obtain ⟨s', turn, deed, placed⟩ := stepTask_cases found
        rw [notes_turn found deed placed]
        exact marked.of_turn found deed placed named
  · have other (id : TaskId) : a ≠ .turn id := fun turn => turns ⟨id, turn⟩
    obtain ⟨same, passed⟩ := perform_markers allowed other
    rw [notes_of_ne_turn other, List.append_nil]
    constructor
    case remembers => exact (marked.remembers.same same).later passed
    case named => exact named
    case known => exact fun m member => Nat.lt_of_lt_of_le (marked.known m member) later
    case indirect =>
      intro id t here
      cases perform_origin here with
      | kept found => exact marked.indirect id t found
      | started =>
          cases t with
          | reservation => exact allowed
          | _ => rfl
      | turned => exact absurd rfl (other id)
      | _ => rfl
    case early =>
      intro id r web uuid stage due here early m member
      cases perform_origin here with
      | kept found => exact marked.early id r web uuid stage due found early m member
      | started new => exact new ▸ Nat.ne_of_lt (marked.known m member)
      | turned => exact absurd rfl (other id)
    case taking =>
      intro id r web uuid due here
      cases perform_origin here with
      | kept found => exact marked.taking id r web uuid due found
      | started => cases allowed
      | turned => exact absurd rfl (other id)
    case reserved => exact marked.reserved

/-- Nothing was marked yet, and no purchase is under way. A course may begin there. -/
structure Unmarked (s : Sale) : Prop where
  markers : s.reservations.markers = ∅
  named : s.Named
  idle : ∀ id t, s.tasks.get? id = some t → t.isMarkCall = false ∧ t.isPurchase = false

theorem Unmarked.marked (unmarked : s.Unmarked) : Marked s [] where
  remembers := Reservations.remembers_nil unmarked.markers
  named := unmarked.named
  known _ member := (List.not_mem_nil member).elim
  indirect id t here := (unmarked.idle id t here).1
  early _ _ _ _ _ _ _ _ _ member := (List.not_mem_nil member).elim
  taking id r web uuid due here := by cases (unmarked.idle id _ here).2
  reserved _ _ member := (List.not_mem_nil member).elim

/-- A pipeline over a store without markers starts with none. -/
theorem pipeline?_unmarked {reservations : Reservations} {ledger : Ledger}
    {workers capacity commitLimit : Nat} (empty : reservations.markers = ∅)
    (opened : pipeline? reservations ledger workers capacity commitLimit = some s) :
    s.Unmarked := by
  have idle {id : TaskId} {t : Task} (here : s.tasks.get? id = some t) := pipeline?_idle opened here
  constructor
  case markers =>
    obtain ⟨tasks, ready, rfl, -⟩ := pipeline?_eq opened
    exact empty
  case named => exact fun id t here => (idle here).1
  case idle =>
    intro id t here
    obtain rfl := (idle here).2
    exact ⟨rfl, rfl⟩

theorem Unmarked.after (unmarked : s.Unmarked) {actions : List Action}
    (ok : Obeys MarksByPurchase s actions) : Marked (s.after actions) (s.history actions) := by
  refine ok.invariant (P := fun done => Marked (s.after done) (s.history done)) unmarked.marked ?_
  intro done a marked allowed
  rw [after_append, history_concat]
  exact marked.perform allowed

end Sale

end FlashSale
