import FlashSale.Proofs.Reservations.Calls
import FlashSale.Proofs.Reservations.Counters
import Mathlib.Algebra.Order.Ring.Int
import Mathlib.Data.List.DropRight

/-!
# Counters told from the calls

A call for an item that goes through writes the counter of the item: setting stock writes the
quantity, taking and putting back move what is there. `Handled` lists what a call can come to;
no other call changes a counter, and none but setting and putting back creates one.

`after_tallied` tells the counters of a store from the log of its calls, whatever is called and
whichever switches are set in between.
-/

namespace FlashSale

namespace ReservationCall

/-- The quantity that is written whatever the counter has. -/
def written? : ReservationCall → Option Int
  | setStock _ quantity => some quantity.toInt
  | _ => none

/-- What is added to the counter. -/
def moved : ReservationCall → Int
  | take _ quantity => -quantity.toInt
  | putBack _ quantity => quantity.toInt
  | _ => 0

end ReservationCall

@[simp] theorem ReservationReply.agrees_unit {reply : Reply Unit} :
    (reply.answer?.map ReservationReply.unit).any agrees = true ↔ reply = .answer (.ok ()) := by
  rcases reply with (_ | _) | _ <;> simp [Reply.answer?, agrees]

@[simp] theorem ReservationReply.agrees_flag {reply : Reply Bool} :
    (reply.answer?.map ReservationReply.flag).any agrees = true ↔ reply = .answer (.ok true) := by
  rcases reply with (_ | _) | _ <;> simp [Reply.answer?, agrees]

namespace Reservations

namespace Entry

variable (item : String) (e : Entry)

/-- The call went through and is about the counter of this item. -/
def writes : Bool := e.succeeded && e.call.item? == some item

/-- Stock of the item was set or put back. -/
def creates : Bool := e.writes item && !e.call.isTake

/-- The value that the counter of the item was set to. -/
def set? : Option Int := if e.writes item then e.call.written? else none

/-- The amount by which the counter of the item was moved. -/
def moved : Int := if e.writes item then e.call.moved else 0

end Entry

/-- The value that the counter of the item was last set to, zero if it was never set. A
counter begins at zero when stock is put back first. -/
def lastSet (item : String) (log : List Entry) : Int :=
  (log.filterMap (Entry.set? item)).getLast?.getD 0

/-- The calls after the one that last set the counter of the item, all if it was never set. -/
def sinceSet (item : String) (log : List Entry) : List Entry :=
  log.rtakeWhile fun e => (e.set? item).isNone

/-- What the counter of the item was last set to, with what was moved since. -/
def tally (item : String) (log : List Entry) : Int :=
  lastSet item log + ((sinceSet item log).map (Entry.moved item)).sum

variable {s s' : Reservations} {now : Nat} {call : ReservationCall} {item : String} {e : Entry}

/-- One more call in the log sets the tally, moves it, or leaves it. This is the step of
which `after_counter` is the run. -/
theorem tally_concat (item : String) (log : List Entry) (e : Entry) :
    tally item (log ++ [e]) = (e.set? item).getD (tally item log + e.moved item) := by
  unfold tally lastSet sinceSet
  cases set : e.set? item with
  | none => simp [set, Int.add_assoc]
  | some n => simp [set]

/-- What a call can come to. The three cases are what the tallies depend on, and not
which call it was. -/
inductive Handled (s : Reservations) (call : ReservationCall) :
    Option ReservationReply → Reservations → Prop where
  | declined {reply s'} (refuses : reply.any ReservationReply.agrees = false)
      (same : s'.counters = s.counters) : Handled s call reply s'
  | marked {reply s'} (about : call.item? = none) (same : s'.counters = s.counters) :
      Handled s call reply s'
  | wrote {reply item n} (about : call.item? = some item)
      (agrees : reply.any ReservationReply.agrees = true)
      (level : n.toInt = call.written?.getD (s.counter item + call.moved))
      (there : call.isTake = true → s.stock? item ≠ none) :
      Handled s call reply { s with counters := s.counters.insert item n }

theorem setStock_handled (s : Reservations) (now : Nat) (item : String) (quantity : Int32) :
    Handled s (.setStock item quantity) (s.handle now (.setStock item quantity)).1
      (s.handle now (.setStock item quantity)).2 := by
  simp only [handle, setStock]
  split
  · exact .declined rfl rfl
  · refine .wrote rfl rfl ?_ fun takes => absurd takes Bool.false_ne_true
    exact Int32.toInt_toInt64 quantity

theorem take_handled (s : Reservations) (now : Nat) (item : String) (quantity : Int32) :
    Handled s (.take item quantity) (s.handle now (.take item quantity)).1
      (s.handle now (.take item quantity)).2 := by
  rcases replied : s.take item quantity with ⟨reply, s'⟩
  simp only [handle, replied]
  by_cases taken : reply = .answer (.ok true)
  · subst taken
    obtain ⟨-, left, less, rfl⟩ := take_eq_ok_true replied
    refine .wrote rfl rfl less fun _ absent => ?_
    rw [stock?] at absent
    cases switch : s.unavailable <;> simp [take, switch, absent, Reply.fault, Reply.error, Reply.ok]
      at replied
  · rw [take_of_ne_ok_true replied taken]
    exact .declined (Bool.eq_false_iff.mpr fun agrees =>
      taken (ReservationReply.agrees_flag.mp agrees)) rfl

theorem putBack_handled (s : Reservations) (now : Nat) (item : String) (quantity : Int32) :
    Handled s (.putBack item quantity) (s.handle now (.putBack item quantity)).1
      (s.handle now (.putBack item quantity)).2 := by
  rcases replied : s.putBack item quantity with ⟨reply, s'⟩
  simp only [handle, replied]
  by_cases back : reply = .answer (.ok ())
  · subst back
    obtain ⟨total, sum, rfl⟩ := putBack_eq_ok replied
    exact .wrote rfl rfl sum fun takes => absurd takes Bool.false_ne_true
  · rw [putBack_of_ne_ok replied back]
    exact .declined (Bool.eq_false_iff.mpr fun agrees =>
      back (ReservationReply.agrees_unit.mp agrees)) rfl

/-- Every call comes to one of these cases, by a look at each kind of call. -/
theorem handle_handled (s : Reservations) (now : Nat) (call : ReservationCall) :
    Handled s call (s.handle now call).1 (s.handle now call).2 := by
  cases call with
  | setStock item quantity => exact s.setStock_handled now item quantity
  | take item quantity => exact s.take_handled now item quantity
  | putBack item quantity => exact s.putBack_handled now item quantity
  | mark key => exact .marked rfl (s.mark_counters now key)

theorem stock?_of_counters (same : s'.counters = s.counters) (item : String) :
    s'.stock? item = s.stock? item := by
  rw [stock?, same, stock?]

/-- A call that goes through for an item writes its counter; any other call leaves it.
The entry of the call tells which. -/
theorem handle_counter (s : Reservations) (now : Nat) (call : ReservationCall) (item : String) :
    (s.handle now call).2.counter item =
      (Entry.set? item ⟨now, call, (s.handle now call).1⟩).getD
        (s.counter item + Entry.moved item ⟨now, call, (s.handle now call).1⟩) := by
  have handled := s.handle_handled now call
  generalize (s.handle now call).1 = reply, (s.handle now call).2 = s' at handled
  cases handled with
  | declined refuses same =>
      simp [counter, stock?_of_counters same, Entry.set?, Entry.moved, Entry.writes,
        Entry.succeeded, refuses]
  | marked about same =>
      simp [counter, stock?_of_counters same, Entry.set?, Entry.moved, Entry.writes, about]
  | @wrote item' n about agrees level _ =>
      rw [counter_insert]
      by_cases this : item = item'
      · subst this
        simp [Entry.set?, Entry.moved, Entry.writes, Entry.succeeded, about, agrees, level]
      · have other : ¬ item' = item := fun equal => this equal.symm
        simp [Entry.set?, Entry.moved, Entry.writes, about, this, other]

/-- Only setting stock and putting it back create a counter, and none is ever lost. -/
theorem handle_stock?_eq_none (s : Reservations) (now : Nat) (call : ReservationCall)
    (item : String) : (s.handle now call).2.stock? item = none ↔
      s.stock? item = none ∧ Entry.creates item ⟨now, call, (s.handle now call).1⟩ = false := by
  have handled := s.handle_handled now call
  generalize (s.handle now call).1 = reply, (s.handle now call).2 = s' at handled
  cases handled with
  | declined refuses same =>
      simp [stock?_of_counters same, Entry.creates, Entry.writes, Entry.succeeded, refuses]
  | marked about same => simp [stock?_of_counters same, Entry.creates, Entry.writes, about]
  | @wrote item' n about agrees level there =>
      simp only [stock?, Table.get?_insert]
      by_cases this : item = item'
      · subst this
        cases kind : call.isTake with
        | true => simpa [Entry.creates, kind, stock?] using there kind
        | false => simp [Entry.creates, Entry.writes, Entry.succeeded, about, agrees, kind]
      · have other : ¬ item' = item := fun equal => this equal.symm
        simp [Entry.creates, Entry.writes, about, this, other]

/-- A call that does not write the counter of an item leaves it. -/
theorem handle_stock?_of_not_writes
    (not_writes : Entry.writes item ⟨now, call, (s.handle now call).1⟩ = false) :
    (s.handle now call).2.stock? item = s.stock? item := by
  have handled := s.handle_handled now call
  generalize (s.handle now call).1 = reply, (s.handle now call).2 = s' at handled not_writes
  cases handled with
  | declined _ same => exact stock?_of_counters same item
  | marked _ same => exact stock?_of_counters same item
  | @wrote item' n about agrees _ _ =>
      have other : item ≠ item' := by
        rintro rfl
        simp [Entry.writes, Entry.succeeded, about, agrees] at not_writes
      exact (Table.get?_insert ..).trans (if_neg other)

/-- A store that can be reached gives away what its counter covers. The quantity may be
negative, as the store does not look at that. -/
theorem handle_take {quantity : Int32} (available : s.unavailable = false)
    (fits : s.counter item - quantity.toInt ≤ 9223372036854775807) :
    (s.handle now (.take item quantity)).1 =
      some (.flag (.ok ((s.stock? item).any fun held => quantity.toInt ≤ held.toInt))) := by
  unfold counter stock? at fits
  simp only [handle, take, available, stock?]
  cases found : s.counters.get? item with
  | none => rfl
  | some held =>
      rw [found, Option.getD_some] at fits
      rw [if_neg Bool.false_ne_true]
      by_cases short : held.toInt < quantity.toInt
      · simp [short, Reply.ok, Reply.answer?]
      · obtain ⟨left, less⟩ := exists_word64? (n := held.toInt - quantity.toInt) (by omega) fits
        simp [short, less, Int.not_lt.mp short]

theorem handle_take_left {quantity : Int32}
    (taken : (s.handle now (.take item quantity)).1 = some (.flag (.ok true))) :
    ∃ left, (s.handle now (.take item quantity)).2.stock? item = some left ∧ 0 ≤ left.toInt := by
  rcases replied : s.take item quantity with ⟨reply, s'⟩
  have agrees : reply = .answer (.ok true) := by
    simp only [handle, replied] at taken
    exact ReservationReply.agrees_flag.mp (taken ▸ rfl)
  subst agrees
  obtain ⟨covered, left, less, rfl⟩ := take_eq_ok_true replied
  simp only [handle, replied]
  exact ⟨left, Table.get?_insert_self .., by omega⟩

/-- If the counter is told from the log before an action, it is told from the log after
it. -/
theorem perform_counter {log : List Entry} (a : ReservationAction)
    (told : s.counter item = tally item log) :
    (s.perform a).counter item = tally item (log ++ (s.note? a).toList) := by
  cases a with
  | call time call =>
      rw [perform, handle_counter, note?, Option.toList_some, tally_concat, told]
  | _ =>
      rw [note?, Option.toList_none, List.append_nil]
      · exact told
      · nofun

/-- The counter is told from the log after any actions, for an item that had none in the
beginning. The induction adds one action at the end. -/
theorem after_counter (s : Reservations) (actions : List ReservationAction) (item : String)
    (fresh : s.stock? item = none) :
    (s.after actions).counter item = tally item (s.log actions) := by
  induction actions using List.reverseRecOn with
  | nil => simp [counter, fresh, tally, lastSet, sinceSet]
  | append_singleton done a ih =>
      rw [after_concat, log_concat]
      exact perform_counter a ih

/-- An item is without a counter after an action just when it was before, and the action
creates none. -/
theorem perform_stock?_eq_none (s : Reservations) (a : ReservationAction) (item : String) :
    (s.perform a).stock? item = none ↔
      s.stock? item = none ∧ ∀ e ∈ s.note? a, e.creates item = false := by
  cases a with
  | call time call => simp [perform, note?, handle_stock?_eq_none]
  | unavailable on => simp [perform, note?, stock?]
  | failIncrements on => simp [perform, note?, stock?]

theorem after_stock?_eq_none (s : Reservations) (actions : List ReservationAction) (item : String)
    (fresh : s.stock? item = none) : (s.after actions).stock? item = none ↔
      ∀ e ∈ s.log actions, e.creates item = false := by
  induction actions using List.reverseRecOn with
  | nil => simp [fresh]
  | append_singleton done a ih =>
      rw [after_concat, perform_stock?_eq_none, ih, log_concat, List.forall_mem_append]
      simp

/-- The counters of a store are told from the log of its calls, and so is what the next call does
to them. -/
structure Tallied (calls : List Entry) (s : Reservations) : Prop where
  /-- An item has no counter if and only if none was created. -/
  absent_iff : ∀ item, s.stock? item = none ↔ ∀ e ∈ calls, e.creates item = false
  level : ∀ item held, s.stock? item = some held → held.toInt = tally item calls
  /-- Stock is given away if and only if there is a counter that covers it, as long as what is
  left of it is a word. -/
  take : ∀ now item quantity, s.unavailable = false →
    s.counter item - quantity.toInt ≤ 9223372036854775807 →
      (s.handle now (.take item quantity)).1 =
        some (.flag (.ok ((s.stock? item).any fun held => quantity.toInt ≤ held.toInt)))
  left : ∀ now item quantity,
    (s.handle now (.take item quantity)).1 = some (.flag (.ok true)) →
      ∃ left, (s.handle now (.take item quantity)).2.stock? item = some left ∧ 0 ≤ left.toInt
  /-- A call that is told no, is refused or comes to grief changes no counter. -/
  declined : ∀ now call, (s.handle now call).1.any ReservationReply.agrees = false →
    ∀ item, (s.handle now call).2.stock? item = s.stock? item
  /-- A call for another item, or for a marker, does not change the counter. -/
  other : ∀ now call item, call.item? ≠ some item →
    (s.handle now call).2.stock? item = s.stock? item

/-- After any calls at any times, with the switches set at will, the counters of a store that was
empty are told from the calls that went through. -/
theorem after_tallied (ttl : Nat) (actions : List ReservationAction) :
    Tallied (log { ttl } actions) (after { ttl } actions) where
  absent_iff item := after_stock?_eq_none { ttl } actions item rfl
  level item held found := by
    rw [← after_counter { ttl } actions item rfl, counter, found]
    rfl
  take _ _ _ := handle_take
  left _ _ _ := handle_take_left
  declined now call declined item := by
    refine handle_stock?_of_not_writes ?_
    rw [Entry.writes, Entry.succeeded, declined, Bool.false_and]
  other now call item differs := by
    refine handle_stock?_of_not_writes ?_
    rw [Entry.writes, beq_false_of_ne differs, Bool.and_false]

end Reservations

end FlashSale
