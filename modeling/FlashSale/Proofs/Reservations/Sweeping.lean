import FlashSale.Proofs.Reservations.Calls
import FlashSale.Proofs.Reservations.Markers

/-!
# Sweeps are not seen

Expired markers are dropped by a sweep, at most once per time to live. A store whose sweep is
never due drops none; at the same calls the two answer alike, and whether a call writes a marker
is told from the log alone.

What a sweep is for is the size of the table. Once a store that works has been called, it is
left with no marker that is two times to live old. This rests on the time of the next sweep: it
is at most one time to live ahead, and no marker in the table had expired one time to live
before it.
-/

namespace FlashSale

def ReservationCall.isMark : ReservationCall → Bool
  | .mark _ => true
  | _ => false

/-- The time at which a marker is to be written. -/
def ReservationAction.markTime? : ReservationAction → Option Nat
  | call time (.mark _) => some time
  | _ => none

namespace Reservations

variable {s s' : Reservations} {now time ttl due : Nat} {key other : String}
  {call : ReservationCall} {a : ReservationAction} {done actions : List ReservationAction}
  {calls : List Entry} {e : Entry}

/-- A store whose sweep is not due before the clock ends, so that it never drops a
marker. -/
def unswept (ttl : Nat) : Reservations := { ttl, nextSweep := some (clockEnd + 1) }

/-- The times at which markers are asked for. Calls for stock may come at any time,
since they do not look at the clock. -/
def markTimes (actions : List ReservationAction) : List Nat :=
  actions.filterMap ReservationAction.markTime?

/-- Markers are asked for in the order of time, and each would expire before the clock ends. -/
structure Timely (ttl : Nat) (actions : List ReservationAction) : Prop where
  ordered : (markTimes actions).Pairwise (· ≤ ·)
  fits : ∀ time ∈ markTimes actions, time + ttl ≤ clockEnd

/-- The call wrote a marker under the key. -/
def Entry.Wrote (e : Entry) (key : String) : Prop :=
  e.call = .mark key ∧ e.reply = some (.flag (.ok true))

instance : Decidable (s.Holds now key) := decidable_of_iff _ holds_iff

/-- What is live later is live now, if it has been written. -/
theorem Holds.earlier (holds : s.Holds time key) (later : now ≤ time) : s.Holds now key := by
  obtain ⟨expiry, here, live⟩ := holds
  exact ⟨expiry, here, Nat.lt_of_le_of_lt later live⟩

/-- The answer to a call depends on what is live, and not on what else is in the table.
-/
theorem mark_fst (key : String) (fits : now + s.ttl ≤ clockEnd) : (s.mark now key).1 =
    if s.unavailable then .fault .setIdempotencyKey else .ok (!decide (s.Holds now key)) := by
  have marking := s.mark_marking now key
  generalize s.mark now key = reply at marking
  cases marking with
  | refused unavailable => rw [if_pos unavailable]
  | overflowed _ outside => exact absurd fits (Nat.not_le.mpr outside)
  | held available _ holds => simp [available, holds]
  | wrote available _ free => simp [available, free]

/-- What is live from now on is what was live, and the marker if one is written. Whether
the call sweeps the table makes no difference to it. -/
theorem mark_holds (key : String) (later : now ≤ time) (fits : now + s.ttl ≤ clockEnd) :
    (s.mark now key).2.Holds time other ↔
      s.Holds time other ∨
        (s.mark now key).1 = .ok true ∧ other = key ∧ time < now + s.ttl := by
  have marking := s.mark_marking now key
  generalize s.mark now key = reply at marking
  cases marking with
  | refused => simp [Reply.fault, Reply.error, Reply.ok]
  | overflowed _ outside => exact absurd fits (Nat.not_le.mpr outside)
  | held _ swept => simp [swept.holds_later later, Reply.ok]
  | wrote _ swept free =>
      rw [holds_write, swept.holds_later later, swept.ttl]
      split
      · subst other
        have expired : ¬ s.Holds time key := fun holds => free (holds.earlier later)
        simp [expired]
      · simp [*]

theorem mark_get? {expiry : Nat} (here : (s.mark now key).2.markers.get? other = some expiry) :
    s.markers.get? other = some expiry ∨
      (s.mark now key).1 = .ok true ∧ other = key ∧ expiry = now + s.ttl := by
  have marking := s.mark_marking now key
  generalize s.mark now key = reply at marking here
  cases marking with
  | refused => exact .inl here
  | overflowed swept => exact .inl (swept.old _ _ here)
  | held _ swept => exact .inl (swept.old _ _ here)
  | wrote _ swept =>
      dsimp only at here
      rw [Table.get?_insert, swept.ttl] at here
      split at here
      · cases here
        exact .inr ⟨rfl, ‹_›, rfl⟩
      · exact .inl (swept.old _ _ here)

theorem mark_ttl (s : Reservations) (now : Nat) (key : String) :
    (s.mark now key).2.ttl = s.ttl := by
  have marking := s.mark_marking now key
  generalize s.mark now key = reply at marking
  cases marking with
  | refused => rfl
  | overflowed swept => exact swept.ttl
  | held _ swept => exact swept.ttl
  | wrote _ swept => exact swept.ttl

theorem handle_of_not_mark (s : Reservations) (now : Nat) (stock : call.isMark = false) :
    ∃ counters, (s.handle now call).2 = { s with counters } := by
  cases call with
  | setStock item quantity =>
      simp only [handle, setStock]
      split <;> exact ⟨_, rfl⟩
  | take item quantity =>
      simp only [handle, take]
      split
      · exact ⟨_, rfl⟩
      split
      · exact ⟨_, rfl⟩
      split
      · exact ⟨_, rfl⟩
      split <;> exact ⟨_, rfl⟩
  | putBack item quantity =>
      simp only [handle, putBack]
      split
      · exact ⟨_, rfl⟩
      split <;> exact ⟨_, rfl⟩
  | mark key => cases stock

/-- Two stores have the same counters and switches, and the same markers live from now
on. They may differ in expired markers, and in when they sweep. -/
structure Alike (now : Nat) (s s' : Reservations) : Prop where
  ttl : s'.ttl = s.ttl
  same : SameCounters s s'
  holds : ∀ time key, now ≤ time → (s'.Holds time key ↔ s.Holds time key)

theorem Alike.later (alike : Alike now s s') (later : now ≤ time) : Alike time s s' where
  ttl := alike.ttl
  same := alike.same
  holds _ _ after := alike.holds _ _ (Nat.le_trans later after)

/-- Stores that are alike answer a call for a marker alike and are alike afterwards,
although only one of them may sweep. -/
theorem Alike.mark (alike : Alike now s s') (key : String) (fits : now + s.ttl ≤ clockEnd) :
    (s'.mark now key).1 = (s.mark now key).1 ∧
      Alike now (s.mark now key).2 (s'.mark now key).2 := by
  have fits' : now + s'.ttl ≤ clockEnd := alike.ttl ▸ fits
  have reply : (s'.mark now key).1 = (s.mark now key).1 := by
    simp only [mark_fst key fits', mark_fst key fits, alike.same.unavailable,
      alike.holds now key (Nat.le_refl now)]
  have kept := s.mark_sameCounters now key
  have kept' := s'.mark_sameCounters now key
  refine ⟨reply, (mark_ttl ..).trans (alike.ttl.trans (mark_ttl ..).symm), ⟨?_, ?_, ?_⟩, ?_⟩
  · exact kept'.counters.trans (alike.same.counters.trans kept.counters.symm)
  · exact kept'.unavailable.trans (alike.same.unavailable.trans kept.unavailable.symm)
  · exact kept'.failIncrements.trans (alike.same.failIncrements.trans kept.failIncrements.symm)
  · intro time other later
    rw [mark_holds key later fits', mark_holds key later fits, reply, alike.ttl,
      alike.holds time other later]

/-- A call for stock is answered from the counters and the switches. -/
theorem SameCounters.handle (same : SameCounters s s') (time : Nat)
    (stock : call.isMark = false) : (s'.handle time call).1 = (s.handle time call).1 ∧
      SameCounters (s.handle time call).2 (s'.handle time call).2 := by
  obtain ⟨ttl, markers, nextSweep, rfl⟩ :
      ∃ ttl markers nextSweep, s' = { s with ttl, markers, nextSweep } := by
    obtain ⟨counters, unavailable, failIncrements⟩ := same
    exact ⟨s'.ttl, s'.markers, s'.nextSweep, by rw [← counters, ← unavailable, ← failIncrements]⟩
  cases call with
  | setStock item quantity =>
      simp only [Reservations.handle, setStock]
      split <;> exact ⟨rfl, rfl, rfl, rfl⟩
  | take item quantity =>
      simp only [Reservations.handle, take]
      split
      · exact ⟨rfl, rfl, rfl, rfl⟩
      split
      · exact ⟨rfl, rfl, rfl, rfl⟩
      split
      · exact ⟨rfl, rfl, rfl, rfl⟩
      split <;> exact ⟨rfl, rfl, rfl, rfl⟩
  | putBack item quantity =>
      simp only [Reservations.handle, putBack]
      split
      · exact ⟨rfl, rfl, rfl, rfl⟩
      split <;> exact ⟨rfl, rfl, rfl, rfl⟩
  | mark key => cases stock

/-- What does not ask for a marker leaves the markers and the time of the next sweep. -/
theorem perform_of_not_mark (s : Reservations) (quiet : a.markTime? = none) :
    ∃ counters unavailable failIncrements,
      s.perform a = { s with counters, unavailable, failIncrements } := by
  cases a with
  | call time call =>
      have stock : call.isMark = false := by cases call <;> first | rfl | cases quiet
      obtain ⟨counters, eq⟩ := s.handle_of_not_mark time stock
      exact ⟨counters, _, _, eq⟩
  | unavailable on => exact ⟨_, _, _, rfl⟩
  | failIncrements on => exact ⟨_, _, _, rfl⟩

theorem markTime?_eq_some (asked : a.markTime? = some time) :
    ∃ key, a = .call time (.mark key) := by
  cases a with
  | call _ call =>
      cases call with
      | mark key =>
          cases asked
          exact ⟨key, rfl⟩
      | _ => cases asked
  | _ => cases asked

theorem not_wrote_of_not_mark (quiet : a.markTime? = none) (noted : e ∈ s.note? a) :
    ¬ e.Wrote key := by
  rintro ⟨marks, -⟩
  cases a with
  | call time call =>
      cases noted
      obtain rfl : call = .mark key := marks
      cases quiet
  | _ => cases noted

theorem wrote_mark_iff :
    Entry.Wrote ⟨now, .mark key, (s.handle now (.mark key)).1⟩ other ↔
      (s.mark now key).1 = .ok true ∧ other = key := by
  have agrees (reply : Reply Bool) : reply.answer?.map ReservationReply.flag =
      some (.flag (.ok true)) ↔ reply = .ok true := by
    rcases reply with (_ | _) | _ <;> simp [Reply.answer?, Reply.ok]
  simp only [Entry.Wrote, handle, agrees, ReservationCall.mark.injEq, eq_comm, and_comm]

/-- Two stores that are alike note the same of a call for stock, or of a switch. -/
theorem Alike.quiet (alike : Alike now s s') (quiet : a.markTime? = none) :
    s'.note? a = s.note? a ∧ Alike now (s.perform a) (s'.perform a) := by
  obtain ⟨_, _, _, eq⟩ := s.perform_of_not_mark quiet
  obtain ⟨_, _, _, eq'⟩ := s'.perform_of_not_mark quiet
  have ttl : (s'.perform a).ttl = (s.perform a).ttl := by
    rw [eq, eq']
    exact alike.ttl
  have holds (time : Nat) (key : String) (later : now ≤ time) :
      (s'.perform a).Holds time key ↔ (s.perform a).Holds time key := by
    rw [eq, eq']
    exact alike.holds time key later
  obtain ⟨counters, unavailable, failIncrements⟩ := alike.same
  cases a with
  | call time call =>
      have stock : call.isMark = false := by cases call <;> first | rfl | cases quiet
      obtain ⟨reply, same⟩ := alike.same.handle time stock
      exact ⟨by simp only [note?, reply], ttl, same, holds⟩
  | unavailable on => exact ⟨rfl, ttl, ⟨counters, rfl, failIncrements⟩, holds⟩
  | failIncrements on => exact ⟨rfl, ttl, ⟨counters, unavailable, rfl⟩, holds⟩

/-- A timely course, built up action by action; no marker is asked for after `now`. Its
rules are the cases of every induction below. -/
inductive Course (ttl : Nat) : List ReservationAction → Nat → Prop where
  | nil (now : Nat) : Course ttl [] now
  | later {done : List ReservationAction} {now time : Nat} (course : Course ttl done now)
      (later : now ≤ time) : Course ttl done time
  | mark {done : List ReservationAction} {now : Nat} (course : Course ttl done now)
      (fits : now + ttl ≤ clockEnd) (key : String) :
      Course ttl (done ++ [.call now (.mark key)]) now
  | quiet {done : List ReservationAction} {now : Nat} {a : ReservationAction}
      (course : Course ttl done now) (quiet : a.markTime? = none) : Course ttl (done ++ [a]) now

theorem markTimes_concat (done : List ReservationAction) (a : ReservationAction) :
    markTimes (done ++ [a]) = markTimes done ++ a.markTime?.toList := by
  cases asked : a.markTime? <;> simp [markTimes, asked]

theorem Timely.before (timely : Timely ttl (done ++ [a])) : Timely ttl done := by
  obtain ⟨ordered, fits⟩ := timely
  rw [markTimes_concat] at ordered fits
  exact ⟨(List.pairwise_append.mp ordered).1, (List.forall_mem_append.mp fits).1⟩

theorem Timely.last (timely : Timely ttl (done ++ [.call time (.mark key)])) :
    (∀ earlier ∈ markTimes done, earlier ≤ time) ∧ time + ttl ≤ clockEnd := by
  obtain ⟨ordered, fits⟩ := timely
  rw [markTimes_concat] at ordered fits
  have here : time ∈ [time] := List.mem_singleton_self time
  exact ⟨fun earlier member => (List.pairwise_append.mp ordered).2.2 earlier member time here,
    (List.forall_mem_append.mp fits).2 time here⟩

/-- Every timely list of actions is such a course, up to any time that its calls do not
pass. -/
theorem Timely.course (timely : Timely ttl actions)
    (past : ∀ time ∈ markTimes actions, time ≤ now) : Course ttl actions now := by
  induction actions using List.reverseRecOn generalizing now with
  | nil => exact .nil now
  | append_singleton done a ih =>
      rw [markTimes_concat, List.forall_mem_append] at past
      cases asked : a.markTime? with
      | none => exact .quiet (ih timely.before past.1) asked
      | some time =>
          obtain ⟨key, rfl⟩ := markTime?_eq_some asked
          obtain ⟨earlier, fits⟩ := timely.last
          exact .later (.mark (ih timely.before earlier) fits key) (past.2 time (by simp [asked]))

theorem after_ttl (s : Reservations) (actions : List ReservationAction) :
    (s.after actions).ttl = s.ttl := by
  induction actions using List.reverseRecOn with
  | nil => rfl
  | append_singleton done a ih =>
      rw [after_concat, ← ih]
      cases asked : a.markTime? with
      | none =>
          obtain ⟨_, _, _, eq⟩ := (s.after done).perform_of_not_mark asked
          rw [eq]
      | some time =>
          obtain ⟨key, rfl⟩ := markTime?_eq_some asked
          exact mark_ttl ..

/-- A store that sweeps and one that never does log the same calls with the same
answers, and are alike after every timely course. -/
theorem after_alike (course : Course ttl actions now) :
    (unswept ttl).log actions = log { ttl } actions ∧
      Alike now (after { ttl } actions) ((unswept ttl).after actions) := by
  induction course with
  | nil now => exact ⟨rfl, rfl, ⟨rfl, rfl, rfl⟩, fun _ _ _ => .rfl⟩
  | later course later ih => exact ⟨ih.1, ih.2.later later⟩
  | @mark done now course fits key ih =>
      have fits' : now + (after { ttl } done).ttl ≤ clockEnd := by rwa [after_ttl]
      obtain ⟨reply, alike⟩ := ih.2.mark key fits'
      simp only [log_concat, after_concat, ih.1]
      exact ⟨by simp only [note?, handle, reply], alike⟩
  | quiet course asked ih =>
      obtain ⟨noted, alike⟩ := ih.2.quiet asked
      simp only [log_concat, after_concat, ih.1, noted, true_and]
      exact alike

/-- The markers are told from the log: none was never written, and what was written is
live until its time to live has passed. -/
structure Recalls (calls : List Entry) (now : Nat) (s : Reservations) : Prop where
  known : ∀ key expiry, s.markers.get? key = some expiry →
    ∃ e ∈ calls, e.Wrote key ∧ expiry = e.time + s.ttl
  live : ∀ key time, now ≤ time →
    (s.Holds time key ↔ ∃ e ∈ calls, e.Wrote key ∧ time < e.time + s.ttl)

theorem Recalls.later (recalls : Recalls calls now s) (later : now ≤ time) :
    Recalls calls time s :=
  { recalls with live := fun key _ after => recalls.live key _ (Nat.le_trans later after) }

/-- A call for a marker leaves the markers as the log tells them, with the call itself
at its end. -/
theorem Recalls.mark (recalls : Recalls calls now s) (key : String)
    (fits : now + s.ttl ≤ clockEnd) :
    Recalls (calls ++ [⟨now, .mark key, (s.handle now (.mark key)).1⟩]) now
      (s.mark now key).2 where
  known other expiry here := by
    rw [mark_ttl]
    obtain old | ⟨wrote, rfl, rfl⟩ := mark_get? here
    · obtain ⟨e, member, about⟩ := recalls.known other expiry old
      exact ⟨e, List.mem_append_left _ member, about⟩
    · refine ⟨_, List.mem_append_right _ (List.mem_singleton_self _), ?_, rfl⟩
      exact wrote_mark_iff.mpr ⟨wrote, rfl⟩
  live other time later := by
    rw [mark_holds key later fits, recalls.live other time later, mark_ttl]
    simp [or_and_right, exists_or, wrote_mark_iff, and_assoc]

/-- What does not ask for a marker writes none, so that the log tells the same of the
markers. -/
theorem exists_wrote_quiet (quiet : a.markTime? = none) {p : Entry → Prop} :
    (∃ e ∈ calls ++ (s.note? a).toList, e.Wrote key ∧ p e) ↔
      ∃ e ∈ calls, e.Wrote key ∧ p e := by
  constructor
  · rintro ⟨e, member, wrote, about⟩
    obtain old | new := List.mem_append.mp member
    · exact ⟨e, old, wrote, about⟩
    · exact absurd wrote (not_wrote_of_not_mark quiet (Option.mem_toList.mp new))
  · rintro ⟨e, member, about⟩
    exact ⟨e, List.mem_append_left _ member, about⟩

theorem Recalls.quiet (recalls : Recalls calls now s) (quiet : a.markTime? = none) :
    Recalls (calls ++ (s.note? a).toList) now (s.perform a) := by
  obtain ⟨counters, unavailable, failIncrements, eq⟩ := s.perform_of_not_mark quiet
  rw [eq]
  constructor
  · intro key expiry here
    rw [exists_wrote_quiet quiet]
    exact recalls.known key expiry here
  · intro key time later
    rw [exists_wrote_quiet quiet]
    exact recalls.live key time later

/-- Along a timely course the log tells which markers are live, and when each was
written. -/
theorem after_recalls (course : Course ttl actions now) :
    Recalls (log { ttl } actions) now (after { ttl } actions) := by
  induction course with
  | nil now => exact ⟨nofun, fun key time _ => by simp [Holds]⟩
  | later course later ih => exact ih.later later
  | @mark done now course fits key ih =>
      rw [after_concat, log_concat]
      exact ih.mark key (by rwa [after_ttl])
  | quiet course asked ih =>
      rw [after_concat, log_concat]
      exact ih.quiet asked

/-- The next sweep is due at most one time to live from now, and no marker in the table
had expired one time to live before it. -/
structure Paced (s : Reservations) (now due : Nat) : Prop where
  sweep : s.nextSweep = some due
  soon : due ≤ now + s.ttl
  recent : ∀ key expiry, s.markers.get? key = some expiry → due < expiry + s.ttl

/-- A sweep that is due drops all that has expired and sets the next one a time to live
ahead. One that is not due leaves everything as it is. -/
theorem Paced.markSwept (paced : s.Paced now due) (lasting : 0 < s.ttl) (key : String) :
    (s.markSwept now key).2.Paced now due := by
  unfold Reservations.markSwept
  split
  · exact paced
  split
  · exact paced
  · refine ⟨paced.sweep, paced.soon, fun other expiry here => ?_⟩
    dsimp only at here ⊢
    rw [Table.get?_insert] at here
    split at here
    · cases here
      exact Nat.lt_of_le_of_lt paced.soon (Nat.lt_add_of_pos_right lasting)
    · exact paced.recent other expiry here

/-- No marker was written yet, or sweeps have their pace. The first call for a marker
sets the time of the first sweep. -/
def Begun (s : Reservations) (now : Nat) : Prop :=
  s.markers = ∅ ∧ s.nextSweep = none ∨ ∃ due, s.Paced now due

theorem Begun.later (begun : s.Begun now) (later : now ≤ time) : s.Begun time := by
  refine begun.imp id ?_
  rintro ⟨due, paced⟩
  exact ⟨due, { paced with soon := Nat.le_trans paced.soon (Nat.add_le_add_right later _) }⟩

/-- A call of a store that works leaves the next sweep ahead. -/
theorem Begun.mark (begun : s.Begun now) (available : s.unavailable = false)
    (lasting : 0 < s.ttl) (fits : now + s.ttl ≤ clockEnd) (key : String) :
    ∃ due, now < due ∧ (s.mark now key).2.Paced now due := by
  unfold Reservations.mark
  rw [available, if_neg Bool.false_ne_true]
  split
  · dsimp only
    rw [if_neg (Nat.not_lt.mpr fits)]
    refine ⟨now + s.ttl, Nat.lt_add_of_pos_right lasting, ?_⟩
    refine Paced.markSwept (s := { s.dropExpired now with nextSweep := some (now + s.ttl) })
      ⟨rfl, Nat.le_refl _, ?_⟩ lasting key
    intro other expiry here
    have live : now < expiry := by
      simp only [dropExpired, Table.get?_filter, Option.filter_eq_some_iff] at here
      exact of_decide_eq_true here.2
    exact Nat.add_lt_add_right live s.ttl
  · rename_i not_due
    obtain ⟨-, never⟩ | ⟨due, paced⟩ := begun
    · simp [sweepDue, never] at not_due
    · have later : now < due := by simpa [sweepDue, paced.sweep] using not_due
      exact ⟨due, later, paced.markSwept lasting key⟩

theorem after_begun (lasting : 0 < ttl) (course : Course ttl actions now) :
    (after { ttl } actions).Begun now := by
  induction course with
  | nil now => exact .inl ⟨rfl, rfl⟩
  | later course later ih => exact ih.later later
  | @mark done now course fits key ih =>
      rw [after_concat]
      cases available : (after { ttl } done).unavailable with
      | true =>
          have refused : (after { ttl } done).mark now key =
            (.fault .setIdempotencyKey, after { ttl } done) := if_pos available
          simpa only [perform, handle, refused] using ih
      | false =>
          obtain ⟨due, -, paced⟩ := ih.mark available (by rwa [after_ttl]) (by rwa [after_ttl]) key
          exact .inr ⟨due, paced⟩
  | @quiet done now a course asked ih =>
      obtain ⟨_, _, _, eq⟩ := (after { ttl } done).perform_of_not_mark asked
      rw [after_concat, eq]
      exact ih.imp id fun ⟨due, paced⟩ => ⟨due, paced.sweep, paced.soon, paced.recent⟩

/-- What was ever written is in the table, and no sweep is due before the clock ends. -/
structure Hoards (calls : List Entry) (s : Reservations) : Prop where
  never : s.nextSweep = some (clockEnd + 1)
  kept : ∀ e ∈ calls, ∀ key, e.Wrote key → s.markers.get? key ≠ none

/-- Without a sweep the table only grows. What is live in it is the same, by what is
known of any sweep. -/
theorem mark_of_never (never : s.nextSweep = some due) (ahead : now < due) :
    (s.mark now key).1 ≠ .ok true ∧ (s.mark now key).2 = s ∨
      (s.mark now key).2 = { s with markers := s.markers.insert key (now + s.ttl) } := by
  unfold mark markSwept
  split
  · exact .inl ⟨by simp [Reply.fault, Reply.error, Reply.ok], rfl⟩
  split
  · rename_i passed
    rw [sweepDue, never] at passed
    exact absurd (of_decide_eq_true passed) (Nat.not_le.mpr ahead)
  split
  · exact .inl ⟨by simp [Reply.ok], rfl⟩
  split
  · exact .inl ⟨by simp [Reply.ok], rfl⟩
  · exact .inr rfl

theorem Hoards.mark (hoards : Hoards calls s) (key : String) (fits : now ≤ clockEnd) :
    Hoards (calls ++ [⟨now, .mark key, (s.handle now (.mark key)).1⟩]) (s.mark now key).2 := by
  obtain ⟨other, same⟩ | grown := mark_of_never hoards.never (Nat.lt_succ_of_le fits)
  · rw [same]
    refine ⟨hoards.never, fun e member key' wrote => ?_⟩
    obtain old | new := List.mem_append.mp member
    · exact hoards.kept e old key' wrote
    · obtain rfl := List.mem_singleton.mp new
      exact absurd (wrote_mark_iff.mp wrote).1 other
  · rw [grown]
    refine ⟨hoards.never, fun e member key' wrote => ?_⟩
    dsimp only
    rw [Table.get?_insert]
    split
    · exact Option.some_ne_none _
    · rename_i differs
      obtain old | new := List.mem_append.mp member
      · exact hoards.kept e old key' wrote
      · obtain rfl := List.mem_singleton.mp new
        exact absurd (wrote_mark_iff.mp wrote).2 differs

/-- A store that never sweeps has every key that it ever wrote, after any timely course.
-/
theorem after_hoards (course : Course ttl actions now) :
    Hoards ((unswept ttl).log actions) ((unswept ttl).after actions) := by
  induction course with
  | nil now => exact ⟨rfl, nofun⟩
  | later course later ih => exact ih
  | @mark done now course fits key ih =>
      rw [after_concat, log_concat]
      exact ih.mark key (by omega)
  | @quiet done now a course asked ih =>
      obtain ⟨_, _, _, eq⟩ := ((unswept ttl).after done).perform_of_not_mark asked
      rw [after_concat, log_concat, eq]
      refine ⟨ih.never, fun e member key wrote => ?_⟩
      obtain old | new := List.mem_append.mp member
      · exact ih.kept e old key wrote
      · exact absurd wrote (not_wrote_of_not_mark asked (Option.mem_toList.mp new))

/-- What can be said of a call for a marker, after calls of a store that was empty at
first. -/
structure Unseen (ttl : Nat) (done : List ReservationAction) (time : Nat) (key : String) :
    Prop where
  /-- Every call so far, and this one, is answered as by a store that is never swept. -/
  alike : log { ttl } (done ++ [.call time (.mark key)]) =
    (unswept ttl).log (done ++ [.call time (.mark key)])
  /-- That store has every key that was ever written. -/
  hoards : ∀ e ∈ log { ttl } (done ++ [.call time (.mark key)]), ∀ other, e.Wrote other →
    ((unswept ttl).after (done ++ [.call time (.mark key)])).markers.get? other ≠ none
  wrote_iff : (handle (after { ttl } done) time (.mark key)).1 = some (.flag (.ok true)) ↔
    (after { ttl } done).unavailable = false ∧
      ∀ e ∈ log { ttl } done, e.Wrote key → e.time + ttl ≤ time
  /-- If the store works, every marker that it is left with was written by a call less than two
  times to live ago. -/
  recent : 0 < ttl → (after { ttl } done).unavailable = false → ∀ other expiry,
    (after { ttl } (done ++ [.call time (.mark key)])).markers.get? other = some expiry →
      ∃ e ∈ log { ttl } (done ++ [.call time (.mark key)]),
        e.Wrote other ∧ expiry = e.time + ttl ∧ time < e.time + 2 * ttl

/-- A call writes the marker if and only if the store works and every marker of the key
has passed its time to live. -/
theorem mark_wrote_iff (key : String) (recalls : Recalls calls now s)
    (fits : now + s.ttl ≤ clockEnd) :
    (s.handle now (.mark key)).1 = some (.flag (.ok true)) ↔
      s.unavailable = false ∧ ∀ e ∈ calls, e.Wrote key → e.time + s.ttl ≤ now := by
  have replied : (s.handle now (.mark key)).1 = some (.flag (.ok true)) ↔
      (s.mark now key).1 = .ok true := by
    have wrote : Entry.Wrote ⟨now, .mark key, (s.handle now (.mark key)).1⟩ key ↔ _ :=
      wrote_mark_iff
    simpa [Entry.Wrote] using wrote
  rw [replied, mark_fst key fits]
  cases s.unavailable with
  | true => simp [Reply.fault, Reply.error, Reply.ok]
  | false => simp [Reply.ok, recalls.live key now (Nat.le_refl now)]

/-- Sweeps are not seen, whatever is called and whichever switches are set in between;
and they leave no marker that is two times to live old. -/
theorem mark_unseen (ttl : Nat) (done : List ReservationAction) (time : Nat) (key : String)
    (timely : Timely ttl (done ++ [.call time (.mark key)])) : Unseen ttl done time key := by
  obtain ⟨earlier, fits⟩ := timely.last
  have before : Course ttl done time := timely.before.course earlier
  have course := before.mark fits key
  have lasts (actions : List ReservationAction) : (after { ttl } actions).ttl = ttl := after_ttl ..
  have fits' : time + (after { ttl } done).ttl ≤ clockEnd := by rwa [lasts]
  have recalls := after_recalls course
  obtain ⟨logs, -⟩ := after_alike course
  constructor
  · exact logs.symm
  · rw [← logs]
    exact (after_hoards course).kept
  · have wrote_iff := mark_wrote_iff key (after_recalls before) fits'
    rwa [lasts] at wrote_iff
  · intro lasting available other expiry here
    obtain ⟨e, member, wrote, expires⟩ := recalls.known other expiry here
    obtain ⟨due, ahead, paced⟩ := (after_begun lasting before).mark available
      (by rwa [lasts]) fits' key
    rw [after_concat] at here
    have recent := paced.recent other expiry here
    rw [mark_ttl, lasts] at recent
    rw [lasts] at expires
    exact ⟨e, member, wrote, expires, by omega⟩

/-- A marker is written again once its time to live has passed to the millisecond, when the sweep
is due as well. -/
theorem mark_unseen_at_expiry :
    Timely 10 [.call 0 (.mark "a"), .unavailable true, .call 4 (.mark "b"), .unavailable false,
      .call 9 (.mark "a"), .call 10 (.mark "a")] ∧
    Unseen 10 [.call 0 (.mark "a"), .unavailable true, .call 4 (.mark "b"), .unavailable false,
      .call 9 (.mark "a")] 10 "a" := by
  have timely : Timely 10 [.call 0 (.mark "a"), .unavailable true, .call 4 (.mark "b"),
      .unavailable false, .call 9 (.mark "a"), .call 10 (.mark "a")] :=
    ⟨by decide, by decide⟩
  exact ⟨timely, mark_unseen 10 _ 10 "a" timely⟩

end Reservations

end FlashSale
