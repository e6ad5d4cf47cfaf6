import FlashSale.Key
import FlashSale.Reservations

/-!
# What calls do to the markers

A marker is live until its time comes. A call that writes a marker is answered by
whether a live one is there already; a sweep drops only markers whose time has come, so
it changes no answer.

`Remembers` ties the table of markers to the list of all that were ever written: the
live ones are exactly the recent ones of the list. It says nothing of who wrote them or
what became of those who did.
-/

namespace FlashSale

/-- Two requests have two keys: the key is the request's identifier behind a fixed
prefix. -/
theorem idempotencyKey_injective {requestId requestId' : String}
    (same : idempotencyKey requestId = idempotencyKey requestId') : requestId = requestId' :=
  (String.append_right_inj idempotencyKeyPrefix).mp same

namespace Reservations

/-- A marker is there whose time has not come. Only such a marker makes a difference to
a caller. -/
def Holds (s : Reservations) (now : Nat) (key : String) : Prop :=
  ∃ expiry, s.markers.get? key = some expiry ∧ now < expiry

variable {s s' : Reservations} {now : Nat} {key : String} {item : String} {quantity : Int32}

/-- The store may have dropped markers whose time has come. It is not said which of
them, as that depends on when the last sweep was. -/
structure Swept (s : Reservations) (now : Nat) (s' : Reservations) : Prop where
  ttl : s'.ttl = s.ttl
  old : ∀ key expiry, s'.markers.get? key = some expiry → s.markers.get? key = some expiry
  live : ∀ key expiry, s.markers.get? key = some expiry → now < expiry →
    s'.markers.get? key = some expiry

theorem Swept.refl (s : Reservations) (now : Nat) : Swept s now s where
  ttl := rfl
  old _ _ here := here
  live _ _ here _ := here

theorem dropExpired_swept (s : Reservations) (now : Nat) : Swept s now (s.dropExpired now) where
  ttl := rfl
  old key expiry here := by
    rw [dropExpired, Table.get?_filter, Option.filter_eq_some_iff] at here
    exact here.1
  live key expiry here later := by
    rw [dropExpired, Table.get?_filter, Option.filter_eq_some_iff]
    exact ⟨here, decide_eq_true later⟩

/-- From the time of a sweep on, it is not seen. Before that time it would be, and so
time must not run backwards. -/
theorem Swept.holds_later (swept : Swept s now s') {time : Nat} (later : now ≤ time) :
    s'.Holds time key ↔ s.Holds time key := by
  constructor
  · rintro ⟨expiry, here, live⟩
    exact ⟨expiry, swept.old key expiry here, live⟩
  · rintro ⟨expiry, here, live⟩
    exact ⟨expiry, swept.live key expiry here (Nat.lt_of_le_of_lt later live), live⟩

theorem Swept.holds (swept : Swept s now s') : s'.Holds now key ↔ s.Holds now key :=
  swept.holds_later (Nat.le_refl now)

/-- What a call that writes a marker can come to. Each outcome is given with the store
it leaves, whether or not a sweep came first. -/
inductive Marking (s : Reservations) (now : Nat) (key : String) : Reply Bool × Reservations → Prop
    where
  | refused (unavailable : s.unavailable = true) : Marking s now key (.fault .setIdempotencyKey, s)
  | overflowed {s' : Reservations} (swept : Swept s now s') (outside : clockEnd < now + s.ttl) :
      Marking s now key (.overflow, s')
  | held {s' : Reservations} (available : s.unavailable = false) (swept : Swept s now s')
      (holds : s.Holds now key) : Marking s now key (.ok false, s')
  | wrote {s' : Reservations} (available : s.unavailable = false) (swept : Swept s now s')
      (free : ¬ s.Holds now key) :
      Marking s now key (.ok true, { s' with markers := s'.markers.insert key (now + s'.ttl) })

theorem holds_iff : (s.markers.get? key).any (now < ·) = true ↔ s.Holds now key := by
  simp only [Option.any_eq_true, Holds, decide_eq_true_eq]

/-- Every call for a marker comes to one of these. What follows about markers is read
off the outcomes and not off the call. -/
theorem mark_marking (s : Reservations) (now : Nat) (key : String) :
    Marking s now key (s.mark now key) := by
  have swept_marking {s' : Reservations} (available : s.unavailable = false)
      (swept : Swept s now s') : Marking s now key (markSwept s' now key) := by
    unfold markSwept
    split
    · rename_i holds
      exact .held available swept (swept.holds.mp (holds_iff.mp holds))
    rename_i free
    split
    · exact .overflowed swept (swept.ttl ▸ ‹_›)
    · exact .wrote available swept fun holds => free (holds_iff.mpr (swept.holds.mpr holds))
  unfold mark
  split
  · exact .refused ‹_›
  rename_i there
  have available := Bool.eq_false_iff.mpr there
  split
  · have swept := s.dropExpired_swept now
    dsimp only
    split
    · exact .overflowed swept ‹_›
    · exact swept_marking available ⟨swept.ttl, swept.old, swept.live⟩
  · exact swept_marking available (.refl s now)

theorem holds_write (s : Reservations) (key other : String) (expiry time : Nat) :
    { s with markers := s.markers.insert key expiry }.Holds time other ↔
      if other = key then time < expiry else s.Holds time other := by
  simp only [Holds, Table.get?_insert]
  split <;> simp

/-- The two stores have the same counters and switches. -/
structure SameCounters (s s' : Reservations) : Prop where
  counters : s'.counters = s.counters
  unavailable : s'.unavailable = s.unavailable
  failIncrements : s'.failIncrements = s.failIncrements

/-- A call for a marker leaves the counters and the switches alone, whatever becomes of
it. -/
theorem mark_sameCounters (s : Reservations) (now : Nat) (key : String) :
    SameCounters s (s.mark now key).2 := by
  have swept (s : Reservations) : SameCounters s (s.markSwept now key).2 := by
    unfold markSwept
    split
    · exact ⟨rfl, rfl, rfl⟩
    split <;> exact ⟨rfl, rfl, rfl⟩
  unfold mark
  split
  · exact ⟨rfl, rfl, rfl⟩
  split
  · dsimp only
    split
    · exact ⟨rfl, rfl, rfl⟩
    · have later := swept { s.dropExpired now with nextSweep := some (now + s.ttl) }
      exact ⟨later.counters, later.unavailable, later.failIncrements⟩
  · exact swept s

/-- Calls for stock leave the markers alone. -/
structure SameMarkers (s s' : Reservations) : Prop where
  ttl : s'.ttl = s.ttl
  markers : s'.markers = s.markers

theorem setStock_markers (s : Reservations) (item : String) (quantity : Int32) :
    SameMarkers s (s.setStock item quantity).2 := by
  unfold setStock
  split <;> exact ⟨rfl, rfl⟩

theorem take_markers (s : Reservations) (item : String) (quantity : Int32) :
    SameMarkers s (s.take item quantity).2 := by
  unfold take
  split
  · exact ⟨rfl, rfl⟩
  split
  · exact ⟨rfl, rfl⟩
  split
  · exact ⟨rfl, rfl⟩
  split <;> exact ⟨rfl, rfl⟩

theorem putBack_markers (s : Reservations) (item : String) (quantity : Int32) :
    SameMarkers s (s.putBack item quantity).2 := by
  unfold putBack
  split
  · exact ⟨rfl, rfl⟩
  split <;> exact ⟨rfl, rfl⟩

/-- The table of markers remembers what was written, given as requests with the times of
writing: it has the markers that are live, and none that was never written. Markers
whose time has come may be in it or not. -/
structure Remembers (s : Reservations) (now : Nat) (written : List (String × Nat)) : Prop where
  past : ∀ m ∈ written, m.2 ≤ now
  known : ∀ key expiry, s.markers.get? key = some expiry →
    ∃ m ∈ written, key = idempotencyKey m.1 ∧ expiry = m.2 + s.ttl
  live : ∀ m ∈ written, now < m.2 + s.ttl →
    s.markers.get? (idempotencyKey m.1) = some (m.2 + s.ttl)
  /-- Of two markers for a request, the later was written when the time of the earlier had come. -/
  apart : written.Pairwise fun m m' => m.1 = m'.1 → m.2 + s.ttl ≤ m'.2

variable {written : List (String × Nat)} {requestId : String}

theorem remembers_nil (empty : s.markers = ∅) : s.Remembers now [] where
  past _ member := (List.not_mem_nil member).elim
  known key expiry here := by
    rw [empty] at here
    cases here
  live _ member := (List.not_mem_nil member).elim
  apart := .nil

/-- A live marker is one that was written less than its time to live ago. So the list of
what was written is all that the answers depend on. -/
theorem Remembers.holds_iff (remembers : s.Remembers now written) :
    s.Holds now (idempotencyKey requestId) ↔ ∃ m ∈ written, m.1 = requestId ∧ now < m.2 + s.ttl := by
  constructor
  · rintro ⟨expiry, here, later⟩
    obtain ⟨m, member, key, rfl⟩ := remembers.known _ _ here
    exact ⟨m, member, (idempotencyKey_injective key).symm, later⟩
  · rintro ⟨m, member, rfl, later⟩
    exact ⟨_, remembers.live m member later, later⟩

theorem Remembers.later (remembers : s.Remembers now written) {now' : Nat} (later : now ≤ now') :
    s.Remembers now' written where
  past m member := Nat.le_trans (remembers.past m member) later
  known := remembers.known
  live m member fresh := remembers.live m member (Nat.lt_of_le_of_lt later fresh)
  apart := remembers.apart

theorem Remembers.same (remembers : s.Remembers now written) (same : SameMarkers s s') :
    s'.Remembers now written where
  past := remembers.past
  known key expiry here := by
    rw [same.markers] at here
    rw [same.ttl]
    exact remembers.known key expiry here
  live m member := by
    rw [same.markers, same.ttl]
    exact remembers.live m member
  apart := by
    rw [same.ttl]
    exact remembers.apart

theorem Remembers.sweep (remembers : s.Remembers now written) (swept : Swept s now s') :
    s'.Remembers now written where
  past := remembers.past
  known key expiry here := by
    rw [swept.ttl]
    exact remembers.known key expiry (swept.old key expiry here)
  live m member fresh := by
    rw [swept.ttl] at fresh ⊢
    exact swept.live _ _ (remembers.live m member fresh) fresh
  apart := by
    rw [swept.ttl]
    exact remembers.apart

/-- A marker that is written while none is live is remembered with the others. It is a
time to live apart from every earlier one for the same request. -/
theorem Remembers.write (remembers : s.Remembers now written)
    (free : ¬ s.Holds now (idempotencyKey requestId)) :
    Remembers { s with markers := s.markers.insert (idempotencyKey requestId) (now + s.ttl) } now
      (written ++ [(requestId, now)]) := by
  -- What was written for the request before is no longer live.
  have expired (m : String × Nat) (member : m ∈ written) (same : m.1 = requestId) :
      m.2 + s.ttl ≤ now := by
    refine Nat.not_lt.mp fun fresh => free ?_
    exact remembers.holds_iff.mpr ⟨m, member, same, fresh⟩
  constructor
  case past =>
    intro m member
    obtain old | new := List.mem_append.mp member
    · exact remembers.past m old
    · exact (List.mem_singleton.mp new) ▸ Nat.le_refl now
  case known =>
    intro key expiry here
    dsimp only at here
    rw [Table.get?_insert] at here
    split at here
    · cases here
      exact ⟨(requestId, now), List.mem_append_right _ (List.mem_singleton_self _), ‹_›, rfl⟩
    · obtain ⟨m, member, about⟩ := remembers.known key expiry here
      exact ⟨m, List.mem_append_left _ member, about⟩
  case live =>
    intro m member fresh
    dsimp only at fresh ⊢
    rw [Table.get?_insert]
    obtain old | new := List.mem_append.mp member
    · have other : idempotencyKey m.1 ≠ idempotencyKey requestId := by
        intro same
        have outside := expired m old (idempotencyKey_injective same)
        omega
      rw [if_neg other]
      exact remembers.live m old fresh
    · rw [List.mem_singleton.mp new, if_pos rfl]
  case apart =>
    refine List.pairwise_append.mpr ⟨remembers.apart, List.pairwise_singleton _ _, ?_⟩
    intro m old m' new
    rw [List.mem_singleton.mp new]
    exact expired m old

/-- A call that does not write a marker forgets none that is live. -/
theorem Remembers.mark_of_ne (remembers : s.Remembers now written) {reply : Reply Bool}
    (h : s.mark now key = (reply, s')) (other : reply ≠ .answer (.ok true)) :
    s'.Remembers now written := by
  have marking := s.mark_marking now key
  rw [h] at marking
  cases marking with
  | refused => exact remembers
  | overflowed swept => exact remembers.sweep swept
  | held _ swept => exact remembers.sweep swept
  | wrote => exact absurd rfl other

/-- A call that is answered that no marker was there has written one. From now on it is
remembered with the others. -/
theorem Remembers.mark_ok_true (remembers : s.Remembers now written)
    (h : s.mark now (idempotencyKey requestId) = (.answer (.ok true), s')) :
    s'.Remembers now (written ++ [(requestId, now)]) := by
  have marking := s.mark_marking now (idempotencyKey requestId)
  rw [h] at marking
  cases marking with
  | wrote _ swept free =>
      exact (remembers.sweep swept).write fun holds => free (swept.holds.mp holds)

/-- A call is answered that a live marker is there if and only if one was written less
than its time to live ago. The time to live must fit on the clock; the call overflows
otherwise. -/
theorem Remembers.mark_ok_false_iff (remembers : s.Remembers now written)
    (fits : now + s.ttl ≤ clockEnd) :
    (s.mark now (idempotencyKey requestId)).1 = .answer (.ok false) ↔
      s.unavailable = false ∧ ∃ m ∈ written, m.1 = requestId ∧ now < m.2 + s.ttl := by
  rw [← remembers.holds_iff]
  have marking := s.mark_marking now (idempotencyKey requestId)
  generalize s.mark now (idempotencyKey requestId) = answer at marking
  cases marking with
  | refused unavailable => simp [Reply.fault, Reply.error, unavailable]
  | overflowed swept outside => omega
  | held available swept holds => simp [Reply.ok, available, holds]
  | wrote available swept free => simp [Reply.ok, free]

end Reservations

end FlashSale
