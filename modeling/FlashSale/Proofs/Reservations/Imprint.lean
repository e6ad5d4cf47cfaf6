import FlashSale.Proofs.Reservations.Counters
import FlashSale.Proofs.Reservations.Markers

/-!
# What a purchase leaves in the store

A purchase writes a marker; then it may take stock, and it may have to put it back. Each of
these calls has one reply and one effect in a given state of the store, told here in the order
in which the calls are made.

`Imprint` is what can be seen of a purchase afterwards: its marker, and the amount by which
the counter of its item has moved. Sweeps and the place of an entry in its table are not
seen.
-/

namespace FlashSale.Reservations

variable {s s' : Reservations} {now : Nat} {key item : String} {quantity : Int32} {change n : Int}

/-- A purchase has written its marker, and the counter of its item has moved by so much. Nothing
else is to be seen; in particular no item has got a counter that had none. -/
structure Imprint (s : Reservations) (now : Nat) (key item : String) (change : Int)
    (s' : Reservations) : Prop where
  markers : ∀ time other, now ≤ time →
    (s'.Holds time other ↔ if other = key then time < now + s.ttl else s.Holds time other)
  counters : ∀ other, (s'.stock? other).map Int64.toInt =
    (s.stock? other).map fun held => held.toInt + if other = item then change else 0
  ttl : s'.ttl = s.ttl
  unavailable : s'.unavailable = s.unavailable
  failIncrements : s'.failIncrements = s.failIncrements

/-- Moving the counter of the item, which is there, adds to what the purchase has left.
So the imprint of a whole purchase is put together from its calls. -/
theorem Imprint.write {held total : Int64} (imprint : Imprint s now key item change s')
    (there : s'.stock? item = some held) (moved : total.toInt = held.toInt + n) :
    Imprint s now key item (change + n) { s' with counters := s'.counters.insert item total } where
  markers := imprint.markers
  counters other := by
    have before := imprint.counters other
    simp only [stock?, Table.get?_insert]
    split
    · subst other
      rw [there, if_pos rfl] at before
      obtain ⟨first, found, same⟩ := Option.map_eq_some_iff.mp before.symm
      rw [stock?] at found
      rw [found, Option.map_some, Option.map_some, moved, ← same, Int.add_assoc]
    · rename_i differs
      rw [if_neg differs] at before
      exact before
  ttl := imprint.ttl
  unavailable := imprint.unavailable
  failIncrements := imprint.failIncrements

theorem Imprint.counter (imprint : Imprint s now key item 0 s') (other : String) :
    s'.counter other = s.counter other := by
  have same := imprint.counters other
  simp only [ite_self, Int.add_zero] at same
  unfold Reservations.counter
  cases before : s.stock? other <;> cases after : s'.stock? other <;> simp_all

theorem mark_refused (unavailable : s.unavailable = true) :
    s.mark now key = (.fault .setIdempotencyKey, s) := if_pos unavailable

/-- A marker that is live is found, whatever sweep comes with the call. -/
theorem mark_held (available : s.unavailable = false) (holds : s.Holds now key)
    (fits : now + s.ttl ≤ clockEnd) :
    ∃ swept, Swept s now swept ∧ SameCounters s swept ∧ s.mark now key = (.ok false, swept) := by
  have marking := s.mark_marking now key
  have same := s.mark_sameCounters now key
  generalize s.mark now key = reply at marking same
  cases marking with
  | refused unavailable => rw [available] at unavailable; cases unavailable
  | overflowed _ outside => exact absurd fits (Nat.not_le.mpr outside)
  | held _ swept => exact ⟨_, swept, same, rfl⟩
  | wrote _ _ free => exact absurd holds free

/-- Where none is live one is written, and that is all there is to see of the call. -/
theorem mark_free (item : String) (available : s.unavailable = false) (free : ¬ s.Holds now key)
    (fits : now + s.ttl ≤ clockEnd) :
    ∃ marked, Imprint s now key item 0 marked ∧ s.mark now key = (.ok true, marked) := by
  have marking := s.mark_marking now key
  have same := s.mark_sameCounters now key
  generalize s.mark now key = reply at marking same
  cases marking with
  | refused unavailable => rw [available] at unavailable; cases unavailable
  | overflowed _ outside => exact absurd fits (Nat.not_le.mpr outside)
  | held _ _ holds => exact absurd holds free
  | @wrote swept _ sweeps =>
      refine ⟨_, ?_, rfl⟩
      refine ⟨?_, ?_, sweeps.ttl, same.unavailable, same.failIncrements⟩
      · intro time other later
        rw [holds_write, sweeps.ttl, sweeps.holds_later later]
      · intro other
        have kept : swept.counters = s.counters := same.counters
        simp [stock?, kept]

/-- A counter that does not cover the quantity is left alone. So is the absence of one.
-/
theorem take_short (available : s.unavailable = false) (short : s.counter item < quantity.toInt) :
    s.take item quantity = (.ok false, s) := by
  unfold take
  rw [available, if_neg Bool.false_ne_true]
  split
  · rfl
  · rename_i held found
    have covered : s.counter item = held.toInt := by simp [counter, stock?, found]
    exact if_pos (covered ▸ short)

theorem there_of_covered (positive : 0 < quantity.toInt)
    (covered : quantity.toInt ≤ s.counter item) :
    ∃ held, s.stock? item = some held ∧ s.counter item = held.toInt := by
  cases found : s.stock? item with
  | none =>
      have none : s.counter item = 0 := by simp [counter, found]
      omega
  | some held => exact ⟨held, rfl, by simp [counter, found]⟩

theorem take_covered (available : s.unavailable = false) (positive : 0 < quantity.toInt)
    (covered : quantity.toInt ≤ s.counter item) :
    ∃ held left, s.stock? item = some held ∧ left.toInt = held.toInt - quantity.toInt ∧
      s.take item quantity = (.ok true, { s with counters := s.counters.insert item left }) := by
  obtain ⟨held, found, counter⟩ := there_of_covered positive covered
  have upper := held.toInt_lt
  obtain ⟨left, fits⟩ := exists_word64? (n := held.toInt - quantity.toInt) (by omega) (by omega)
  refine ⟨held, left, found, word64?_eq_some_iff.mp fits, ?_⟩
  rw [stock?] at found
  simp only [take, available, found, fits]
  rw [if_neg Bool.false_ne_true, if_neg (by omega)]

theorem putBack_refused (refuses : (s.unavailable || s.failIncrements) = true) :
    s.putBack item quantity = (.fault .incrementStock, s) := if_pos refuses

theorem putBack_fits (works : (s.unavailable || s.failIncrements) = false)
    (lower : -9223372036854775808 ≤ s.counter item + quantity.toInt)
    (upper : s.counter item + quantity.toInt ≤ 9223372036854775807) :
    ∃ total, total.toInt = s.counter item + quantity.toInt ∧
      s.putBack item quantity = (.ok (), { s with counters := s.counters.insert item total }) := by
  obtain ⟨total, fits⟩ := exists_word64? lower upper
  refine ⟨total, word64?_eq_some_iff.mp fits, ?_⟩
  rw [counter, stock?] at fits
  simp only [putBack, works, fits]
  rw [if_neg Bool.false_ne_true]

/-- Stock that a purchase took comes back to where it was. Only its marker is left to
see. -/
theorem Imprint.putBack (imprint : Imprint s now key item (-quantity.toInt) s')
    (works : (s'.unavailable || s'.failIncrements) = false) (positive : 0 < quantity.toInt)
    (covered : quantity.toInt ≤ s.counter item) :
    ∃ restored, Imprint s now key item 0 restored ∧
      s'.putBack item quantity = (.ok (), restored) := by
  obtain ⟨held, found, counter⟩ := there_of_covered positive covered
  have left := imprint.counters item
  rw [found, Option.map_some, if_pos rfl] at left
  obtain ⟨left, there, less⟩ := Option.map_eq_some_iff.mp left
  have counter' : s'.counter item = left.toInt := by simp [Reservations.counter, there]
  have lower := held.le_toInt
  have upper := held.toInt_lt
  have low : -9223372036854775808 ≤ s'.counter item + quantity.toInt := by omega
  have high : s'.counter item + quantity.toInt ≤ 9223372036854775807 := by omega
  obtain ⟨total, sum, replies⟩ := putBack_fits works low high
  have back := imprint.write there (sum.trans (by rw [counter']))
  rw [Int.add_left_neg] at back
  exact ⟨_, back, replies⟩

end FlashSale.Reservations
