import FlashSale.Reservations

/-!
# What calls do to the counters

The counter of an item is read as an integer, zero for an item without one. Each
reply of the store tells what became of the counters: stock was taken only if the
counter covered it, stock was put back only if the sum fits, and any other reply
left the whole store as it was. Writing a marker touches no counter.
-/

namespace FlashSale.Reservations

/-- The counter of an item, zero if it has none. -/
def counter (s : Reservations) (item : String) : Int := ((s.stock? item).getD 0).toInt

theorem counter_insert (s : Reservations) (item other : String) (n : Int64) :
    { s with counters := s.counters.insert item n }.counter other =
      if other = item then n.toInt else s.counter other := by
  unfold counter stock?
  rw [Table.get?_insert]
  split <;> rfl

theorem counter_le (s : Reservations) (item : String) : s.counter item ≤ 9223372036854775807 := by
  have upper := ((s.stock? item).getD 0).toInt_lt
  unfold counter
  omega

theorem counter_ge (s : Reservations) (item : String) :
    -9223372036854775808 ≤ s.counter item := by
  have lower := ((s.stock? item).getD 0).le_toInt
  unfold counter
  omega

variable {s s' : Reservations} {item : String} {quantity : Int32}

/-- Stock is taken only if the counter covers it, and then the counter is what is left.
-/
theorem take_eq_ok_true (h : s.take item quantity = (.answer (.ok true), s')) :
    quantity.toInt ≤ s.counter item ∧
      ∃ left : Int64, left.toInt = s.counter item - quantity.toInt ∧
        s' = { s with counters := s.counters.insert item left } := by
  unfold take at h
  split at h
  · cases h
  split at h
  · cases h
  rename_i held found
  have covered : s.counter item = held.toInt := by simp [counter, stock?, found]
  split at h
  · cases h
  rename_i enough
  split at h
  · cases h
  rename_i left fits
  cases h
  rw [covered]
  exact ⟨by omega, left, word64?_eq_some_iff.mp fits, rfl⟩

theorem take_of_ne_ok_true {reply : Reply Bool} (h : s.take item quantity = (reply, s'))
    (other : reply ≠ .answer (.ok true)) : s' = s := by
  unfold take at h
  split at h
  · cases h; rfl
  split at h
  · cases h; rfl
  split at h
  · cases h; rfl
  split at h
  · cases h; rfl
  · cases h; exact absurd rfl other

/-- A quantity that is not negative can be taken without leaving the range of words. A
counter may have been set below zero, but then nothing is taken. -/
theorem take_ne_overflow (nonneg : 0 ≤ quantity.toInt) :
    s.take item quantity ≠ (.overflow, s') := by
  intro h
  unfold take at h
  split at h
  · cases h
  split at h
  · cases h
  rename_i held _
  have lower := held.le_toInt
  have upper := held.toInt_lt
  split at h
  · cases h
  rename_i enough
  split at h
  · rename_i outside
    have := word64?_eq_none_iff.mp outside
    omega
  · cases h

/-- Stock that is put back is on the counter, which is added if there was none. -/
theorem putBack_eq_ok (h : s.putBack item quantity = (.answer (.ok ()), s')) :
    ∃ total : Int64, total.toInt = s.counter item + quantity.toInt ∧
      s' = { s with counters := s.counters.insert item total } := by
  unfold putBack at h
  split at h
  · cases h
  split at h
  · cases h
  · rename_i total fits
    cases h
    exact ⟨total, word64?_eq_some_iff.mp fits, rfl⟩

theorem putBack_of_ne_ok {reply : Reply Unit} (h : s.putBack item quantity = (reply, s'))
    (other : reply ≠ .answer (.ok ())) : s' = s := by
  unfold putBack at h
  split at h
  · cases h; rfl
  split at h
  · cases h; rfl
  · cases h; exact absurd rfl other

theorem putBack_overflow (h : s.putBack item quantity = (.overflow, s')) :
    s.counter item + quantity.toInt < -9223372036854775808 ∨
      9223372036854775807 < s.counter item + quantity.toInt := by
  unfold putBack at h
  split at h
  · cases h
  split at h
  · rename_i outside
    exact word64?_eq_none_iff.mp outside
  · cases h

theorem setStock_counters (available : s.unavailable = false) :
    (s.setStock item quantity).2 =
      { s with counters := s.counters.insert item quantity.toInt64 } := by
  simp [setStock, available]

@[simp] theorem markSwept_counters (s : Reservations) (now : Nat) (key : String) :
    (s.markSwept now key).2.counters = s.counters := by
  unfold markSwept
  split
  · rfl
  split <;> rfl

@[simp] theorem mark_counters (s : Reservations) (now : Nat) (key : String) :
    (s.mark now key).2.counters = s.counters := by
  unfold mark
  split
  · rfl
  split
  · dsimp only
    split
    · rfl
    · rw [markSwept_counters]
      rfl
  · exact markSwept_counters s now key

@[simp] theorem mark_counter (s : Reservations) (now : Nat) (key item : String) :
    (s.mark now key).2.counter item = s.counter item := by
  simp [counter, stock?]

end FlashSale.Reservations
