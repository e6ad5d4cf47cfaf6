import FlashSale.Proofs.Ledger.History

/-!
# Changes one after another

The calls that changed a row can be replayed without a ledger: each writes a quantity that is
computed from the one which the call before it left. The row is what the replay comes to.

A row has a version of its own after every change. An update that goes through names the
version that the change before it left, so that no two updates name the same one.
-/

namespace FlashSale

/-- The version from which the call was computed. -/
def Mutation.version? : Mutation → Option Int32
  | update _ _ version => some version
  | _ => none

namespace Ledger

/-- The quantity that changes leave when they are made one after another. -/
def replay (made : List Entry) : Int := made.foldl (fun held e => e.call.level held) 0

variable {log made : List Entry} {l : Ledger} {item : String} {row : Inventory}

/-- Calls that write no quantity of their own only take from the one that is there. -/
theorem foldl_taken (held : Int) (quiet : ∀ e ∈ made, e.call.written? = none) :
    made.foldl (fun held e => e.call.level held) held =
      held - (made.map fun e => e.call.taken).sum := by
  induction made generalizing held with
  | nil => exact (Int.sub_zero _).symm
  | cons e rest ih =>
      obtain ⟨first, later⟩ := List.forall_mem_cons.mp quiet
      rw [List.foldl_cons, ih _ later, Mutation.level, first, List.map_cons, List.sum_cons]
      dsimp only
      omega

/-- A row has the quantity that its changes leave, and counts them from nought. The
first one wrote the quantity of the seed. -/
theorem RowTold.replay (told : RowTold made row) :
    row.quantity.toInt = Ledger.replay made ∧ row.version.toInt + 1 = made.length := by
  constructor
  · obtain ⟨front, last, since, written, rfl, wrote, quiet, held⟩ := told.quantity
    rw [held, Ledger.replay, List.foldl_append, List.foldl_cons, foldl_taken _ quiet,
      Mutation.level, wrote]
  · obtain ⟨stock, later, rfl, count⟩ := told.created
    rw [count, List.length_cons]
    omega

/-- A call that names a version and goes through finds a row of this version. Otherwise
it is refused. -/
theorem Mutated.current {l' : Ledger} {now : Timestamp} {m : Mutation} {version : Int32}
    (mutated : Mutated l now m (.answer (.ok ())) l') (names : m.version? = some version) :
    ∃ row, l.inventory.get? m.item = some row ∧ row.version = version := by
  cases mutated with
  | created seeds =>
      rw [seeds] at names
      cases names
  | @wrote row _ _ found admitted =>
      cases m with
      | update item quantity other =>
          cases names
          exact ⟨row, found, admitted.2.2⟩
      | _ => cases names

/-- An update that went through names the version that the change before it left. This
version is the number of the changes before it, less one. -/
theorem History.named (history : History log l) (below : l.VersionsBelowLimit) (item : String)
    {i : Nat} {e : Entry} {version : Int32} (made : (changes item log)[i]? = some e)
    (names : e.call.version? = some version) : version.toInt + 1 = i := by
  induction history with
  | opened => cases made
  | @called log before history now m ih =>
      have mutated := before.mutate_mutated now m
      have told := history.told (mutated.versions below)
      have earlier := ih (mutated.versions below)
      generalize (before.mutate now m).1 = reply at mutated made
      cases changed : Entry.changed item ⟨now, m, reply⟩ with
      | false =>
          rw [changes_append_of_not changed] at made
          exact earlier made
      | true =>
          rw [changes_append_of_changed changed] at made
          by_cases old : i < (changes item log).length
          · rw [List.getElem?_append_left old] at made
            exact earlier made
          · -- The call is the last one, and its row counts the changes before it.
            rw [List.getElem?_append_right (Nat.not_lt.mp old), List.getElem?_singleton] at made
            split at made
            · rename_i last
              cases made
              obtain ⟨went, rfl⟩ : Entry.succeeded ⟨now, m, reply⟩ = true ∧ m.item = item := by
                simpa [Entry.changed] using changed
              obtain rfl : reply = .answer (.ok ()) := by
                unfold Entry.succeeded at went
                split at went
                · assumption
                · cases went
              obtain ⟨row, found, rfl⟩ := mutated.current names
              have count := (told.rows m.item row found).2.replay.2
              omega
            · cases made
  | switched _ _ inventory ih =>
      rw [VersionsBelowLimit, inventory] at below
      exact ih below made

/-- Of the updates that name the same version of a row at most one goes through. The two
would have the same place among the changes. -/
theorem History.one_winner (history : History log l) (below : l.VersionsBelowLimit)
    (item : String) {i j : Nat} {e e' : Entry} {version : Int32}
    (first : (changes item log)[i]? = some e) (second : (changes item log)[j]? = some e')
    (names : e.call.version? = some version) (names' : e'.call.version? = some version) :
    i = j := by
  have one := history.named below item first names
  have other := history.named below item second names'
  omega

end Ledger

end FlashSale
