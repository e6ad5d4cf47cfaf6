import FlashSale.Proofs.Ledger.Replies
import FlashSale.Proofs.Ledger.Serial
import FlashSale.Proofs.Sale.Records

/-!
# Clients that revise a row

A client looks at the row of an item, computes a new quantity from what it saw, and writes it
under the version that it saw. Meanwhile others do the same, and items are seeded and orders
committed. A `Revision` of a course is one such look and the write that follows it, wherever
they stand in the course.

`revisions_serial` says that no change is lost by this. A write goes through when nobody has
changed the row since the look, so that its quantity was computed from the one which the change
before it left; otherwise it is refused and changes nothing.
-/

namespace FlashSale.Sale

open Ledger (changes replay)

/-- A look at the row of an item and the write that follows it. The client may compute
what it likes from the row that it saw. -/
structure Revision (s : Sale) (actions : List Action) where
  front : List Action
  reader : TaskId
  between : List Action
  writer : TaskId
  rest : List Action
  course : actions = front ++ .turn reader :: (between ++ .turn writer :: rest)
  item : String
  /-- What the client saw. -/
  row : Inventory
  readDue : Option Nat
  reads : (s.after front).tasks.get? reader = some (.ledger (.inventory item) readDue)
  seen : ((s.after front).stepTask reader).answers =
    (s.after front).answers ++ [(reader, .inventory (.ok (some row)))]
  /-- What the client computed from it. -/
  quantity : Int32
  nonneg : 0 ≤ quantity.toInt
  writeDue : Option Nat
  writes : (((s.after front).stepTask reader).after between).tasks.get? writer =
    some (.ledger (.update item quantity row.version) writeDue)
  available : (((s.after front).stepTask reader).after between).ledger.unavailable = false

namespace Revision

variable {s : Sale} {actions : List Action} (r : Revision s actions)

/-- The sale when the client has looked. -/
def looked : Sale := (s.after r.front).stepTask r.reader

/-- The sale when the client writes. -/
def ready : Sale := r.looked.after r.between

/-- What has happened when the client writes. -/
def before : List Action := r.front ++ .turn r.reader :: r.between

/-- Nobody has changed the row since the client looked at it. -/
def Undisturbed : Prop := changes r.item (r.looked.ledgerCalls r.between) = []

/-- What becomes of the write. -/
structure Settled (result : Except StoreError Unit) : Prop where
  told : (r.ready.stepTask r.writer).answers = r.ready.answers ++ [(r.writer, .unit result)]
  wins : result = .ok () ↔ r.Undisturbed
  /-- The quantity was computed from the one that the change before it left. -/
  computed : r.Undisturbed →
    r.row.quantity.toInt = replay (changes r.item (s.ledgerCalls r.before))
  refused : ¬ r.Undisturbed → result = .error .optimisticLockConflict ∧
    (r.ready.stepTask r.writer).ledger = r.ready.ledger

end Revision

variable {s : Sale} {actions : List Action} {me : TaskId} {item : String} {due : Option Nat}

/-- Who is told of a row was told the truth: it is the row of the ledger at that moment.
-/
theorem get?_of_looked {row : Inventory}
    (found : s.tasks.get? me = some (.ledger (.inventory item) due))
    (seen : (s.stepTask me).answers = s.answers ++ [(me, .inventory (.ok (some row)))]) :
    s.ledger.inventory.get? item = some row := by
  have told : s.ledger.inventory? item = .answer (.ok (some row)) := by
    rcases replied : s.ledger.inventory? item with result | _
    · have ends : (s.act me (.ledger (.inventory item) due)).2 = .finish (.inventory result) := by
        simp only [act, stepLedger, replied, answer]
      have same := (stepTask_finish found ends).symm.trans seen
      simp only [List.append_cancel_left_eq, List.cons.injEq, Prod.mk.injEq, Answer.inventory.injEq,
        true_and, and_true] at same
      rw [same]
    · unfold Ledger.inventory? at replied
      split at replied <;> cases replied
  unfold Ledger.inventory? at told
  split at told
  · cases told
  · injection told with told
    injection told

namespace Revision

variable (r : Revision s actions)

theorem after_before : s.after r.before = r.ready := by
  rw [before, after_append, after_cons]
  rfl

theorem ledgerCalls_before :
    s.ledgerCalls r.before = s.ledgerCalls r.front ++ r.looked.ledgerCalls r.between := by
  have silent : (s.after r.front).madeCall? (.turn r.reader) = none := by
    rw [madeCall?, mutation?, r.reads]
    rfl
  rw [before, ledgerCalls_append, ledgerCalls, silent]
  rfl

/-- Of the changes made before the write the client has seen those made before its look.
The others are what may have disturbed it. -/
theorem changes_before : changes r.item (s.ledgerCalls r.before) =
    changes r.item (s.ledgerCalls r.front) ++ changes r.item (r.looked.ledgerCalls r.between) := by
  rw [r.ledgerCalls_before]
  exact List.filter_append ..

section Blank

variable (orders : s.ledger.orders = ∅) (inventory : s.ledger.inventory = ∅)

include orders inventory

/-- The row that the client saw, and what it was told from. Its quantity is that of the
changes before the look. -/
theorem row_told (below : r.looked.ledger.VersionsBelowLimit) :
    Ledger.RowTold (changes r.item (s.ledgerCalls r.front)) r.row := by
  have below : (s.after r.front).ledger.VersionsBelowLimit :=
    perform_versions (a := .turn r.reader) _ below
  have told := (after_history orders inventory r.front).told below
  exact (told.rows r.item r.row (get?_of_looked r.reads r.seen)).2

/-- The row that was seen is there still. Its version tells whether anybody has changed it. -/
theorem exists_row (below : r.ready.ledger.VersionsBelowLimit) :
    ∃ row, r.ready.ledger.inventory.get? r.item = some row ∧
      (row.version = r.row.version ↔ r.Undisturbed) := by
  have seen := r.row_told orders inventory (after_versions _ below)
  have told := (after_history orders inventory r.before).told (r.after_before.symm ▸ below)
  rw [r.after_before] at told
  obtain ⟨row, found⟩ : ∃ row, r.ready.ledger.inventory.get? r.item = some row := by
    refine Option.ne_none_iff_exists'.mp fun absent => ?_
    obtain ⟨stock, later, first, -⟩ := seen.created
    have none := told.blank r.item absent
    rw [r.changes_before, first] at none
    cases none
  refine ⟨row, found, ?_⟩
  have before := seen.replay.2
  have now := (told.rows r.item row found).2.replay.2
  rw [r.changes_before, List.length_append] at now
  rw [Undisturbed, ← Int32.toInt_inj, ← List.length_eq_zero_iff]
  omega

/-- What becomes of the write follows from the version that the row has by then. -/
theorem settled (below : r.ready.ledger.VersionsBelowLimit) : ∃ result, r.Settled result := by
  have fit : ¬ r.quantity < 0 := by
    rw [Int32.lt_iff_toInt_lt]
    exact Int.not_lt.mpr r.nonneg
  have told (result : Except StoreError Unit)
      (replied : (r.ready.ledger.update r.ready.clock r.item r.quantity r.row.version).1 =
        .answer result) :
      (r.ready.stepTask r.writer).answers = r.ready.answers ++ [(r.writer, .unit result)] :=
    stepTask_told (m := .update r.item r.quantity r.row.version) r.writes rfl replied
  obtain ⟨row, found, current⟩ := r.exists_row orders inventory below
  by_cases undisturbed : r.Undisturbed
  · obtain ⟨_, -, wrote⟩ :=
      Ledger.update_of_current r.ready.clock r.available fit found (below r.item row found)
    rw [current.mpr undisturbed] at wrote
    refine ⟨.ok (), told _ (congrArg Prod.fst wrote), iff_of_true rfl undisturbed, fun _ => ?_, ?_⟩
    · have none : changes r.item (r.looked.ledgerCalls r.between) = [] := undisturbed
      rw [r.changes_before, none, List.append_nil]
      exact (r.row_told orders inventory (after_versions _ below)).replay.1
    · exact fun disturbed => absurd undisturbed disturbed
  · have stale : r.ready.ledger.update r.ready.clock r.item r.quantity r.row.version =
        (.error .optimisticLockConflict, r.ready.ledger) := by
      refine Ledger.update_of_stale r.available fit fun other here same => undisturbed ?_
      obtain rfl := Option.some.inj (found.symm.trans here)
      exact current.mp same
    refine ⟨.error .optimisticLockConflict, told _ (congrArg Prod.fst stale),
      iff_of_false nofun undisturbed, fun unchanged => absurd unchanged undisturbed,
      fun _ => ⟨rfl, ?_⟩⟩
    exact (stepTask_ledger r.writes).trans (congrArg Prod.snd stale)

end Blank

end Revision

/-- Clients that revise rows lose no change. A revision goes through if and only if nobody changed
the row in between; of the updates that name the same version of a row at most one goes through; and
a row is what its changes leave when they are made one after another. -/
theorem revisions_serial {s : Sale} (actions : List Action) (orders : s.ledger.orders = ∅)
    (inventory : s.ledger.inventory = ∅) (below : (s.after actions).ledger.VersionsBelowLimit) :
    (∀ r : Revision s actions, ∃ result, r.Settled result) ∧
    (∀ item (i j : Nat) e e' version, (changes item (s.ledgerCalls actions))[i]? = some e →
      (changes item (s.ledgerCalls actions))[j]? = some e' → e.call.version? = some version →
      e'.call.version? = some version → i = j) ∧
    ∀ item row, (s.after actions).ledger.inventory.get? item = some row →
      row.quantity.toInt = replay (changes item (s.ledgerCalls actions)) ∧
      row.version.toInt + 1 = (changes item (s.ledgerCalls actions)).length := by
  have history := after_history orders inventory actions
  refine ⟨fun r => ?_, fun item i j e e' version first second names names' => ?_, ?_⟩
  · refine r.settled orders inventory ?_
    rw [r.course, after_append, after_cons, after_append] at below
    exact after_versions _ below
  · exact history.one_winner below item first second names names'
  · intro item row found
    exact ((history.told below).rows item row found).2.replay

/-- Two clients look at the same row; the first to write wins. -/
def rivalry : List Action :=
  [.seed "tea" 5, .start (.ledger (.inventory "tea") none), .turn 0,
    .start (.ledger (.inventory "tea") none), .turn 1, .start (.ledger (.update "tea" 4 0) none),
    .turn 2, .start (.ledger (.update "tea" 3 0) none), .turn 3]

/-- The client that came too late. -/
def loser : Revision emptyShop rivalry where
  front := rivalry.take 4
  reader := 1
  between := [.start (.ledger (.update "tea" 4 0) none), .turn 2,
    .start (.ledger (.update "tea" 3 0) none)]
  writer := 3
  rest := []
  course := rfl
  item := "tea"
  row := .fresh "tea" 5 emptyShop.clock
  readDue := none
  reads := rfl
  seen := rfl
  quantity := 3
  nonneg := by decide
  writeDue := none
  writes := rfl
  available := rfl

theorem revisions_serial_rivalry :
    emptyShop.ledger.orders = ∅ ∧ emptyShop.ledger.inventory = ∅ ∧
    (emptyShop.after rivalry).ledger.VersionsBelowLimit ∧
    ((∀ r : Revision emptyShop rivalry, ∃ result, r.Settled result) ∧
      (∀ item (i j : Nat) e e' version,
        (changes item (emptyShop.ledgerCalls rivalry))[i]? = some e →
        (changes item (emptyShop.ledgerCalls rivalry))[j]? = some e' →
        e.call.version? = some version → e'.call.version? = some version → i = j) ∧
      ∀ item row, (emptyShop.after rivalry).ledger.inventory.get? item = some row →
        row.quantity.toInt = replay (changes item (emptyShop.ledgerCalls rivalry)) ∧
        row.version.toInt + 1 = (changes item (emptyShop.ledgerCalls rivalry)).length) ∧
    ¬ loser.Undisturbed ∧ loser.ready.ledger.unavailable = false :=
  ⟨rfl, rfl, by decide, revisions_serial rivalry rfl rfl (by decide), nofun, rfl⟩

end FlashSale.Sale
