import FlashSale.Proofs.Database.Requests
import FlashSale.Proofs.Dialogue

/-!
# Databases that conform

The ledger knows its database by the replies to its statements only, and makes use of them in
part: which moments the rows were written at it just passes on, and of an error it passes on the
text. So a database may keep its tables as it likes. It conforms to `Server` if it answers every
statement of the ledger in the same way, up to dates and to the texts of errors, and goes on so.

Whatever a dialogue of the ledger brings back from `Server`, it then brings back from each
database that conforms. The dialogue is followed statement by statement, and at the end the
readers of rows take rows that are alike for records that are alike.
-/

namespace FlashSale

/-- The row of an order without its dates. -/
def OrderRow.undated (r : OrderRow) : OrderRow :=
  { r with createdAt := .ofMillis 0, updatedAt := .ofMillis 0 }

/-- Whether the status of a row can be read has nothing to do with its dates. -/
theorem OrderRow.toOrder_undated (r : OrderRow) :
    r.undated.toOrder = r.toOrder.map Order.undated := by
  have named : r.undated.status = r.status := rfl
  unfold toOrder
  rw [named]
  cases OrderStatus.ofName? r.status <;> rfl

namespace Database

/-- The value without its date, if it is one. -/
def Value.undated : Value → Value
  | .moment _ => .moment (.ofMillis 0)
  | v => v

/-- The replies tell the ledger the same: rows may differ in their dates, and errors in their
texts. -/
inductive Reply.Alike : Reply → Reply → Prop where
  | affected (n : Nat) : Alike (.affected n) (.affected n)
  | rows {found found' : List (List Value)}
      (same : found.map (·.map Value.undated) = found'.map (·.map Value.undated)) :
      Alike (.rows found) (.rows found')
  | failed (text text' : String) : Alike (.failed text) (.failed text')

/-- Both brought back a result, and the two are the same in this view of them, or both failed. -/
inductive BothReturn {α β ε : Type} (view : α → β) : Except ε α → Except ε α → Prop where
  | ok {a a' : α} (same : view a = view a') : BothReturn view (.ok a) (.ok a')
  | error (e e' : ε) : BothReturn view (.error e) (.error e')

namespace Ledger

/-- The statement is one that a legal call of the ledger may send. -/
inductive Sent : Statement → Prop where
  | begin : Sent .begin
  | commit : Sent .commit
  | rollback : Sent .rollback
  | seed (now : Timestamp) {item : String} (stock : Int32) (legal : NoZero item) :
      Sent (seedStatement now item stock)
  | insert {order : Order} (legal : (LedgerRequest.commit order).Legal) : Sent (insertOrder order)
  | take (now : Timestamp) {order : Order} (legal : (LedgerRequest.commit order).Legal) :
      Sent (takeStock now order)
  | overwrite (now : Timestamp) {item : String} (quantity version : Int32) (legal : NoZero item) :
      Sent (overwrite now item quantity version)
  | inventory {item : String} (legal : NoZero item) : Sent (selectInventory item)
  | order (id : Uuid) : Sent (selectOrder id)
  | count {item : String} (legal : NoZero item) : Sent (countStatement item)

end Ledger

/-- The database answers and changes as `Server` does, as far as the ledger can tell.
`R` says which states of `Server` stand for a state of the database. What it does with
statements that the ledger does not send is left open. -/
structure Conforms {σ : Type} (keep : Timestamp → Timestamp) (serve : σ → Statement → Reply × σ)
    (R : σ → Server → Prop) : Prop where
  replies : ∀ {s m st}, R s m → Ledger.Sent st → (serve s st).1.Alike (m.serve keep st).1
  changes : ∀ {s m st}, R s m → Ledger.Sent st → R (serve s st).2 (m.serve keep st).2

theorem Reply.Alike.refl (reply : Reply) : reply.Alike reply := by
  cases reply with
  | affected n => exact .affected n
  | rows found => exact .rows rfl
  | failed text => exact .failed text text

/-- The model of a server conforms to itself, with a single state for each state. So
what is proved of all that conform is not proved of nothing. -/
theorem Server.serve_conforms (keep : Timestamp → Timestamp) :
    Conforms keep (Server.serve keep) Eq where
  replies related _ := by
    rw [related]
    exact .refl _
  changes related _ := by rw [related]

/-- The query sends statements of the ledger only, the same ones for replies that are alike, and
its results then agree. -/
abbrev Steady {α : Type} (agree : α → α → Prop) (d : Query α) : Prop :=
  Dialogue.Follows Ledger.Sent Reply.Alike agree d d

section Asking

variable {st : Statement} (sent : Ledger.Sent st)

include sent

theorem send_steady : Steady Reply.Alike (Dialogue.send st) :=
  .ask sent fun _ _ alike => .done alike

theorem execute_steady : Steady (BothReturn id) (execute st) := by
  refine (send_steady sent).bind fun reply reply' alike => ?_
  cases alike with
  | affected n => exact .done (.ok rfl)
  | rows same =>
      have lengths := congrArg List.length same
      rw [List.length_map, List.length_map] at lengths
      exact .done (.ok lengths)
  | failed text text' => exact .done (.error _ _)

theorem query_steady : Steady (BothReturn (List.map (List.map Value.undated))) (query st) := by
  refine (send_steady sent).bind fun reply reply' alike => ?_
  cases alike with
  | affected n => exact .done (.ok rfl)
  | rows same => exact .done (.ok same)
  | failed text text' => exact .done (.error _ _)

end Asking

namespace Ledger

/-- The results are the same in this view of them, or failures that differ in their reasons at
most. -/
def SameBare {α β : Type} (view : α → β) (result result' : Except StoreError α) : Prop :=
  (result.mapError StoreError.bare).map view = (result'.mapError StoreError.bare).map view

variable {α β : Type}

theorem mapError_map {ε ε' : Type} (result : Except ε α) (f : ε → ε') (g : α → β) :
    (result.mapError f).map g = (result.map g).mapError f := by
  cases result <;> rfl

theorem SameBare.of_view {view : α → β} {result result' : Except StoreError α}
    (same : result.map view = result'.map view) : SameBare view result result' := by
  rw [SameBare, mapError_map, mapError_map, same]

theorem SameBare.bare {result result' : Except StoreError α} (same : SameBare id result result') :
    result.mapError StoreError.bare = result'.mapError StoreError.bare := by
  simpa only [SameBare, Except.map_id, id] using same

section Transaction

/-- A transaction that is rolled back fails for its reason, or because the rollback did;
the reason is not looked at. -/
theorem rollBack_steady {failure failure' : StoreError} (same : failure.bare = failure'.bare) :
    Dialogue.Follows Sent Reply.Alike (SameBare (id : α → α)) (rollBack unavailable failure)
      (rollBack unavailable failure') := by
  refine (execute_steady .rollback).bind fun undone undone' alike => ?_
  cases alike with
  | ok => exact .done (congrArg Except.error same)
  | error => exact .done rfl

/-- A transaction is steady if its body is. What comes before and after the body does
not depend on it. -/
theorem transaction_steady {body : Query (Except StoreError α)}
    (steady : Steady (SameBare id) body) :
    Steady (SameBare id) (transaction unavailable .discard body) := by
  refine (execute_steady .begin).bind fun begun begun' alike => ?_
  cases alike with
  | error => exact .done rfl
  | ok =>
      refine steady.bind fun result result' same => ?_
      match result, result', same with
      | .ok a, .ok a', same =>
          obtain rfl : a = a' := Except.ok.inj same
          refine (execute_steady .commit).bind fun ended ended' alike => ?_
          cases alike with
          | ok => exact .done rfl
          | error => exact .done rfl
      | .error e, .error e', same => exact rollBack_steady (Except.error.inj same)

/-- What a commit does within its transaction is steady: it goes by the numbers of rows,
and by whether a statement failed. -/
theorem commitBody_steady (now : Timestamp) {order : Order}
    (legal : (LedgerRequest.commit order).Legal) : Steady (SameBare id) (commitBody now order) := by
  refine (execute_steady (.insert legal)).bind fun inserted inserted' alike => ?_
  cases alike with
  | error => exact .done rfl
  | ok =>
      refine (execute_steady (.take now legal)).bind fun taken taken' alike => ?_
      cases alike with
      | error => exact .done rfl
      | @ok n n' same =>
          obtain rfl : n = n' := same
          cases n with
          | zero => exact .done rfl
          | succ n => exact .done rfl

end Transaction

@[simp] theorem number?_undated (v : Value) : v.undated.number? = v.number? := by
  cases v <;> rfl

@[simp] theorem word32?_undated (v : Value) : v.undated.word32? = v.word32? := by
  simp [Value.word32?]

@[simp] theorem word64?_undated (v : Value) : v.undated.word64? = v.word64? := by
  simp [Value.word64?]

@[simp] theorem text?_undated (v : Value) : v.undated.text? = v.text? := by
  cases v <;> rfl

@[simp] theorem uuid?_undated (v : Value) : v.undated.uuid? = v.uuid? := by
  cases v <;> rfl

@[simp] theorem moment?_undated (v : Value) :
    v.undated.moment? = (fun _ => .ofMillis 0) <$> v.moment? := by
  cases v <;> rfl

theorem inventoryOfRow_undated (row : List Value) :
    inventoryOfRow (row.map Value.undated) = Inventory.undated <$> inventoryOfRow row := by
  match row with
  | [itemId, stock, version, createdAt, updatedAt] =>
      simp [inventoryOfRow]
      rfl
  | [] | [_] | [_, _] | [_, _, _] | [_, _, _, _] | _ :: _ :: _ :: _ :: _ :: _ :: _ => rfl

theorem orderRowOfRow_undated (row : List Value) :
    orderRowOfRow (row.map Value.undated) = OrderRow.undated <$> orderRowOfRow row := by
  match row with
  | [id, itemId, userId, quantity, status, createdAt, updatedAt] =>
      simp [orderRowOfRow]
      rfl
  | [] | [_] | [_, _] | [_, _, _] | [_, _, _, _] | [_, _, _, _, _] | [_, _, _, _, _, _]
  | _ :: _ :: _ :: _ :: _ :: _ :: _ :: _ :: _ => rfl

/-- The readers of rows make nothing of dates but dates. -/
theorem orderOfRow_undated (row : List Value) :
    orderOfRow (row.map Value.undated) = (orderOfRow row).map Order.undated := by
  rw [orderOfRow, orderRowOfRow_undated, orderOfRow]
  cases orderRowOfRow row with
  | ok r => exact r.toOrder_undated
  | error e => rfl

theorem countOfRow_undated (row : List Value) :
    countOfRow (row.map Value.undated) = countOfRow row := by
  match row with
  | [n] => exact word64?_undated n
  | [] | _ :: _ :: _ => rfl

theorem readFirst_map (read : List Value → Except StoreError α) (f : List Value → List Value)
    (rows : List (List Value)) :
    readFirst read (rows.map f) = readFirst (fun row => read (f row)) rows := by
  cases rows <;> rfl

/-- A reader that makes nothing of dates but dates reads the same from rows that are
alike. Whether there is a first row at all is the same too. -/
theorem readFirst_undated {read : List Value → Except StoreError α} {view : α → α}
    (reads : ∀ row, read (row.map Value.undated) = (read row).map view)
    {found found' : List (List Value)}
    (same : found.map (·.map Value.undated) = found'.map (·.map Value.undated)) :
    (readFirst read found).map (·.map view) = (readFirst read found').map (·.map view) := by
  have erased (rows : List (List Value)) : readFirst read (rows.map (·.map Value.undated)) =
      (readFirst read rows).map (·.map view) := by
    simp only [readFirst_map, reads]
    cases rows with
    | nil => rfl
    | cons row rest =>
        simp only [readFirst]
        cases read row <;> rfl
  rw [← erased, same, erased]

section Calls

variable (now : Timestamp) {item : String}

/-- The results of the two reports are the same in this view of them. Nothing is said of what they
log. -/
def Report.SameBare (view : α → β) (report report' : Report α) : Prop :=
  Ledger.SameBare view report.result report'.result

/-- Seeding is steady, and so are the other calls below, each by the statements that it
sends. -/
theorem seed_steady (stock : Int32) (legal : NoZero item) :
    Steady (Report.SameBare id) (seed now item stock) := by
  unfold seed
  split
  · exact .done rfl
  · refine (execute_steady (.seed now stock legal)).bind fun seeded seeded' alike => ?_
    cases alike with
    | ok => exact .done rfl
    | error => exact .done rfl

theorem commit_steady {order : Order} (legal : (LedgerRequest.commit order).Legal) :
    Steady (Report.SameBare id) (commit now order) := by
  refine (transaction_steady (commitBody_steady now legal)).bind fun result result' same => ?_
  match result, result', same with
  | .ok _, .ok _, _ => exact .done rfl
  | .error _, .error _, same => exact .done same

theorem update_steady (quantity version : Int32) (legal : NoZero item) :
    Steady (Report.SameBare id) (update now item quantity version) := by
  unfold update
  split
  · exact .done rfl
  · refine (execute_steady (.overwrite now quantity version legal)).bind
      fun written written' alike => ?_
    cases alike with
    | error => exact .done rfl
    | @ok n n' same =>
        obtain rfl : n = n' := same
        cases n with
        | zero => exact .done rfl
        | succ n => exact .done rfl

theorem inventory?_steady (legal : NoZero item) :
    Steady (Report.SameBare (Option.map Inventory.undated)) (inventory? item) := by
  have reads (row : List Value) : (inventoryOfRow (row.map Value.undated)).mapError unavailable =
      ((inventoryOfRow row).mapError unavailable).map Inventory.undated := by
    rw [inventoryOfRow_undated]
    cases inventoryOfRow row <;> rfl
  refine (query_steady (.inventory legal)).bind fun found found' alike => .done ?_
  cases alike with
  | ok same => exact .of_view (readFirst_undated reads same)
  | error => rfl

theorem findOrder?_steady (id : Uuid) :
    Steady (Report.SameBare (Option.map Order.undated)) (findOrder? id) := by
  refine (query_steady (.order id)).bind fun found found' alike => .done ?_
  cases alike with
  | ok same => exact .of_view (readFirst_undated orderOfRow_undated same)
  | error => rfl

theorem countOrders_steady (legal : NoZero item) :
    Steady (Report.SameBare id) (countOrders item) := by
  refine (query_steady (.count legal)).bind fun found found' alike => .done ?_
  cases alike with
  | error => rfl
  | @ok rows rows' same =>
      have erased (rows : List (List Value)) :
          readFirst (fun row => (countOfRow row).mapError unavailable)
              (rows.map (·.map Value.undated)) =
            readFirst (fun row => (countOfRow row).mapError unavailable) rows := by
        simp only [readFirst_map, countOfRow_undated]
      have first := erased rows
      rw [same, erased] at first
      simp only [Report.SameBare, Except.mapError, bind, Except.bind] at first ⊢
      rw [first]
      rfl

/-- Whatever the dates and the texts of errors are, a legal call goes on in the same way
and brings back the same but for them. This puts the calls together. -/
theorem handle_steady {request : LedgerRequest} (legal : request.Legal) :
    Steady (fun reply reply' => reply.bare = reply'.bare) (handle now request) := by
  cases request with
  | seed item stock =>
      exact (seed_steady now stock legal).bind fun _ _ same =>
        .done (congrArg LedgerReply.unit same.bare)
  | commit order =>
      exact (commit_steady now legal).bind fun _ _ same =>
        .done (congrArg LedgerReply.unit same.bare)
  | inventory item =>
      exact (inventory?_steady legal).bind fun _ _ same =>
        .done (congrArg LedgerReply.inventory same)
  | update item quantity version =>
      exact (update_steady now quantity version legal).bind fun _ _ same =>
        .done (congrArg LedgerReply.unit same.bare)
  | findOrder id =>
      exact (findOrder?_steady id).bind fun _ _ same => .done (congrArg LedgerReply.order same)
  | countOrders item =>
      refine (countOrders_steady legal).bind fun report report' same => .done ?_
      have counts := congrArg (Except.map Int64.toInt) same.bare
      rw [mapError_map, mapError_map] at counts
      exact congrArg LedgerReply.count counts

end Calls

end Ledger

/-- A call of the ledger brings back the same from a database that conforms and from the model of
it, which stands for it afterwards too. -/
theorem Conforms.handle {σ : Type} {keep : Timestamp → Timestamp}
    {serve : σ → Statement → Reply × σ} {R : σ → Server → Prop} (conforms : Conforms keep serve R)
    (now : Timestamp) {request : LedgerRequest} (legal : request.Legal) {s : σ} {m : Server}
    (related : R s m) :
    (Dialogue.run serve (Ledger.handle now request) s).1.bare =
        (Dialogue.run (Server.serve keep) (Ledger.handle now request) m).1.bare ∧
      R (Dialogue.run serve (Ledger.handle now request) s).2
        (Dialogue.run (Server.serve keep) (Ledger.handle now request) m).2 := by
  have step (s : σ) (m : Server) (st : Statement) (related : R s m) (sent : Ledger.Sent st) :
      (serve s st).1.Alike (m.serve keep st).1 ∧ R (serve s st).2 (m.serve keep st).2 :=
    ⟨conforms.replies related sent, conforms.changes related sent⟩
  exact (Ledger.handle_steady now legal).run step related

end Database

end FlashSale
