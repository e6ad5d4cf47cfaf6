import FlashSale.Database.Ledger

/-!
# Committing an order on any server

A server may reply to each statement as it likes, and the line to it may go down at any time;
then every further statement fails and nothing more is sent. `Dialogue.exchanges` is what a
dialogue asks and is told, and `Line.sent` is the part of it that reaches the server.

An attempt to commit an order takes one of the courses in `Attempt`, whatever the server is.
`commit_transactional` reads off them what may be relied on: success is told only if the
transaction was acknowledged from its beginning to its end, and after a statement that went
wrong the transaction is rolled back and never committed.
-/

namespace FlashSale

namespace Dialogue

variable {Request Reply Server α β : Type} (serve : Server → Request → Reply × Server)

/-- The requests that a dialogue makes of a server, in turn, and the replies to them.
`run` tells what it comes to, and this what happened on the way. -/
def exchanges : Dialogue Request Reply α → Server → List (Request × Reply)
  | done _, _ => []
  | ask request next, server =>
    (request, (serve server request).1) ::
      exchanges (next (serve server request).1) (serve server request).2

@[simp] theorem exchanges_done (a : α) (server : Server) :
    exchanges serve (.done a : Dialogue Request Reply α) server = [] := rfl

@[simp] theorem exchanges_ask (request : Request) (next : Reply → Dialogue Request Reply α)
    (server : Server) :
    exchanges serve (.ask request next) server =
      (request, (serve server request).1) ::
        exchanges serve (next (serve server request).1) (serve server request).2 := rfl

/-- Dialogues in sequence make the requests of the first one and then those of the
second one, which sees what the first one came to. -/
theorem exchanges_bind (d : Dialogue Request Reply α) (f : α → Dialogue Request Reply β)
    (server : Server) :
    exchanges serve (d.bind f) server =
      exchanges serve d server ++
        exchanges serve (f (run serve d server).1) (run serve d server).2 := by
  induction d generalizing server with
  | done a => rfl
  | ask request next ih => exact congrArg ((request, _) :: ·) (ih _ _)

end Dialogue

namespace Database

/-- The number of rows that a statement touched, if it was acknowledged. -/
def Reply.touched? : Reply → Option Nat
  | .affected n => some n
  | .rows found => some found.length
  | .failed _ => none

/-- A line to a server. Once it is down it stays so, and nothing reaches the server any
more. -/
structure Line (Server : Type) where
  server : Server
  isOpen : Bool
  /-- The statements that reached the server, in turn, and its replies to them. -/
  sent : List (Statement × Reply) := []

namespace Line

variable {Server α : Type} (answer : Server → Statement → Reply × Bool × Server)

/-- A statement is sent if the line is open. With its reply the server says whether it
stays so; the reply to a statement on a line that is down is a failure. -/
def serve (l : Line Server) (st : Statement) : Reply × Line Server :=
  if l.isOpen then
    let (reply, isOpen, server) := answer l.server st
    (reply, { server, isOpen, sent := l.sent ++ [(st, reply)] })
  else (.failed "connection closed", l)

variable {l : Line Server}

theorem serve_closed (closed : l.isOpen = false) (st : Statement) :
    l.serve answer st = (.failed "connection closed", l) := by
  rw [serve, closed, if_neg Bool.false_ne_true]

theorem serve_sent (isOpen : l.isOpen = true) (st : Statement) :
    (l.serve answer st).2.sent = l.sent ++ [(st, (l.serve answer st).1)] := by
  rw [serve, if_pos isOpen]

/-- On a line that is down nothing is sent, and everything fails. The server does not
change any more. -/
theorem run_closed (closed : l.isOpen = false) (d : Query α) :
    (d.run (serve answer) l).2 = l ∧
      ∀ e ∈ d.exchanges (serve answer) l, e.2.touched? = none := by
  induction d with
  | done a => exact ⟨rfl, List.forall_mem_nil _⟩
  | ask st next ih =>
      rw [Dialogue.run_ask, Dialogue.exchanges_ask, serve_closed answer closed]
      obtain ⟨same, failed⟩ := ih (.failed "connection closed")
      refine ⟨same, List.forall_mem_cons.mpr ⟨?_, failed⟩⟩
      rfl

/-- What was asked and did not reach the server failed, and the line was down by then.
So what was asked begins with what was sent. -/
theorem run_sent (l : Line Server) (d : Query α) : ∃ unsent,
    l.sent ++ d.exchanges (serve answer) l = (d.run (serve answer) l).2.sent ++ unsent ∧
      (∀ e ∈ unsent, e.2.touched? = none) ∧
      (unsent ≠ [] → (d.run (serve answer) l).2.isOpen = false) := by
  induction d generalizing l with
  | done a => exact ⟨[], rfl, List.forall_mem_nil _, fun some => absurd rfl some⟩
  | ask st next ih =>
      cases isOpen : l.isOpen with
      | true =>
          obtain ⟨unsent, asked, failed, down⟩ := ih (l.serve answer st).1 (l.serve answer st).2
          rw [serve_sent answer isOpen, List.append_assoc, List.singleton_append] at asked
          exact ⟨unsent, asked, failed, down⟩
      | false =>
          obtain ⟨same, failed⟩ := run_closed answer isOpen (.ask st next)
          rw [same]
          exact ⟨_, rfl, failed, fun _ => isOpen⟩

end Line

namespace Ledger

variable {Server : Type} {now : Timestamp} {o : Order} {asked : List (Statement × Reply)}
  {result : Except StoreError Unit}

/-- A failure stays the result if the transaction is then rolled back. If that fails
too, the result says only that the store is not available. -/
inductive Undone (failure : StoreError) : Reply → Except StoreError Unit → Prop where
  | rolledBack {reply n} (acknowledged : reply.touched? = some n) :
      Undone failure reply (.error failure)
  | stuck {reply reason} (failed : reply.touched? = none) :
      Undone failure reply (.error (.unavailable reason))

/-- How an attempt to commit an order goes: what it asks and is told, and its result.
There are six courses, by the first statement that does not go well. -/
inductive Attempt (now : Timestamp) (o : Order) :
    List (Statement × Reply) → Except StoreError Unit → Prop where
  | unbegun {begun reason} (failed : begun.touched? = none) :
      Attempt now o [(.begin, begun)] (.error (.unavailable reason))
  | uninserted {begun inserted undone result n reason} (began : begun.touched? = some n)
      (failed : inserted.touched? = none) (ends : Undone (.unavailable reason) undone result) :
      Attempt now o [(.begin, begun), (insertOrder o, inserted), (.rollback, undone)] result
  | untaken {begun inserted taken undone result n m reason} (began : begun.touched? = some n)
      (stored : inserted.touched? = some m) (failed : taken.touched? = none)
      (ends : Undone (.unavailable reason) undone result) :
      Attempt now o [(.begin, begun), (insertOrder o, inserted), (takeStock now o, taken),
        (.rollback, undone)] result
  | uncovered {begun inserted taken undone result n m} (began : begun.touched? = some n)
      (stored : inserted.touched? = some m) (nothing : taken.touched? = some 0)
      (ends : Undone .optimisticLockConflict undone result) :
      Attempt now o [(.begin, begun), (insertOrder o, inserted), (takeStock now o, taken),
        (.rollback, undone)] result
  | uncommitted {begun inserted taken ended n m k reason} (began : begun.touched? = some n)
      (stored : inserted.touched? = some m) (covered : taken.touched? = some (k + 1))
      (failed : ended.touched? = none) :
      Attempt now o [(.begin, begun), (insertOrder o, inserted), (takeStock now o, taken),
        (.commit, ended)] (.error (.unavailable reason))
  | committed {begun inserted taken ended n m k j} (began : begun.touched? = some n)
      (stored : inserted.touched? = some m) (covered : taken.touched? = some (k + 1))
      (acknowledged : ended.touched? = some j) :
      Attempt now o [(.begin, begun), (insertOrder o, inserted), (takeStock now o, taken),
        (.commit, ended)] (.ok ())

section Any

variable (serve : Server → Statement → Reply × Server) {server server' server'' : Server}
  {α β : Type} {d : Query α} {f : α → Query β} {a : α} {b : β} {asked' : List (Statement × Reply)}

/-- The dialogue asks this and is told so, and comes to this end. Plays are put together
along the dialogue, which spares unfolding it. -/
structure Plays (d : Query α) (server : Server) (asked : List (Statement × Reply)) (a : α)
    (server' : Server) : Prop where
  asks : d.exchanges serve server = asked
  ends : d.run serve server = (a, server')

variable {serve}

theorem Plays.pure (a : α) (server : Server) : Plays serve (pure a : Query α) server [] a server :=
  ⟨rfl, rfl⟩

/-- Dialogues in sequence play one after the other on the same server. -/
theorem Plays.bind (first : Plays serve d server asked a server')
    (next : Plays serve (f a) server' asked' b server'') :
    Plays serve (d >>= f) server (asked ++ asked') b server'' where
  asks := by
    refine (Dialogue.exchanges_bind serve d f server).trans ?_
    rw [first.asks, first.ends, next.asks]
  ends := by
    refine (Dialogue.run_bind serve d f server).trans ?_
    rw [first.ends, next.ends]

variable (serve)

/-- A statement is acknowledged with a number of rows, or it fails. Nothing else is told
by a reply to it. -/
theorem execute_plays (st : Statement) (server : Server) : ∃ reply server',
    (∃ n, reply.touched? = some n ∧
      Plays serve (execute st) server [(st, reply)] (.ok n) server') ∨
    ∃ e, reply.touched? = none ∧
      Plays serve (execute st) server [(st, reply)] (.error e) server' := by
  obtain ⟨reply, server', replies⟩ : ∃ reply server', serve server st = (reply, server') :=
    ⟨_, _, rfl⟩
  have told : Plays serve (Dialogue.send st) server [(st, reply)] reply server' := by
    refine ⟨?_, (Dialogue.run_send ..).trans replies⟩
    rw [Dialogue.send, Dialogue.exchanges_ask, replies, Dialogue.exchanges_done]
  refine ⟨reply, server', ?_⟩
  cases reply with
  | affected n => exact .inl ⟨n, rfl, told.bind (.pure _ _)⟩
  | rows found => exact .inl ⟨found.length, rfl, told.bind (.pure _ _)⟩
  | failed message => exact .inr ⟨.server message, rfl, told.bind (.pure _ _)⟩

/-- Rolling back sends one statement, and its reply decides whether the failure stays
the result. -/
theorem rollBack_plays (failure : StoreError) (server : Server) : ∃ reply result server',
    Undone failure reply result ∧
      Plays serve (rollBack unavailable failure) server [(.rollback, reply)] result server' := by
  obtain ⟨reply, server', ⟨n, touched, plays⟩ | ⟨e, touched, plays⟩⟩ :=
    execute_plays serve .rollback server
  · exact ⟨reply, _, server', .rolledBack touched, plays.bind (.pure _ _)⟩
  · exact ⟨reply, _, server', .stuck touched, plays.bind (.pure _ _)⟩

/-- The transaction of a commit takes one of the six courses, whatever the server is. It
is followed statement by statement, and each reply decides how it goes on. -/
theorem transaction_attempt (now : Timestamp) (o : Order) (server : Server) :
    ∃ asked result server', Attempt now o asked result ∧
      Plays serve (transaction unavailable .discard (commitBody now o)) server asked result
        server' := by
  obtain ⟨begun, s₁, ⟨n, began, first⟩ | ⟨e, failed, first⟩⟩ := execute_plays serve .begin server
  case inr => exact ⟨_, _, s₁, .unbegun failed, first.bind (.pure _ _)⟩
  obtain ⟨inserted, s₂, ⟨m, stored, second⟩ | ⟨e, failed, second⟩⟩ :=
    execute_plays serve (insertOrder o) s₁
  case inr =>
    have body : Plays serve (commitBody now o) s₁ _ (.error (unavailable e)) s₂ :=
      second.bind (.pure _ _)
    obtain ⟨undone, result, s₃, ends, third⟩ := rollBack_plays serve (unavailable e) s₂
    exact ⟨_, result, s₃, .uninserted began failed ends, first.bind (body.bind third)⟩
  obtain ⟨taken, s₃, ⟨k, touched, third⟩ | ⟨e, failed, third⟩⟩ :=
    execute_plays serve (takeStock now o) s₂
  case inr =>
    have body : Plays serve (commitBody now o) s₁ _ (.error (unavailable e)) s₃ :=
      second.bind (third.bind (.pure _ _))
    obtain ⟨undone, result, s₄, ends, fourth⟩ := rollBack_plays serve (unavailable e) s₃
    exact ⟨_, result, s₄, .untaken began stored failed ends, first.bind (body.bind fourth)⟩
  cases k with
  | zero =>
      have body : Plays serve (commitBody now o) s₁ _ (.error .optimisticLockConflict) s₃ :=
        second.bind (third.bind (.pure _ _))
      obtain ⟨undone, result, s₄, ends, fourth⟩ :=
        rollBack_plays serve .optimisticLockConflict s₃
      exact ⟨_, result, s₄, .uncovered began stored touched ends, first.bind (body.bind fourth)⟩
  | succ k =>
      have body : Plays serve (commitBody now o) s₁ _ (.ok ()) s₃ :=
        second.bind (third.bind (.pure _ _))
      obtain ⟨ended, s₄, ⟨j, acknowledged, fourth⟩ | ⟨e, failed, fourth⟩⟩ :=
        execute_plays serve .commit s₃
      · exact ⟨_, _, s₄, .committed began stored touched acknowledged,
          first.bind (body.bind (fourth.bind (.pure _ _)))⟩
      · exact ⟨_, _, s₄, .uncommitted began stored touched failed,
          first.bind (body.bind (fourth.bind (.pure _ _)))⟩

/-- Whatever the server replies, the attempt is one of those listed. The report to the
log changes nothing in what is asked. -/
theorem commit_attempt (now : Timestamp) (o : Order) (server : Server) :
    Attempt now o ((commit now o).exchanges serve server)
      ((commit now o).run serve server).1.result := by
  obtain ⟨asked, result, server', attempt, plays⟩ := transaction_attempt serve now o server
  have whole : ∃ report : Report Unit, report.result = result ∧
      Plays serve (commit now o) server (asked ++ []) report server' := by
    cases result with
    | ok => exact ⟨_, rfl, plays.bind (.pure _ _)⟩
    | error => exact ⟨_, rfl, plays.bind (.pure _ _)⟩
  obtain ⟨report, rfl, whole⟩ := whole
  rw [List.append_nil] at whole
  rw [whole.asks, whole.ends]
  exact attempt

end Any

namespace Attempt

/-- An order that is not inserted is rolled back, and nothing is asked in between. -/
theorem of_uninserted (attempt : Attempt now o asked result) {inserted : Reply}
    (member : (insertOrder o, inserted) ∈ asked) (failed : inserted.touched? = none) :
    ∃ begun undone,
      asked = [(.begin, begun), (insertOrder o, inserted), (.rollback, undone)] := by
  cases attempt with
  | unbegun => simp [insertOrder] at member
  | uninserted =>
      obtain rfl : inserted = _ := by simpa [insertOrder] using member
      exact ⟨_, _, rfl⟩
  | untaken _ stored | uncovered _ stored | uncommitted _ stored | committed _ stored =>
      obtain rfl : inserted = _ := by simpa [insertOrder, takeStock] using member
      cases failed.symm.trans stored

/-- An order for which no stock is taken is rolled back, be it that the update failed or
that no row covered it. -/
theorem of_untaken (attempt : Attempt now o asked result) {taken : Reply}
    (member : (takeStock now o, taken) ∈ asked)
    (wrong : taken.touched? = none ∨ taken.touched? = some 0) :
    ∃ begun inserted undone, asked = [(.begin, begun), (insertOrder o, inserted),
      (takeStock now o, taken), (.rollback, undone)] := by
  cases attempt with
  | unbegun => simp [takeStock] at member
  | uninserted => simp [insertOrder, takeStock] at member
  | untaken | uncovered =>
      obtain rfl : taken = _ := by simpa [insertOrder, takeStock] using member
      exact ⟨_, _, _, rfl⟩
  | uncommitted _ _ covered | committed _ _ covered =>
      obtain rfl : taken = _ := by simpa [insertOrder, takeStock] using member
      simp [covered] at wrong

/-- An attempt succeeds by one course only: all four statements were acknowledged, and
the update touched a row. -/
theorem of_ok (attempt : Attempt now o asked (.ok ())) : ∃ begun inserted taken ended,
    asked = [(.begin, begun), (insertOrder o, inserted), (takeStock now o, taken),
      (.commit, ended)] ∧
    begun.touched? ≠ none ∧ inserted.touched? ≠ none ∧ (∃ n, taken.touched? = some (n + 1)) ∧
    ended.touched? ≠ none := by
  cases attempt with
  | uninserted _ _ ends | untaken _ _ _ ends | uncovered _ _ _ ends => cases ends
  | committed began stored covered acknowledged =>
      exact ⟨_, _, _, _, rfl, by simp [began], by simp [stored], ⟨_, covered⟩,
        by simp [acknowledged]⟩

/-- A conflict is told by one course only: the update touched no row, and the
transaction was rolled back. -/
theorem of_conflict (attempt : Attempt now o asked (.error .optimisticLockConflict)) :
    ∃ begun inserted taken undone,
      asked = [(.begin, begun), (insertOrder o, inserted), (takeStock now o, taken),
        (.rollback, undone)] ∧
      begun.touched? ≠ none ∧ inserted.touched? ≠ none ∧ taken.touched? = some 0 ∧
      undone.touched? ≠ none := by
  cases attempt with
  | uninserted _ _ ends | untaken _ _ _ ends => cases ends
  | uncovered began stored nothing ends =>
      cases ends with
      | rolledBack acknowledged =>
          exact ⟨_, _, _, _, rfl, by simp [began], by simp [stored], nothing,
            by simp [acknowledged]⟩

/-- An attempt that was acknowledged to its end succeeds. Four replies are enough to
know the course. -/
theorem ok_of_asked {begun inserted taken ended : Reply} {rest : List (Statement × Reply)}
    (attempt : Attempt now o ([(.begin, begun), (insertOrder o, inserted), (takeStock now o, taken),
      (.commit, ended)] ++ rest) result)
    (acknowledged : ended.touched? ≠ none) : result = .ok () := by
  cases attempt with
  | committed => rfl
  | uncommitted _ _ _ failed => exact absurd failed acknowledged

/-- An attempt whose update touched no row, and that was rolled back, is told as a
conflict. -/
theorem conflict_of_asked {begun inserted taken undone : Reply} {rest : List (Statement × Reply)}
    (attempt : Attempt now o ([(.begin, begun), (insertOrder o, inserted), (takeStock now o, taken),
      (.rollback, undone)] ++ rest) result)
    (nothing : taken.touched? = some 0) (acknowledged : undone.touched? ≠ none) :
    result = .error .optimisticLockConflict := by
  cases attempt with
  | untaken _ _ failed => cases failed.symm.trans nothing
  | uncovered _ _ _ ends =>
      cases ends with
      | rolledBack => rfl
      | stuck failed => exact absurd failed acknowledged

/-- An attempt fails with a conflict or because the store is not available, and in no
other way. -/
theorem failure {e : StoreError} (attempt : Attempt now o asked (.error e)) :
    e = .optimisticLockConflict ∨ ∃ reason, e = .unavailable reason := by
  cases attempt with
  | unbegun | uncommitted => exact .inr ⟨_, rfl⟩
  | uninserted _ _ ends | untaken _ _ _ ends => cases ends <;> exact .inr ⟨_, rfl⟩
  | uncovered _ _ _ ends =>
      cases ends with
      | rolledBack => exact .inl rfl
      | stuck => exact .inr ⟨_, rfl⟩

end Attempt

section Sent

variable {l : Line Server} {unsent : List (Statement × Reply)} {e : Statement × Reply}

/-- If the last reply is no failure, all was sent: what does not reach the server fails.
-/
theorem sent_of_acknowledged (front : List (Statement × Reply))
    (asked : front ++ [e] = l.sent ++ unsent)
    (failed : ∀ e ∈ unsent, e.2.touched? = none) (acknowledged : e.2.touched? ≠ none) :
    l.sent = front ++ [e] := by
  rcases List.eq_nil_or_concat unsent with rfl | ⟨before, e', rfl⟩
  · rw [asked, List.append_nil]
  · rw [List.concat_eq_append, ← List.append_assoc] at asked
    obtain rfl : e = e' := (List.append_singleton_inj.mp asked).2
    exact absurd (failed e (by simp)) acknowledged

/-- The transaction is rolled back by the statement that follows these, unless the line
has gone down by then. In that case the server rolls it back by itself. -/
def RolledBackAfter (l : Line Server) (steps : List (Statement × Reply)) : Prop :=
  (∃ undone, l.sent = steps ++ [(.rollback, undone)]) ∨ l.sent = steps ∧ l.isOpen = false

/-- Where the dialogue rolls back after a statement that was sent, the server is told to
do so or the line is down. -/
theorem rolledBackAfter (front : List (Statement × Reply)) {undone : Reply}
    (asked : front ++ [e] ++ [(.rollback, undone)] = l.sent ++ unsent)
    (down : unsent ≠ [] → l.isOpen = false) (sent : e ∈ l.sent) (first : e ∉ front) :
    RolledBackAfter l (front ++ [e]) := by
  rcases List.eq_nil_or_concat unsent with rfl | ⟨before, e', rfl⟩
  · rw [List.append_nil] at asked
    exact .inl ⟨undone, asked.symm⟩
  rw [List.concat_eq_append, ← List.append_assoc] at asked
  have asked := (List.append_singleton_inj.mp asked).1
  rcases List.eq_nil_or_concat before with rfl | ⟨before, e', rfl⟩
  · rw [List.append_nil] at asked
    exact .inr ⟨asked.symm, down (by simp)⟩
  · -- Not even the statement that went wrong would have been sent.
    rw [List.concat_eq_append, ← List.append_assoc] at asked
    have asked := (List.append_singleton_inj.mp asked).1
    exact absurd (asked ▸ List.mem_append_left before sent) first

end Sent

/-- The statement inserts the whole row of an order, with a place for each constant and
the constants in the order of the places. -/
structure InsertsRow (o : Order) (st : Statement) : Prop where
  text : st.text =
    "INSERT INTO \"orders\" (\"id\", \"item_id\", \"user_id\", \"quantity\", \"status\", " ++
      "\"created_at\", \"updated_at\") VALUES ($1, $2, $3, $4, $5, $6, $7)"
  parameters : st.parameters =
    [.uuid o.id, .text o.itemId, .text o.userId, .number o.quantity.toInt, .text o.status.name,
      .moment o.createdAt, .moment o.updatedAt]

/-- The text of the insertion does not depend on the order; only its constants do. -/
theorem insertOrder_insertsRow (o : Order) : InsertsRow o (insertOrder o) where
  text := by
    -- The text does not depend on the constants.
    have shape : (insertOrder o).text = Statement.insertText .orders
        ([.id, .itemId, .userId, .quantity, .status, .createdAt, .updatedAt].map (·, .null)) none :=
      rfl
    rw [shape]
    decide +kernel
  parameters := rfl

/-- The statement takes the quantity of an order from the row of its item, if it covers
it. The guard is part of the statement, so that nothing can come between the look at the
stock and its change. -/
structure TakesQuantity (now : Timestamp) (o : Order) (st : Statement) : Prop where
  text : st.text =
    "UPDATE \"inventory\" SET \"stock\" = (\"inventory\".\"stock\" - $1), " ++
      "\"version\" = (\"inventory\".\"version\" + $2), \"updated_at\" = $3 " ++
      "WHERE ((\"inventory\".\"item_id\" = $4) AND (\"inventory\".\"stock\" >= $5))"
  parameters : st.parameters =
    [.number o.quantity.toInt, .number 1, .moment now, .text o.itemId, .number o.quantity.toInt]

/-- The text of the update does not depend on the order either, which is named by
constants as well. -/
theorem takeStock_takesQuantity (now : Timestamp) (o : Order) :
    TakesQuantity now o (takeStock now o) where
  text := by
    have shape : (takeStock now o).text = Statement.updateText .inventory
        [(.stock, .minus stockField (.constant .null)), nextVersion, (.updatedAt, .constant .null)]
        (.both (.equals (.field .inventory .itemId) (.constant .null))
          (.atLeast stockField (.constant .null))) := rfl
    rw [shape]
    decide +kernel
  parameters := rfl

/-- What may be relied on when an order was to be committed, in terms of what reached the server. -/
structure Transactional (now : Timestamp) (o : Order) (result : Except StoreError Unit)
    (l : Line Server) : Prop where
  inserts : InsertsRow o (insertOrder o)
  takes : TakesQuantity now o (takeStock now o)
  /-- Success is told if and only if all four statements were acknowledged in turn, and a row gave
  the stock. -/
  ok_iff : result = .ok () ↔ ∃ begun inserted taken ended,
    l.sent = [(.begin, begun), (insertOrder o, inserted), (takeStock now o, taken),
      (.commit, ended)] ∧
    begun.touched? ≠ none ∧ inserted.touched? ≠ none ∧ (∃ n, taken.touched? = some (n + 1)) ∧
    ended.touched? ≠ none
  /-- If the order is not inserted, the transaction is rolled back and not committed. -/
  uninserted : ∀ inserted, (insertOrder o, inserted) ∈ l.sent → inserted.touched? = none →
    ∃ begun, RolledBackAfter l [(.begin, begun), (insertOrder o, inserted)]
  /-- If the update fails or no row gives the stock, it is rolled back and not committed. -/
  untaken : ∀ taken, (takeStock now o, taken) ∈ l.sent →
    taken.touched? = none ∨ taken.touched? = some 0 →
    ∃ begun inserted, RolledBackAfter l
      [(.begin, begun), (insertOrder o, inserted), (takeStock now o, taken)]
  /-- A conflict is told if and only if the order was inserted, no row gave the stock and the
  transaction was rolled back. -/
  conflict_iff : result = .error .optimisticLockConflict ↔ ∃ begun inserted taken undone,
    l.sent = [(.begin, begun), (insertOrder o, inserted), (takeStock now o, taken),
      (.rollback, undone)] ∧
    begun.touched? ≠ none ∧ inserted.touched? ≠ none ∧ taken.touched? = some 0 ∧
    undone.touched? ≠ none
  failure : ∀ e, result = .error e → e = .optimisticLockConflict ∨
    ∃ reason, e = .unavailable reason

/-- Whatever the server replies and whenever the line goes down, committing an order is
transactional. -/
theorem commit_transactional (answer : Server → Statement → Reply × Bool × Server)
    (server : Server) (isOpen : Bool) (now : Timestamp) (o : Order) :
    Transactional now o ((commit now o).run (Line.serve answer) { server, isOpen }).1.result
      ((commit now o).run (Line.serve answer) { server, isOpen }).2 := by
  have attempt := commit_attempt (Line.serve answer) now o { server, isOpen }
  obtain ⟨unsent, split, failed, down⟩ := Line.run_sent answer { server, isOpen } (commit now o)
  generalize (commit now o).run (Line.serve answer) { server, isOpen } = ended at *
  generalize (commit now o).exchanges (Line.serve answer) { server, isOpen } = asked at *
  obtain ⟨⟨result, events⟩, l⟩ := ended
  dsimp only at *
  rw [List.nil_append] at split
  subst split
  have there {e : Statement × Reply} (sent : e ∈ l.sent) : e ∈ l.sent ++ unsent :=
    List.mem_append_left unsent sent
  constructor
  case inserts => exact insertOrder_insertsRow o
  case takes => exact takeStock_takesQuantity now o
  case ok_iff =>
    constructor
    · rintro rfl
      obtain ⟨begun, inserted, taken, ended, asked, acknowledged⟩ := attempt.of_ok
      refine ⟨begun, inserted, taken, ended, ?_, acknowledged⟩
      exact sent_of_acknowledged [_, _, _] asked.symm failed acknowledged.2.2.2
    · rintro ⟨begun, inserted, taken, ended, sent, -, -, -, acknowledged⟩
      rw [sent] at attempt
      exact attempt.ok_of_asked acknowledged
  case uninserted =>
    intro inserted sent wrong
    obtain ⟨begun, undone, asked⟩ := attempt.of_uninserted (there sent) wrong
    refine ⟨begun, rolledBackAfter [_] asked.symm down sent ?_⟩
    simp [insertOrder]
  case untaken =>
    intro taken sent wrong
    obtain ⟨begun, inserted, undone, asked⟩ := attempt.of_untaken (there sent) wrong
    refine ⟨begun, inserted, rolledBackAfter [_, _] asked.symm down sent ?_⟩
    simp [insertOrder, takeStock]
  case conflict_iff =>
    constructor
    · rintro rfl
      obtain ⟨begun, inserted, taken, undone, asked, acknowledged⟩ := attempt.of_conflict
      refine ⟨begun, inserted, taken, undone, ?_, acknowledged⟩
      exact sent_of_acknowledged [_, _, _] asked.symm failed acknowledged.2.2.2
    · rintro ⟨begun, inserted, taken, undone, sent, -, -, nothing, acknowledged⟩
      rw [sent] at attempt
      exact attempt.conflict_of_asked nothing acknowledged
  case failure =>
    rintro e rfl
    exact attempt.failure

end Ledger

end Database

end FlashSale
