import FlashSale.Proofs.Database.Rows

/-!
# Asking a server

How the dialogues of the durable store go with a server between transactions. A statement
that is carried out is answered and changes the tables; one at fault is answered with the
fault and changes nothing. A transaction whose body succeeds has changed the tables as the
body did, and one whose body fails has changed nothing.
-/

namespace FlashSale.Database

variable {keep : Timestamp → Timestamp} {s s' : Server} {st : Statement} {tables tables' : Tables}
  {reply : Reply} {α β ε : Type}

@[simp] theorem run_pure (a : α) :
    Dialogue.run (Server.serve keep) (pure a : Query α) s = (a, s) := rfl

theorem run_bind (d : Query α) (f : α → Query β) :
    Dialogue.run (Server.serve keep) (d >>= f) s =
      Dialogue.run (Server.serve keep) (f (Dialogue.run (Server.serve keep) d s).1)
        (Dialogue.run (Server.serve keep) d s).2 := Dialogue.run_bind ..

/-- The statement is one that `Server.answer` answers. The others begin or end a
transaction. -/
def Statement.isCarriedOut : Statement → Bool
  | .begin => false
  | .commit => false
  | .rollback => false
  | _ => true

theorem serve_eq_answer (ordinary : st.isCarriedOut = true) :
    s.serve keep st = s.answer keep st := by
  cases st with
  | begin => cases ordinary
  | commit => cases ordinary
  | rollback => cases ordinary
  | _ => rfl

/-- No text of the statement has the character that no text may have. -/
def Statement.Clean (st : Statement) : Prop := st.parameters.any Value.hasZero = false

section Single

variable (ordinary : st.isCarriedOut = true) (sound : s.failed = false) (clean : st.Clean)

include ordinary sound clean

/-- A statement that is carried out is answered and changes the tables, and nothing else
of the server. -/
theorem serve_ok (ok : st.carryOut keep s.tables = .ok (reply, tables)) :
    s.serve keep st = (reply, { s with tables }) := by
  have accepted : st.parameters.any Value.hasZero = false := clean
  simp [serve_eq_answer ordinary, Server.answer, sound, accepted, ok]

/-- A statement at fault is answered with the fault. It changes nothing but that a
transaction which is going on has failed. -/
theorem serve_fault {fault : Fault} (faulty : st.carryOut keep s.tables = .error fault) :
    s.serve keep st = (.failed fault.message, { s with failed := s.saved.isSome }) := by
  have accepted : st.parameters.any Value.hasZero = false := clean
  simp [serve_eq_answer ordinary, Server.answer, sound, accepted, faulty]

theorem execute_ok {n : Nat} (ok : st.carryOut keep s.tables = .ok (.affected n, tables)) :
    Dialogue.run (Server.serve keep) (execute st) s = (.ok n, { s with tables }) := by
  simp [execute, run_bind, serve_ok ordinary sound clean ok]

theorem execute_fault {fault : Fault} (faulty : st.carryOut keep s.tables = .error fault) :
    Dialogue.run (Server.serve keep) (execute st) s =
      (.error (.server fault.message), { s with failed := s.saved.isSome }) := by
  simp [execute, run_bind, serve_fault ordinary sound clean faulty]

theorem query_ok {rows : List (List Value)}
    (ok : st.carryOut keep s.tables = .ok (.rows rows, tables)) :
    Dialogue.run (Server.serve keep) (query st) s = (.ok rows, { s with tables }) := by
  simp [query, run_bind, serve_ok ordinary sound clean ok]

end Single

variable (ofError : Error → ε) (after : AfterFailedCommit) {body : Query (Except ε α)}

/-- The server after a transaction has begun. -/
def opened (tables : Tables) : Server := { tables, saved := some tables }

/-- A transaction whose body succeeds leaves the tables as the body did, and no
transaction is going on. -/
theorem transaction_ok {a : α}
    (ran : Dialogue.run (Server.serve keep) body (opened tables) =
      (.ok a, { opened tables with tables := tables' })) :
    Dialogue.run (Server.serve keep) (transaction ofError after body) { tables } =
      (.ok a, { tables := tables' }) := by
  have begins : Dialogue.run (Server.serve keep) (execute .begin) { tables } =
      (.ok 0, opened tables) := rfl
  simp only [transaction, run_bind, begins, ran]
  rfl

/-- A transaction whose body fails leaves the tables as they were, whatever the body did
to them and whether or not a statement was at fault. -/
theorem transaction_error {e : ε} {failed : Bool}
    (ran : Dialogue.run (Server.serve keep) body (opened tables) =
      (.error e, { opened tables with tables := tables', failed })) :
    Dialogue.run (Server.serve keep) (transaction ofError after body) { tables } =
      (.error e, { tables }) := by
  have begins : Dialogue.run (Server.serve keep) (execute .begin) { tables } =
      (.ok 0, opened tables) := rfl
  simp only [transaction, run_bind, begins, ran]
  rfl

end FlashSale.Database
