import FlashSale.Dialogue
import FlashSale.Database.Statement
import FlashSale.Word

/-!
# Asking a database

A statement is answered by the number of rows it touched, by rows, or by an error
of the server. `execute` wants a number and `query` wants rows; each takes an
answer of the other kind for what it says about its own.

A transaction runs between `BEGIN` and `COMMIT`, and ends with `ROLLBACK` if what
runs in it fails. A failure to roll back is the result then. After a failed
`COMMIT` a connection that will be used again is rolled back too; one that is taken
out of use is left as it is.
-/

namespace FlashSale.Database

inductive Reply where
  | affected (rows : Nat)
  | rows (rows : List (List Value))
  | failed (message : String)
deriving DecidableEq, Repr

/-- Why an answer is of no use. -/
inductive Error where
  | server (message : String)
  /-- A field is empty that must not be. -/
  | emptyField
  /-- A field holds a value of another kind than its column. -/
  | wrongKind
  | noRow
deriving DecidableEq, Repr

def Error.message : Error → String
  | server message => message
  | emptyField => "Unexpected null for non-null column"
  | wrongKind => "Unexpected value for column"
  | noRow => "Record not found"

/-- A dialogue with a database. -/
abbrev Query (α : Type) := Dialogue Statement Reply α

/-- The number of rows that a statement touched. -/
def execute (s : Statement) : Query (Except Error Nat) := do
  match ← Dialogue.send s with
  | .affected n => return .ok n
  | .rows rows => return .ok rows.length
  | .failed message => return .error (.server message)

/-- The rows that a statement finds. -/
def query (s : Statement) : Query (Except Error (List (List Value))) := do
  match ← Dialogue.send s with
  | .affected _ => return .ok []
  | .rows rows => return .ok rows
  | .failed message => return .error (.server message)

/-- What becomes of a connection after a failed `COMMIT`. -/
inductive AfterFailedCommit where
  | rollBack
  | discard
deriving DecidableEq, Repr

section Transaction

variable {α ε : Type} (ofError : Error → ε)

/-- Rolls back after a failure, which stays the result if that succeeds. -/
def rollBack (failure : ε) : Query (Except ε α) := do
  match ← execute .rollback with
  | .ok _ => return .error failure
  | .error e => return .error (ofError e)

/-- Commits a result. -/
def commit (after : AfterFailedCommit) (result : α) : Query (Except ε α) := do
  match ← execute .commit with
  | .ok _ => return .ok result
  | .error e =>
    match after with
    | .rollBack => rollBack ofError (ofError e)
    | .discard => return .error (ofError e)

/-- Runs a dialogue in a transaction. -/
def transaction (after : AfterFailedCommit) (body : Query (Except ε α)) : Query (Except ε α) := do
  match ← execute .begin with
  | .error e => return .error (ofError e)
  | .ok _ =>
    match ← body with
    | .ok result => commit ofError after result
    | .error failure => rollBack ofError failure

end Transaction

namespace Value

def number? : Value → Except Error Int
  | .null => .error .emptyField
  | .number n => .ok n
  | _ => .error .wrongKind

def word32? (v : Value) : Except Error Int32 := do
  match FlashSale.word32? (← v.number?) with
  | some w => .ok w
  | none => .error .wrongKind

def word64? (v : Value) : Except Error Int64 := do
  match FlashSale.word64? (← v.number?) with
  | some w => .ok w
  | none => .error .wrongKind

def text? : Value → Except Error String
  | .null => .error .emptyField
  | .text s => .ok s
  | _ => .error .wrongKind

def uuid? : Value → Except Error Uuid
  | .null => .error .emptyField
  | .uuid u => .ok u
  | _ => .error .wrongKind

def moment? : Value → Except Error Timestamp
  | .null => .error .emptyField
  | .moment t => .ok t
  | _ => .error .wrongKind

end Value

end FlashSale.Database
