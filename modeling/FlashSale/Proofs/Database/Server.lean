import FlashSale.Database.Query

/-!
# A server of SQL

What a database answers to the statements of the durable store, and how it changes. A
statement is carried out in full or, when it is at fault, not at all. Comparing with an
empty field is neither true nor false; a guard picks the rows for which it is true, and a
check forbids those for which it is false. Numbers have 32 bits.

Within a transaction nothing more is carried out after a fault. A transaction that is
rolled back, or that is committed after a fault, leaves no trace.

The moments that a server keeps may be less exact than those it is sent: `keep` says what
it keeps of them. Scripts, definitions and sorted selections serve the schema itself and
are not carried out here.
-/

namespace FlashSale.Database

/-- Why a statement is not carried out. The kinds are those that statements of the
durable store can meet. -/
inductive Fault where
  | zeroByte
  | wrongKind
  | outOfRange
  | tooLong
  | emptyField
  | checkViolated
  | duplicateKey
  /-- A conflict is to be handled on a column that is no key. -/
  | noKey
  | noTable
  | unsupported
  /-- An earlier statement of the transaction was at fault. -/
  | aborted
deriving DecidableEq, Repr

/-- The text with which a fault is answered. Nothing depends on it. -/
def Fault.message : Fault → String
  | zeroByte => "invalid byte sequence for encoding \"UTF8\": 0x00"
  | wrongKind => "operator does not exist"
  | outOfRange => "value out of range"
  | tooLong => "value too long for type"
  | emptyField => "null value violates not-null constraint"
  | checkViolated => "new row violates check constraint"
  | duplicateKey => "duplicate key value violates unique constraint"
  | noKey => "there is no unique constraint matching the ON CONFLICT specification"
  | noTable => "relation does not exist"
  | unsupported => "statement is not supported"
  | aborted => "current transaction is aborted"

/-- The contents of a row; a column that its table does not have is empty. -/
abbrev Row := Column → Value

/-- The row with these fields; the others are empty. -/
def Row.of (fields : List (Column × Value)) : Row := fun c => (fields.lookup c).getD .null

namespace Value

/-- What a server keeps of a value that it is sent. -/
def kept (keep : Timestamp → Timestamp) : Value → Value
  | moment t => .moment (keep t)
  | v => v

/-- Whether a value is a text with the character that no text may have. -/
def hasZero : Value → Bool
  | text s => '\x00' ∈ s.toList
  | _ => false

@[simp] theorem hasZero_null : null.hasZero = false := rfl

@[simp] theorem hasZero_number (n : Int) : (number n).hasZero = false := rfl

@[simp] theorem hasZero_uuid (u : Uuid) : (uuid u).hasZero = false := rfl

@[simp] theorem hasZero_moment (t : Timestamp) : (moment t).hasZero = false := rfl

/-- A sum or difference. Of an empty field it is empty, and out of range it is a fault.
-/
def combine (op : Int → Int → Int) : Value → Value → Except Fault Value
  | number a, number b =>
    if (FlashSale.word32? (op a b)).isSome then .ok (.number (op a b)) else .error .outOfRange
  | null, _ => .ok .null
  | _, null => .ok .null
  | _, _ => .error .wrongKind

/-- Whether two values are equal, unless one of them is empty. -/
def equals : Value → Value → Except Fault (Option Bool)
  | null, _ => .ok none
  | _, null => .ok none
  | number a, number b => .ok (some (a = b))
  | text a, text b => .ok (some (a = b))
  | uuid a, uuid b => .ok (some (a = b))
  | moment a, moment b => .ok (some (a = b))
  | _, _ => .error .wrongKind

/-- Whether a number is at least another one, unless one of them is empty. -/
def atLeast : Value → Value → Except Fault (Option Bool)
  | null, _ => .ok none
  | _, null => .ok none
  | number a, number b => .ok (some (b ≤ a))
  | _, _ => .error .wrongKind

end Value

/-- Whether two conditions hold together, if that can be said. One that does not hold is
enough to say no. -/
def bothHold : Option Bool → Option Bool → Option Bool
  | some false, _ => some false
  | _, some false => some false
  | some true, some true => some true
  | _, _ => none

section Evaluation

variable (keep : Timestamp → Timestamp) (row : Row) (excluded : Option Row)

/-- The value of an operand for a row, and for one that could not be inserted if there is one. -/
def Expr.value : Expr → Except Fault Value
  | .constant v => .ok (v.kept keep)
  | .field _ c => .ok (row c)
  | .excluded c =>
    match excluded with
    | some new => .ok (new c)
    | none => .error .noTable
  | .binary .plus a b => do (← a.value).combine (· + ·) (← b.value)
  | .binary .minus a b => do (← a.value).combine (· - ·) (← b.value)
  | .binary _ _ _ => .error .wrongKind

/-- Whether a condition holds for a row, if that can be said. -/
def Expr.truth : Expr → Except Fault (Option Bool)
  | .binary .equals a b => do
    (← a.value keep row excluded).equals (← b.value keep row excluded)
  | .binary .atLeast a b => do
    (← a.value keep row excluded).atLeast (← b.value keep row excluded)
  | .binary .both a b => do return bothHold (← a.truth) (← b.truth)
  | _ => .error .wrongKind

/-- Whether a guard picks a row. -/
def Expr.picks (guard : Expr) : Except Fault Bool := do
  return (← guard.truth keep row none) = some true

/-- A row with changes made to it; all of them are computed from the row as it was. -/
def Row.change (changes : List Assignment) : Except Fault Row := do
  let values ← changes.mapM fun change => do return (change.1, ← change.2.value keep row excluded)
  return fun c => (values.lookup c).getD (row c)

end Evaluation

/-- What is asked of the rows of a table. None of its columns may be empty. -/
structure Schema where
  columns : List Column
  /-- The primary key. -/
  key : Column
  /-- The most characters that a text may have. -/
  limit : Column → Option Nat
  check : Expr

/-- The table of orders. An order is for one at least, and its status is a short text.
-/
def ordersSchema : Schema where
  columns := [.id, .itemId, .userId, .quantity, .status, .createdAt, .updatedAt]
  key := .id
  limit c := if c = .status then some 32 else none
  check := .atLeast (.field .orders .quantity) (.constant (.number 1))

/-- The table of inventory. There is no stock below zero. -/
def inventorySchema : Schema where
  columns := [.itemId, .stock, .version, .createdAt, .updatedAt]
  key := .itemId
  limit _ := none
  check := .atLeast (.field .inventory .stock) (.constant (.number 0))

/-- The tables that the script of the schema makes. The table of versions is for the
script itself. -/
def Relation.schema : Relation → Except Fault Schema
  | .orders => .ok ordersSchema
  | .inventory => .ok inventorySchema
  | .versions => .error .noTable

namespace Schema

variable (schema : Schema) (table : Relation)

/-- Whether a column may hold a value, and the fault if not. -/
def fieldFault? (c : Column) : Value → Option Fault
  | .null => some .emptyField
  | .number n =>
    if Column.kind table c ≠ .number then some .wrongKind
    else if (word32? n).isSome then none
    else some .outOfRange
  | .text s =>
    if Column.kind table c ≠ .text then some .wrongKind
    else if (schema.limit c).any (· < s.length) then some .tooLong
    else none
  | .uuid _ => if Column.kind table c ≠ .uuid then some .wrongKind else none
  | .moment _ => if Column.kind table c ≠ .moment then some .wrongKind else none

/-- A row that the table may have: no column is empty, every value fits its column, and
the check does not say no. -/
def accept (row : Row) : Except Fault Row :=
  match schema.columns.findSome? fun c => schema.fieldFault? table c (row c) with
  | some fault => .error fault
  | none => do
    if (← schema.check.truth id row none) = some false then .error .checkViolated else .ok row

/-- The rows after changes to those that are picked, and how many were. -/
def rewrite (pick : Row → Except Fault Bool) (change : Row → Except Fault Row) :
    List Row → Except Fault (Nat × List Row)
  | [] => .ok (0, [])
  | row :: rest => do
    let picked ← pick row
    let (n, rest) ← rewrite pick change rest
    if picked then return (n + 1, (← schema.accept table (← change row)) :: rest)
    else return (n, row :: rest)

/-- Changes rows; no two may have the same key afterwards. -/
def update (pick : Row → Except Fault Bool) (change : Row → Except Fault Row) (rows : List Row) :
    Except Fault (Nat × List Row) := do
  let (n, rows) ← schema.rewrite table pick change rows
  if (rows.map fun row => row schema.key).Nodup then .ok (n, rows) else .error .duplicateKey

/-- Adds a row; a row that has its key already is changed instead, if changes are given. -/
def insert (keep : Timestamp → Timestamp) (row : Row) (upsert : Option Upsert) (rows : List Row) :
    Except Fault (Nat × List Row) := do
  let new ← schema.accept table row
  if rows.any fun old => old schema.key = new schema.key then
    match upsert with
    | none => .error .duplicateKey
    | some u =>
      if u.key = schema.key then
        schema.update table (fun old => .ok (old schema.key = new schema.key))
          (fun old => old.change keep (some new) u.changes) rows
      else .error .noKey
  else .ok (1, rows ++ [new])

end Schema

/-- The rows that a guard picks. -/
def pickRows (keep : Timestamp → Timestamp) (guard : Expr) : List Row → Except Fault (List Row)
  | [] => .ok []
  | row :: rest => do
    let picked ← guard.picks keep row
    let rest ← pickRows keep guard rest
    return if picked then row :: rest else rest

/-- The rows of each table. -/
abbrev Tables := Relation → List Row

def Tables.write (tables : Tables) (table : Relation) (rows : List Row) : Tables :=
  fun t => if t = table then rows else tables t

@[simp] theorem Tables.write_self (tables : Tables) (table : Relation) (rows : List Row) :
    tables.write table rows table = rows := if_pos rfl

theorem Tables.write_of_ne {tables : Tables} {table other : Relation} {rows : List Row}
    (differ : other ≠ table) : tables.write table rows other = tables other := if_neg differ

/-- Carries out a statement other than those that begin and end a transaction. -/
def Statement.carryOut (keep : Timestamp → Timestamp) (tables : Tables) :
    Statement → Except Fault (Reply × Tables)
  | .insert table row upsert => do
    let schema ← table.schema
    let new := Row.of (row.map fun field => (field.1, field.2.kept keep))
    let (n, rows) ← schema.insert table keep new upsert (tables table)
    return (.affected n, tables.write table rows)
  | .update table changes guard => do
    let schema ← table.schema
    let (n, rows) ← schema.update table (fun row => guard.picks keep row)
      (fun row => row.change keep none changes) (tables table)
    return (.affected n, tables.write table rows)
  | .select table columns (.first guard) => do
    let _ ← table.schema
    let rows ← pickRows keep guard (tables table)
    return (.rows ((rows.take 1).map fun row => columns.map row), tables)
  | .count table guard => do
    let _ ← table.schema
    let rows ← pickRows keep guard (tables table)
    if (word64? rows.length).isSome then return (.rows [[.number rows.length]], tables)
    else .error .outOfRange
  | _ => .error .unsupported

/-- A server with one connection. Nobody else changes the tables during a transaction.
-/
structure Server where
  tables : Tables
  /-- The tables as they were when the transaction began that is going on, if one is. -/
  saved : Option Tables := none
  /-- Whether a statement of that transaction was at fault. -/
  failed : Bool := false

namespace Server

/-- The transaction is over, and nothing of it remains. -/
def restore (s : Server) : Server := { tables := s.saved.getD s.tables }

/-- Answers a statement other than those that begin and end a transaction. -/
def answer (keep : Timestamp → Timestamp) (s : Server) (st : Statement) : Reply × Server :=
  if s.failed then (.failed Fault.aborted.message, s)
  else
    let result :=
      if st.parameters.any Value.hasZero then .error .zeroByte else st.carryOut keep s.tables
    match result with
    | .ok (reply, tables) => (reply, { s with tables })
    | .error fault => (.failed fault.message, { s with failed := s.saved.isSome })

/-- Answers a statement. A transaction that is committed after a fault is rolled back.
-/
def serve (keep : Timestamp → Timestamp) (s : Server) : Statement → Reply × Server
  | .begin => (.affected 0, { s with saved := some (s.saved.getD s.tables) })
  | .commit => (.affected 0, if s.failed then s.restore else { tables := s.tables })
  | .rollback => (.affected 0, s.restore)
  | st => s.answer keep st

end Server

end FlashSale.Database
