import FlashSale.Timestamp.Basic
import FlashSale.Uuid

/-!
# Statements of SQL

The part of SQL that the durable store needs. A statement is a value whose
operands carry their constants with them. In the text of it each constant is a
numbered place, and the constants are sent apart from the text, in the order of
their places: `Expr.text` and `Expr.parameters` go through an expression in the
same order.

A statement without operands may be a command, sent as it is and answered only by
success or failure. All others are prepared.
-/

namespace FlashSale.Database

/-- A constant, or the content of a field. -/
inductive Value where
  | null
  | number (n : Int)
  | text (s : String)
  | uuid (u : Uuid)
  | moment (t : Timestamp)
deriving DecidableEq, Repr

/-- The tables: two of the store, and one of the versions that its schema has had. -/
inductive Relation where
  | orders
  | inventory
  | versions
deriving DecidableEq, Repr

def Relation.name : Relation → String
  | orders => "orders"
  | inventory => "inventory"
  | versions => "__diesel_schema_migrations"

inductive Column where
  | id
  | itemId
  | userId
  | quantity
  | stock
  | version
  | status
  | createdAt
  | updatedAt
deriving DecidableEq, Repr

def Column.name : Column → String
  | id => "id"
  | itemId => "item_id"
  | userId => "user_id"
  | quantity => "quantity"
  | stock => "stock"
  | version => "version"
  | status => "status"
  | createdAt => "created_at"
  | updatedAt => "updated_at"

/-- A name between quotation marks. -/
def quoted (name : String) : String := "\"" ++ name ++ "\""

def place (n : Nat) : String := "$" ++ toString n

inductive Operator where
  | plus
  | minus
  | equals
  | atLeast
  | both
deriving DecidableEq, Repr

def Operator.sign : Operator → String
  | plus => " + "
  | minus => " - "
  | equals => " = "
  | atLeast => " >= "
  | both => " AND "

inductive Expr where
  | constant (v : Value)
  /-- A field of the row at hand. -/
  | field (table : Relation) (column : Column)
  /-- A field of the row that could not be inserted. -/
  | excluded (column : Column)
  | binary (op : Operator) (a b : Expr)
deriving DecidableEq, Repr

namespace Expr

/-- The constants, from left to right. -/
def parameters : Expr → List Value
  | constant v => [v]
  | field _ _ => []
  | excluded _ => []
  | binary _ a b => a.parameters ++ b.parameters

/-- The text, with its places numbered from `n`. -/
def text (n : Nat) : Expr → String
  | constant _ => place n
  | field table column => quoted table.name ++ "." ++ quoted column.name
  | excluded column => "excluded." ++ quoted column.name
  | binary op a b => "(" ++ a.text n ++ op.sign ++ b.text (n + a.parameters.length) ++ ")"

def plus (a b : Expr) : Expr := binary .plus a b

def minus (a b : Expr) : Expr := binary .minus a b

def equals (a b : Expr) : Expr := binary .equals a b

def atLeast (a b : Expr) : Expr := binary .atLeast a b

def both (a b : Expr) : Expr := binary .both a b

end Expr

/-- A column and its new content. -/
abbrev Assignment := Column × Expr

namespace Assignment

def parameters (changes : List Assignment) : List Value :=
  changes.flatMap fun change => change.2.parameters

/-- The changes one by one, with their places numbered from `n`. -/
def texts (n : Nat) : List Assignment → List String
  | [] => []
  | (column, value) :: rest =>
    (quoted column.name ++ " = " ++ value.text n) :: texts (n + value.parameters.length) rest

def text (n : Nat) (changes : List Assignment) : String :=
  String.intercalate ", " (texts n changes)

end Assignment

/-- What is done to a row that is there already, known by its key. -/
structure Upsert where
  key : Column
  changes : List Assignment
deriving DecidableEq, Repr

/-- Which rows are selected. -/
inductive Selection where
  /-- The first one for which an expression holds. -/
  | first (guard : Expr)
  /-- All of them, the greatest in a column first. -/
  | descending (column : Column)
deriving DecidableEq, Repr

inductive Statement where
  | begin
  | commit
  | rollback
  /-- Several commands in one text. -/
  | script (text : String)
  | define (text : String)
  | insert (table : Relation) (row : List (Column × Value)) (upsert : Option Upsert)
  | update (table : Relation) (changes : List Assignment) (guard : Expr)
  | select (table : Relation) (columns : List Column) (selection : Selection)
  | count (table : Relation) (guard : Expr)
deriving DecidableEq, Repr

/-- The kinds of values a column may have. -/
inductive Kind where
  | number
  | text
  | uuid
  | moment
deriving DecidableEq, Repr

def Column.kind (table : Relation) : Column → Kind
  | id => .uuid
  | itemId => .text
  | userId => .text
  | quantity => .number
  | stock => .number
  | version => if table = .versions then .text else .number
  | status => .text
  | createdAt => .moment
  | updatedAt => .moment

namespace Statement

/-- Whether the statement is a command. -/
def isCommand : Statement → Bool
  | begin => true
  | commit => true
  | rollback => true
  | script _ => true
  | _ => false

/-- The constants, in the order of their places. -/
def parameters : Statement → List Value
  | insert _ row upsert =>
    row.map (·.2) ++ (upsert.map fun u => Assignment.parameters u.changes).getD []
  | update _ changes guard => Assignment.parameters changes ++ guard.parameters
  | select _ _ (.first guard) => guard.parameters ++ [.number 1]
  | count _ guard => guard.parameters
  | _ => []

/-- The kinds of the fields in a row of the reply. -/
def yields : Statement → List Kind
  | select table columns _ => columns.map (Column.kind table)
  | count _ _ => [.number]
  | _ => []

def upsertText (n : Nat) : Option Upsert → String
  | none => ""
  | some u =>
    " ON CONFLICT (" ++ quoted u.key.name ++ ") DO UPDATE SET " ++ Assignment.text n u.changes

def insertText (table : Relation) (row : List (Column × Value)) (upsert : Option Upsert) : String :=
  "INSERT INTO " ++ quoted table.name ++
    " (" ++ String.intercalate ", " (row.map fun entry => quoted entry.1.name) ++
    ") VALUES (" ++ String.intercalate ", " ((List.range row.length).map fun i => place (i + 1)) ++
    ")" ++ upsertText (row.length + 1) upsert

def updateText (table : Relation) (changes : List Assignment) (guard : Expr) : String :=
  "UPDATE " ++ quoted table.name ++ " SET " ++ Assignment.text 1 changes ++
    " WHERE " ++ guard.text ((Assignment.parameters changes).length + 1)

def selectionText (table : Relation) : Selection → String
  | .first guard => " WHERE " ++ guard.text 1 ++ " LIMIT " ++ place (guard.parameters.length + 1)
  | .descending column =>
    " ORDER BY " ++ (Expr.field table column).text 1 ++ " DESC "

def selectText (table : Relation) (columns : List Column) (selection : Selection) : String :=
  "SELECT " ++ String.intercalate ", " (columns.map fun c => (Expr.field table c).text 1) ++
    " FROM " ++ quoted table.name ++ selectionText table selection

def text : Statement → String
  | begin => "BEGIN"
  | commit => "COMMIT"
  | rollback => "ROLLBACK"
  | script text => text
  | define text => text
  | insert table row upsert => insertText table row upsert
  | update table changes guard => updateText table changes guard
  | select table columns selection => selectText table columns selection
  | count table guard =>
    "SELECT COUNT(*) FROM " ++ quoted table.name ++ " WHERE " ++ guard.text 1

end Statement

end FlashSale.Database
