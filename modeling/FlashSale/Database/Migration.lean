import FlashSale.Database.Query

/-!
# The schema of the durable store

The schema has one version so far. The database records the versions it has in a
table of its own, which is made first if it is not there. A version that is not
recorded is applied and recorded in one transaction, so that it is applied at most
once and never in part.
-/

namespace FlashSale.Database

/-- A version of the schema, and the script that leads to it. -/
structure Migration where
  version : String
  title : String
  script : String

namespace Migration

/-- Lines, each with its end. -/
def lines (ls : List String) : String := String.join (ls.map (· ++ "\n"))

/-- The tables of orders and of inventory. -/
def ordersAndInventory : Migration where
  version := "20240101000000"
  title := "2024-01-01-000000_create_orders_and_inventory"
  script := lines
    ["CREATE TABLE inventory (",
      "    item_id VARCHAR PRIMARY KEY,",
      "    stock INTEGER NOT NULL CHECK (stock >= 0),",
      "    version INTEGER NOT NULL DEFAULT 0,",
      "    created_at TIMESTAMPTZ NOT NULL DEFAULT NOW(),",
      "    updated_at TIMESTAMPTZ NOT NULL DEFAULT NOW()",
      ");",
      "",
      "CREATE TABLE orders (",
      "    id UUID PRIMARY KEY,",
      "    item_id VARCHAR NOT NULL,",
      "    user_id VARCHAR NOT NULL,",
      "    quantity INTEGER NOT NULL CHECK (quantity > 0),",
      "    status VARCHAR(32) NOT NULL DEFAULT 'pending',",
      "    created_at TIMESTAMPTZ NOT NULL DEFAULT NOW(),",
      "    updated_at TIMESTAMPTZ NOT NULL DEFAULT NOW()",
      ");",
      "",
      "CREATE INDEX idx_orders_item_id ON orders(item_id);",
      "CREATE INDEX idx_orders_user_id ON orders(user_id);"]

def defineVersions : Statement :=
  .define <| lines
    ["CREATE TABLE IF NOT EXISTS __diesel_schema_migrations (",
      "       version VARCHAR(50) PRIMARY KEY NOT NULL,",
      "       run_on TIMESTAMP NOT NULL DEFAULT CURRENT_TIMESTAMP",
      ");"]

def selectVersions : Statement := .select .versions [.version] (.descending .version)

def recordVersion (m : Migration) : Statement :=
  .insert .versions [(.version, .text m.version)] none

/-- Why the schema could not be brought up to date. -/
inductive Failure where
  | sql (cause : Error)
  | script (m : Migration) (cause : Error)

def Failure.message : Failure → String
  | sql cause => "Migration error: " ++ cause.message
  | script m cause =>
    "Migration error: Failed to run " ++ m.title ++ " with: " ++ cause.message

def versionOfRow : List Value → Except Error String
  | [version] => version.text?
  | _ => .error .wrongKind

/-- The versions that are recorded. -/
def recorded : Query (Except Error (List String)) := do
  match ← execute defineVersions with
  | .error e => return .error e
  | .ok _ =>
    let rows ← query selectVersions
    return do (← rows).mapM versionOfRow

/-- Runs the script of a version and records the version. -/
def body (m : Migration) : Query (Except Failure Unit) := do
  match ← execute (.script m.script) with
  | .error e => return .error (.script m e)
  | .ok _ =>
    match ← execute (recordVersion m) with
    | .error e => return .error (.sql e)
    | .ok _ => return .ok ()

/-- Applies a version. -/
def apply (m : Migration) : Query (Except Failure Unit) :=
  transaction .sql .rollBack (body m)

/-- Brings the schema up to date. -/
def migrate : Query (Except Failure Unit) := do
  match ← recorded with
  | .error e => return .error (.sql e)
  | .ok versions =>
    if ordersAndInventory.version ∈ versions then return .ok ()
    else ordersAndInventory.apply

end Migration

end FlashSale.Database
