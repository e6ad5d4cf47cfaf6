import FlashSale.Dialogue
import FlashSale.Duration
import FlashSale.Error
import FlashSale.Key
import FlashSale.KeyValue.Reply

/-!
# The reservation store on a key-value server

The calls of the reservation store, as dialogues with a server that keeps counters
and markers under keys. Each call is one command, which the server carries out
undivided. Stock is taken by a script, which the server knows by its digest; a
server that does not have the script is given it, and asked once more.
-/

namespace FlashSale.KeyValue

/-- Takes an amount from a counter that covers it. Its value is one if it did and zero if not. -/
def takeScript : String :=
  String.intercalate "\n"
    ["",
      "local current = redis.call('GET', KEYS[1])",
      "if not current then",
      "    return 0",
      "end",
      "",
      "local quantity = tonumber(ARGV[1])",
      "if tonumber(current) >= quantity then",
      "    redis.call('DECRBY', KEYS[1], quantity)",
      "    return 1",
      "end",
      "",
      "return 0",
      ""]

/-- The digest of `takeScript`. -/
def takeScriptDigest : String := "6f6a9570aa8ac1f6f78632984bc4e6defe00173d"

inductive Command where
  | set (key : String) (amount : Int32)
  /-- Writes a key that holds nothing, for some seconds. -/
  | setOnce (key : String) (seconds : Nat)
  | increase (key : String) (amount : Int32)
  /-- Runs the script with a given digest. -/
  | run (digest key : String) (amount : Int32)
  | load (script : String)
deriving DecidableEq, Repr

def Command.arguments : Command → List String
  | set key amount => ["SET", key, toString amount]
  | setOnce key seconds => ["SET", key, "1", "NX", "EX", toString seconds]
  | increase key amount => ["INCRBY", key, toString amount]
  | run digest key amount => ["EVALSHA", digest, "1", key, toString amount]
  | load script => ["SCRIPT", "LOAD", script]

/-- A dialogue with a key-value server. -/
abbrev Session (α : Type) := Dialogue Command Reply α

/-- Sends a command; a reply with an error in it is a failure. -/
def call (c : Command) : Session (Except ServerError Reply) := do
  let reply ← Dialogue.send c
  match reply.error? with
  | some e => return .error e
  | none => return .ok reply

/-- The result of a call of the store, its failure under the name of the call. -/
def named {α : Type} (c : StoreCall) (result : Except Error α) : Except StoreError α :=
  result.mapError fun e => .unavailable (c.phrase ++ ": " ++ e.message)

/-- Runs the script, which the server may have to be given first. -/
def runTakeScript (key : String) (amount : Int32) : Session (Except ServerError Reply) := do
  let run : Command := .run takeScriptDigest key amount
  match ← call run with
  | .ok reply => return .ok reply
  | .error e =>
    if e.scriptMissing then
      match ← call (.load takeScript) with
      | .error e => return .error e
      | .ok _ => call run
    else return .error e

/-- Takes stock for a purchase. The answer is whether there was enough. -/
def take (item : String) (quantity : Int32) : Session (Except StoreError Bool) := do
  let reply ← runTakeScript (stockKey item) quantity
  return named .decrementStock do
    let value ← (← reply.mapError .server).toWord32
    return value == 1

def putBack (item : String) (quantity : Int32) : Session (Except StoreError Unit) := do
  let reply ← call (.increase (stockKey item) quantity)
  return named .incrementStock do
    let _ ← (← reply.mapError .server).toWord64

def setStock (item : String) (quantity : Int32) : Session (Except StoreError Unit) := do
  let reply ← call (.set (stockKey item) quantity)
  return named .setStock do
    let _ ← reply.mapError .server

/-- How long a marker is kept: whole seconds of its time to live, and at least one. -/
def markerSeconds (ttl : Duration) : Nat := max (ttl.nanos / 1000000000) 1

/-- Writes a marker unless a live one is there. The answer is whether this call wrote it. -/
def mark (ttl : Duration) (key : String) : Session (Except StoreError Bool) := do
  let reply ← call (.setOnce key (markerSeconds ttl))
  return named .setIdempotencyKey do (← reply.mapError .server).isGiven

end FlashSale.KeyValue
